/-
The query of a request.

A query is a row of pairs between ampersands, each a name and a value around its
first equals sign; a pair without one has the empty value, and an empty pair is
none.  Names and values are written with plus signs for spaces and with octets
behind percent signs.  Octets that encode no character stay behind their percent
signs.
-/
import TreeShell.Listing
import TreeShell.Text.Octets
import TreeShell.Text.Pieces

namespace TreeShell
namespace Web
namespace Query

def unplus (c : Char) : Char := if c = '+' then ' ' else c

/-- What a name or value means. -/
def decode (written : List Char) : String :=
  let octets := Text.percentDecode (written.map unplus)
  String.ofList <| (Text.codePoints (·.isValidChar) 0 octets).flatMap fun
    | .ok code => [Char.ofNat code]
    | .error octet => Text.percentOctet octet

def pair (piece : String) : String × String :=
  let cs := piece.toList
  (decode (cs.takeWhile (· ≠ '=')), decode ((cs.dropWhile (· ≠ '=')).drop 1))

def pairs (query : String) : List (String × String) :=
  ((Text.pieces '&' query).filter (· ≠ "")).map pair

/-- The value of a name.  Of several pairs with one name the first counts. -/
def value? (query name : String) : Option String :=
  Listing.get? (pairs query) name

end Query
end Web
end TreeShell
