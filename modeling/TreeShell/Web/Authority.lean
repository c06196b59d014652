/-
The authority of an address: a host, and perhaps a user, a password and a port.

Whoever sends a request writes the authority in one form, whatever the address
has: the host in small letters, and neither a user without a name nor port zero.
A server can be asked only under a name of labels between points, none of which
may be empty, but the last, or too long.
-/
import TreeShell.Text.LetterForm
import TreeShell.Text.Octets

namespace TreeShell
namespace Web

structure Authority where
  user : List Char
  password : List Char
  host : List Char
  port : List Char

namespace Authority

def beforeColon (cs : List Char) : List Char := cs.takeWhile (· ≠ ':')

def behindColon (cs : List Char) : List Char := (cs.dropWhile (· ≠ ':')).drop 1

/-- A host and a port.  A host that has colons stands in brackets. -/
def cutPort (place : List Char) : List Char × List Char :=
  match place.dropWhile (· ≠ '[') with
  | [] => (beforeColon place, behindColon place)
  | _ :: bracketed =>
    (bracketed.takeWhile (· ≠ ']'), behindColon (bracketed.dropWhile (· ≠ ']')))

/-- The host stands behind the last at sign. -/
def ofChars (written : List Char) : Authority :=
  let owner := ((written.reverse.dropWhile (· ≠ '@')).drop 1).reverse
  let (host, port) := cutPort (written.reverse.takeWhile (· ≠ '@')).reverse
  { user := beforeColon owner, password := behindColon owner, host, port }

/-- Which characters of a user or a password are written as they are. -/
def isPlain (c : Char) : Bool := c.isAlphanum || c ∈ "_.-~%!$&'()*+,;=".toList

/-- A host in small letters as far as a percent sign.  If it has characters
beyond ASCII, those that are forms of letters of ASCII become these letters, and
everything is in small letters. -/
def smallHost (host : List Char) : List Char :=
  let small := (host.takeWhile (· ≠ '%')).map Char.toLower ++ host.dropWhile (· ≠ '%')
  let small := if small.all (·.toNat < 128) then small else small.flatMap Text.fold
  if ':' ∈ small then '[' :: small ++ [']'] else small

/-- The form in which an authority is sent. -/
def toChars (a : Authority) : List Char :=
  let password :=
    if a.password = [] then [] else ':' :: Text.percentEncode isPlain a.password
  let owner := if a.user = [] then [] else Text.percentEncode isPlain a.user ++ password ++ ['@']
  let port := if a.port.all (· = '0') then [] else ':' :: a.port
  owner ++ smallHost a.host ++ port

/-- The name under which the server is asked is all that stands in front of the
first colon. -/
def serverName (a : Authority) : List Char := beforeColon a.toChars

/-- How long a label may be. -/
def labelLength : Nat := 63

/-- Only the last label of a name may be empty. -/
def Named (a : Authority) : Prop :=
  let labels := a.serverName.splitOn '.'
  (∀ label ∈ labels.dropLast, label ≠ []) ∧ ∀ label ∈ labels, label.length ≤ labelLength

instance (a : Authority) : Decidable a.Named := inferInstanceAs (Decidable (_ ∧ _))

end Authority
end Web
end TreeShell
