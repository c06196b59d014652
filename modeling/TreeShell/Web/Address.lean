/-
Where a request goes.

An address may name a scheme and an authority in front of its path, and a query
and a fragment behind it.  Characters of the path may be written as octets
behind percent signs, so that one path has many addresses.
-/
import TreeShell.Web.Authority

namespace TreeShell
namespace Web

structure Address where
  scheme : List Char
  authority : List Char
  path : List Char
  query : List Char

namespace Address

/-- Blanks and controls in front of an address are no part of it, nor are tabs
and line breaks inside it. -/
def clean (written : List Char) : List Char :=
  (written.dropWhile (· ≤ ' ')).filter (· ∉ ['\t', '\r', '\n'])

def isSchemeChar (c : Char) : Bool := c.isAlphanum || c ∈ ['+', '-', '.']

/-- A scheme begins with a letter and ends in front of the first colon.  Without
one the scheme is empty. -/
def cutScheme (cs : List Char) : List Char × List Char :=
  let scheme := cs.takeWhile (· ≠ ':')
  match cs.dropWhile (· ≠ ':') with
  | [] => ([], cs)
  | _ :: rest =>
    if scheme.head?.any Char.isAlpha && scheme.all isSchemeChar then (scheme, rest) else ([], cs)

/-- An authority stands behind two slashes and reaches to the path, the query or
the fragment.  Without one it is empty. -/
def cutAuthority : List Char → List Char × List Char
  | '/' :: '/' :: rest =>
    (rest.takeWhile (· ∉ ['/', '?', '#']), rest.dropWhile (· ∉ ['/', '?', '#']))
  | cs => ([], cs)

/-- The parts of an address as they are written, but for the case of the
scheme. -/
def split (written : List Char) : Address :=
  let (scheme, rest) := cutScheme (clean written)
  let (authority, rest) := cutAuthority rest
  let cs := rest.takeWhile (· ≠ '#')
  { scheme := scheme.map Char.toLower
    authority
    path := cs.takeWhile (· ≠ '?')
    query := (cs.dropWhile (· ≠ '?')).drop 1 }

/-- A path that looks like an authority and a path: what is left of the
authority in the form in which it is sent begins the path.  Behind a scheme
nothing is changed. -/
def merged (path : List Char) : List Char :=
  let address := split path
  if address.scheme ≠ [] then clean path
  else
    match (Authority.ofChars address.authority).toChars with
    | [] => address.path
    | authority => '/' :: authority ++ address.path

/-- A path has one slash in front, and only an empty one has none. -/
def rooted : List Char → List Char
  | [] => []
  | cs => '/' :: cs.dropWhile (· = '/')

/-- What a written path means, each octet as the character of its number: no
path that leads anywhere has another character than those of ASCII. -/
def decode (written : List Char) : List Char :=
  rooted ((Text.percentDecode written).map fun octet => Char.ofNat octet.toNat)

/-- The address that a text is.  The path may be written as an address itself,
whose path it is then. -/
def ofText (text : String) : Address :=
  let outer := split text.toList
  { outer with path := decode (merged (split outer.path).path) }

/-- Whether a server can be asked under the authority. -/
def Named (address : Address) : Prop := (Authority.ofChars address.authority).Named

instance (address : Address) : Decidable address.Named :=
  inferInstanceAs (Decidable (Authority.Named _))

/-- Whether the scheme is one of those for a socket that stays open. -/
def ForSocket (address : Address) : Prop :=
  address.scheme = "ws".toList ∨ address.scheme = "wss".toList

instance (address : Address) : Decidable address.ForSocket :=
  inferInstanceAs (Decidable (_ ∨ _))

end Address
end Web
end TreeShell
