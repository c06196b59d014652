/-
Values of JSON.

An object lists its members in the order in which their names first came, and of
two members with one name the later value counts.  A number is kept as it was
written, since nothing here calculates with it.
-/
import TreeShell.Listing

namespace TreeShell

inductive Json where
  | null
  | bool (value : Bool)
  | number (written : String)
  | string (text : String)
  | array (items : List Json)
  | object (members : List (String × Json))

namespace Json

def string? : Json → Option String
  | string text => some text
  | _ => none

/-- The member of an object with a given name. -/
def member? : Json → String → Option Json
  | object members, name => Listing.get? members name
  | _, _ => none

end Json
end TreeShell
