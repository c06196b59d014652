/-
Reading a JSON value.

The reader takes a text one character at a time.  It stands inside a stack of
arrays and objects that are not closed yet, and each token takes it one step on;
a token that cannot stand where it stands refuses the text.  A text is one
value, with nothing before or after it.

The stack has a limit.  A text that goes deeper is refused for that reason, but
only if nothing in front of the place where it does is malformed.
-/
import TreeShell.Json.Token

namespace TreeShell
namespace Json

/-- Why a text is not read. -/
inductive ReadError where
  | malformed
  | tooDeep
deriving DecidableEq

/-- An array or object that is still open, with what is in it so far. -/
inductive Frame where
  /-- The items, the last one first. -/
  | array (items : List Json)
  /-- The members before the one with the given name, which is being read. -/
  | object (members : Listing Json) (name : String)

/-- Where the reader stands.  The stack holds the innermost frame first. -/
inductive Place where
  | value (stack : List Frame)
  | firstItem (stack : List Frame)
  | firstName (stack : List Frame)
  | name (members : Listing Json) (stack : List Frame)
  | colon (members : Listing Json) (name : String) (stack : List Frame)
  | behind (value : Json) (stack : List Frame)

namespace Place

/-- Opens an array or object inside a stack that has room for it. -/
def enter (limit : Nat) (stack : List Frame) (place : Place) : Except ReadError Place :=
  if stack.length < limit then .ok place else .error .tooDeep

/-- A token that begins a value. -/
def begin (limit : Nat) (stack : List Frame) : Token → Except ReadError Place
  | .scalar v => .ok (behind v stack)
  | .openArray => enter limit stack (firstItem stack)
  | .openObject => enter limit stack (firstName stack)
  | _ => .error .malformed

def step (limit : Nat) : Place → Token → Except ReadError Place
  | value stack, token => begin limit stack token
  | firstItem stack, .closeArray => .ok (behind (.array []) stack)
  | firstItem stack, token => begin limit (.array [] :: stack) token
  | firstName stack, .closeObject => .ok (behind (.object []) stack)
  | firstName stack, .scalar (.string n) => .ok (colon [] n stack)
  | name members stack, .scalar (.string n) => .ok (colon members n stack)
  | colon members n stack, .colon => .ok (value (.object members n :: stack))
  | behind v (.array items :: stack), .comma => .ok (value (.array (v :: items) :: stack))
  | behind v (.array items :: stack), .closeArray =>
    .ok (behind (.array (v :: items).reverse) stack)
  | behind v (.object members n :: stack), .comma => .ok (name (members.put n v) stack)
  | behind v (.object members n :: stack), .closeObject =>
    .ok (behind (.object (members.put n v)) stack)
  | _, _ => .error .malformed

/-- The value that was read, if nothing is open any more. -/
def result : Place → Except ReadError Json
  | behind v [] => .ok v
  | _ => .error .malformed

end Place

structure Reader where
  place : Place := .value []
  mode : Mode := .between

namespace Reader

def step (limit : Nat) (reader : Reader) (c : Char) : Except ReadError Reader :=
  match reader.mode.step c with
  | none => .error .malformed
  | some (tokens, mode) =>
    (tokens.foldlM (Place.step limit) reader.place).map fun place => { place, mode }

def finish (limit : Nat) (reader : Reader) : Except ReadError Json :=
  match reader.mode.finish? with
  | none => .error .malformed
  | some tokens => (tokens.foldlM (Place.step limit) reader.place).bind Place.result

end Reader

/-- Reads a text in which at most `limit` arrays and objects are open at once. -/
def ofChars (limit : Nat) (cs : List Char) : Except ReadError Json :=
  (cs.foldlM (Reader.step limit) {}).bind (Reader.finish limit)

/-- Reads a text without a limit, for no text is deeper than it is long. -/
def parse? (text : String) : Option Json := (ofChars text.length text.toList).toOption

end Json
end TreeShell
