/-
The tokens of a JSON text.

A text is read one character at a time, and what has been read so far is a
`Mode`: between two tokens, within a string, or within an atom, which is an
unquoted run of characters up to the next blank, mark or quote.  An atom is a
number or one of six words, and any other atom refuses the text.
-/
import TreeShell.Json
import TreeShell.Text.Octets
import TreeShell.Text.Units

namespace TreeShell
namespace Json

inductive Token where
  /-- A value that is a token of its own. -/
  | scalar (value : Json)
  | openArray
  | closeArray
  | openObject
  | closeObject
  | colon
  | comma

def IsBlank (c : Char) : Prop := c = ' ' ∨ c = '\t' ∨ c = '\n' ∨ c = '\r'

instance (c : Char) : Decidable (IsBlank c) := inferInstanceAs (Decidable (_ ∨ _ ∨ _ ∨ _))

/-- The token that a mark is by itself. -/
def mark? : Char → Option Token
  | '[' => some .openArray
  | ']' => some .closeArray
  | '\x7b' => some .openObject
  | '\x7d' => some .closeObject
  | ':' => some .colon
  | ',' => some .comma
  | _ => none

/-! ## Atoms -/

/-- Splits off the digits at the front; there has to be one. -/
def digits? (cs : List Char) : Option (List Char × List Char) :=
  match cs.takeWhile Char.isDigit with
  | [] => none
  | ds => some (ds, cs.dropWhile Char.isDigit)

/-- Nothing, or a point with digits after it. -/
def afterFraction? : List Char → Option (List Char)
  | '.' :: cs => (digits? cs).map Prod.snd
  | cs => some cs

/-- Nothing, or an exponent: its letter, a sign if there is one, and digits. -/
def afterExponent? : List Char → Option (List Char)
  | [] => some []
  | e :: cs =>
    if e = 'e' ∨ e = 'E' then
      match cs with
      | '+' :: ds => (digits? ds).map Prod.snd
      | '-' :: ds => (digits? ds).map Prod.snd
      | ds => (digits? ds).map Prod.snd
    else some (e :: cs)

/-- How many digits a number may have that is written without a point and
without an exponent. -/
def integerDigits : Nat := 4300

/-- A number without its sign.  Only a zero that is the whole integral part may
stand at the front. -/
def IsMagnitude (cs : List Char) : Bool :=
  match digits? cs with
  | none => false
  | some (ds, rest) =>
    (ds.head? ≠ some '0' || ds.length = 1) && (rest ≠ [] || ds.length ≤ integerDigits) &&
      (afterFraction? rest).bind afterExponent? = some []

def IsNumber : List Char → Bool
  | '-' :: cs => IsMagnitude cs
  | cs => IsMagnitude cs

/-- The words for numbers that have no digits are numbers, too. -/
def atom? (cs : List Char) : Option Json :=
  let word := String.ofList cs
  if word = "null" then some .null
  else if word = "true" then some (.bool true)
  else if word = "false" then some (.bool false)
  else if word = "NaN" ∨ word = "Infinity" ∨ word = "-Infinity" ∨ IsNumber cs then
    some (.number word)
  else none

/-! ## Reading -/

inductive Mode where
  | between
  /-- Within an atom, with its characters so far, the last one first. -/
  | atom (chars : List Char)
  /-- Within a string, with its code units so far, the last one first. -/
  | text (units : List Nat)
  /-- Behind the backslash that begins an escape. -/
  | escape (units : List Nat)
  /-- Within an escape by code unit, with the digits so far and their value. -/
  | unit (units : List Nat) (count value : Nat)

/-- The unit that an escape of one letter stands for. -/
def escaped? : Char → Option Char
  | '"' => some '"'
  | '\\' => some '\\'
  | '/' => some '/'
  | 'b' => some '\x08'
  | 'f' => some '\x0c'
  | 'n' => some '\n'
  | 'r' => some '\r'
  | 't' => some '\t'
  | _ => none

namespace Mode

/-- Reads a character between two tokens. -/
def begin (c : Char) : List Token × Mode :=
  if IsBlank c then ([], between)
  else if c = '"' then ([], text [])
  else
    match mark? c with
    | some token => ([token], between)
    | none => ([], atom [c])

/-- Whether a character cannot be part of an atom. -/
def endsAtom (c : Char) : Bool := IsBlank c || c = '"' || (mark? c).isSome

/-- Reads one character: the tokens that it ends, and the mode behind it. -/
def step : Mode → Char → Option (List Token × Mode)
  | between, c => some (begin c)
  | atom chars, c =>
    if endsAtom c then
      (atom? chars.reverse).map fun value => (.scalar value :: (begin c).1, (begin c).2)
    else some ([], atom (c :: chars))
  | text units, c =>
    if c = '"' then
      some ([.scalar (.string (String.ofList (Text.charsOfUnits units.reverse)))], between)
    else if c = '\\' then some ([], escape units)
    else if c.toNat < 0x20 then none
    else some ([], text (c.toNat :: units))
  | escape units, c =>
    if c = 'u' then some ([], unit units 0 0)
    else (escaped? c).map fun e => ([], text (e.toNat :: units))
  | unit units count value, c =>
    (Text.hexDigit? c).map fun digit =>
      let value := value * 16 + digit
      if count = 3 then ([], text (value :: units)) else ([], unit units (count + 1) value)

/-- The tokens that the end of the text ends, if it may end here. -/
def finish? : Mode → Option (List Token)
  | between => some []
  | atom chars => (atom? chars.reverse).map fun value => [.scalar value]
  | _ => none

end Mode
end Json
end TreeShell
