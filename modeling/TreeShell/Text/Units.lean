/-
Texts given by code units.

A unit below the surrogates or above them is a character of its own.  A high
surrogate followed by a low one makes one character together.  A surrogate that
stands alone is no character: no text here can hold one, and the replacement
character stands for it.  Texts of other programs that do hold some are therefore
left out, and what is said of a text holds of them only as far as it does not
matter which characters these are.
-/

namespace TreeShell
namespace Text

def IsHighSurrogate (unit : Nat) : Prop := 0xd800 ≤ unit ∧ unit ≤ 0xdbff

def IsLowSurrogate (unit : Nat) : Prop := 0xdc00 ≤ unit ∧ unit ≤ 0xdfff

instance (unit : Nat) : Decidable (IsHighSurrogate unit) := inferInstanceAs (Decidable (_ ∧ _))

instance (unit : Nat) : Decidable (IsLowSurrogate unit) := inferInstanceAs (Decidable (_ ∧ _))

def replacement : Char := '\ufffd'

/-- The character with the given code point, if there is one. -/
def charOf (code : Nat) : Char :=
  if code.isValidChar then Char.ofNat code else replacement

def charOfPair (high low : Nat) : Char :=
  charOf (0x10000 + (high - 0xd800) * 0x400 + (low - 0xdc00))

def charsOfUnits : List Nat → List Char
  | [] => []
  | [unit] => [charOf unit]
  | first :: second :: rest =>
    if IsHighSurrogate first ∧ IsLowSurrogate second then
      charOfPair first second :: charsOfUnits rest
    else charOf first :: charsOfUnits (second :: rest)

end Text
end TreeShell
