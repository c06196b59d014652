/-
Numbers written on a fixed number of places.

The places are filled from the right, so a number too large for them loses its
highest digits and a small one gets zeros in front.  `digits_length` is why two
such numbers in a row can be told apart.
-/

namespace TreeShell
namespace Text

/-- The lowest `width` digits of a number, the highest of them first, in lower
case where the base has letters. -/
def digits (base : Nat) : Nat → Nat → List Char
  | 0, _ => []
  | width + 1, n => digits base width (n / base) ++ [Nat.digitChar (n % base)]

def decimal (width n : Nat) : String := String.ofList (digits 10 width n)

theorem digits_length (base width n : Nat) : (digits base width n).length = width := by
  induction width generalizing n with
  | zero => rfl
  | succ width ih => rw [digits, List.length_append, ih, List.length_singleton]

theorem decimal_length (width n : Nat) : (decimal width n).length = width := by
  simp [decimal, digits_length]

end Text
end TreeShell
