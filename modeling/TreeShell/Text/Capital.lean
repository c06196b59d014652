/-
Capital letters.

A letter has one capital or, if it is a ligature, several.  Besides the small
letters of ASCII, ten characters have capitals that are letters of ASCII, and
these are all that a text in capitals of ASCII can come from: any other
character beyond ASCII stands for itself here.
-/

namespace TreeShell
namespace Text

/-- The characters beyond ASCII that have their capitals in ASCII. -/
def capitalTable : List (Char × List Char) :=
  [('ß', ['S', 'S']), ('ı', ['I']), ('ſ', ['S']), ('ﬀ', ['F', 'F']), ('ﬁ', ['F', 'I']),
    ('ﬂ', ['F', 'L']), ('ﬃ', ['F', 'F', 'I']), ('ﬄ', ['F', 'F', 'L']), ('ﬅ', ['S', 'T']),
    ('ﬆ', ['S', 'T'])]

def capitals (c : Char) : List Char := (capitalTable.lookup c).getD [c.toUpper]

def capitalized (text : String) : String := String.ofList (text.toList.flatMap capitals)

theorem capitals_of_ascii {c : Char} (h : c.toNat < 128) : capitals c = [c.toUpper] := by
  have hbeyond : ∀ p ∈ capitalTable, 128 ≤ p.1.toNat := by decide
  have hout : capitalTable.lookup c = none := by
    rw [List.lookup_eq_none_iff]
    intro p hp
    have hne : c ≠ p.1 := fun hc => absurd (hbeyond p hp) (by rw [← hc]; omega)
    simpa using hne
  simp [capitals, hout]

end Text
end TreeShell
