/-
Texts cut at a separator character and put back together.

A typed path is cut at its slashes and a typed line at its spaces.  Cutting
keeps every piece, the empty ones between two neighbouring separators too, so
that `joined_pieces` holds of every text; a line then drops its empty pieces,
and what is left are its `words`.
-/

namespace TreeShell
namespace Text

/-- The pieces of a text between its separators.  There is one piece more than
there are separators, so the empty text has one piece, the empty one. -/
def pieces (sep : Char) (text : String) : List String :=
  (text.toList.splitOn sep).map String.ofList

def joined (sep : Char) (parts : List String) : String :=
  (String.singleton sep).intercalate parts

/-- The words of a line are its non-empty pieces between spaces.  Only the space
separates: a tab or a line break is part of the word that holds it. -/
def words (line : String) : List String :=
  (pieces ' ' line).filter (· ≠ "")

/-- What is shown on a terminal ends its last line, and nothing stays nothing. -/
def endLine (text : String) : String :=
  if text = "" ∨ text.toList.getLast? = some '\n' then text else text ++ "\n"

theorem pieces_ne_nil (sep : Char) (text : String) : pieces sep text ≠ [] := by
  simp [pieces, List.splitOn_ne_nil]

/-- Cutting undoes joining as soon as there is a part to join and no part holds
the separator itself. -/
theorem pieces_joined {sep : Char} {parts : List String} (hne : parts ≠ [])
    (hsep : ∀ p ∈ parts, sep ∉ p.toList) : pieces sep (joined sep parts) = parts := by
  have hcut : List.splitOn sep (List.intercalate [sep] (parts.map String.toList)) =
      parts.map String.toList :=
    List.splitOn_intercalate sep (by simpa using hsep) (by simpa using hne)
  simp [pieces, joined, String.toList_intercalate, hcut]

/-- A cut text is its pieces and nothing else. -/
theorem joined_pieces (sep : Char) (text : String) : joined sep (pieces sep text) = text := by
  have hglue : List.intercalate [sep] (List.splitOn sep text.toList) = text.toList :=
    List.intercalate_splitOn sep
  rw [← String.toList_inj]
  simp [pieces, joined, String.toList_intercalate, hglue]

theorem ne_empty_of_mem_words {line word : String} (h : word ∈ words line) : word ≠ "" := by
  simpa using (List.mem_filter.mp h).2

theorem words_empty : words "" = [] := by
  decide

theorem endLine_empty : endLine "" = "" := rfl

end Text
end TreeShell
