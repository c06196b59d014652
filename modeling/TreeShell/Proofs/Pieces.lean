/-
More about cutting texts: what a piece can hold, and what is put together from
pieces and words.
-/
import TreeShell.Text.Pieces

namespace TreeShell
namespace Text

/-! ## What a piece holds -/

theorem mem_splitOn {sep : Char} {chars part : List Char} (h : part ∈ chars.splitOn sep) :
    sep ∉ part ∧ part ⊆ chars := by
  induction chars generalizing part with
  | nil =>
    obtain rfl : part = [] := by simpa using h
    exact ⟨by simp, by simp⟩
  | cons c rest ih =>
    rw [List.splitOn_cons_eq_if_modifyHead] at h
    by_cases hsep : c = sep
    · rw [if_pos (by simpa using hsep)] at h
      rcases List.mem_cons.mp h with rfl | hrest
      · exact ⟨by simp, by simp⟩
      · exact ⟨(ih hrest).1, List.subset_cons_of_subset c (ih hrest).2⟩
    · rw [if_neg (by simpa using hsep)] at h
      obtain ⟨first, others, hcut⟩ := List.exists_cons_of_ne_nil (List.splitOn_ne_nil sep rest)
      rw [hcut, List.modifyHead_cons] at h
      rcases List.mem_cons.mp h with rfl | hrest
      · -- The character goes to the first piece of the rest.
        obtain ⟨hfirst, hsub⟩ := ih (hcut ▸ List.mem_cons_self)
        have hne : ¬sep = c := fun e => hsep e.symm
        exact ⟨by simp [hne, hfirst], List.cons_subset_cons c hsub⟩
      · obtain ⟨hpart, hsub⟩ := ih (hcut ▸ List.mem_cons_of_mem first hrest)
        exact ⟨hpart, List.subset_cons_of_subset c hsub⟩

theorem mem_pieces {sep : Char} {text piece : String} (h : piece ∈ pieces sep text) :
    sep ∉ piece.toList ∧ piece.toList ⊆ text.toList := by
  obtain ⟨part, hpart, rfl⟩ := List.mem_map.mp h
  rw [String.toList_ofList]
  exact mem_splitOn hpart

theorem mem_joined {sep c : Char} {parts : List String} (h : c ∈ (joined sep parts).toList) :
    c = sep ∨ ∃ p ∈ parts, c ∈ p.toList := by
  induction parts with
  | nil => simp [joined] at h
  | cons first rest ih =>
    cases rest with
    | nil => exact .inr ⟨first, List.mem_cons_self, by simpa [joined] using h⟩
    | cons second more =>
      have hcut : (joined sep (first :: second :: more)).toList =
          first.toList ++ sep :: (joined sep (second :: more)).toList := by
        simp [joined]
      rw [hcut] at h
      rcases List.mem_append.mp h with hfirst | hrest
      · exact .inr ⟨first, List.mem_cons_self, hfirst⟩
      · rcases List.mem_cons.mp hrest with hsep | hmore
        · exact .inl hsep
        · rcases ih hmore with hsep | ⟨p, hp, hc⟩
          · exact .inl hsep
          · exact .inr ⟨p, List.mem_cons_of_mem first hp, hc⟩

theorem space_not_mem_of_mem_words {line word : String} (h : word ∈ words line) :
    ' ' ∉ word.toList :=
  (mem_pieces (List.mem_filter.mp h).1).1

theorem pieces_append (sep : Char) (front back : String) :
    pieces sep (front ++ String.singleton sep ++ back) = pieces sep front ++ pieces sep back := by
  have hchars : (front ++ String.singleton sep ++ back).toList =
      front.toList ++ sep :: back.toList := by
    simp
  rw [pieces, hchars, List.splitOn_append_cons_self, List.map_append]
  rfl

/-- Only the separators are lost between the pieces. -/
theorem flatten_splitOn (sep : Char) (chars : List Char) :
    (chars.splitOn sep).flatten = chars.filter (· ≠ sep) := by
  induction chars with
  | nil => simp
  | cons c rest ih =>
    obtain ⟨first, others, hcut⟩ := List.exists_cons_of_ne_nil (List.splitOn_ne_nil sep rest)
    rw [hcut] at ih
    rw [List.splitOn_cons_eq_if_modifyHead, hcut]
    by_cases hsep : c = sep
    · simpa [hsep] using ih
    · simpa [hsep] using ih

/-! ## Words -/

theorem word_of_mem_words {line word : String} (h : word ∈ words line) :
    word ≠ "" ∧ ' ' ∉ word.toList :=
  ⟨ne_empty_of_mem_words h, space_not_mem_of_mem_words h⟩

theorem words_joined {parts : List String} (h : ∀ p ∈ parts, p ≠ "" ∧ ' ' ∉ p.toList) :
    words (joined ' ' parts) = parts := by
  by_cases hne : parts = []
  · subst hne
    exact words_empty
  · rw [words, pieces_joined hne fun p hp => (h p hp).2]
    exact List.filter_eq_self.mpr fun p hp => by simpa using (h p hp).1

theorem words_singleton {word : String} (h : word ≠ "" ∧ ' ' ∉ word.toList) :
    words word = [word] := by
  have hjoined : joined ' ' [word] = word := by simp [joined]
  have hwords : words (joined ' ' [word]) = [word] := words_joined (by simpa using h)
  rwa [hjoined] at hwords

/-- A space in a line only parts the words in front of it from those behind. -/
theorem words_append (front back : String) :
    words (front ++ " " ++ back) = words front ++ words back := by
  have hpieces : pieces ' ' (front ++ " " ++ back) = pieces ' ' front ++ pieces ' ' back :=
    pieces_append ' ' front back
  rw [words, hpieces, List.filter_append]
  rfl

/-- What stands in front of the first space is the first word, and the rest of the
line has the others. -/
theorem words_cons {command : String} (hc : command ≠ "" ∧ ' ' ∉ command.toList) (rest : String) :
    words (command ++ " " ++ rest) = command :: words rest := by
  rw [words_append, words_singleton hc, List.singleton_append]

/-- A command and its argument are the two words of their line. -/
theorem words_pair {command argument : String} (hc : command ≠ "" ∧ ' ' ∉ command.toList)
    (ha : argument ≠ "" ∧ ' ' ∉ argument.toList) :
    words (command ++ " " ++ argument) = [command, argument] := by
  rw [words_cons hc, words_singleton ha]

/-- The words of a line have all of its characters but the spaces. -/
theorem join_words (line : String) :
    (String.join (words line)).toList = line.toList.filter (· ≠ ' ') := by
  have hkept : words line = ((line.toList.splitOn ' ').filter (· ≠ [])).map String.ofList := by
    rw [words, pieces, List.filter_map]
    congr 1
    exact List.filter_congr fun part _ => by simp
  rw [String.toList_join, hkept, List.flatMap_map]
  simp only [String.toList_ofList]
  rw [List.flatMap_id', List.flatten_filter_ne_nil, flatten_splitOn]

/-! ## Putting together -/

/-- A separator stands behind every part but the last. -/
theorem joined_concat (sep : Char) (front : List String) (last : String) :
    joined sep (front ++ [last]) = String.join (front.map (· ++ String.singleton sep)) ++ last := by
  induction front with
  | nil => simp [joined]
  | cons first rest ih =>
    obtain ⟨second, more, hrest⟩ := List.exists_cons_of_ne_nil
      (List.append_ne_nil_of_right_ne_nil rest (List.cons_ne_nil last []))
    have hcut : joined sep (first :: rest ++ [last]) =
        first ++ String.singleton sep ++ joined sep (rest ++ [last]) := by
      rw [List.cons_append, hrest, ← String.toList_inj]
      simp [joined]
    rw [hcut, ih, List.map_cons, String.join_cons]
    simp only [String.append_assoc]

end Text
end TreeShell
