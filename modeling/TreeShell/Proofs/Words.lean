/-
What a line comes to is decided by its words.

Spaces part the words of a line and do nothing else, so that lines may differ in
them as they like.  A line is kept in the history as it was typed; everything
else that it comes to, `dispatch` makes out of its words, on a session whose
memory it does not read.

What `echo` shows is therefore a line that `echo` shows again.  It is the words,
joined by single spaces, and the newline that ends it is no separator: it goes
to the last word, whose end it is from then on.
-/
import Mathlib.Data.List.Basic
import TreeShell.Proofs.Pieces
import TreeShell.Proofs.Transcript

namespace TreeShell

/-! ## Ending the last line -/

namespace Text

theorem endLine_of_ended {text : String} (h : text = "" ∨ text.toList.getLast? = some '\n') :
    endLine text = text :=
  if_pos h

theorem endLine_of_not_ended {text : String}
    (h : ¬(text = "" ∨ text.toList.getLast? = some '\n')) : endLine text = text ++ "\n" :=
  if_neg h

theorem endLine_endLine (text : String) : endLine (endLine text) = endLine text := by
  by_cases h : text = "" ∨ text.toList.getLast? = some '\n'
  · rw [endLine_of_ended h, endLine_of_ended h]
  · rw [endLine_of_not_ended h]
    exact endLine_of_ended (.inr (by simp))

/-- The newline that ends a row of words is the end of the last of them. -/
theorem exists_joined_eq_endLine {parts : List String}
    (h : ∀ p ∈ parts, p ≠ "" ∧ ' ' ∉ p.toList) :
    ∃ ended, (∀ p ∈ ended, p ≠ "" ∧ ' ' ∉ p.toList) ∧
      joined ' ' ended = endLine (joined ' ' parts) := by
  by_cases hended : joined ' ' parts = "" ∨ (joined ' ' parts).toList.getLast? = some '\n'
  · exact ⟨parts, h, (endLine_of_ended hended).symm⟩
  rcases parts.eq_nil_or_concat' with rfl | ⟨front, last, rfl⟩
  · exact absurd (.inl rfl) hended
  refine ⟨front ++ [last ++ "\n"], fun p hp => ?_, ?_⟩
  · rcases List.mem_append.mp hp with hfront | hlast
    · exact h p (List.mem_append_left _ hfront)
    · obtain rfl := List.mem_singleton.mp hlast
      exact ⟨by simp, by simpa using (h last (by simp)).2⟩
  · rw [endLine_of_not_ended hended, joined_concat, joined_concat, String.append_assoc]

/-- Words that are shown joined, and read again, are shown the same. -/
theorem endLine_joined_words (line : String) :
    let shown := endLine (joined ' ' (words line))
    endLine (joined ' ' (words shown)) = shown := by
  intro shown
  have hwords : ∀ word ∈ words line, word ≠ "" ∧ ' ' ∉ word.toList := fun _ => word_of_mem_words
  obtain ⟨ended, hended, hjoined⟩ := exists_joined_eq_endLine hwords
  have hshown : shown = joined ' ' ended := hjoined.symm
  calc endLine (joined ' ' (words shown))
      = endLine (joined ' ' ended) := by rw [hshown, words_joined hended]
    _ = shown := by rw [hjoined]; exact endLine_endLine _

end Text

/-! ## Lines of the same words -/

namespace Session

/-- A line is its words, run on the bare shell, and what is remembered below
that. -/
theorem command_eq_onto (line : String) (s : Shell) :
    s.command line =
      (dispatch Toolbox.none none (Text.words line) s.bare).map id (onto · (s.remember line)) := by
  have hbare : (s.remember line).bare = s.bare := rfl
  rw [← dispatch_onto, ← hbare, bare_onto, command, runAt_zero]
  rfl

theorem command_of_words_eq {x y : String} (h : Text.words x = Text.words y) (s : Shell) :
    (s.command x).1 = (s.command y).1 ∧
      (s.command x).2 = { (s.command y).2 with history := x :: s.history } := by
  have hx : (s.command x).2.history = x :: s.history := command_history x s
  rw [command_eq_onto, h] at hx ⊢
  rw [command_eq_onto y]
  refine ⟨rfl, ?_⟩
  rw [← hx]
  rfl

/-- What a built-in answers is shown with its last line ended. -/
theorem command_shown {s : Shell} {line name raw : String} {rest : List String} {b : Builtin}
    (hwords : Text.words line = name :: rest) (hfind : s.findProgram name = .ok (.builtin b))
    (hrun : (b.run (name :: rest) s).1 = .ok raw) :
    (s.command line).1 = .ok (Text.endLine raw) := by
  have hbare : s.bare = ((s.remember line).announce name).bare := rfl
  rw [Builtin.run_fst_of_bare_eq hbare] at hrun
  rw [command_builtin hwords hfind]
  generalize b.run (name :: rest) ((s.remember line).announce name) = ended at hrun
  obtain ⟨result, after⟩ := ended
  cases hrun
  rfl

/-! ## Echo -/

theorem command_echo {s : Shell} (hecho : s.registry.find? "echo" = some (.builtin .echo))
    (text : String) :
    (s.command ("echo " ++ text)).1 = .ok (Text.endLine (Text.joined ' ' (Text.words text))) := by
  have hwords : Text.words ("echo " ++ text) = "echo" :: Text.words text :=
    @Text.words_cons "echo" (by decide) text
  have hfind : s.findProgram "echo" = .ok (.builtin .echo) := by
    simp only [findProgram, hecho]
  exact command_shown hwords hfind rfl

/-- The words of a line hold no space and are not empty; they spell the line
without its spaces; joined by single spaces they are the words of that line
again.  Any text without a space is one word, whatever other blanks it holds, and
a space between two texts has the words of the one before those of the other.

Two lines of the same words get the same answer and leave the same shell behind,
but that each is kept as it was typed.  And what `echo` shows of a text it shows
again of what it has shown, whatever lines are typed in between. -/
theorem only_words_count (s : Shell) :
    (∀ line, (∀ word ∈ Text.words line, word ≠ "" ∧ ' ' ∉ word.toList) ∧
      (String.join (Text.words line)).toList = line.toList.filter (· ≠ ' ') ∧
      Text.words (Text.joined ' ' (Text.words line)) = Text.words line) ∧
    (∀ word, word ≠ "" ∧ ' ' ∉ word.toList → Text.words word = [word]) ∧
    (∀ front back, Text.words (front ++ " " ++ back) = Text.words front ++ Text.words back) ∧
    (∀ x y, Text.words x = Text.words y →
      (s.command x).1 = (s.command y).1 ∧
        (s.command y).2.history = y :: s.history ∧
        (s.command x).2 = { (s.command y).2 with history := x :: s.history }) ∧
    (s.registry.find? "echo" = some (.builtin .echo) → ∀ text, ∃ output,
      (s.command ("echo " ++ text)).1 = .ok output ∧
        ∀ lines, ((s.after lines).command ("echo " ++ output)).1 = .ok output) := by
  refine ⟨fun line => ?_, fun word => Text.words_singleton, Text.words_append, fun x y h => ?_,
    fun hecho text => ?_⟩
  · have hwords : ∀ word ∈ Text.words line, word ≠ "" ∧ ' ' ∉ word.toList :=
      fun word => Text.word_of_mem_words
    exact ⟨hwords, Text.join_words line, Text.words_joined hwords⟩
  · obtain ⟨hanswer, hafter⟩ := command_of_words_eq h s
    exact ⟨hanswer, command_history y s, hafter⟩
  · refine ⟨_, command_echo hecho text, fun lines => ?_⟩
    have hlater : (s.after lines).registry.find? "echo" = some (.builtin .echo) := by
      rw [(s.after_frame lines).registry, hecho]
    rw [command_echo hlater, Text.endLine_joined_words]

/-- A tab is no separator, and a newline that is shown comes back in a word. -/
theorem only_words_count_tab :
    let s := Session.start Config.standard Registry.standard (.ok { date := ⟨2024, 3, 5⟩ })
    let x := "  echo \ta   b "
    let y := "echo \ta b"
    Text.words x = Text.words y ∧ (s.command x).1 = (s.command y).1 ∧
      (s.command x).2 = { (s.command y).2 with history := x :: s.history } ∧
      s.registry.find? "echo" = some (.builtin .echo) ∧
      ∃ output, (s.command ("echo " ++ " a  b\n ")).1 = .ok output ∧
        ∀ lines, ((s.after lines).command ("echo " ++ output)).1 = .ok output := by
  intro s x y
  obtain ⟨_, _, _, hlines, hshown⟩ := only_words_count s
  have hwords : Text.words x = Text.words y := by decide
  have hecho : s.registry.find? "echo" = some (.builtin .echo) := by decide
  obtain ⟨hanswer, _, hafter⟩ := hlines x y hwords
  exact ⟨hwords, hanswer, hafter, hecho, hshown hecho " a  b\n "⟩

end Session
end TreeShell
