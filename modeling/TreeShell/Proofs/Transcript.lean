/-
What a terminal shows of a run of lines.

A terminal adds nothing to its shell but the prompts.  `converse_of_replies` says
so of the whole transcript: what is written are the answers, one behind the
other; under each prompt stands the directory in which the lines before it left
the shell; and the lines kept for recall are those that were typed.  The last of
these is not clear from the loop, which asks the shell for its latest line
instead of keeping the one that it read.
-/
import TreeShell.Proofs.Moves
import TreeShell.Terminal

namespace TreeShell
namespace Session

/-! ## Runs of lines -/

theorem after_cons (s : Shell) (line : String) (rest : List String) :
    s.after (line :: rest) = (s.command line).2.after rest := by
  rw [after, List.foldl_cons]
  rfl

theorem after_frame (s : Shell) (lines : List String) : s.Frame (s.after lines) := by
  induction lines generalizing s with
  | nil => exact .refl s
  | cons line rest ih =>
    rw [after_cons]
    exact (command_frame line s).trans (ih _)

theorem after_history (s : Shell) (lines : List String) :
    (s.after lines).history = lines.reverse ++ s.history := by
  induction lines generalizing s with
  | nil => rfl
  | cons line rest ih =>
    rw [after_cons, ih, command_history, List.reverse_cons, List.append_assoc,
      List.singleton_append]

/-- Under a clock that can be read, every line of a run is answered. -/
theorem replies_answered {s : Shell} {reading : Calendar.Reading} (hclock : s.clock = .ok reading)
    (lines : List String) : ∃ outputs : List String, s.replies lines = outputs.map .ok := by
  induction lines generalizing s with
  | nil => exact ⟨[], rfl⟩
  | cons line rest ih =>
    obtain ⟨output, houtput⟩ := command_answers hclock line
    obtain ⟨outputs, houtputs⟩ := ih ((command_frame line s).clock.trans hclock)
    exact ⟨output :: outputs, by rw [replies, houtput, houtputs, List.map_cons]⟩

theorem prompt_after (s : Shell) (lines : List String) :
    (s.after lines).prompt =
      s.user ++ "@" ++ s.config.hostname ++ ":" ++ (s.after lines).cwd.format ++ " $ " := by
  have hconfig : (s.after lines).config = s.config := (s.after_frame lines).config
  rw [prompt, user, user, hconfig]

end Session

namespace Terminal

theorem turn_of_answer {s : Shell} {line output : String} (h : (s.command line).1 = .ok output) :
    turn line s = .goesOn output (s.command line).2 := by
  have hcommand : s.command line = (.ok output, (s.command line).2) := Prod.ext h rfl
  rw [turn, hcommand]

/-- The transcript of a run whose lines are all answered. -/
theorem converse_of_replies {s : Shell} {lines outputs : List String}
    (h : s.replies lines = outputs.map .ok) (ending : Ending) :
    converse ending lines s = {
      written := String.join outputs ++ ending.text
      prompts := (List.range (lines.length + 1)).map fun i => (s.after (lines.take i)).prompt
      kept := lines
      keepsByItself := [] } := by
  induction lines generalizing s outputs with
  | nil =>
    obtain rfl : outputs = [] := List.map_eq_nil_iff.mp h.symm
    simp [converse, Session.after]
  | cons line rest ih =>
    obtain ⟨output, others, rfl, hanswer, hrest⟩ := List.map_eq_cons_iff.mp h.symm
    have hprompts : (List.range (rest.length + 2)).map
          (fun i => (s.after ((line :: rest).take i)).prompt) =
        s.prompt :: (List.range (rest.length + 1)).map
          fun i => ((s.command line).2.after (rest.take i)).prompt := by
      rw [List.range_succ_eq_map, List.map_cons, List.map_map]
      rfl
    rw [converse, turn_of_answer hanswer.symm, List.length_cons, hprompts]
    simp only [ih hrest.symm, Session.command_history, List.take_succ_cons, List.take_zero,
      List.singleton_append, String.join_cons, String.append_assoc]

end Terminal
end TreeShell
