/-
How a line ends.

Which program a line runs is decided by its first word alone, and `Means` says
how: a registered name comes first, whatever the tree holds, and only a word
with a slash is looked for in the tree.  How the program ends decides what the
user reads and what the log keeps.  A program may log for itself meanwhile, and
`Script.Quiet` is what is asked of one whose entries cannot be taken for those of
the session: it has no line run, and what it logs are details.

`line_outcome` puts the two together for every line, every session and every way
in which a program ends.  One way stands out.  A program that breaks off is told
of under a word that is read when it has ended, so that the log names whatever
the program has left in front; and a program that has left nothing is not told of
at all.  `fault_told_amiss` shows both.
-/
import TreeShell.Proofs.Dispatch

namespace TreeShell

/-! ## What a word means -/

namespace Session

variable {Tool : Type}

/-- What the first word of a line comes to: a program, or the error that there
is none. -/
inductive Means (s : Session Tool) (name : String) : Except ShellError (Program Tool) → Prop where
  | registered {program : Program Tool} (hname : s.registry.find? name = some program) :
    Means s name (.ok program)
  | executable {program : Program Tool} (hname : s.registry.find? name = none)
    (hslash : '/' ∈ name.toList)
    (hfound : s.root.lookup? (s.resolve name) = some (.executable program)) :
    Means s name (.ok program)
  | directory {entries : Listing (Node Tool)} (hname : s.registry.find? name = none)
    (hslash : '/' ∈ name.toList)
    (hfound : s.root.lookup? (s.resolve name) = some (.directory entries)) :
    Means s name (.error (.notExecutable name))
  | file {text : String} (hname : s.registry.find? name = none) (hslash : '/' ∈ name.toList)
    (hfound : s.root.lookup? (s.resolve name) = some (.file text)) :
    Means s name (.error (.notExecutable name))
  | missing (hname : s.registry.find? name = none) (hslash : '/' ∈ name.toList)
    (hfound : s.root.lookup? (s.resolve name) = none) :
    Means s name (.error .pathNotFound)
  | unknown (hname : s.registry.find? name = none) (hslash : '/' ∉ name.toList) :
    Means s name (.error .commandNotFound)

theorem means_findProgram (s : Session Tool) (name : String) :
    s.Means name (s.findProgram name) := by
  unfold findProgram
  cases hname : s.registry.find? name with
  | some program => exact .registered hname
  | none =>
    by_cases hslash : '/' ∈ name.toList
    · simp only [if_pos hslash, lookup]
      cases hfound : s.root.lookup? (s.resolve name) with
      | none => exact .missing hname hslash hfound
      | some node =>
        cases node with
        | directory entries => exact .directory hname hslash hfound
        | file text => exact .file hname hslash hfound
        | executable program => exact .executable hname hslash hfound
    · simp only [if_neg hslash]
      exact .unknown hname hslash

theorem findProgram_of_means {s : Session Tool} {name : String}
    {meaning : Except ShellError (Program Tool)} (h : s.Means name meaning) :
    s.findProgram name = meaning := by
  cases h with
  | registered hname => simp [findProgram, hname]
  | executable hname hslash hfound => simp [findProgram, lookup, hname, hslash, hfound]
  | directory hname hslash hfound => simp [findProgram, lookup, hname, hslash, hfound]
  | file hname hslash hfound => simp [findProgram, lookup, hname, hslash, hfound]
  | missing hname hslash hfound => simp [findProgram, lookup, hname, hslash, hfound]
  | unknown hname hslash => simp [findProgram, hname, hslash]

/-- The clauses of `Means` leave no word out and never disagree. -/
theorem means_iff {s : Session Tool} {name : String}
    {meaning : Except ShellError (Program Tool)} :
    s.Means name meaning ↔ s.findProgram name = meaning :=
  ⟨findProgram_of_means, fun h => h ▸ means_findProgram s name⟩

end Session

/-! ## Programs that keep to themselves -/

/-- A script that has no line run and logs nothing but details. -/
inductive Script.Quiet {Tool : Type} : Script Tool → Prop where
  | finish (result : Except Failure String) : Quiet (.finish result)
  | observe {next : Session Tool → Script Tool} (hnext : ∀ s, Quiet (next s)) :
    Quiet (.observe next)
  | log {entry : Log.Entry} {next : Script Tool} (hlevel : entry.level = .debug)
    (hnext : Quiet next) : Quiet (.log entry next)
  | enter {path : Path} {next : Script Tool} (hnext : Quiet next) : Quiet (.enter path next)
  | plant {root : Node Tool} {next : Script Tool} (hnext : Quiet next) : Quiet (.plant root next)
  | reword {words : List String} {next : Script Tool} (hnext : Quiet next) :
    Quiet (.reword words next)

/-- The second session is the first one with details logged, in the same user's
name. -/
structure Session.Detailed {Tool : Type} (s t : Session Tool) : Prop where
  config : t.config = s.config
  log : ∃ details : List Log.Entry,
    (∀ entry ∈ details, entry.level = .debug) ∧ t.log = s.log ++ details

namespace Session.Detailed

variable {Tool : Type} {s t : Session Tool}

theorem refl (s : Session Tool) : Detailed s s := ⟨rfl, [], by simp, by simp⟩

theorem cons {entry : Log.Entry} (hlevel : entry.level = .debug)
    (h : Detailed { s with log := s.log ++ [entry] } t) : Detailed s t := by
  obtain ⟨details, hdetails, hlog⟩ := h.log
  refine ⟨h.config, entry :: details, ?_, by simpa using hlog⟩
  intro e he
  rcases List.mem_cons.mp he with rfl | hrest
  · exact hlevel
  · exact hdetails e hrest

end Session.Detailed

namespace Script.Quiet

variable {Tool : Type} {script : Script Tool}

/-- A quiet script asks for no line, so it does not matter how lines are run. -/
theorem run_eq (h : script.Quiet) (nested : Option (Runner Tool)) (words : List String)
    (s : Session Tool) : script.run nested words s = script.run none words s := by
  induction h generalizing words s with
  | finish result => rfl
  | observe _ ih => exact ih s words s
  | log _ _ ih => exact ih words _
  | enter _ ih => exact ih words _
  | plant _ ih => exact ih words _
  | reword _ ih => exact ih _ s

theorem detailed (h : script.Quiet) (words : List String) (s : Session Tool) :
    s.Detailed (script.run none words s).outcome.2 := by
  induction h generalizing words s with
  | finish result => exact .refl s
  | observe _ ih => exact ih s words s
  | log hlevel _ ih => exact .cons hlevel (ih words _)
  | @enter path _ _ ih => exact ⟨(ih words { s with cwd := path }).config, (ih words _).log⟩
  | @plant root _ _ ih => exact ⟨(ih words { s with root }).config, (ih words _).log⟩
  | reword _ ih => exact ih _ s

end Script.Quiet

theorem Builtin.detailed {Tool : Type} (b : Builtin) (args : List String) (s : Session Tool) :
    s.Detailed (b.run args s).2 := by
  rcases b.run_cases args s with ⟨result, h, _⟩ | ⟨path, _, h, _⟩
  · rw [h]
    exact .refl s
  · rw [h]
    exact ⟨rfl, [_], by simp, rfl⟩

/-- A built-in is quiet as it is; a tool is if the script is that its words give. -/
def Program.Quiet {Tool : Type} (box : Toolbox Tool) (args : List String) : Program Tool → Prop
  | .builtin _ => True
  | .tool t => (box t args).Quiet

namespace Program.Quiet

variable {Tool : Type} {box : Toolbox Tool} {args : List String} {program : Program Tool}

theorem run_eq (h : program.Quiet box args) (nested : Option (Runner Tool)) (s : Session Tool) :
    program.run box nested args s = program.run box none args s := by
  cases program with
  | builtin b => rfl
  | tool t => exact Script.Quiet.run_eq h nested args s

theorem detailed (h : program.Quiet box args) (s : Session Tool) :
    s.Detailed (program.run box none args s).outcome.2 := by
  cases program with
  | builtin b => exact b.detailed args s
  | tool t => exact Script.Quiet.detailed h args s

end Program.Quiet

/-! ## Lines -/

namespace Session

variable {Tool : Type}

/-- A blank line comes to nothing.  Of any other the first word means one
program or one error.  An error is the answer, and a warning tells of it.  A
program is announced, logs what it logs, and its end decides: an output is shown
with its last line ended, a shell error is the answer and a warning tells of it,
a fault is answered by one fixed word and an error entry tells the rest, and an
interrupt is handed on.  The error entry names the first word that the program
has left of the line, which is the word that it was found by unless the program
has changed it.  If it has left none, there is neither the entry nor the answer,
and another fault escapes. -/
theorem line_outcome (box : Toolbox Tool) (depth : Nat) (line : String) (s : Session Tool)
    (hquiet : ∀ name rest program, Text.words line = name :: rest →
      s.Means name (.ok program) → program.Quiet box (name :: rest)) :
    let answer := (runAt box depth line s).1
    let after := (runAt box depth line s).2
    (Text.words line = [] → answer = .ok "" ∧ after.log = s.log) ∧
      ∀ name rest, Text.words line = name :: rest →
        (∃ meaning, s.Means name meaning ∧ ∀ other, s.Means name other → other = meaning) ∧
        (∀ e, s.Means name (.error e) → answer = .ok (e.message ++ "\n") ∧
          after.log = s.log ++ [⟨.warning, e.message, "shell", s.user⟩]) ∧
        ∀ program, s.Means name (.ok program) →
          let ended := program.run box none (name :: rest) ((s.remember line).announce name)
          ∃ details : List Log.Entry, (∀ entry ∈ details, entry.level = .debug) ∧
            ended.outcome.2.log = s.log ++ ⟨.debug, "exec " ++ name, "shell", s.user⟩ :: details ∧
            match ended.outcome.1, ended.words with
            | .ok output, _ => answer = .ok (Text.endLine output) ∧
              after.log = ended.outcome.2.log
            | .error (.shell e), _ => answer = .ok (e.message ++ "\n") ∧
              after.log = ended.outcome.2.log ++ [⟨.warning, e.message, "shell", s.user⟩]
            | .error (.fault f), word :: _ => answer = .ok "Error\n" ∧
              after.log = ended.outcome.2.log ++
                [⟨.error, word ++ " failed: " ++ f.kind ++ ": " ++ f.text, "shell", s.user⟩]
            | .error (.fault _), [] => answer = .error (.fault .missingArgument) ∧
              after.log = ended.outcome.2.log
            | .error (.interrupt i), _ => answer = .error (.interrupt i) ∧
              after.log = ended.outcome.2.log := by
  intro answer after
  refine ⟨fun hwords => ?_, fun name rest hwords => ⟨?_, fun e he => ?_, fun program hp => ?_⟩⟩
  · have hrun : runAt box depth line s = (.ok "", s.remember line) :=
      runAt_blank box depth hwords s
    simp only [answer, after, hrun]
    exact ⟨trivial, rfl⟩
  · exact ⟨s.findProgram name, means_findProgram s name, fun _ h => (findProgram_of_means h).symm⟩
  · have hrun : runAt box depth line s = (s.remember line).complain e :=
      runAt_unfound box depth hwords (findProgram_of_means he)
    simp only [answer, after, hrun]
    exact ⟨rfl, rfl⟩
  · intro ended
    have hprogram : program.Quiet box (name :: rest) := hquiet name rest program hwords hp
    have hrun : runAt box depth line s = settle ended := by
      rw [runAt_found box depth hwords (findProgram_of_means hp), hprogram.run_eq]
    obtain ⟨hconfig, details, hdetails, hlog⟩ :=
      hprogram.detailed ((s.remember line).announce name)
    have huser : ended.outcome.2.user = s.user := congrArg Config.user hconfig
    refine ⟨details, hdetails, ?_, ?_⟩
    · rw [hlog, announce_log, List.append_assoc]
      rfl
    -- What is left depends on nothing but how the program ended.
    simp only [answer, after, hrun]
    obtain ⟨words, result, last⟩ := ended
    match result, words with
    | .ok output, _ => exact ⟨rfl, rfl⟩
    | .error (.shell e), _ => exact ⟨rfl, by rw [← huser]; rfl⟩
    | .error (.fault f), word :: _ => exact ⟨rfl, by rw [← huser]; rfl⟩
    | .error (.fault f), [] => exact ⟨rfl, rfl⟩
    | .error (.interrupt i), _ => exact ⟨rfl, rfl⟩

/-- A tool that logs a detail, drops the words behind its own and then breaks
off. -/
theorem line_outcome_fault :
    let box : Toolbox (Except Failure String) := fun result words =>
      .log ⟨.debug, "looking", "disk", "nick"⟩ (.reword (words.take 1) (.finish result))
    let burning : Program (Except Failure String) :=
      .tool (.error (.fault (.other "ValueError" "disk on fire")))
    let s := Session.start Config.standard (Registry.ofList [("/bin/check", burning)])
      (.ok { date := ⟨2024, 3, 5⟩ })
    (∀ name rest program, Text.words " /bin/check now" = name :: rest →
      s.Means name (.ok program) → program.Quiet box (name :: rest)) ∧
      (runAt box 3 " /bin/check now" s).1 = .ok "Error\n" ∧
      (runAt box 3 " /bin/check now" s).2.log =
        s.log ++ [⟨.debug, "exec /bin/check", "shell", "nick"⟩,
          ⟨.debug, "looking", "disk", "nick"⟩,
          ⟨.error, "/bin/check failed: ValueError: disk on fire", "shell", "nick"⟩] := by
  intro box burning s
  have hquiet : ∀ name rest program, Text.words " /bin/check now" = name :: rest →
      s.Means name (.ok program) → program.Quiet box (name :: rest) := by
    intro name rest program _ _
    cases program with
    | builtin b => trivial
    | tool result => exact .log rfl (.reword (.finish result))
  obtain ⟨_, hline⟩ := line_outcome box 3 " /bin/check now" s hquiet
  obtain ⟨_, _, hprogram⟩ := hline "/bin/check" ["now"] (by decide)
  obtain ⟨_, _, _, hanswer, hlog⟩ := hprogram burning (.registered rfl)
  exact ⟨hquiet, hanswer, hlog⟩

/-- One tool takes the first word off the line and breaks off over the next one,
under which the log then tells of it.  Another takes all words away and breaks
off: the log does not tell of it, and its line has no answer. -/
theorem fault_told_amiss :
    let broken : Script Bool := .finish (.error (.fault (.other "ValueError" "no number")))
    let box : Toolbox Bool := fun all words =>
      if all then .reword [] broken else .reword words.tail broken
    let registry := Registry.ofList [("shift", .tool false), ("clear", .tool true)]
    let s := Session.start Config.standard registry (.ok { date := ⟨2024, 3, 5⟩ })
    (∀ all words, (box all words).Quiet) ∧
      (runAt box 0 "shift x" s).1 = .ok "Error\n" ∧
      (runAt box 0 "shift x" s).2.log =
        s.log ++ [⟨.debug, "exec shift", "shell", "nick"⟩,
          ⟨.error, "x failed: ValueError: no number", "shell", "nick"⟩] ∧
      (runAt box 0 "clear" s).1 = .error (.fault .missingArgument) ∧
      (runAt box 0 "clear" s).2.log = s.log ++ [⟨.debug, "exec clear", "shell", "nick"⟩] := by
  intro broken box registry s
  refine ⟨fun all words => ?_, rfl, by decide, rfl, by decide⟩
  cases all with
  | true => exact .reword (.finish _)
  | false => exact .reword (.finish _)

end Session
end TreeShell
