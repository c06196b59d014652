/-
What a line can do to a session.

The theorems here say once, for every state and every line, what a line comes to
and what it changes, so that no later proof opens a built-in or the dispatch.
`Builtin.run_cases` says it of a built-in on the words of a line, and
`Session.command_cases` of a whole line of a shell without tools: the line is
blank, or finds no program, or runs a built-in.

Most of a session is out of reach of lines.  What is, is its `Frame`.  Between two
lines the clock goes on, and someone else may change the tree: a `Happening` is a
line or such a change, and `liveThrough` a run of them.
-/
import TreeShell.Session.Command

namespace TreeShell
namespace Session

variable {Tool : Type}

def remember (line : String) (s : Session Tool) : Session Tool :=
  { s with history := line :: s.history }

def announce (name : String) (s : Session Tool) : Session Tool :=
  s.note .debug "shell" ("exec " ++ name)

theorem announce_log (s : Session Tool) (name : String) :
    (s.announce name).log = s.log ++ [⟨.debug, "exec " ++ name, "shell", s.user⟩] := rfl

def IsDirectory (s : Session Tool) (path : Path) : Prop :=
  ∃ entries, s.lookup path = .ok (.directory entries)

/-! ## What stays -/

/-- Two states of one session that differ at most in the working directory, the
history and the log. -/
structure Frame (s t : Session Tool) : Prop where
  config : t.config = s.config
  registry : t.registry = s.registry
  clock : t.clock = s.clock
  root : t.root = s.root

namespace Frame

theorem refl (s : Session Tool) : Frame s s := ⟨rfl, rfl, rfl, rfl⟩

theorem trans {s t u : Session Tool} (hst : Frame s t) (htu : Frame t u) : Frame s u where
  config := htu.config.trans hst.config
  registry := htu.registry.trans hst.registry
  clock := htu.clock.trans hst.clock
  root := htu.root.trans hst.root

end Frame

theorem frame_note (s : Session Tool) (level : Log.Level) (source message : String) :
    Frame s (s.note level source message) := ⟨rfl, rfl, rfl, rfl⟩

theorem frame_remember (s : Session Tool) (line : String) : Frame s (s.remember line) :=
  ⟨rfl, rfl, rfl, rfl⟩

theorem frame_moveTo (s : Session Tool) (path : Path) : Frame s (s.moveTo path) :=
  ⟨rfl, rfl, rfl, rfl⟩

end Session

/-! ## Built-ins -/

namespace Builtin

variable {Tool : Type}

/-- Where `cd` may move: home, or to a directory that one of its words names. -/
def Destination (s : Session Tool) (args : List String) (path : Path) : Prop :=
  path = s.home ∨ ∃ target ∈ args, path = s.resolve target ∧ s.IsDirectory path

theorem changeDirectory_cases (s : Session Tool) (args : List String) :
    (∃ f, changeDirectory s args = (.error f, s)) ∨
      ∃ path, changeDirectory s args = (.ok "", s.moveTo path) ∧ Destination s args path := by
  match args with
  | [] => exact .inl ⟨_, rfl⟩
  | [_] => exact .inr ⟨s.home, rfl, .inl rfl⟩
  | _ :: target :: _ =>
    simp only [changeDirectory]
    split
    · exact .inl ⟨_, rfl⟩
    · next entries hfound =>
      exact .inr ⟨_, rfl, .inr ⟨target, by simp, rfl, entries, hfound⟩⟩
    · exact .inl ⟨_, rfl⟩
    · exact .inl ⟨_, rfl⟩

/-- A built-in leaves the session as it was, unless it is a `cd` that succeeds.
That one moves to one of its destinations. -/
theorem run_cases (b : Builtin) (args : List String) (s : Session Tool) :
    (∃ result, b.run args s = (result, s) ∧ (b = cd → ∃ f, result = .error f)) ∨
      ∃ path, b = cd ∧ b.run args s = (.ok "", s.moveTo path) ∧ Destination s args path := by
  by_cases hb : b = cd
  · subst hb
    rcases changeDirectory_cases s args with ⟨f, hf⟩ | ⟨path, hpath, hplace⟩
    · exact .inl ⟨.error f, hf, fun _ => ⟨f, rfl⟩⟩
    · exact .inr ⟨path, rfl, hpath, hplace⟩
  · have hkept : (b.run args s).2 = s := run_snd_of_ne_cd hb args s
    exact .inl ⟨(b.run args s).1, Prod.ext rfl hkept, fun h => absurd h hb⟩

theorem run_cd_directory {s : Session Tool} {target : String}
    (hdir : s.IsDirectory (s.resolve target)) (word : String) (rest : List String) :
    cd.run (word :: target :: rest) s = (.ok "", s.moveTo (s.resolve target)) := by
  obtain ⟨entries, hentries⟩ := hdir
  simp only [run, changeDirectory, hentries]

theorem run_cat_file {s : Session Tool} {target text : String}
    (hfile : s.root.lookup? (s.resolve target) = some (.file text)) (word : String) :
    cat.run [word, target] s = (.ok text, s) := by
  have hread : readFile s target = .ok text := by
    simp only [readFile, Session.lookup_eq_ok_iff.mpr hfile]
  simp only [run, List.tail_cons, concatenate, hread, String.append_empty]
  rfl

theorem concatenate_congr {s t : Session Tool} (h : ∀ arg, readFile s arg = readFile t arg)
    (args : List String) : concatenate s args = concatenate t args := by
  induction args with
  | nil => rfl
  | cons arg rest ih => rw [concatenate, concatenate, h arg, ih]

theorem run_frame (b : Builtin) (args : List String) (s : Session Tool) :
    s.Frame (b.run args s).2 := by
  rcases run_cases b args s with ⟨result, h, _⟩ | ⟨path, _, h, _⟩
  · rw [h]
    exact .refl s
  · rw [h]
    exact Session.frame_moveTo s path

theorem run_history (b : Builtin) (args : List String) (s : Session Tool) :
    (b.run args s).2.history = s.history := by
  rcases run_cases b args s with ⟨result, h, _⟩ | ⟨path, _, h, _⟩ <;> rw [h]
  rfl

theorem showListing_failure {s : Session Tool} {path : Path} {typed : Option String} {f : Failure}
    (h : showListing s path typed = .error f) :
    (∃ e, f = .shell e) ∨
      (typed = none ∧ f = .fault .missingArgument ∧ ¬s.IsDirectory path) := by
  unfold showListing at h
  split at h
  · cases h
    exact .inl ⟨_, rfl⟩
  · nomatch h
  all_goals
    next hfound =>
    cases typed with
    | some text => nomatch h
    | none =>
      cases h
      refine .inr ⟨rfl, rfl, fun ⟨entries, hdir⟩ => ?_⟩
      rw [hfound] at hdir
      nomatch hdir

/-- How a built-in fails that is given its own name at least.  Other than with a
shell error it does so in two ways: `date` as the clock does, and `ls` without
an argument where the working directory is none. -/
theorem run_failure {b : Builtin} {word : String} {rest : List String} {s : Session Tool}
    {f : Failure} (h : (b.run (word :: rest) s).1 = .error f) :
    (∃ e, f = .shell e) ∨ (b = date ∧ s.clock = .error f) ∨
      (b = ls ∧ rest = [] ∧ f = .fault .missingArgument ∧ ¬s.IsDirectory s.cwd) := by
  cases b with
  | cat =>
    have hcat : (concatenate s rest).mapError Failure.shell = .error f := h
    cases hread : concatenate s rest with
    | ok text =>
      rw [hread] at hcat
      nomatch hcat
    | error e =>
      rw [hread] at hcat
      exact .inl ⟨e, (Except.error.inj hcat).symm⟩
  | cd =>
    have hcd : (changeDirectory s (word :: rest)).1 = .error f := h
    cases rest with
    | nil => nomatch hcd
    | cons target more =>
      simp only [changeDirectory] at hcd
      split at hcd
      · exact .inl ⟨_, (Except.error.inj hcd).symm⟩
      · nomatch hcd
      · exact .inl ⟨_, (Except.error.inj hcd).symm⟩
      · exact .inl ⟨_, (Except.error.inj hcd).symm⟩
  | date =>
    have hdate : s.clock.map Calendar.Reading.stamp = .error f := h
    cases hclock : s.clock with
    | ok reading =>
      rw [hclock] at hdate
      nomatch hdate
    | error g =>
      rw [hclock] at hdate
      exact .inr (.inl ⟨rfl, congrArg Except.error (Except.error.inj hdate)⟩)
  | ls =>
    cases rest with
    | nil =>
      have hls : showListing s s.cwd none = .error f := h
      rcases showListing_failure hls with hshell | ⟨_, hf, hdir⟩
      · exact .inl hshell
      · exact .inr (.inr ⟨rfl, rfl, hf, hdir⟩)
    | cons target more =>
      have hls : showListing s (s.resolve target) (some target) = .error f := h
      rcases showListing_failure hls with hshell | ⟨htyped, _⟩
      · exact .inl hshell
      · nomatch htyped
  | echo => nomatch h
  | help => nomatch h
  | pwd => nomatch h
  | whoami => nomatch h

end Builtin

/-! ## Lines -/

namespace Session

variable {Tool : Type}

theorem findProgram_remember (s : Session Tool) (line name : String) :
    (s.remember line).findProgram name = s.findProgram name := rfl

theorem complain_frame (s : Session Tool) (e : ShellError) : s.Frame (s.complain e).2 :=
  s.frame_note .warning "shell" e.message

/-- Settling writes at most one entry, and an error only for a fault. -/
theorem settle_cases (words : List String) (result : Except Failure String) (s : Session Tool) :
    (settle ⟨words, result, s⟩).2 = s ∨
      (∃ e, result = .error (.shell e) ∧
        (settle ⟨words, result, s⟩).2 = s.note .warning "shell" e.message) ∨
      ∃ f word, result = .error (.fault f) ∧
        (settle ⟨words, result, s⟩).2 =
          s.note .error "shell" (word ++ " failed: " ++ f.kind ++ ": " ++ f.text) := by
  match words, result with
  | _, .ok _ => exact .inl rfl
  | _, .error (.shell e) => exact .inr (.inl ⟨e, rfl, rfl⟩)
  | [], .error (.fault _) => exact .inl rfl
  | word :: _, .error (.fault f) => exact .inr (.inr ⟨f, word, rfl, rfl⟩)
  | _, .error (.interrupt _) => exact .inl rfl

theorem settle_frame (words : List String) (result : Except Failure String) (s : Session Tool) :
    s.Frame (settle ⟨words, result, s⟩).2 := by
  rcases settle_cases words result s with h | ⟨_, _, h⟩ | ⟨_, _, _, h⟩ <;> rw [h]
  · exact .refl s
  · exact s.frame_note ..
  · exact s.frame_note ..

theorem settle_history (words : List String) (result : Except Failure String)
    (s : Session Tool) : (settle ⟨words, result, s⟩).2.history = s.history := by
  rcases settle_cases words result s with h | ⟨_, _, h⟩ | ⟨_, _, _, h⟩ <;> rw [h] <;> rfl

theorem settle_cwd (words : List String) (result : Except Failure String) (s : Session Tool) :
    (settle ⟨words, result, s⟩).2.cwd = s.cwd := by
  rcases settle_cases words result s with h | ⟨_, _, h⟩ | ⟨_, _, _, h⟩ <;> rw [h] <;> rfl

/-- Where a word is left, nothing but an interrupt goes unanswered. -/
theorem settle_answers {word : String} {rest : List String} {result : Except Failure String}
    (s : Session Tool) (h : ∀ i, result ≠ .error (.interrupt i)) :
    ∃ output, (settle ⟨word :: rest, result, s⟩).1 = .ok output := by
  match result with
  | .ok output => exact ⟨_, rfl⟩
  | .error (.shell e) => exact ⟨_, rfl⟩
  | .error (.fault f) => exact ⟨_, rfl⟩
  | .error (.interrupt i) => exact absurd rfl (h i)

/-! Running a line comes to one of three equations, of which the line and the
session choose one. -/

/-- How the lines are run that a program asks for, if there is a level left for
them. -/
def below (box : Toolbox Tool) : Nat → Option (Runner Tool)
  | 0 => none
  | depth + 1 => some (runAt box depth)

theorem runAt_eq_dispatch (box : Toolbox Tool) (depth : Nat) (line : String) (s : Session Tool) :
    runAt box depth line s =
      dispatch box (below box depth) (Text.words line) (s.remember line) := by
  cases depth with
  | zero => exact runAt_zero box line s
  | succ depth => exact runAt_succ box depth line s

section

variable (box : Toolbox Tool) (depth : Nat) {line name : String} {rest : List String}
  {s : Session Tool}

theorem runAt_blank (hwords : Text.words line = []) (s : Session Tool) :
    runAt box depth line s = (.ok "", s.remember line) := by
  rw [runAt_eq_dispatch, hwords]
  rfl

theorem runAt_unfound {e : ShellError} (hwords : Text.words line = name :: rest)
    (hfind : s.findProgram name = .error e) :
    runAt box depth line s = (s.remember line).complain e := by
  rw [runAt_eq_dispatch, hwords]
  simp only [dispatch, findProgram_remember, hfind]

theorem runAt_found {program : Program Tool} (hwords : Text.words line = name :: rest)
    (hfind : s.findProgram name = .ok program) :
    runAt box depth line s = settle (program.run box (below box depth) (name :: rest)
      ((s.remember line).announce name)) := by
  rw [runAt_eq_dispatch, hwords]
  simp only [dispatch, findProgram_remember, hfind, announce]

end

/-- In a shell without tools the levels below a line do not matter. -/
theorem runAt_none (depth : Nat) (line : String) (s : Shell) :
    runAt Toolbox.none depth line s = s.command line := by
  rw [command, runAt_eq_dispatch, runAt_eq_dispatch]
  cases Text.words line with
  | nil => rfl
  | cons name rest =>
    simp only [dispatch]
    cases (s.remember line).findProgram name with
    | error e => rfl
    | ok program =>
      cases program with
      | builtin b => rfl
      | tool t => nomatch t

theorem command_builtin {line name : String} {rest : List String} {s : Shell} {b : Builtin}
    (hwords : Text.words line = name :: rest) (hfind : s.findProgram name = .ok (.builtin b)) :
    s.command line =
      settle ⟨name :: rest, b.run (name :: rest) ((s.remember line).announce name)⟩ :=
  runAt_found Toolbox.none 0 hwords hfind

theorem command_cases (line : String) (s : Shell) :
    (Text.words line = [] ∧ s.command line = (.ok "", s.remember line)) ∨
    (∃ name rest e, Text.words line = name :: rest ∧ s.findProgram name = .error e ∧
      s.command line = (s.remember line).complain e) ∨
    ∃ name rest b, Text.words line = name :: rest ∧ s.findProgram name = .ok (.builtin b) ∧
      s.command line =
        settle ⟨name :: rest, b.run (name :: rest) ((s.remember line).announce name)⟩ := by
  cases hwords : Text.words line with
  | nil => exact .inl ⟨rfl, runAt_blank Toolbox.none 0 hwords s⟩
  | cons name rest =>
    refine .inr ?_
    cases hfind : s.findProgram name with
    | error e => exact .inl ⟨name, rest, e, rfl, hfind, runAt_unfound Toolbox.none 0 hwords hfind⟩
    | ok program =>
      cases program with
      | builtin b => exact .inr ⟨name, rest, b, rfl, hfind, command_builtin hwords hfind⟩
      | tool t => nomatch t

/-- No line reaches the configuration, the registry, the clock or the tree. -/
theorem command_frame (line : String) (s : Shell) : s.Frame (s.command line).2 := by
  have hremember : s.Frame (s.remember line) := s.frame_remember line
  rcases command_cases line s with ⟨_, h⟩ | ⟨name, rest, e, _, _, h⟩ | ⟨name, rest, b, _, _, h⟩
  · rw [h]
    exact hremember
  · rw [h]
    exact hremember.trans (complain_frame _ e)
  · rw [h]
    have hannounce : (s.remember line).Frame ((s.remember line).announce name) := frame_note ..
    exact ((hremember.trans hannounce).trans (b.run_frame _ _)).trans (settle_frame ..)

theorem command_history (line : String) (s : Shell) :
    (s.command line).2.history = line :: s.history := by
  rcases command_cases line s with ⟨_, h⟩ | ⟨name, rest, e, _, _, h⟩ | ⟨name, rest, b, _, _, h⟩
  · rw [h]
    rfl
  · rw [h]
    rfl
  · rw [h]
    exact (settle_history ..).trans (b.run_history _ _)

/-- A line leaves the working directory alone or moves it to a destination that
its words give. -/
theorem command_cwd (line : String) (s : Shell) :
    (s.command line).2.cwd = s.cwd ∨
      Builtin.Destination s (Text.words line) (s.command line).2.cwd := by
  rcases command_cases line s with ⟨_, h⟩ | ⟨name, rest, e, _, _, h⟩ | ⟨name, rest, b, hwords, _, h⟩
  · rw [h]
    exact .inl rfl
  · rw [h]
    exact .inl rfl
  · rw [h, hwords]
    rcases b.run_cases (name :: rest) ((s.remember line).announce name) with
      ⟨result, hrun, _⟩ | ⟨path, _, hrun, hplace⟩ <;> rw [hrun, settle_cwd]
    · exact .inl rfl
    · exact .inr hplace

/-- A shell without tools answers every line as long as its clock can be read:
nothing else interrupts a built-in. -/
theorem command_answers {s : Shell} {reading : Calendar.Reading} (hclock : s.clock = .ok reading)
    (line : String) : ∃ output, (s.command line).1 = .ok output := by
  rcases command_cases line s with ⟨_, h⟩ | ⟨name, rest, e, _, _, h⟩ | ⟨name, rest, b, _, _, h⟩
  · rw [h]
    exact ⟨_, rfl⟩
  · rw [h]
    exact ⟨_, rfl⟩
  · rw [h]
    refine settle_answers _ fun i hi => ?_
    rcases b.run_failure hi with ⟨e, he⟩ | ⟨_, hfails⟩ | ⟨_, _, hf, _⟩
    · nomatch he
    · have hsame : ((s.remember line).announce name).clock = s.clock := rfl
      rw [hsame, hclock] at hfails
      nomatch hfails
    · nomatch hf

end Session

/-! ## What happens to a session -/

/-- A line, and what the clock gives while it runs. -/
structure Typed where
  line : String
  clock : Except Failure Calendar.Reading

/-- A line is typed, or the tree is changed by someone else, who puts nodes into it
or takes some out. -/
inductive Happening (Tool : Type) where
  | typed (t : Typed)
  | changed (root : Node Tool)

namespace Session

variable {Tool : Type}

def atClock (clock : Except Failure Calendar.Reading) (s : Session Tool) : Session Tool :=
  { s with clock }

def live (box : Toolbox Tool) (depth : Nat) (s : Session Tool) : Happening Tool → Session Tool
  | .typed t => (runAt box depth t.line (s.atClock t.clock)).2
  | .changed root => { s with root }

def liveThrough (box : Toolbox Tool) (depth : Nat) (s : Session Tool)
    (happenings : List (Happening Tool)) : Session Tool :=
  happenings.foldl (live box depth) s

def type (t : Typed) (s : Shell) : Except Escape String × Shell :=
  (s.atClock t.clock).command t.line

/-- The shell after lines that were typed while the tree was left alone. -/
def typeAll (s : Shell) (run : List Typed) : Shell :=
  run.foldl (fun s t => (s.type t).2) s

end Session
end TreeShell
