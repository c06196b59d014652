/-
What later lines can tell of a line.

A session consists of what lines read and of a memory, its history and its log,
that they only add to.  `bare` is a session without the memory.  A line runs on a
bare session as it does on any session that is bare the same, and what it
remembers comes on top: this is `command_onto`, and every statement here about
two runs of one line is a case of it.

A line that moves the shell, by a `cd` that succeeds, is the only one that
leaves another bare session behind.  `movesOf` picks these from a run of lines,
and `only_moves_matter` says that the others might as well not have been typed.
-/
import TreeShell.Proofs.Dispatch

namespace TreeShell
namespace Session

variable {Tool : Type}

/-! ## Memory -/

/-- The session with nothing to remember. -/
def bare (s : Session Tool) : Session Tool := { s with history := [], log := [] }

/-- The session with what another one remembers below its own memory. -/
def onto (s below : Session Tool) : Session Tool :=
  { s with history := s.history ++ below.history, log := below.log ++ s.log }

theorem bare_onto (s : Session Tool) : s.bare.onto s = s := by
  simp [onto, bare]

theorem cwd_of_bare_eq {s t : Session Tool} (h : s.bare = t.bare) : s.cwd = t.cwd := by
  have hbare : s.bare.cwd = t.bare.cwd := by rw [h]
  exact hbare

theorem root_of_bare_eq {s t : Session Tool} (h : s.bare = t.bare) : s.root = t.root := by
  have hbare : s.bare.root = t.bare.root := by rw [h]
  exact hbare

theorem note_onto (s below : Session Tool) (level : Log.Level) (source message : String) :
    (s.onto below).note level source message = (s.note level source message).onto below := by
  simp [note, onto, user, Log.write]

theorem moveTo_onto (s below : Session Tool) (path : Path) :
    (s.onto below).moveTo path = (s.moveTo path).onto below :=
  note_onto { s with cwd := path } below .debug "cd" ("cwd -> " ++ path.format)

theorem announce_remember_onto (s below : Session Tool) (line name : String) :
    ((s.onto below).remember line).announce name = ((s.remember line).announce name).onto below :=
  note_onto (s.remember line) below .debug "shell" ("exec " ++ name)

theorem complain_onto (s below : Session Tool) (e : ShellError) :
    (s.onto below).complain e = (s.complain e).map id (onto · below) := by
  simp only [complain, note_onto, Prod.map, id]

theorem settle_onto (words : List String) (result : Except Failure String)
    (s below : Session Tool) :
    settle ⟨words, result, s.onto below⟩ =
      (settle ⟨words, result, s⟩).map id (onto · below) := by
  match words, result with
  | _, .ok _ => rfl
  | _, .error (.shell e) => exact complain_onto s below e
  | [], .error (.fault _) => rfl
  | word :: _, .error (.fault f) => simp only [settle, note_onto, Prod.map, id]
  | _, .error (.interrupt _) => rfl

end Session

namespace Builtin

open Session (onto)

variable {Tool : Type}

theorem concatenate_onto (s below : Session Tool) (args : List String) :
    concatenate (s.onto below) args = concatenate s args :=
  concatenate_congr (s := s.onto below) (t := s) (fun _ => rfl) args

theorem changeDirectory_onto (s below : Session Tool) (args : List String) :
    changeDirectory (s.onto below) args = (changeDirectory s args).map id (onto · below) := by
  match args with
  | [] => rfl
  | [_] => exact Prod.ext rfl (s.moveTo_onto below s.home)
  | _ :: target :: _ =>
    have hlookup : (s.onto below).lookup ((s.onto below).resolve target) =
        s.lookup (s.resolve target) := rfl
    have hmove : (s.onto below).moveTo ((s.onto below).resolve target) =
        (s.moveTo (s.resolve target)).onto below := s.moveTo_onto below _
    simp only [changeDirectory, hlookup, hmove]
    split <;> rfl

/-- A built-in reads nothing that was remembered and keeps all of it. -/
theorem run_onto (b : Builtin) (args : List String) (s below : Session Tool) :
    b.run args (s.onto below) = (b.run args s).map id (onto · below) := by
  cases b with
  | cat =>
    simp only [run, concatenate_onto, Prod.map, id]
  | cd => exact changeDirectory_onto s below args
  | ls => rcases args with _ | ⟨_, _ | _⟩ <;> rfl
  | date => rfl
  | echo => rfl
  | help => rfl
  | pwd => rfl
  | whoami => rfl

/-- What a built-in answers is not told by the memory. -/
theorem run_fst_of_bare_eq {s t : Session Tool} (h : s.bare = t.bare) (b : Builtin)
    (args : List String) : (b.run args s).1 = (b.run args t).1 := by
  rw [← Session.bare_onto s, ← Session.bare_onto t, run_onto, run_onto, h]
  rfl

end Builtin

namespace Session

theorem dispatch_onto (nested : Option (Runner Empty)) (words : List String) (s below : Shell) :
    dispatch Toolbox.none nested words (s.onto below) =
      (dispatch Toolbox.none nested words s).map id (onto · below) := by
  have hfind (name : String) : (s.onto below).findProgram name = s.findProgram name := rfl
  cases words with
  | nil => rfl
  | cons name rest =>
    have hannounce : (s.onto below).note .debug "shell" ("exec " ++ name) =
        (s.note .debug "shell" ("exec " ++ name)).onto below := note_onto ..
    simp only [dispatch, hfind]
    cases s.findProgram name with
    | error e => exact complain_onto s below e
    | ok program =>
      cases program with
      | builtin b =>
        simp only [Program.run, hannounce, b.run_onto]
        exact settle_onto ..
      | tool t => cases t

theorem command_onto (line : String) (s below : Shell) :
    (s.onto below).command line = (s.command line).map id (onto · below) := by
  rw [command, command, runAt_zero, runAt_zero]
  exact dispatch_onto none (Text.words line) (s.remember line) below

/-- Two sessions that are bare the same answer a line alike, are bare the same
after it, and log the same of it. -/
theorem command_of_bare_eq {s t : Shell} (h : s.bare = t.bare) (line : String) :
    (s.command line).1 = (t.command line).1 ∧
      (s.command line).2.bare = (t.command line).2.bare ∧
      ∃ entries, (s.command line).2.log = s.log ++ entries ∧
        (t.command line).2.log = t.log ++ entries := by
  have hs : s.command line = (s.bare.command line).map id (onto · s) := by
    rw [← command_onto, bare_onto]
  have ht : t.command line = (s.bare.command line).map id (onto · t) := by
    rw [← command_onto, h, bare_onto]
  rw [hs, ht]
  exact ⟨rfl, rfl, (s.bare.command line).2.log, rfl, rfl⟩

/-! ## Moves -/

/-- Whether a line runs `cd`, under whatever name, and `cd` succeeds. -/
def moves (line : String) (s : Shell) : Bool :=
  match Text.words line with
  | [] => false
  | name :: rest =>
    match s.findProgram name with
    | .ok (.builtin .cd) =>
      (Builtin.cd.run (name :: rest) ((s.remember line).announce name)).1.isOk
    | _ => false

theorem settle_bare (words : List String) (result : Except Failure String) (s : Shell) :
    (settle ⟨words, result, s⟩).2.bare = s.bare := by
  rcases settle_cases words result s with h | ⟨_, _, h⟩ | ⟨_, _, _, h⟩ <;> rw [h] <;> rfl

theorem command_bare_of_not_moves {line : String} {s : Shell} (h : s.moves line = false) :
    (s.command line).2.bare = s.bare := by
  rcases command_cases line s with
    ⟨_, hs⟩ | ⟨name, rest, e, _, _, hs⟩ | ⟨name, rest, b, hwords, hname, hs⟩
  · rw [hs]
    rfl
  · rw [hs]
    rfl
  · rw [hs]
    rcases b.run_cases (name :: rest) ((s.remember line).announce name) with
      ⟨result, hrun, _⟩ | ⟨path, rfl, hrun, _⟩
    · rw [hrun, settle_bare]
      rfl
    · have hmoves : s.moves line = true := by
        simp only [moves, hwords, hname, hrun]
        rfl
      rw [hmoves] at h
      nomatch h

theorem moves_of_bare_eq {s t : Shell} (h : s.bare = t.bare) (line : String) :
    s.moves line = t.moves line := by
  have honto (u below : Shell) : (u.onto below).moves line = u.moves line := by
    unfold moves
    split
    · rfl
    · next name rest _ =>
      have hfind : (u.onto below).findProgram name = u.findProgram name := rfl
      rw [hfind, announce_remember_onto, Builtin.run_onto]
      rfl
  rw [← bare_onto s, ← bare_onto t, honto, honto, h]

/-! ## Runs of lines -/

/-- The shell after a run of lines. -/
def after (s : Shell) (lines : List String) : Shell :=
  lines.foldl (fun s line => (s.command line).2) s

def replies (s : Shell) : List String → List (Except Escape String)
  | [] => []
  | line :: rest => (s.command line).1 :: (s.command line).2.replies rest

/-- The lines of a run that move the shell when they are reached. -/
def movesOf (s : Shell) : List String → List String
  | [] => []
  | line :: rest =>
    if s.moves line then line :: (s.command line).2.movesOf rest
    else (s.command line).2.movesOf rest

theorem after_movesOf {s t : Shell} (h : s.bare = t.bare) (lines : List String) :
    (s.after lines).bare = (t.after (s.movesOf lines)).bare := by
  induction lines generalizing s t with
  | nil => exact h
  | cons line rest ih =>
    unfold movesOf
    cases hmoves : s.moves line with
    | true => exact ih (command_of_bare_eq h line).2.1
    | false => exact ih ((command_bare_of_not_moves hmoves).trans h)

theorem movesOf_eq_nil_iff {s : Shell} {lines : List String} :
    s.movesOf lines = [] ↔ ∀ line ∈ lines, s.moves line = false := by
  induction lines generalizing s with
  | nil => simp [movesOf]
  | cons line rest ih =>
    unfold movesOf
    cases hmoves : s.moves line with
    | true => simp [hmoves]
    | false =>
      have hrest (other : String) : (s.command line).2.moves other = s.moves other :=
        moves_of_bare_eq (command_bare_of_not_moves hmoves) other
      simp [ih, hmoves, hrest]

/-- Where no line moves the shell, each is answered as if it were the first. -/
theorem replies_of_not_moves {s : Shell} {lines : List String}
    (h : ∀ line ∈ lines, s.moves line = false) :
    s.replies lines = lines.map fun line => (s.command line).1 := by
  have halike : ∀ (rest : List String) (t : Shell), (∀ line ∈ rest, t.moves line = false) →
      t.bare = s.bare → t.replies rest = rest.map fun line => (s.command line).1 := by
    intro rest
    induction rest with
    | nil => exact fun _ _ _ => rfl
    | cons line rest ih =>
      intro t hmoves ht
      have hnext : (t.command line).2.bare = t.bare :=
        command_bare_of_not_moves (hmoves line List.mem_cons_self)
      have hrest : ∀ other ∈ rest, (t.command line).2.moves other = false := fun other hother =>
        (moves_of_bare_eq hnext other).trans (hmoves other (List.mem_cons_of_mem line hother))
      rw [replies, List.map_cons, (command_of_bare_eq ht line).1, ih _ hrest (hnext.trans ht)]
  exact halike lines s h rfl

/-- A line comes to the same after a run of lines and after the moves among
them: the answer, the working directory, the tree and the entries that it adds to
the log.  A line that does not move leaves the directory and the tree as they
were, and a stretch of such lines is answered the same in every order. -/
theorem only_moves_matter (s : Shell) (lines : List String) (line : String) :
    let full := s.after lines
    let moved := s.after (s.movesOf lines)
    (moved.command line).1 = (full.command line).1 ∧
      (moved.command line).2.cwd = (full.command line).2.cwd ∧
      (moved.command line).2.root = (full.command line).2.root ∧
      (∃ entries, (full.command line).2.log = full.log ++ entries ∧
        (moved.command line).2.log = moved.log ++ entries) ∧
      (s.moves line = false →
        (s.command line).2.cwd = s.cwd ∧ (s.command line).2.root = s.root) ∧
      ∀ stretch reordered : List String, s.movesOf stretch = [] → reordered.Perm stretch →
        s.replies reordered = reordered.map fun other => (s.command other).1 := by
  intro full moved
  have hbare : full.bare = moved.bare := after_movesOf rfl lines
  obtain ⟨hanswer, hafter, hentries⟩ := command_of_bare_eq hbare line
  refine ⟨hanswer.symm, (cwd_of_bare_eq hafter).symm, (root_of_bare_eq hafter).symm, hentries,
    ?_, ?_⟩
  · intro hmoves
    have hsame : (s.command line).2.bare = s.bare := command_bare_of_not_moves hmoves
    exact ⟨cwd_of_bare_eq hsame, root_of_bare_eq hsame⟩
  · intro stretch reordered hstretch hperm
    refine replies_of_not_moves fun other hother => ?_
    exact movesOf_eq_nil_iff.mp hstretch other (hperm.mem_iff.mp hother)

example :
    (Session.start Config.standard Registry.standard (.error (.fault .missingArgument))).movesOf
      ["cd /nowhere", "/bin/cd ..", "cat nick nick/about.txt", "../bin/cd nick"] =
      ["/bin/cd ..", "../bin/cd nick"] := by decide

end Session
end TreeShell
