/-
The lines that a line has run, and what a session keeps of them.

A tool may ask the session that runs it for further lines, whose programs may be
tools again.  `calls` lists the lines of one line, each with the session as it is
when the line is asked for: first the line itself, then, one after the other,
the lines that its program asks for, each followed by its own.  A tool that does
nothing to the session but ask for lines is `Script.CommandsOnly`; with the words
of its own line it may do what it likes.

Where all tools are of that kind, the calls account for everything that changes:
for the history, for the log and for the working directory.  `Recorded` is that
account.  It holds of no calls at all, of one run of calls after another, and so
of a script, of a line at every depth, and of whatever happens to a session from
outside between lines.  How a line ends has no part in it, so that it holds
behind an interrupt as well.
-/
import TreeShell.Proofs.Dispatch

namespace TreeShell

variable {Tool : Type}

/-! ## Calls -/

/-- A line that is run. -/
structure Call (Tool : Type) where
  line : String
  /-- The session when the line is asked for. -/
  before : Session Tool

/-- Where a call takes the session by its own program.  Only `cd` takes it
anywhere, and only if it succeeds. -/
def Call.destination? (call : Call Tool) : Option Path :=
  match Text.words call.line with
  | [] => none
  | name :: rest =>
    match call.before.findProgram name with
    | .ok (.builtin .cd) =>
      match Builtin.cd.run (name :: rest) ((call.before.remember call.line).announce name) with
      | (.ok _, after) => some after.cwd
      | (.error _, _) => none
    | _ => none

/-- The lines that a script asks for.  Where none may be asked for, it asks in
vain. -/
def Script.asked (nested : Option (Runner Tool)) : Script Tool → Session Tool → List (Call Tool)
  | finish _, _ => []
  | observe next, s => (next s).asked nested s
  | command line next, s =>
    match nested with
    | none => []
    | some runLine =>
      ⟨line, s⟩ :: (next (runLine line s).1).asked nested (runLine line s).2
  | log entry next, s => next.asked nested { s with log := s.log ++ [entry] }
  | enter path next, s => next.asked nested { s with cwd := path }
  | plant root next, s => next.asked nested { s with root }
  | reword _ next, s => next.asked nested s

def Program.asked (box : Toolbox Tool) (nested : Option (Runner Tool)) (args : List String)
    (s : Session Tool) : Program Tool → List (Call Tool)
  | builtin _ => []
  | tool t => (box t args).asked nested s

/-- A script that does nothing to the session but have it run lines. -/
inductive Script.CommandsOnly : Script Tool → Prop where
  | finish (result : Except Failure String) : CommandsOnly (.finish result)
  | observe {next : Session Tool → Script Tool} (hnext : ∀ s, CommandsOnly (next s)) :
    CommandsOnly (.observe next)
  | command {line : String} {next : Except Escape String → Script Tool}
    (hnext : ∀ answer, CommandsOnly (next answer)) : CommandsOnly (.command line next)
  | reword {words : List String} {next : Script Tool} (hnext : CommandsOnly next) :
    CommandsOnly (.reword words next)

def Toolbox.CommandsOnly (box : Toolbox Tool) : Prop := ∀ t args, (box t args).CommandsOnly

namespace Session

/-- The lines that the program of a line asks for. -/
def asked (box : Toolbox Tool) (nested : Option (Runner Tool)) (line : String)
    (s : Session Tool) : List (Call Tool) :=
  match Text.words line with
  | [] => []
  | name :: rest =>
    match s.findProgram name with
    | .error _ => []
    | .ok program => program.asked box nested (name :: rest) ((s.remember line).announce name)

/-- The lines that a line comes to, itself first and each in front of those that
its own program asks for. -/
def calls (box : Toolbox Tool) : Nat → Call Tool → List (Call Tool)
  | 0, call => [call]
  | depth + 1, call =>
    call :: (call.before.asked box (some (runAt box depth)) call.line).flatMap (calls box depth)

/-- The lines that everything that happens to a session comes to. -/
def callsThrough (box : Toolbox Tool) (depth : Nat) :
    Session Tool → List (Happening Tool) → List (Call Tool)
  | _, [] => []
  | s, happening :: rest =>
    (match happening with
    | .typed t => calls box depth ⟨t.line, s.atClock t.clock⟩
    | .changed _ => []) ++ callsThrough box depth (s.live box depth happening) rest

theorem exists_calls_eq_cons (box : Toolbox Tool) (depth : Nat) (call : Call Tool) :
    ∃ nested, calls box depth call = call :: nested := by
  cases depth with
  | zero => exact ⟨[], rfl⟩
  | succ depth => exact ⟨_, rfl⟩

/-! ## Accounts -/

/-- The entry by which `cd` tells where it went. -/
def arrival (s : Session Tool) (path : Path) : Log.Entry :=
  ⟨.debug, "cwd -> " ++ path.format, "cd", s.user⟩

/-- What a session is after some calls: its history has their lines on top, the
latest one first; its log has entries of the same user behind the old ones, and
those from `cd` tell where the calls went; and it stands where the last of these
went. -/
structure Recorded (s t : Session Tool) (calls : List (Call Tool)) : Prop where
  config : t.config = s.config
  history : t.history = (calls.map Call.line).reverse ++ s.history
  log : ∃ entries : List Log.Entry, t.log = s.log ++ entries ∧
    (∀ entry ∈ entries, entry.user = s.user) ∧
    Log.select entries none (some "cd") = (calls.filterMap Call.destination?).map s.arrival
  cwd : t.cwd = (calls.filterMap Call.destination?).getLast?.getD s.cwd

namespace Recorded

variable {s t u : Session Tool}

theorem refl (s : Session Tool) : Recorded s s [] :=
  ⟨rfl, rfl, ⟨[], (List.append_nil _).symm, by simp, rfl⟩, rfl⟩

theorem trans {xs ys : List (Call Tool)} (hst : Recorded s t xs) (htu : Recorded t u ys) :
    Recorded s u (xs ++ ys) := by
  have huser : t.user = s.user := congrArg Config.user hst.config
  have harrival : t.arrival = s.arrival := by
    funext path
    rw [arrival, arrival, huser]
  obtain ⟨first, hfirst, hfirstUser, hfirstPlaces⟩ := hst.log
  obtain ⟨second, hsecond, hsecondUser, hsecondPlaces⟩ := htu.log
  refine ⟨htu.config.trans hst.config, ?_, ⟨first ++ second, ?_, ?_, ?_⟩, ?_⟩
  · rw [htu.history, hst.history]
    simp
  · rw [hsecond, hfirst, List.append_assoc]
  · intro entry hentry
    rcases List.mem_append.mp hentry with hold | hnew
    · exact hfirstUser entry hold
    · exact (hsecondUser entry hnew).trans huser
  · rw [harrival] at hsecondPlaces
    rw [List.filterMap_append, List.map_append, ← hfirstPlaces, ← hsecondPlaces]
    exact Log.select_append ..
  · rw [htu.cwd, hst.cwd, List.filterMap_append, List.getLast?_append, Option.getD_or]

/-- What is logged from elsewhere than `cd` goes nowhere. -/
theorem note {xs : List (Call Tool)} (h : Recorded s t xs) {source : String}
    (hsource : source ≠ "cd") (level : Log.Level) (message : String) :
    Recorded s (t.note level source message) xs := by
  have hnote : Recorded t (t.note level source message) [] := by
    refine ⟨rfl, rfl, ⟨[⟨level, message, source, t.user⟩], rfl, by simp, ?_⟩, rfl⟩
    have hother : ¬"cd" = source := fun hcd => hsource hcd.symm
    simp [Log.select, Log.Entry.selected, hother]
  have hafter := h.trans hnote
  rwa [List.append_nil] at hafter

theorem settle {xs : List (Call Tool)} (h : Recorded s t xs) (words : List String)
    (result : Except Failure String) :
    Recorded s (Session.settle ⟨words, result, t⟩).2 xs := by
  rcases settle_cases words result t with hs | ⟨e, _, hs⟩ | ⟨f, _, _, hs⟩ <;> rw [hs]
  · exact h
  · exact h.note (by decide) ..
  · exact h.note (by decide) ..

theorem remember {call : Call Tool} (h : call.destination? = none) :
    Recorded call.before (call.before.remember call.line) [call] := by
  refine ⟨rfl, rfl, ⟨[], (List.append_nil _).symm, by simp, ?_⟩, ?_⟩
  · rw [List.filterMap_cons_none h]
    rfl
  · rw [List.filterMap_cons_none h]
    rfl

/-- A call that goes somewhere tells so behind its announcement. -/
theorem moveTo {call : Call Tool} {path : Path} (h : call.destination? = some path)
    (name : String) :
    Recorded call.before (((call.before.remember call.line).announce name).moveTo path) [call] := by
  have hplaces : [call].filterMap Call.destination? = [path] := List.filterMap_cons_some h
  let announced : Log.Entry := ⟨.debug, "exec " ++ name, "shell", call.before.user⟩
  refine ⟨rfl, rfl, ⟨[announced, call.before.arrival path], ?_, ?_, ?_⟩, ?_⟩
  · exact List.append_assoc call.before.log [announced] [call.before.arrival path]
  · intro entry hentry
    simp only [List.mem_cons, List.not_mem_nil, or_false] at hentry
    rcases hentry with rfl | rfl <;> rfl
  · rw [hplaces]
    rfl
  · rw [hplaces]
    rfl

end Recorded

/-! ## Scripts and lines -/

end Session

/-- A script that only asks for lines leaves the account of these lines, if each
line leaves its own. -/
theorem Script.CommandsOnly.recorded {script : Script Tool} (h : script.CommandsOnly)
    {nested : Option (Runner Tool)} {callsOf : Call Tool → List (Call Tool)}
    (hline : ∀ runLine ∈ nested, ∀ line s,
      Session.Recorded s (runLine line s).2 (callsOf ⟨line, s⟩)) (words : List String)
    (s : Session Tool) :
    s.Recorded (script.run nested words s).outcome.2
      ((script.asked nested s).flatMap callsOf) := by
  induction h generalizing words s with
  | finish result => exact .refl s
  | observe _ ih => exact ih s words s
  | @command line next _ ih =>
    cases nested with
    | none => exact .refl s
    | some runLine => exact (hline runLine rfl line s).trans (ih _ words _)
  | reword _ ih => exact ih _ s

namespace Session

theorem destination?_of_found {call : Call Tool} {name : String} {rest : List String}
    {program : Program Tool} (hwords : Text.words call.line = name :: rest)
    (hfind : call.before.findProgram name = .ok program) (hprogram : program ≠ .builtin .cd) :
    call.destination? = none := by
  simp only [Call.destination?, hwords, hfind]
  split
  · next hcd => exact absurd (Except.ok.inj hcd) hprogram
  · rfl

/-- What a built-in does to a session is what its call accounts for. -/
theorem builtin_recorded {call : Call Tool} {name : String} {rest : List String} {b : Builtin}
    (hwords : Text.words call.line = name :: rest)
    (hfind : call.before.findProgram name = .ok (.builtin b)) :
    let ended := b.run (name :: rest) ((call.before.remember call.line).announce name)
    call.before.Recorded ended.2 [call] := by
  intro ended
  have hcd : b = .cd → call.destination? =
      match ended with
      | (.ok _, after) => some after.cwd
      | (.error _, _) => none := by
    rintro rfl
    simp only [Call.destination?, hwords, hfind]
    rfl
  rcases b.run_cases (name :: rest) ((call.before.remember call.line).announce name) with
    ⟨result, hrun, hfails⟩ | ⟨path, hb, hrun, _⟩
  · have hstays : call.destination? = none := by
      by_cases hb : b = .cd
      · obtain ⟨f, rfl⟩ := hfails hb
        rw [hcd hb]
        simp only [ended, hrun]
      · exact destination?_of_found hwords hfind fun h => hb (Program.builtin.inj h)
    simp only [ended, hrun]
    exact (Recorded.remember hstays).note (by decide) ..
  · have hgoes : call.destination? = some path := by
      rw [hcd hb]
      simp only [ended, hrun]
      rfl
    simp only [ended, hrun]
    exact .moveTo hgoes name

/-- One level of a line: the call itself, and then what its program asks for. -/
theorem dispatch_recorded {box : Toolbox Tool} (hbox : box.CommandsOnly)
    {nested : Option (Runner Tool)} {callsOf : Call Tool → List (Call Tool)}
    (hline : ∀ runLine ∈ nested, ∀ line s, Recorded s (runLine line s).2 (callsOf ⟨line, s⟩))
    (call : Call Tool) :
    call.before.Recorded
      (dispatch box nested (Text.words call.line) (call.before.remember call.line)).2
      (call :: (call.before.asked box nested call.line).flatMap callsOf) := by
  unfold asked
  cases hwords : Text.words call.line with
  | nil =>
    have hstays : call.destination? = none := by
      simp only [Call.destination?, hwords]
    exact .remember hstays
  | cons name rest =>
    simp only [dispatch, findProgram_remember]
    cases hfind : call.before.findProgram name with
    | error e =>
      have hstays : call.destination? = none := by
        simp only [Call.destination?, hwords, hfind]
      exact (Recorded.remember hstays).note (by decide) ..
    | ok program =>
      cases program with
      | builtin b => exact (builtin_recorded hwords hfind).settle (name :: rest) _
      | tool t =>
        have hstays : call.destination? = none := destination?_of_found hwords hfind (by simp)
        have hannounced : call.before.Recorded
            ((call.before.remember call.line).announce name) [call] :=
          (Recorded.remember hstays).note (by decide) ..
        have hscript : call.before.Recorded _ ([call] ++ _) :=
          hannounced.trans ((hbox t (name :: rest)).recorded hline (name :: rest) _)
        exact hscript.settle _ _

/-- A line accounts for its calls, however deep they are nested. -/
theorem runAt_recorded {box : Toolbox Tool} (hbox : box.CommandsOnly) (depth : Nat)
    (line : String) (s : Session Tool) :
    s.Recorded (runAt box depth line s).2 (calls box depth ⟨line, s⟩) := by
  induction depth generalizing line s with
  | zero =>
    -- Lines that are asked for in vain have no account, whatever it would be.
    have hnone : ∀ xs : List (Call Tool), xs.flatMap (fun _ => ([] : List (Call Tool))) = [] := by
      simp
    rw [runAt_zero]
    have h : s.Recorded _ (⟨line, s⟩ :: (s.asked box none line).flatMap fun _ => []) :=
      dispatch_recorded hbox (by simp) ⟨line, s⟩
    rwa [hnone] at h
  | succ depth ih =>
    rw [runAt_succ]
    refine dispatch_recorded hbox (fun runLine hrun other t => ?_) ⟨line, s⟩
    obtain rfl : runAt box depth = runLine := Option.some.inj hrun
    exact ih other t

theorem liveThrough_recorded {box : Toolbox Tool} (hbox : box.CommandsOnly) (depth : Nat)
    (s : Session Tool) (happenings : List (Happening Tool)) :
    s.Recorded (s.liveThrough box depth happenings) (s.callsThrough box depth happenings) := by
  induction happenings generalizing s with
  | nil => exact .refl s
  | cons happening rest ih =>
    refine Recorded.trans ?_ (ih _)
    cases happening with
    | changed root => exact ⟨rfl, rfl, (Recorded.refl s).log, rfl⟩
    | typed t =>
      have h := runAt_recorded hbox depth t.line (s.atClock t.clock)
      exact ⟨h.config, h.history, h.log, h.cwd⟩

end Session
end TreeShell
