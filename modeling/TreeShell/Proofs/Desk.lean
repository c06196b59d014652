/-
Several walks over one history, while lines are run.

A `Desk` is a session together with the walks over its history.  Each walk knows
the history only when it takes a step, so that lines come in under it at any time:
between two lines that are typed, and also in the middle of one, whenever its
program asks for a further line.  For that reason a line is taken apart here.  As
far as a history can tell, it is a row of moments, at each of which a line is asked
for or something else happens to the session: `runAt_becomes`.

What no walk ever loses is its place within the history.  Lines come in at the
front and nothing is taken out, and steps stop at both ends.
-/
import TreeShell.Proofs.Dispatch
import TreeShell.Proofs.Recall

namespace TreeShell

variable {Tool ι : Type}

/-- What can happen to a session at one moment. -/
inductive Moment (Tool : Type) where
  /-- A line is asked for, by the user or by a program. -/
  | asked (line : String)
  /-- Anything but the history is changed. -/
  | changed (after : Session Tool)

namespace Session

def pass (s : Session Tool) : Moment Tool → Session Tool
  | .asked line => s.remember line
  | .changed after => { after with history := s.history }

/-! ## Lines as moments -/

/-- One state of a session comes out of another in a row of moments. -/
def Becomes (s t : Session Tool) : Prop := ∃ moments : List (Moment Tool), moments.foldl pass s = t

namespace Becomes

variable {s t u : Session Tool}

theorem refl (s : Session Tool) : Becomes s s := ⟨[], rfl⟩

theorem trans (hst : Becomes s t) (htu : Becomes t u) : Becomes s u := by
  obtain ⟨first, rfl⟩ := hst
  obtain ⟨second, rfl⟩ := htu
  exact ⟨first ++ second, List.foldl_append⟩

theorem asked (s : Session Tool) (line : String) : Becomes s (s.remember line) :=
  ⟨[.asked line], rfl⟩

theorem of_history_eq (h : t.history = s.history) : Becomes s t := by
  refine ⟨[.changed t], ?_⟩
  show { t with history := s.history } = t
  rw [← h]

/-- Anything but the history may have been changed before. -/
theorem of_changed (htu : Becomes t u) (h : t.history = s.history) : Becomes s u :=
  (of_history_eq h).trans htu

end Becomes

end Session

theorem Script.run_becomes {nested : Option (Runner Tool)}
    (hline : ∀ runLine ∈ nested, ∀ line s, Session.Becomes s (runLine line s).2)
    (script : Script Tool) (words : List String) (s : Session Tool) :
    s.Becomes (script.run nested words s).outcome.2 := by
  induction script generalizing words s with
  | finish result => exact .refl s
  | observe next ih => exact ih s words s
  | command line next ih =>
    cases nested with
    | none => exact .refl s
    | some runLine => exact (hline runLine rfl line s).trans (ih _ words _)
  | log entry next ih => exact (ih words { s with log := s.log ++ [entry] }).of_changed rfl
  | enter path next ih => exact (ih words { s with cwd := path }).of_changed rfl
  | plant root next ih => exact (ih words { s with root }).of_changed rfl
  | reword left next ih => exact ih left s

namespace Session

theorem dispatch_becomes (box : Toolbox Tool) {nested : Option (Runner Tool)}
    (hline : ∀ runLine ∈ nested, ∀ line s, Becomes s (runLine line s).2) (words : List String)
    (s : Session Tool) : s.Becomes (dispatch box nested words s).2 := by
  cases words with
  | nil => exact .refl s
  | cons name rest =>
    simp only [dispatch]
    cases s.findProgram name with
    | error e => exact .of_history_eq rfl
    | ok program =>
      let announced := s.note .debug "shell" ("exec " ++ name)
      have hannounced : s.Becomes announced := .of_history_eq rfl
      have hprogram :
          announced.Becomes (program.run box nested (name :: rest) announced).outcome.2 := by
        cases program with
        | builtin b => exact .of_history_eq (b.run_history _ _)
        | tool t => exact (box t (name :: rest)).run_becomes hline (name :: rest) announced
      exact (hannounced.trans hprogram).trans (.of_history_eq (settle_history ..))

/-- A line is a row of moments, and so are the lines that it asks for, however deep
they are nested. -/
theorem runAt_becomes (box : Toolbox Tool) (depth : Nat) (line : String) (s : Session Tool) :
    s.Becomes (runAt box depth line s).2 := by
  -- A program runs its lines one level deeper, so that the levels that are left count down.
  induction depth generalizing line s with
  | zero =>
    rw [runAt_zero]
    exact (Becomes.asked s line).trans (dispatch_becomes box (by simp) _ _)
  | succ depth ih =>
    rw [runAt_succ]
    refine (Becomes.asked s line).trans (dispatch_becomes box (fun runLine hrun other t => ?_) _ _)
    obtain rfl : runAt box depth = runLine := Option.some.inj hrun
    exact ih other t

/-- Moments add to the history at its front and take nothing from it. -/
theorem Becomes.history {s t : Session Tool} (h : s.Becomes t) : s.history <:+ t.history := by
  obtain ⟨moments, rfl⟩ := h
  induction moments generalizing s with
  | nil => exact List.suffix_rfl
  | cons moment rest ih =>
    refine List.IsSuffix.trans ?_ (ih (s := s.pass moment))
    cases moment with
    | asked line => exact List.suffix_cons line s.history
    | changed after => exact List.suffix_rfl

end Session

/-! ## Walks beside one another -/

/-- A session, and the walks over its history by the name of who takes them. -/
structure Desk (Tool ι : Type) where
  session : Session Tool
  walks : ι → Recall

/-- What can happen at a desk. -/
inductive Desk.Deed (Tool ι : Type) where
  /-- A line is run to its end, with all the lines that it asks for. -/
  | line (box : Toolbox Tool) (depth : Nat) (line : String)
  /-- A line that is being run gets on by one moment, or the session is changed from
  outside. -/
  | moment (moment : Moment Tool)
  | step (who : ι) (step : Recall.Step)
  | reset (who : ι)

namespace Desk

/-- Whether a deed is about the walk of a name. -/
def Deed.Moves (who : ι) : Deed Tool ι → Prop
  | .step other _ => who = other
  | .reset other => who = other
  | .line .. => False
  | .moment _ => False

/-- A session whose history nobody has begun to walk. -/
def start (s : Session Tool) : Desk Tool ι := { session := s, walks := fun _ => Recall.start }

/-- No walk stands outside the history. -/
def Kept (d : Desk Tool ι) : Prop := ∀ who, (d.walks who).Within d.session.history

namespace Kept

variable {d : Desk Tool ι}

theorem start (s : Session Tool) : Kept (Desk.start s : Desk Tool ι) :=
  fun _ => Recall.within_start s.history

theorem becomes (h : d.Kept) {s : Session Tool} (hs : d.session.Becomes s) :
    Kept { d with session := s } :=
  fun who => (h who).mono hs.history.length_le

end Kept

variable [DecidableEq ι]

def put (d : Desk Tool ι) (who : ι) (r : Recall) : Desk Tool ι :=
  { d with walks := fun other => if other = who then r else d.walks other }

def undergo (d : Desk Tool ι) : Deed Tool ι → Desk Tool ι
  | .line box depth line => { d with session := (Session.runAt box depth line d.session).2 }
  | .moment moment => { d with session := d.session.pass moment }
  | .step who step => d.put who (step.take d.session.history (d.walks who)).2
  | .reset who => d.put who Recall.start

def undergoAll (d : Desk Tool ι) (deeds : List (Deed Tool ι)) : Desk Tool ι :=
  deeds.foldl undergo d

theorem undergo_walks {deed : Deed Tool ι} {who : ι} (h : ¬deed.Moves who) (d : Desk Tool ι) :
    (d.undergo deed).walks who = d.walks who := by
  cases deed with
  | line box depth line => rfl
  | moment moment => rfl
  | step other step => exact if_neg h
  | reset other => exact if_neg h

namespace Kept

variable {d : Desk Tool ι}

theorem put (h : d.Kept) (who : ι) {r : Recall} (hr : r.Within d.session.history) :
    (d.put who r).Kept := by
  intro other
  simp only [Desk.put]
  split
  · exact hr
  · exact h other

theorem undergo (h : d.Kept) (deed : Deed Tool ι) : (d.undergo deed).Kept := by
  cases deed with
  | line box depth line => exact h.becomes (Session.runAt_becomes box depth line d.session)
  | moment moment => exact h.becomes ⟨[moment], rfl⟩
  | step who step => exact h.put who ((h who).take step)
  | reset who => exact h.put who (Recall.within_start _)

theorem undergoAll (h : d.Kept) (deeds : List (Deed Tool ι)) : (d.undergoAll deeds).Kept := by
  induction deeds generalizing d with
  | nil => exact h
  | cons deed rest ih => exact ih (h.undergo deed)

end Kept

/-- Whatever lines are run and whoever walks over the history meanwhile, every walk
stands within it, or at none of its lines, and is moved by nobody else.  A step
reads the history only where there is a line: to an older one it gives nothing
exactly if the history is empty, to a newer one exactly if the walk stands at none,
and what it gives otherwise is the empty line or one of the history.  Lines come in
at the moments at which they are asked for, and a line that is run to its end is
nothing but its moments, so that steps may be taken between any two of these. -/
theorem walks_stay_within (s : Session Tool) (deeds : List (Deed Tool ι)) :
    let d := (start s : Desk Tool ι).undergoAll deeds
    let history := d.session.history
    (∀ who, -1 ≤ (d.walks who).index ∧ (d.walks who).index < history.length) ∧
    (∀ who,
      ((Recall.older history (d.walks who)).1 = none ↔ history = []) ∧
      (history ≠ [] → ∃ p, ∃ hp : p < history.length,
        Recall.older history (d.walks who) = (some history[p], ⟨some p⟩))) ∧
    (∀ who,
      ((Recall.newer history (d.walks who)).1 = none ↔ (d.walks who).index = -1) ∧
      ∀ p, d.walks who = ⟨some (p + 1)⟩ → ∃ hp : p < history.length,
        Recall.newer history (d.walks who) = (some history[p], ⟨some p⟩)) ∧
    (∀ who (step : Recall.Step) line,
      (step.take history (d.walks who)).1 = some line → line = "" ∨ line ∈ history) ∧
    (∀ (deed : Deed Tool ι) who, ¬deed.Moves who → (d.undergo deed).walks who = d.walks who) ∧
    ∀ box depth line, d.session.Becomes (Session.runAt box depth line d.session).2 := by
  intro d history
  have hkept : d.Kept := (Kept.start s).undergoAll deeds
  refine ⟨fun who => ⟨Recall.neg_one_le_index _, Recall.within_iff.mp (hkept who)⟩,
    fun who => ⟨Recall.older_eq_none_iff, fun hne => ?_⟩,
    fun who => ⟨Recall.newer_eq_none_iff (hkept who), fun p hp => ?_⟩,
    fun who step line hline => (hkept who).mem_of_take step hline,
    fun deed who hdeed => undergo_walks hdeed d,
    fun box depth line => Session.runAt_becomes box depth line d.session⟩
  · obtain ⟨p, hp, holder, _⟩ := Recall.older_reads hne (d.walks who)
    exact ⟨p, hp, holder⟩
  · have hwithin : (d.walks who).Within history := hkept who
    rw [hp] at hwithin ⊢
    exact Recall.newer_reads hwithin

end Desk
end TreeShell
