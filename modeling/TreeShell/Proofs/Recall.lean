/-
Walking over the history.

A step goes to the next older line or to the next newer one.  It reads the history
at one place at most, and `older_reads` and `newer_reads` say which place that is
and that there is a line.  The second of them asks that the walk be `Within` the
history.  Every step keeps it there, and so does a line that slips in at the
front.

While no line comes in, a walk is a number that goes up and down by one and is held
between the two ends of the history.  It has to be at a line first, and the first
step to an older line brings it there.  `recall_is_clamped_walk` says so, and what
follows from it for steps that are taken one after the other.
-/
import TreeShell.Recall

namespace TreeShell
namespace Recall

inductive Step where
  | older
  | newer
deriving DecidableEq

/-- What a step gives, and the walk after it. -/
def Step.take : Step → List String → Recall → Option String × Recall
  | older => Recall.older
  | newer => Recall.newer

/-- The walk stands at a line of the history, if it stands at any. -/
def Within (history : List String) (r : Recall) : Prop :=
  ∀ p, r.position = some p → p < history.length

/-- The walk after some steps, with no line coming in between them. -/
def after (history : List String) (r : Recall) (steps : List Step) : Recall :=
  steps.foldl (fun r step => (step.take history r).2) r

/-- What the steps give, one after the other. -/
def answers (history : List String) : Recall → List Step → List (Option String)
  | _, [] => []
  | r, step :: rest => (step.take history r).1 :: answers history (step.take history r).2 rest

/-- A number held between the first and the last of `count` places. -/
def clamped (count x : Int) : Int := max 0 (min x (count - 1))

variable {history : List String} {r : Recall}

/-! ## The index -/

theorem index_at (p : Nat) : (⟨some p⟩ : Recall).index = p := rfl

theorem neg_one_le_index (r : Recall) : -1 ≤ r.index := by
  rcases r with ⟨_ | p⟩
  · exact Int.le_refl (-1)
  · rw [index_at]
    omega

theorem index_eq_neg_one_iff : r.index = -1 ↔ r = start := by
  rcases r with ⟨_ | p⟩
  · exact ⟨fun _ => rfl, fun _ => rfl⟩
  · rw [index_at]
    exact ⟨fun h => by omega, fun h => nomatch h⟩

theorem within_iff : r.Within history ↔ r.index < history.length := by
  rcases r with ⟨_ | p⟩
  · have hnone : (⟨none⟩ : Recall).index < history.length := by
      have hindex : (⟨none⟩ : Recall).index = -1 := rfl
      omega
    exact ⟨fun _ => hnone, fun _ q hq => nomatch hq⟩
  · rw [index_at, Int.ofNat_lt]
    refine ⟨fun h => h p rfl, fun h q hq => ?_⟩
    rwa [← Option.some.inj hq]

/-! ## Steps -/

/-- A step to an older line gives the line at which the walk stands after it. -/
theorem older_reads (hne : history ≠ []) (r : Recall) :
    ∃ p, ∃ hp : p < history.length, older history r = (some history[p], ⟨some p⟩) ∧
      (p : Int) = clamped history.length (r.index + 1) := by
  have hlength : 0 < history.length := List.length_pos_iff.mpr hne
  obtain ⟨next, hnext, holder⟩ : ∃ next : Nat, (next : Int) = r.index + 1 ∧
      older history r = (history[min next (history.length - 1)]?,
        ⟨some (min next (history.length - 1))⟩) := by
    rcases r with ⟨_ | p⟩
    · exact ⟨0, rfl, if_neg hne⟩
    · exact ⟨p + 1, rfl, if_neg hne⟩
  have hp : min next (history.length - 1) < history.length := by omega
  refine ⟨min next (history.length - 1), hp, ?_, ?_⟩
  · rw [holder, List.getElem?_eq_getElem hp]
  · rw [clamped]
    omega

theorem older_at {p : Nat} (hp : p + 1 < history.length) :
    older history ⟨some p⟩ = (some history[p + 1], ⟨some (p + 1)⟩) := by
  have hne : history ≠ [] := List.length_pos_iff.mp (Nat.zero_lt_of_lt hp)
  obtain ⟨q, hq, holder, hindex⟩ := older_reads hne ⟨some p⟩
  obtain rfl : q = p + 1 := by
    rw [index_at, clamped] at hindex
    omega
  exact holder

/-- A step to a newer line gives the line at which the walk stands after it, unless
it stood at the newest one. -/
theorem newer_reads {p : Nat} (h : (⟨some (p + 1)⟩ : Recall).Within history) :
    ∃ hp : p < history.length, newer history ⟨some (p + 1)⟩ = (some history[p], ⟨some p⟩) := by
  have hp : p < history.length := Nat.lt_of_succ_lt (h (p + 1) rfl)
  have hread : newer history ⟨some (p + 1)⟩ = (history[p]?, ⟨some p⟩) := rfl
  exact ⟨hp, by rw [hread, List.getElem?_eq_getElem hp]⟩

theorem older_eq_none_iff : (older history r).1 = none ↔ history = [] := by
  by_cases hne : history = []
  · subst hne
    exact ⟨fun _ => rfl, fun _ => rfl⟩
  · obtain ⟨p, hp, holder, _⟩ := older_reads hne r
    rw [holder]
    exact ⟨fun h => (nomatch h), fun h => absurd h hne⟩

theorem newer_eq_none_iff (h : r.Within history) : (newer history r).1 = none ↔ r.index = -1 := by
  rw [index_eq_neg_one_iff]
  rcases r with ⟨_ | _ | p⟩
  · exact ⟨fun _ => rfl, fun _ => rfl⟩
  · exact ⟨fun hnone => (nomatch hnone), fun hstart => (nomatch hstart)⟩
  · obtain ⟨hp, hnewer⟩ := newer_reads h
    rw [hnewer]
    exact ⟨fun hnone => (nomatch hnone), fun hstart => (nomatch hstart)⟩

/-- What a step can do: go to a line of the history and give it, have no line to give
and stand at none, or give the empty line and stay. -/
theorem Within.take_cases (h : r.Within history) (step : Step) :
    (∃ p, ∃ hp : p < history.length, step.take history r = (some history[p], ⟨some p⟩)) ∨
      step.take history r = (none, start) ∨ step.take history r = (some "", r) := by
  cases step with
  | older =>
    by_cases hne : history = []
    · exact .inr (.inl (if_pos hne))
    · obtain ⟨p, hp, holder, _⟩ := older_reads hne r
      exact .inl ⟨p, hp, holder⟩
  | newer =>
    rcases r with ⟨_ | _ | p⟩
    · exact .inr (.inl rfl)
    · exact .inr (.inr rfl)
    · obtain ⟨hp, hnewer⟩ := newer_reads h
      exact .inl ⟨p, hp, hnewer⟩

theorem Within.mem_of_take (h : r.Within history) (step : Step) {line : String}
    (hline : (step.take history r).1 = some line) : line = "" ∨ line ∈ history := by
  obtain ⟨p, hp, htake⟩ | htake | htake := h.take_cases step <;> rw [htake] at hline
  · exact .inr (List.mem_of_getElem (Option.some.inj hline))
  · nomatch hline
  · exact .inl (Option.some.inj hline).symm

/-! ## Staying within -/

theorem within_start (history : List String) : start.Within history :=
  fun _ hp => nomatch hp

/-- What stood within a history stands within every longer one. -/
theorem Within.mono {longer : List String} (h : r.Within history)
    (hle : history.length ≤ longer.length) : r.Within longer :=
  fun p hp => Nat.lt_of_lt_of_le (h p hp) hle

theorem Within.take (h : r.Within history) (step : Step) :
    (step.take history r).2.Within history := by
  obtain ⟨p, hp, htake⟩ | htake | htake := h.take_cases step <;> rw [htake]
  · intro q hq
    rwa [← Option.some.inj hq]
  · exact within_start history
  · exact h

/-! ## Standing at a line -/

def Stands (history : List String) (r : Recall) : Prop :=
  ∃ p, p < history.length ∧ r = ⟨some p⟩

theorem stands_older (hne : history ≠ []) (r : Recall) : (older history r).2.Stands history := by
  obtain ⟨p, hp, holder, _⟩ := older_reads hne r
  exact ⟨p, hp, by rw [holder]⟩

/-- From a line, a step to a newer one gives the line at which the walk stands after
it, or the empty line if it stays. -/
theorem Stands.newer_reads (h : r.Stands history) :
    ∃ p, ∃ hp : p < history.length,
      newer history r = (some (if r.index = 0 then "" else history[p]), ⟨some p⟩) ∧
      (p : Int) = clamped history.length (r.index - 1) := by
  obtain ⟨p, hp, rfl⟩ := h
  rw [index_at]
  cases p with
  | zero =>
    refine ⟨0, hp, rfl, ?_⟩
    rw [clamped]
    omega
  | succ p =>
    have hwithin : (⟨some (p + 1)⟩ : Recall).Within history := by
      rw [within_iff, index_at]
      omega
    obtain ⟨hlt, hnewer⟩ := Recall.newer_reads hwithin
    have hmoved : ¬((p + 1 : Nat) : Int) = 0 := by omega
    refine ⟨p, hlt, ?_, ?_⟩
    · rw [hnewer, if_neg hmoved]
    · rw [clamped]
      omega

theorem Stands.take (h : r.Stands history) (step : Step) :
    (step.take history r).2.Stands history := by
  have hne : history ≠ [] := by
    obtain ⟨p, hp, _⟩ := h
    exact List.length_pos_iff.mp (Nat.zero_lt_of_lt hp)
  cases step with
  | older => exact stands_older hne r
  | newer =>
    obtain ⟨p, hp, hnewer, _⟩ := h.newer_reads
    exact ⟨p, hp, congrArg Prod.snd hnewer⟩

/-! ## Steps one after the other -/

theorem after_append (history : List String) (r : Recall) (xs ys : List Step) :
    after history r (xs ++ ys) = after history (after history r xs) ys :=
  List.foldl_append

theorem after_concat (history : List String) (r : Recall) (steps : List Step) (step : Step) :
    after history r (steps ++ [step]) = (step.take history (after history r steps)).2 :=
  after_append history r steps [step]

theorem answers_concat (history : List String) (r : Recall) (steps : List Step) (step : Step) :
    answers history r (steps ++ [step]) =
      answers history r steps ++ [(step.take history (after history r steps)).1] := by
  induction steps generalizing r with
  | nil => rfl
  | cons first rest ih => exact congrArg _ (ih _)

/-- No step to a newer line leads anywhere from the start. -/
theorem after_start {steps : List Step} (h : .older ∉ steps) :
    after history start steps = start := by
  induction steps with
  | nil => rfl
  | cons step rest ih =>
    cases step with
    | older => exact absurd List.mem_cons_self h
    | newer => exact ih fun hrest => h (List.mem_cons_of_mem _ hrest)

theorem Stands.after (h : r.Stands history) (steps : List Step) :
    (Recall.after history r steps).Stands history := by
  induction steps generalizing r with
  | nil => exact h
  | cons step rest ih => exact ih (h.take step)

/-- From the first step to an older line on, the walk stands at a line. -/
theorem stands_after (hne : history ≠ []) (r : Recall) {steps : List Step} (h : .older ∈ steps) :
    (after history r steps).Stands history := by
  obtain ⟨before, later, rfl⟩ := List.append_of_mem h
  rw [after_append]
  exact (stands_older hne _).after later

theorem index_after_olders (hne : history ≠ []) (k : Nat) :
    (after history start (List.replicate k .older)).index = min (k : Int) history.length - 1 := by
  have hlength : 0 < history.length := List.length_pos_iff.mpr hne
  induction k with
  | zero =>
    have hindex : (after history start []).index = -1 := rfl
    rw [List.replicate_zero, hindex]
    omega
  | succ k ih =>
    -- The last step is split off, since `older_reads` speaks of one step from anywhere.
    rw [List.replicate_succ', after_concat]
    obtain ⟨p, hp, holder, hindex⟩ :=
      older_reads hne (after history start (List.replicate k .older))
    simp only [Step.take, holder, index_at]
    rw [hindex, ih, clamped]
    omega

theorem Stands.index_after_newers (h : r.Stands history) (j : Nat) :
    (Recall.after history r (List.replicate j .newer)).index = max (r.index - j) 0 := by
  have hrange : 0 ≤ r.index ∧ r.index < history.length := by
    obtain ⟨p, hp, rfl⟩ := h
    rw [index_at]
    omega
  induction j with
  | zero =>
    have hindex : (Recall.after history r []).index = r.index := rfl
    rw [List.replicate_zero, hindex]
    omega
  | succ j ih =>
    rw [List.replicate_succ', after_concat]
    obtain ⟨p, hp, hnewer, hindex⟩ := (h.after (List.replicate j .newer)).newer_reads
    simp only [Step.take, hnewer, index_at]
    rw [hindex, ih, clamped]
    omega

/-- The first `k` steps to an older line give the `k` newest lines. -/
theorem answers_olders {k : Nat} (hk : k ≤ history.length) :
    answers history start (List.replicate k .older) = (history.take k).map some := by
  induction k with
  | zero => rfl
  | succ k ih =>
    have hlt : k < history.length := hk
    have hne : history ≠ [] := List.length_pos_iff.mp (Nat.zero_lt_of_lt hlt)
    obtain ⟨p, hp, holder, hindex⟩ :=
      older_reads hne (after history start (List.replicate k .older))
    have hplace : p = k := by
      rw [index_after_olders hne, clamped] at hindex
      omega
    subst hplace
    rw [List.replicate_succ', answers_concat, ih (Nat.le_of_succ_le hk), Step.take, holder,
      List.take_succ_eq_append_getElem hlt, List.map_append]
    rfl

/-- With no line coming in, a walk from the start is at none of the lines and gives
nothing until it steps to an older line for the first time.  From then on each step
moves it by one, held between the newest line and the oldest, and gives the line
where it then stands; only a step to a newer line that does not move gives the empty
one.  So steps in the two directions undo each other wherever the first of them
moves, and one step to an older line for each line gives all of them once. -/
theorem recall_is_clamped_walk (hne : history ≠ []) :
    (∀ before : List Step,
      let r := after history start before
      (.older ∉ before → r = start ∧ newer history r = (none, start)) ∧
      (∃ p, ∃ hp : p < history.length, older history r = (some history[p], ⟨some p⟩) ∧
        (p : Int) = clamped history.length (r.index + 1)) ∧
      (.older ∈ before → ∃ p, ∃ hp : p < history.length,
        newer history r = (some (if r.index = 0 then "" else history[p]), ⟨some p⟩) ∧
        (p : Int) = clamped history.length (r.index - 1))) ∧
    (∀ k j : Nat, 1 ≤ k →
      (after history start (List.replicate k .older ++ List.replicate j .newer)).index =
        max (min (k : Int) history.length - 1 - j) 0) ∧
    (∀ p, p + 1 < history.length → after history ⟨some p⟩ [.older, .newer] = ⟨some p⟩) ∧
    (∀ p, 1 ≤ p → p < history.length → after history ⟨some p⟩ [.newer, .older] = ⟨some p⟩) ∧
    answers history start (List.replicate history.length .older) = history.map some := by
  refine ⟨fun before => ⟨fun hbefore => ?_, older_reads hne _, fun hbefore => ?_⟩, ?_, ?_, ?_, ?_⟩
  · rw [after_start hbefore]
    exact ⟨rfl, rfl⟩
  · exact (stands_after hne start hbefore).newer_reads
  · intro k j hk
    have hstands : (after history start (List.replicate k .older)).Stands history :=
      stands_after hne start (List.mem_replicate.mpr ⟨Nat.ne_of_gt hk, rfl⟩)
    rw [after_append, hstands.index_after_newers, index_after_olders hne]
  · intro p hp
    show (newer history (older history ⟨some p⟩).2).2 = _
    rw [older_at hp]
    rfl
  · intro p hpos hp
    obtain ⟨q, rfl⟩ : ∃ q, p = q + 1 := Nat.exists_eq_succ_of_ne_zero (Nat.ne_of_gt hpos)
    show (older history ⟨some q⟩).2 = _
    rw [older_at hp]
  · rw [answers_olders (Nat.le_refl _), List.take_length]

/-- Past both ends of a history of three lines. -/
theorem recall_is_clamped_walk_three :
    let history := ["pwd", "cd /tmp", "ls"]
    let olders : Nat → List Step := fun k => List.replicate k .older
    let newers : Nat → List Step := fun j => List.replicate j .newer
    history ≠ [] ∧ newer history (after history start (newers 2)) = (none, start) ∧
      (after history start (olders 5 ++ newers 1)).index = 1 ∧
      (after history start (olders 5 ++ newers 4)).index = 0 ∧
      newer history (after history start (olders 5 ++ newers 4)) = (some "", ⟨some 0⟩) ∧
      answers history start (olders 3) = [some "pwd", some "cd /tmp", some "ls"] := by
  intro history olders newers
  have hne : history ≠ [] := by decide
  obtain ⟨hsteps, hends, _, _, hall⟩ := recall_is_clamped_walk hne
  obtain ⟨hstart, hnone⟩ := (hsteps (newers 2)).1 (by decide)
  obtain ⟨p, _, hempty, hp⟩ := (hsteps (olders 5 ++ newers 4)).2.2 (by decide)
  have hnewest : (after history start (olders 5 ++ newers 4)).index = 0 :=
    (hends 5 4 (by decide)).trans (by decide)
  rw [hnewest, clamped] at hp
  obtain rfl : p = 0 := by omega
  rw [if_pos hnewest] at hempty
  exact ⟨hne, hstart.symm ▸ hnone, (hends 5 1 (by decide)).trans (by decide), hnewest, hempty, hall⟩

end Recall
end TreeShell
