/-
Where a text leads, told from the text alone.

A component that goes up takes back the last one before it that went down and
still stands; where none does, it takes a segment of the base.  So a text comes
to two things that do not depend on the base: how many segments it takes from
its end, `surplus`, and which components are put there, `standing`.  Both are
read off the list of components, and `resolve_closed_form` says that resolving
comes to nothing else.

The surplus counts from the front, where a component that goes up looks back at
what stands.  A walk from an unknown base is an induction on the other end of
the list, and so `pending` counts from there: a component that goes up waits for
one in front of it to take back.
-/
import Mathlib.Data.List.Infix
import TreeShell.Proofs.Path

namespace TreeShell
namespace Path

/-- A component that goes down. -/
def Descends (component : String) : Prop :=
  component ≠ "" ∧ component ≠ "." ∧ component ≠ ".."

instance (component : String) : Decidable (Descends component) :=
  inferInstanceAs (Decidable (_ ∧ _ ∧ _))

def ups (components : List String) : Nat := components.count ".."

def downs (components : List String) : Nat := components.countP fun c => decide (Descends c)

/-- None of the components takes back what stands in front of all of them: no
stretch that begins with the first of them goes up more often than down. -/
def Spares (components : List String) : Prop :=
  ∀ stretch ∈ components.inits, ups stretch ≤ downs stretch

instance (components : List String) : Decidable (Spares components) :=
  inferInstanceAs (Decidable (∀ stretch ∈ components.inits, ups stretch ≤ downs stretch))

/-- The components that go down and that none behind them takes back. -/
def standing : List String → List String
  | [] => []
  | c :: rest => if Descends c ∧ Spares rest then c :: standing rest else standing rest

/-- How many components go up where nothing stands in front of them. -/
def surplus (components : List String) : Nat :=
  (List.range components.length).countP fun i =>
    decide (components[i]? = some ".." ∧ standing (components.take i) = [])

/-- How many components go up for which nothing in front of them goes down. -/
def pending : List String → Nat
  | [] => 0
  | c :: rest =>
    if c = ".." then pending rest + 1
    else if Descends c then pending rest - 1
    else pending rest

/-! ## Counting from the end -/

theorem ups_cons (c : String) (rest : List String) :
    ups (c :: rest) = ups rest + if c = ".." then 1 else 0 := by
  simp [ups, List.count_cons]

theorem downs_cons (c : String) (rest : List String) :
    downs (c :: rest) = downs rest + if Descends c then 1 else 0 := by
  simp [downs, List.countP_cons]

theorem not_descends_up : ¬Descends ".." := by decide

/-- What is pending is what the stretches from the front go up beyond what they
go down. -/
theorem pending_le_iff {components : List String} {n : Nat} :
    pending components ≤ n ↔ ∀ stretch ∈ components.inits, ups stretch ≤ downs stretch + n := by
  induction components generalizing n with
  | nil => simp [pending, ups]
  | cons c rest ih =>
    have hstretches : (∀ stretch ∈ (c :: rest).inits, ups stretch ≤ downs stretch + n) ↔
        ∀ stretch ∈ rest.inits, ups (c :: stretch) ≤ downs (c :: stretch) + n := by
      simp [ups]
    rw [hstretches]
    by_cases hup : c = ".."
    · subst hup
      simp only [pending, if_true, ups_cons, downs_cons, if_neg not_descends_up, Nat.add_zero]
      cases n with
      | zero =>
        refine ⟨fun h => absurd h (Nat.not_succ_le_zero _), fun h => ?_⟩
        have hnone : ups [] + 1 ≤ downs [] + 0 := h [] (by simp)
        exact absurd hnone (by decide)
      | succ n =>
        rw [Nat.succ_le_succ_iff, ih]
        exact forall₂_congr fun stretch _ => Nat.succ_le_succ_iff.symm
    · by_cases hdown : Descends c
      · simp only [pending, if_neg hup, if_pos hdown, ups_cons, downs_cons]
        rw [Nat.sub_le_iff_le_add, ih]
        exact forall₂_congr fun stretch _ => by omega
      · simp only [pending, if_neg hup, if_neg hdown, ups_cons, downs_cons, Nat.add_zero]
        exact ih

theorem spares_iff {components : List String} : Spares components ↔ pending components = 0 := by
  rw [← Nat.le_zero, pending_le_iff]
  rfl

theorem standing_cons_of_descends {c : String} {rest : List String} (h : Descends c) :
    standing (c :: rest) = if pending rest = 0 then c :: standing rest else standing rest := by
  simp only [standing, h, true_and, spares_iff]

theorem standing_cons_of_not_descends {c : String} {rest : List String} (h : ¬Descends c) :
    standing (c :: rest) = standing rest := by
  simp only [standing, h, false_and, if_false]

/-! ## Walking -/

theorem walk_of_descends (path : Path) {c : String} (h : Descends c) :
    walk path c = path ++ [c] := by
  simp [walk, h.1, h.2.1, h.2.2]

theorem walk_of_neither (path : Path) {c : String} (hup : c ≠ "..") (hdown : ¬Descends c) :
    walk path c = path := by
  have hstay : c = "." ∨ c = "" := by
    by_contra hneither
    obtain ⟨hdot, hempty⟩ := not_or.mp hneither
    exact hdown ⟨hempty, hdot, hup⟩
  rw [walk, if_neg hup, if_pos hstay]

/-- What is pending is taken from the base, and what stands is put behind the
rest of it. -/
theorem follow_eq (base : Path) (components : List String) :
    follow base components =
      base.take (base.length - pending components) ++ standing components := by
  induction components generalizing base with
  | nil => simp [follow, pending, standing]
  | cons c rest ih =>
    rw [show follow base (c :: rest) = follow (walk base c) rest from rfl, ih]
    by_cases hup : c = ".."
    · subst hup
      have hlength : base.length - 1 - pending rest = base.length - (pending rest + 1) := by omega
      rw [walk_up, standing_cons_of_not_descends not_descends_up, List.length_dropLast, hlength,
        List.dropLast_eq_take, List.take_take, Nat.min_eq_left (by omega)]
      rfl
    by_cases hdown : Descends c
    · rw [walk_of_descends base hdown, standing_cons_of_descends hdown]
      simp only [pending, if_neg hup, if_pos hdown]
      by_cases hrest : pending rest = 0
      · have hall : (base ++ [c]).take ((base ++ [c]).length - 0) = base ++ [c] := List.take_length
        rw [hrest, if_pos rfl, hall, Nat.zero_sub, Nat.sub_zero, List.take_length,
          List.append_assoc, List.singleton_append]
      · have hkept : (base ++ [c]).length - pending rest = base.length - (pending rest - 1) := by
          rw [List.length_append, List.length_singleton]
          omega
        rw [if_neg hrest, hkept, List.take_append_of_le_length (by omega)]
    · rw [walk_of_neither base hup hdown, standing_cons_of_not_descends hdown]
      simp only [pending, if_neg hup, if_neg hdown]

/-! ## Counting from the front -/

/-- One more component is pending if it goes up and nothing stands in front of
it. -/
theorem pending_concat (components : List String) (c : String) :
    pending (components ++ [c]) =
      pending components + if c = ".." ∧ standing components = [] then 1 else 0 := by
  induction components with
  | nil => by_cases h : c = ".." <;> simp [pending, standing, h]
  | cons d rest ih =>
    rw [List.cons_append]
    by_cases hup : d = ".."
    · subst hup
      rw [standing_cons_of_not_descends not_descends_up]
      simp only [pending, if_true, ih]
      omega
    by_cases hdown : Descends d
    · rw [standing_cons_of_descends hdown]
      simp only [pending, if_neg hup, if_pos hdown, ih]
      -- The first component stands as long as nothing in the rest is pending.
      by_cases hrest : pending rest = 0
      · simp only [hrest, if_true, List.cons_ne_nil, and_false, if_false]
        split <;> rfl
      · simp only [hrest, if_false]
        omega
    · rw [standing_cons_of_not_descends hdown]
      simp only [pending, if_neg hup, if_neg hdown, ih]

theorem surplus_concat (components : List String) (c : String) :
    surplus (components ++ [c]) =
      surplus components + if c = ".." ∧ standing components = [] then 1 else 0 := by
  have hlast : (components ++ [c])[components.length]? = some c := by simp
  have hfront : (components ++ [c]).take components.length = components := by simp
  have hbefore : ∀ i ∈ List.range components.length,
      decide ((components ++ [c])[i]? = some ".." ∧ standing ((components ++ [c]).take i) = []) =
        decide (components[i]? = some ".." ∧ standing (components.take i) = []) := by
    intro i hi
    have hlt : i < components.length := List.mem_range.mp hi
    rw [List.getElem?_append_left hlt, List.take_append_of_le_length hlt.le]
  rw [surplus, List.length_append, List.length_singleton, List.range_succ, List.countP_append,
    List.countP_congr fun i hi => by rw [hbefore i hi], List.countP_singleton, hlast, hfront]
  simp [surplus]

theorem surplus_eq_pending (components : List String) :
    surplus components = pending components := by
  induction components using List.reverseRecOn with
  | nil => rfl
  | append_singleton front c ih => rw [surplus_concat, pending_concat, ih]

/-! ## Typed texts -/

theorem steps_eq (text : String) :
    steps text =
      if (components text).head? = some "~" then (components text).tail else components text := by
  unfold steps
  split
  · next hcut => simp [hcut]
  · next first rest hcut => simp [hcut]

/-- A text leads to what is left of its base when as many segments as it has
surplus are taken from the end, as far as there are so many, and then to the
components that stand.  A relative text leads from everywhere to the same place
as seen from there, unless it goes up beyond the root.  A text that starts with a
slash depends on nothing else, and only one that starts with `~` depends on
home. -/
theorem resolve_closed_form (text : String) :
    let walked :=
      if (components text).head? = some "~" then (components text).tail else components text
    let u := surplus walked
    let r := standing walked
    (∀ cwd home : Path,
      let start : Path :=
        if text.toList.head? = some '/' then []
        else if (components text).head? = some "~" then home
        else cwd
      resolve text cwd home = start.take (start.length - min u start.length) ++ r) ∧
    (text.toList.head? ≠ some '/' → (components text).head? ≠ some "~" →
      ∀ above cwd home : Path, u ≤ cwd.length →
        resolve text (above ++ cwd) home = above ++ resolve text cwd home) ∧
    (text.toList.head? = some '/' →
      ∀ cwd home cwd' home', resolve text cwd home = resolve text cwd' home') ∧
    ((components text).head? ≠ some "~" →
      ∀ cwd home home', resolve text cwd home = resolve text cwd home') := by
  intro walked u r
  have hclosed (cwd home : Path) : resolve text cwd home =
      (base text cwd home).take ((base text cwd home).length - u) ++ r := by
    rw [resolve, steps_eq, follow_eq, ← surplus_eq_pending]
  refine ⟨fun cwd home => ?_, fun hrooted htilde above cwd home hlong => ?_, resolve_of_rooted,
    fun htilde cwd home home' => ?_⟩
  · intro start
    have hstart : base text cwd home = start := rfl
    have hmin : start.length - min u start.length = start.length - u := by omega
    rw [hclosed, hstart, hmin]
  · have hkept : (above ++ cwd).length - u = above.length + (cwd.length - u) := by
      rw [List.length_append]
      omega
    rw [hclosed, hclosed, base_of_relative hrooted htilde, base_of_relative hrooted htilde, hkept,
      List.take_length_add_append, List.append_assoc]
  · have hbase : base text cwd home = base text cwd home' := by
      simp only [base, if_neg htilde]
    rw [hclosed, hclosed, hbase]

example :
    (surplus (components "a/../../x/./b/.."), standing (components "a/../../x/./b/..")) =
      (1, ["x"]) := by decide

end Path
end TreeShell
