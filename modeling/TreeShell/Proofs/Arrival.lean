/-
The order of a listing.

A listing comes about by changes: an entry is put, or a name is removed.  A name
came with the change that put it while it was not listed; putting it again moves it
nowhere, and after it was removed it can come again, later than before.  `came?` is
the time at which a name came, and `names_made` says that a listing has its names in
the order of these times.  Every listing of distinct names is made in this way, so
that nothing else can be read off the order of one.
-/
import TreeShell.Proofs.Listing

namespace TreeShell
namespace Listing

variable {α : Type}

inductive Change (α : Type) where
  | put (name : String) (a : α)
  | remove (name : String)

/-- The listing that changes make out of the empty one.  The latest change stands
first. -/
def made : List (Change α) → Listing α
  | [] => []
  | .put name a :: earlier => (made earlier).put name a
  | .remove name :: earlier => (made earlier).remove name

/-- How many changes were made before the one with which a name came that is
there. -/
def came? : List (Change α) → String → Option Nat
  | [], _ => none
  | .put other _ :: earlier, name =>
    if other = name then some ((came? earlier name).getD earlier.length) else came? earlier name
  | .remove other :: earlier, name => if other = name then none else came? earlier name

/-- Both names are there, and the first of them came first. -/
def Earlier (changes : List (Change α)) (x y : String) : Prop :=
  ∃ i j, came? changes x = some i ∧ came? changes y = some j ∧ i < j

theorem came?_put_of_some {earlier : List (Change α)} {x : String} {i : Nat}
    (h : came? earlier x = some i) (name : String) (a : α) :
    came? (.put name a :: earlier) x = some i := by
  rw [came?, h]
  split <;> rfl

theorem came?_remove_of_ne {x name : String} (h : x ≠ name) (earlier : List (Change α)) :
    came? (.remove name :: earlier) x = came? earlier x :=
  if_neg (Ne.symm h)

theorem came?_lt {changes : List (Change α)} {name : String} {i : Nat}
    (h : came? changes name = some i) : i < changes.length := by
  induction changes generalizing i with
  | nil => nomatch h
  | cons change earlier ih =>
    rw [List.length_cons]
    cases change with
    | put other a =>
      rw [came?] at h
      split at h
      · rw [← Option.some.inj h]
        cases hcame : came? earlier name with
        | none => exact Nat.lt_succ_self earlier.length
        | some j => exact Nat.lt_succ_of_lt (ih hcame)
      · exact Nat.lt_succ_of_lt (ih h)
    | remove other =>
      rw [came?] at h
      split at h
      · nomatch h
      · exact Nat.lt_succ_of_lt (ih h)

/-- The names that are listed are those that came. -/
theorem mem_names_made {changes : List (Change α)} {name : String} :
    name ∈ (made changes).names ↔ ∃ i, came? changes name = some i := by
  induction changes with
  | nil => exact ⟨fun h => (nomatch h), fun ⟨_, h⟩ => (nomatch h)⟩
  | cons change earlier ih =>
    cases change with
    | put other a =>
      have hput : name ∈ (made (.put other a :: earlier)).names ↔
          name ∈ (made earlier).names ∨ name = other := by
        rw [made, names_put]
        split
        · next hin => exact ⟨.inl, fun h => h.elim id fun e => e ▸ hin⟩
        · rw [List.mem_append, List.mem_singleton]
      rw [hput, came?]
      split
      · next hsame => exact ⟨fun _ => ⟨_, rfl⟩, fun _ => .inr hsame.symm⟩
      · next hne => exact (or_iff_left fun h => hne h.symm).trans ih
    | remove other =>
      rw [made, names_remove, List.mem_filter, came?, ih]
      split
      · next hsame => simp [hsame]
      · next hne =>
        have hkept : decide (name ≠ other) = true := decide_eq_true (Ne.symm hne)
        exact and_iff_left hkept

/-- A listing has its names in the order in which they came. -/
theorem names_made (changes : List (Change α)) :
    (made changes).names.Pairwise (Earlier changes) := by
  induction changes with
  | nil => exact List.Pairwise.nil
  | cons change earlier ih =>
    cases change with
    | put name a =>
      have hold : (made earlier).names.Pairwise (Earlier (.put name a :: earlier)) := by
        refine ih.imp ?_
        rintro x y ⟨i, j, hi, hj, hlt⟩
        exact ⟨i, j, came?_put_of_some hi name a, came?_put_of_some hj name a, hlt⟩
      rw [made, names_put]
      split
      · exact hold
      · next hnew =>
        refine List.pairwise_append.mpr ⟨hold, List.pairwise_singleton _ _, fun x hx y hy => ?_⟩
        -- What was there came before this change, with which the new name comes.
        obtain ⟨i, hi⟩ := mem_names_made.mp hx
        obtain rfl : y = name := List.mem_singleton.mp hy
        have hnone : came? earlier y = none := by
          cases hcame : came? earlier y with
          | none => rfl
          | some j => exact absurd (mem_names_made.mpr ⟨j, hcame⟩) hnew
        have hcame : came? (.put y a :: earlier) y = some earlier.length := by
          rw [came?, if_pos rfl, hnone]
          rfl
        exact ⟨i, earlier.length, came?_put_of_some hi y a, hcame, came?_lt hi⟩
    | remove name =>
      rw [made, names_remove]
      refine (ih.filter _).imp_of_mem fun {x y} hx hy hxy => ?_
      have hkept {z : String} (hz : z ∈ (made earlier).names.filter (· ≠ name)) : z ≠ name :=
        of_decide_eq_true (List.mem_filter.mp hz).2
      obtain ⟨i, j, hi, hj, hlt⟩ := hxy
      refine ⟨i, j, ?_, ?_, hlt⟩
      · rw [came?_remove_of_ne (hkept hx), hi]
      · rw [came?_remove_of_ne (hkept hy), hj]

/-- Putting the entries of a listing one after the other makes it. -/
theorem Distinct.exists_made {l : Listing α} (h : l.Distinct) :
    ∃ changes, made changes = l := by
  have hgrow : ∀ (rest done : Listing α) (changes : List (Change α)), made changes = done →
      Listing.Distinct (done ++ rest) → ∃ changes, made changes = done ++ rest := by
    intro rest
    induction rest with
    | nil =>
      intro done changes hmade _
      exact ⟨changes, hmade.trans (List.append_nil done).symm⟩
    | cons e rest ih =>
      intro done changes hmade hdistinct
      obtain ⟨name, a⟩ := e
      have hnew : name ∉ Listing.names done := hdistinct.not_mem_front List.mem_cons_self
      have hnext : made (.put name a :: changes) = done ++ [(name, a)] := by
        rw [made, hmade, put_of_not_mem hnew]
      rw [List.append_cons] at hdistinct ⊢
      exact ih _ _ hnext hdistinct
  exact hgrow l [] [] rfl h

end Listing
end TreeShell
