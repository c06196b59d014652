/-
More about listings: putting back what was read, new names, dropping from the
front, and listings of which one is the end of another.

A page store puts new names at the end and drops old ones from the front, so a
name that is still listed after a drop means what it meant before.  That is
`get?_drop`, and it needs the names to be distinct.  Two stores that drop at
different times differ in front alone; what is put into both keeps it so, whether
only one lists the name or both do.
-/
import TreeShell.Listing

namespace TreeShell
namespace Listing

variable {α β : Type}

theorem get?_map (f : α → β) (l : Listing α) (name : String) :
    Listing.get? (l.map fun e => (e.1, f e.2)) name = (l.get? name).map f := by
  induction l with
  | nil => rfl
  | cons e rest ih =>
    obtain ⟨n, a⟩ := e
    by_cases h : n = name <;> simp [get?, h, ih]

theorem mem_names_iff {l : Listing α} {name : String} : name ∈ l.names ↔ ∃ a, (name, a) ∈ l := by
  constructor
  · intro hname
    obtain ⟨⟨n, a⟩, hin, rfl⟩ := List.mem_map.mp hname
    exact ⟨a, hin⟩
  · rintro ⟨a, hin⟩
    exact List.mem_map_of_mem (f := Prod.fst) hin

theorem mem_names_of_get? {l : Listing α} {name : String} {a : α} (h : l.get? name = some a) :
    name ∈ l.names :=
  mem_names_iff.mpr ⟨a, mem_of_get? h⟩

theorem get?_of_mem {l : Listing α} (h : l.Distinct) {name : String} {a : α}
    (ha : (name, a) ∈ l) : l.get? name = some a := by
  induction l with
  | nil => nomatch ha
  | cons e rest ih =>
    obtain ⟨n, b⟩ := e
    obtain ⟨hnew, hrest⟩ : n ∉ Listing.names rest ∧ Listing.Distinct rest := List.nodup_cons.mp h
    rcases List.mem_cons.mp ha with hhead | hin
    · obtain ⟨rfl, rfl⟩ := Prod.mk.inj hhead
      rw [get?, if_pos rfl]
    · have hne : n ≠ name := fun e => hnew (mem_names_iff.mpr ⟨a, e ▸ hin⟩)
      rw [get?, if_neg hne]
      exact ih hrest hin

/-! ## Putting -/

theorem put_of_get? {l : Listing α} {name : String} {a : α} (h : l.get? name = some a) :
    l.put name a = l := by
  induction l with
  | nil => nomatch h
  | cons e rest ih =>
    obtain ⟨n, b⟩ := e
    by_cases hn : n = name
    · rw [get?, if_pos hn] at h
      rw [put, if_pos hn, Option.some.inj h]
    · rw [get?, if_neg hn] at h
      rw [put, if_neg hn, ih h]

theorem put_of_not_mem {l : Listing α} {name : String} (h : name ∉ l.names) (a : α) :
    l.put name a = l ++ [(name, a)] := by
  induction l with
  | nil => rfl
  | cons e rest ih =>
    obtain ⟨n, b⟩ := e
    have hsplit : name ≠ n ∧ name ∉ Listing.names rest := by
      simpa [names] using h
    rw [put, if_neg (Ne.symm hsplit.1), ih hsplit.2]
    rfl

theorem mem_of_mem_put {l : Listing α} {name : String} {a : α} {e : String × α}
    (h : e ∈ l.put name a) : e ∈ l ∨ e = (name, a) := by
  induction l with
  | nil => exact .inr (List.mem_singleton.mp h)
  | cons d rest ih =>
    obtain ⟨n, b⟩ := d
    by_cases hn : n = name
    · rw [put, if_pos hn] at h
      rcases List.mem_cons.mp h with rfl | hrest
      · exact .inr (by rw [hn])
      · exact .inl (List.mem_cons_of_mem _ hrest)
    · rw [put, if_neg hn] at h
      rcases List.mem_cons.mp h with rfl | hrest
      · exact .inl List.mem_cons_self
      · exact (ih hrest).imp (List.mem_cons_of_mem _) id

theorem names_put_of_mem {l : Listing α} {name : String} (h : name ∈ l.names) (a : α) :
    (l.put name a).names = l.names := by
  rw [names_put, if_pos h]

/-! ## Dropping from the front -/

theorem names_drop (l : Listing α) (n : Nat) :
    Listing.names (l.drop n) = l.names.drop n :=
  List.map_drop

theorem Distinct.drop {l : Listing α} (h : l.Distinct) (n : Nat) :
    Listing.Distinct (l.drop n) := by
  unfold Distinct
  rw [names_drop]
  exact h.sublist (List.drop_sublist n l.names)

theorem get?_drop {l : Listing α} (h : l.Distinct) {n : Nat} {name : String}
    (hname : name ∈ Listing.names (l.drop n)) : Listing.get? (l.drop n) name = l.get? name := by
  induction n generalizing l with
  | zero => rfl
  | succ n ih =>
    cases l with
    | nil => rfl
    | cons e rest =>
      obtain ⟨m, a⟩ := e
      have hrest : m ∉ Listing.names rest ∧ Listing.Distinct rest := List.nodup_cons.mp h
      have hin : name ∈ Listing.names rest := by
        rw [List.drop_succ_cons, names_drop] at hname
        exact List.mem_of_mem_drop hname
      have hne : m ≠ name := fun e => hrest.1 (e ▸ hin)
      rw [get?, if_neg hne]
      exact ih hrest.2 hname

/-! ## A listing that is the end of another -/

theorem put_append (l r : Listing α) (name : String) (a : α) :
    Listing.put (l ++ r) name a =
      if name ∈ l.names then l.put name a ++ r else l ++ r.put name a := by
  induction l with
  | nil => rfl
  | cons e rest ih =>
    obtain ⟨n, b⟩ := e
    have hput : Listing.put ((n, b) :: rest ++ r) name a =
        if n = name then (n, a) :: (rest ++ r) else (n, b) :: Listing.put (rest ++ r) name a := rfl
    rw [hput, put]
    by_cases hn : n = name
    · simp [names, hn]
    · have hn' : ¬name = n := fun e => hn e.symm
      rw [if_neg hn, if_neg hn, ih]
      by_cases hm : name ∈ Listing.names rest
      · have hin : name ∈ Listing.names ((n, b) :: rest) := List.mem_cons_of_mem n hm
        rw [if_pos hm, if_pos hin, List.cons_append]
      · have hout : name ∉ Listing.names ((n, b) :: rest) :=
          fun h => (List.mem_cons.mp h).elim hn' hm
        rw [if_neg hm, if_neg hout, List.cons_append]

theorem names_append (l r : Listing α) : Listing.names (l ++ r) = l.names ++ r.names :=
  List.map_append

/-- A name that is listed behind is not listed in front as well. -/
theorem Distinct.not_mem_front {front back : Listing α} (h : Listing.Distinct (front ++ back))
    {name : String} (hname : name ∈ back.names) : name ∉ front.names := by
  unfold Distinct at h
  rw [names_append] at h
  exact fun hin => (List.nodup_append.mp h).2.2 name hin name hname rfl

/-- Entries of distinct names are listed as they were put. -/
theorem ofList_of_distinct {l : Listing α} (h : l.Distinct) : ofList l = l := by
  have hgrow : ∀ rest done : Listing α, Listing.Distinct (done ++ rest) →
      rest.foldl (fun l e => Listing.put l e.1 e.2) done = done ++ rest := by
    intro rest
    induction rest with
    | nil => exact fun done _ => (List.append_nil done).symm
    | cons e rest ih =>
      intro done hdistinct
      have hnew : e.1 ∉ Listing.names done := hdistinct.not_mem_front List.mem_cons_self
      rw [List.append_cons] at hdistinct
      rw [List.foldl_cons, put_of_not_mem hnew, ih _ hdistinct, ← List.append_cons]
  exact hgrow l [] h

theorem names_suffix {short long : Listing α} (h : short <:+ long) : short.names <:+ long.names :=
  h.map Prod.fst

theorem get?_of_suffix {short long : Listing α} (hlong : long.Distinct) (h : short <:+ long)
    {name : String} (hname : name ∈ short.names) : long.get? name = short.get? name := by
  rw [List.suffix_iff_eq_drop.mp h] at hname ⊢
  exact (get?_drop hlong hname).symm

/-- A listed name keeps its place in both. -/
theorem put_suffix_put {short long : Listing α} (hlong : long.Distinct) (h : short <:+ long)
    {name : String} (hname : name ∈ short.names) (a : α) :
    short.put name a <:+ long.put name a := by
  obtain ⟨front, rfl⟩ := h
  rw [put_append, if_neg (hlong.not_mem_front hname)]
  exact List.suffix_append front _

theorem suffix_put {short long : Listing α} (h : short <:+ long) {name : String}
    (hshort : name ∉ short.names) (hlong : name ∈ long.names) (a : α) :
    short <:+ long.put name a := by
  obtain ⟨front, rfl⟩ := h
  have hfront : name ∈ Listing.names front := by
    rw [names_append, List.mem_append] at hlong
    exact hlong.resolve_right hshort
  rw [put_append, if_pos hfront]
  exact List.suffix_append _ short

end Listing
end TreeShell
