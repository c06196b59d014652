/-
Listings: named entries in the order in which their names first came.

A directory lists its children, a registry its programs, a configuration its
settings and the web application its pages, and all four answer questions about
order.  Putting under a listed name keeps its place and replaces what stands
there; a new name goes to the end.  `get?_put_self` and `get?_put_of_ne`
say what is read after that, and `names_put` says where it went.
-/

namespace TreeShell

/-- Named entries, in order.  `Listing.Distinct` says that no name is listed
twice; every listing built by `ofList` and changed by `put` and `remove` is so. -/
abbrev Listing (α : Type) := List (String × α)

namespace Listing

variable {α : Type}

def names (l : Listing α) : List String := l.map Prod.fst

def Distinct (l : Listing α) : Prop := l.names.Nodup

instance (l : Listing α) : Decidable l.Distinct :=
  inferInstanceAs (Decidable l.names.Nodup)

def get? : Listing α → String → Option α
  | [], _ => none
  | (n, a) :: rest, name => if n = name then some a else get? rest name

/-- A listed name keeps its place, a new one goes last. -/
def put : Listing α → String → α → Listing α
  | [], name, a => [(name, a)]
  | (n, b) :: rest, name, a => if n = name then (n, a) :: rest else (n, b) :: put rest name a

def remove (l : Listing α) (name : String) : Listing α :=
  l.filter (·.1 ≠ name)

/-- The listing that putting the entries one after the other leaves: of two
entries with one name the later value stands at the earlier place. -/
def ofList (entries : List (String × α)) : Listing α :=
  entries.foldl (fun l e => l.put e.1 e.2) []

/-! ## Reading after a change -/

theorem get?_put_self (l : Listing α) (name : String) (a : α) :
    (l.put name a).get? name = some a := by
  induction l with
  | nil => simp [put, get?]
  | cons e rest ih =>
    obtain ⟨n, b⟩ := e
    by_cases h : n = name <;> simp [put, get?, h, ih]

theorem get?_put_of_ne (l : Listing α) {name other : String} (a : α) (h : other ≠ name) :
    (l.put name a).get? other = l.get? other := by
  induction l with
  | nil => simp [put, get?, Ne.symm h]
  | cons e rest ih =>
    obtain ⟨n, b⟩ := e
    by_cases hn : n = name
    · subst hn
      simp [put, get?, Ne.symm h]
    · by_cases ho : n = other
      · subst ho
        simp [put, get?, h]
      · simp [put, get?, hn, ho, ih]

theorem get?_eq_none_iff (l : Listing α) (name : String) :
    l.get? name = none ↔ name ∉ l.names := by
  induction l with
  | nil => simp [get?, names]
  | cons e rest ih =>
    obtain ⟨n, b⟩ := e
    by_cases h : n = name
    · simp [get?, names, h]
    · have h' : ¬name = n := fun e => h e.symm
      simpa [get?, names, h, h'] using ih

theorem mem_of_get? {l : Listing α} {name : String} {a : α} (h : l.get? name = some a) :
    (name, a) ∈ l := by
  induction l with
  | nil => simp [get?] at h
  | cons e rest ih =>
    obtain ⟨n, b⟩ := e
    by_cases hn : n = name
    · simp_all [get?]
    · simp only [get?, hn, if_false] at h
      exact List.mem_cons_of_mem _ (ih h)

/-! ## Order -/

theorem names_put (l : Listing α) (name : String) (a : α) :
    (l.put name a).names = if name ∈ l.names then l.names else l.names ++ [name] := by
  induction l with
  | nil => simp [put, names]
  | cons e rest ih =>
    obtain ⟨n, b⟩ := e
    by_cases h : n = name
    · simp [put, names, h]
    · have h' : ¬name = n := fun e => h e.symm
      simp only [names] at ih
      by_cases hm : name ∈ rest.map Prod.fst <;> simp [put, names, h, h', ih, hm]

theorem names_remove (l : Listing α) (name : String) :
    (l.remove name).names = l.names.filter (· ≠ name) := by
  simp [remove, names, List.filter_map, Function.comp_def]

theorem distinct_singleton (name : String) (a : α) : Distinct [(name, a)] := by
  simp [Distinct, names]

theorem Distinct.put {l : Listing α} (h : l.Distinct) (name : String) (a : α) :
    Listing.Distinct (l.put name a) := by
  unfold Distinct at h ⊢
  rw [names_put]
  split
  · exact h
  · next hm =>
    refine List.nodup_append.mpr ⟨h, by simp, fun x hx y hy hxy => hm ?_⟩
    rw [← List.mem_singleton.mp hy, ← hxy]
    exact hx

theorem Distinct.remove {l : Listing α} (h : l.Distinct) (name : String) :
    Listing.Distinct (l.remove name) := by
  unfold Distinct at h ⊢
  rw [names_remove]
  exact h.filter _

theorem distinct_ofList (entries : List (String × α)) : (ofList entries).Distinct := by
  have hgrow : ∀ (es : List (String × α)) (l : Listing α), l.Distinct →
      Distinct (es.foldl (fun l e => l.put e.1 e.2) l) := by
    intro es
    induction es with
    | nil => exact fun _ hl => hl
    | cons e rest ih => exact fun l hl => ih _ (hl.put e.1 e.2)
  exact hgrow entries [] List.nodup_nil

end Listing
end TreeShell
