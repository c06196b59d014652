/-
Where typed paths lead, and paths typed as they are shown.

Resolving keeps some of the segments of the base and puts components of the text
after them, so that what holds of these holds of the whole path:
`forall_mem_resolve`.  A path that is shown and typed again starts at the root
and names its segments one by one, and `resolve_format_iff` says for which paths
that leads back: those of ordinary segments, and no others.
-/
import TreeShell.Path
import TreeShell.Proofs.Pieces

namespace TreeShell
namespace Path

/-! ## What the segments of a resolved path are -/

theorem forall_mem_walk {P : String → Prop} {path : Path} {component : String}
    (hpath : ∀ segment ∈ path, P segment)
    (hdown : component ≠ "" → component ≠ "." → component ≠ ".." → P component) :
    ∀ segment ∈ walk path component, P segment := by
  intro segment hsegment
  unfold walk at hsegment
  split at hsegment
  · exact hpath segment (List.dropLast_subset path hsegment)
  · next hup =>
    split at hsegment
    · exact hpath segment hsegment
    · next hstay =>
      rcases List.mem_append.mp hsegment with hold | hnew
      · exact hpath segment hold
      · rw [List.mem_singleton.mp hnew]
        exact hdown (fun h => hstay (.inr h)) (fun h => hstay (.inl h)) hup

theorem forall_mem_follow {P : String → Prop} {base : Path} {components : List String}
    (hbase : ∀ segment ∈ base, P segment)
    (hdown : ∀ c ∈ components, c ≠ "" → c ≠ "." → c ≠ ".." → P c) :
    ∀ segment ∈ follow base components, P segment := by
  induction components generalizing base with
  | nil => exact hbase
  | cons c rest ih =>
    have hwalk : ∀ segment ∈ walk base c, P segment :=
      forall_mem_walk hbase (hdown c List.mem_cons_self)
    exact ih hwalk fun d hd => hdown d (List.mem_cons_of_mem c hd)

theorem mem_components_of_mem_steps {text component : String} (h : component ∈ steps text) :
    component ∈ components text := by
  unfold steps at h
  split at h
  · nomatch h
  · next first rest hcut =>
    rw [hcut]
    split at h
    · exact List.mem_cons_of_mem first h
    · exact h

/-- The components that a text walks down are ordinary, and their characters are
those of the text. -/
theorem forall_mem_resolve {P : String → Prop} {text : String} {cwd home : Path}
    (hcwd : ∀ segment ∈ cwd, P segment) (hhome : ∀ segment ∈ home, P segment)
    (hdown : ∀ c, Ordinary c → c.toList ⊆ text.toList → P c) :
    ∀ segment ∈ resolve text cwd home, P segment := by
  refine forall_mem_follow ?_ fun c hc hempty hstay hup => ?_
  · unfold base
    split
    · exact fun _ h => nomatch h
    · split
      · exact hhome
      · exact hcwd
  · obtain ⟨hslash, hchars⟩ := Text.mem_pieces (mem_components_of_mem_steps hc)
    exact hdown c ⟨hempty, hstay, hup, hslash⟩ hchars

theorem normal_resolve {text : String} {cwd home : Path} (hcwd : Normal cwd)
    (hhome : Normal home) : Normal (resolve text cwd home) :=
  forall_mem_resolve hcwd hhome fun _ hc _ => hc

/-! ## Texts that start at the root -/

/-- A text that starts with a slash means the same from everywhere. -/
theorem resolve_of_rooted {text : String} (h : text.toList.head? = some '/')
    (cwd home cwd' home' : Path) : resolve text cwd home = resolve text cwd' home' := by
  simp only [resolve, base, if_pos h]

theorem head?_components_of_rooted {text : String} (h : text.toList.head? = some '/') :
    (components text).head? = some "" := by
  obtain ⟨rest, hrest⟩ := List.head?_eq_some_iff.mp h
  simp [components, Text.pieces, hrest, List.splitOn_cons_eq_if_modifyHead]

theorem format_rooted (path : Path) : path.format.toList.head? = some '/' := by
  simp [format]

theorem components_format {path : Path} (hne : path ≠ [])
    (hslash : ∀ segment ∈ path, '/' ∉ segment.toList) :
    components path.format = "" :: path := by
  have hformat : path.format = Text.joined '/' ("" :: path) := by
    obtain ⟨first, rest, rfl⟩ := List.exists_cons_of_ne_nil hne
    rw [← String.toList_inj]
    simp [format, Text.joined]
  rw [components, hformat]
  exact Text.pieces_joined (by simp) (by simpa using hslash)

theorem resolve_format {path : Path} (h : Normal path) (cwd home : Path) :
    resolve path.format cwd home = path := by
  by_cases hne : path = []
  · subst hne
    rw [resolve_of_rooted (format_rooted []) cwd home [] []]
    decide
  · have hcut : components path.format = "" :: path :=
      components_format hne fun segment hs => (h segment hs).2.2.2
    have hsteps : steps path.format = "" :: path := by
      simp [steps, hcut]
    have hbase : base path.format cwd home = [] := if_pos (format_rooted path)
    rw [resolve, hbase, hsteps]
    exact follow_normal [] h

theorem resolve_format_iff {path : Path} {cwd home : Path} :
    resolve path.format cwd home = path ↔ Normal path := by
  refine ⟨fun h => ?_, fun h => resolve_format h cwd home⟩
  have hnil : Normal [] := fun _ h => nomatch h
  rw [← h, resolve_of_rooted (format_rooted path) cwd home [] []]
  exact normal_resolve hnil hnil

/-- Normal paths are those that can be shown and typed again.  What a text
resolves to is one of them where home and the working directory are; a path that
is shown leads back to itself exactly if it is one, from whatever place it is
typed; so what was resolved once can be typed from any other place, and no two
normal paths are shown alike. -/
theorem normal_iff_typed_again :
    (∀ text cwd home, Normal cwd → Normal home → Normal (resolve text cwd home)) ∧
    (∀ path cwd home, resolve (format path) cwd home = path ↔ Normal path) ∧
    (∀ text cwd home, Normal cwd → Normal home → ∀ cwd' home',
      resolve (format (resolve text cwd home)) cwd' home' = resolve text cwd home) ∧
    ∀ path path', Normal path → Normal path' → format path = format path' → path = path' := by
  have hresolve (text : String) (cwd home : Path) (hcwd : Normal cwd) (hhome : Normal home) :
      Normal (resolve text cwd home) := normal_resolve hcwd hhome
  refine ⟨hresolve, fun path cwd home => resolve_format_iff, ?_, ?_⟩
  · intro text cwd home hcwd hhome cwd' home'
    exact resolve_format (hresolve text cwd home hcwd hhome) cwd' home'
  · intro path path' hpath hpath' hshown
    calc path = resolve path.format [] [] := (resolve_format hpath [] []).symm
      _ = resolve path'.format [] [] := by rw [hshown]
      _ = path' := resolve_format hpath' [] []

/-! ## Texts that start here -/

theorem base_of_relative {text : String} (hrooted : text.toList.head? ≠ some '/')
    (htilde : (components text).head? ≠ some "~") (cwd home : Path) : base text cwd home = cwd := by
  rw [base, if_neg hrooted, if_neg htilde]

/-! ## Texts that start at home -/

/-- A leading `~` is home, and what comes behind it is walked from there. -/
theorem resolve_of_tilde {text : String} {rest : List String}
    (hcut : components text = "~" :: rest) (hrest : Normal rest) (cwd home : Path) :
    resolve text cwd home = home ++ rest := by
  have hrooted : ¬text.toList.head? = some '/' := by
    intro hslash
    have hfirst : (components text).head? = some "" := head?_components_of_rooted hslash
    rw [hcut] at hfirst
    exact absurd (Option.some.inj hfirst) (by decide)
  have hbase : base text cwd home = home := by
    simp [base, hrooted, hcut]
  have hsteps : steps text = rest := by
    simp [steps, hcut]
  rw [resolve, hbase, hsteps]
  exact follow_normal home hrest

end Path
end TreeShell
