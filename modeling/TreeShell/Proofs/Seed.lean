/-
What stands where in the tree with which a session starts.

`Seed.Holds` lists the places of the tree one by one, and `Seed.lookup?_iff` says
that the list is the tree: every walk that finds something finds what is listed,
and everything listed is found.  `Seed.directory_iff` picks the directories.
-/
import TreeShell.Proofs.Listing
import TreeShell.Seed

namespace TreeShell

namespace Seed

variable {Tool : Type}

def userHome (config : Config) : Node Tool :=
  .directory [("about.txt", .file config.about)]

inductive Holds (config : Config) (registry : Registry Tool) : Path → Node Tool → Prop where
  | root : Holds config registry [] (tree config registry)
  | bin : Holds config registry ["bin"] (bin registry)
  | program {name : String} {program : Program Tool} (h : registry.find? name = some program) :
    Holds config registry ["bin", name] (.executable program)
  | home : Holds config registry ["home"] (home config)
  | user : Holds config registry ["home", config.user] (userHome config)
  | about : Holds config registry ["home", config.user, "about.txt"] (.file config.about)
  | tmp : Holds config registry ["tmp"] (.directory [])

def places (config : Config) : List Path :=
  [[], ["bin"], ["home"], ["home", config.user], ["tmp"]]

theorem home_mem_places (config : Config) : config.home ∈ places config := by
  simp [places, Config.home]

variable {config : Config} {registry : Registry Tool}

theorem tree_child? (name : String) :
    (tree config registry).child? name =
      if "bin" = name then some (bin registry)
      else if "home" = name then some (home config)
      else if "tmp" = name then some (.directory [])
      else none := rfl

theorem bin_child? (name : String) :
    (bin registry).child? name = (registry.find? name).map Node.executable :=
  Listing.get?_map Node.executable registry.entries name

theorem home_child? (name : String) :
    (@home Tool config).child? name =
      if config.user = name then some (userHome config) else none := rfl

theorem userHome_child? (name : String) :
    (@userHome Tool config).child? name =
      if "about.txt" = name then some (.file config.about) else none := rfl

/-! ## Walking below the root

Each lemma walks below one of the directories of the root.  A file or a program
ends every walk that comes to it. -/

theorem holds_of_bin {rest : Path} {node : Node Tool}
    (h : (bin registry).lookup? rest = some node) : Holds config registry ("bin" :: rest) node := by
  match rest with
  | [] =>
    obtain rfl : bin registry = node := Option.some.inj h
    exact .bin
  | name :: rest =>
    rw [Node.lookup?_cons, bin_child?] at h
    cases hfind : registry.find? name with
    | none =>
      rw [hfind] at h
      nomatch h
    | some program =>
      rw [hfind] at h
      match rest with
      | [] =>
        obtain rfl : .executable program = node := Option.some.inj h
        exact .program hfind
      | _ :: _ => nomatch h

theorem holds_of_home {rest : Path} {node : Node Tool}
    (h : (@home Tool config).lookup? rest = some node) :
    Holds config registry ("home" :: rest) node := by
  match rest with
  | [] =>
    obtain rfl : home config = node := Option.some.inj h
    exact .home
  | name :: rest =>
    rw [Node.lookup?_cons, home_child?] at h
    by_cases huser : config.user = name
    · subst huser
      rw [if_pos rfl, Option.bind_some] at h
      match rest with
      | [] =>
        obtain rfl : userHome config = node := Option.some.inj h
        exact .user
      | name :: rest =>
        rw [Node.lookup?_cons, userHome_child?] at h
        by_cases habout : "about.txt" = name
        · subst habout
          rw [if_pos rfl, Option.bind_some] at h
          match rest with
          | [] =>
            obtain rfl : .file config.about = node := Option.some.inj h
            exact .about
          | _ :: _ => nomatch h
        · rw [if_neg habout] at h
          nomatch h
    · rw [if_neg huser] at h
      nomatch h

theorem holds_of_lookup? {path : Path} {node : Node Tool}
    (h : (tree config registry).lookup? path = some node) : Holds config registry path node := by
  match path with
  | [] =>
    obtain rfl : tree config registry = node := Option.some.inj h
    exact .root
  | name :: rest =>
    rw [Node.lookup?_cons, tree_child?] at h
    by_cases hbin : "bin" = name
    · subst hbin
      rw [if_pos rfl, Option.bind_some] at h
      exact holds_of_bin h
    rw [if_neg hbin] at h
    by_cases hhome : "home" = name
    · subst hhome
      rw [if_pos rfl, Option.bind_some] at h
      exact holds_of_home h
    rw [if_neg hhome] at h
    by_cases htmp : "tmp" = name
    · subst htmp
      rw [if_pos rfl, Option.bind_some] at h
      match rest with
      | [] =>
        obtain rfl : .directory [] = node := Option.some.inj h
        exact .tmp
      | _ :: _ => nomatch h
    · rw [if_neg htmp] at h
      nomatch h

theorem lookup?_of_holds {path : Path} {node : Node Tool} (h : Holds config registry path node) :
    (tree config registry).lookup? path = some node := by
  cases h with
  | program hfind =>
    show ((bin registry).child? _).bind _ = _
    rw [bin_child?, hfind]
    rfl
  | user =>
    show ((@home Tool config).child? _).bind _ = _
    rw [home_child?, if_pos rfl]
    rfl
  | about =>
    show ((@home Tool config).child? _).bind _ = _
    rw [home_child?, if_pos rfl]
    rfl
  | root => rfl
  | bin => rfl
  | home => rfl
  | tmp => rfl

theorem lookup?_iff {path : Path} {node : Node Tool} :
    (tree config registry).lookup? path = some node ↔ Holds config registry path node :=
  ⟨holds_of_lookup?, lookup?_of_holds⟩

theorem directory_iff {path : Path} :
    (∃ entries, (tree config registry).lookup? path = some (.directory entries)) ↔
      path ∈ places config := by
  constructor
  · rintro ⟨entries, h⟩
    cases holds_of_lookup? h <;> simp [places]
  · intro h
    simp only [places, List.mem_cons, List.not_mem_nil, or_false] at h
    rcases h with rfl | rfl | rfl | rfl | rfl
    · exact ⟨_, lookup?_of_holds .root⟩
    · exact ⟨_, lookup?_of_holds .bin⟩
    · exact ⟨_, lookup?_of_holds .home⟩
    · exact ⟨_, lookup?_of_holds .user⟩
    · exact ⟨_, lookup?_of_holds .tmp⟩

end Seed
end TreeShell
