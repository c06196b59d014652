/-
The layout of a new session.

A new session has the tree that `Seed.Holds` lists, and `seed_layout` reads from
that list which paths lead anywhere, to what, and what the directories list in
which order.  Nothing about a name is asked for but what a registry and a
configuration ask: a user may be called like a program or like a directory of the
root, and still has a home below `/home` and nowhere else.
-/
import TreeShell.Proofs.Dispatch
import TreeShell.Proofs.Seed

namespace TreeShell

/-! ## Places by what they hold -/

namespace Seed

variable {Tool : Type} {config : Config} {registry : Registry Tool} {path : Path}

theorem exists_holds_iff :
    (∃ node, Holds config registry path node) ↔
      path ∈ [[], ["bin"], ["home"], ["home", config.user], ["home", config.user, "about.txt"],
          ["tmp"]] ∨
        ∃ name ∈ registry.names, path = ["bin", name] := by
  constructor
  · rintro ⟨node, h⟩
    cases h with
    | program hfind => exact .inr ⟨_, Listing.mem_names_of_get? hfind, rfl⟩
    | root => simp
    | bin => simp
    | home => simp
    | user => simp
    | about => simp
    | tmp => simp
  · rintro (hfixed | ⟨name, hname, rfl⟩)
    · simp only [List.mem_cons, List.not_mem_nil, or_false] at hfixed
      rcases hfixed with rfl | rfl | rfl | rfl | rfl | rfl
      · exact ⟨_, .root⟩
      · exact ⟨_, .bin⟩
      · exact ⟨_, .home⟩
      · exact ⟨_, .user⟩
      · exact ⟨_, .about⟩
      · exact ⟨_, .tmp⟩
    · cases hfind : registry.find? name with
      | none => exact absurd hname ((Listing.get?_eq_none_iff _ _).mp hfind)
      | some program => exact ⟨_, .program hfind⟩

theorem holds_executable_iff {program : Program Tool} :
    Holds config registry path (.executable program) ↔
      ∃ name, path = ["bin", name] ∧ registry.find? name = some program := by
  constructor
  · intro h
    cases h with
    | program hfind => exact ⟨_, rfl, hfind⟩
  · rintro ⟨name, rfl, hfind⟩
    exact .program hfind

theorem holds_file_iff {text : String} :
    Holds config registry path (.file text) ↔
      path = ["home", config.user, "about.txt"] ∧ text = config.about := by
  constructor
  · intro h
    cases h
    exact ⟨rfl, rfl⟩
  · rintro ⟨rfl, rfl⟩
    exact .about

theorem holds_directory_iff {names : List String} :
    (∃ entries, Holds config registry path (.directory entries) ∧
        Listing.names entries = names) ↔
      (path, names) ∈ [([], ["bin", "home", "tmp"]), (["bin"], registry.names),
        (["home"], [config.user]), (["home", config.user], ["about.txt"]), (["tmp"], [])] := by
  have hbin : Listing.names (registry.entries.map fun e => (e.1, Node.executable e.2)) =
      registry.names := by
    simp [Listing.names, Registry.names]
  simp only [List.mem_cons, List.not_mem_nil, or_false, Prod.mk.injEq]
  constructor
  · rintro ⟨entries, h, rfl⟩
    cases h with
    | root => exact .inl ⟨rfl, rfl⟩
    | bin => exact .inr (.inl ⟨rfl, hbin⟩)
    | home => exact .inr (.inr (.inl ⟨rfl, rfl⟩))
    | user => exact .inr (.inr (.inr (.inl ⟨rfl, rfl⟩)))
    | tmp => exact .inr (.inr (.inr (.inr ⟨rfl, rfl⟩)))
  · rintro (⟨rfl, rfl⟩ | ⟨rfl, rfl⟩ | ⟨rfl, rfl⟩ | ⟨rfl, rfl⟩ | ⟨rfl, rfl⟩)
    · exact ⟨_, .root, rfl⟩
    · exact ⟨_, .bin, hbin⟩
    · exact ⟨_, .home, rfl⟩
    · exact ⟨_, .user, rfl⟩
    · exact ⟨_, .tmp, rfl⟩

end Seed

/-! ## The registry -/

theorem Registry.entries_ofList {Tool : Type} {given : Listing (Program Tool)}
    (h : given.Distinct) : (ofList given).entries = given :=
  Listing.ofList_of_distinct h

namespace Session

variable {Tool : Type}

theorem lookup_start_iff {config : Config} {registry : Registry Tool}
    {clock : Except Failure Calendar.Reading} {path : Path} {node : Node Tool} :
    (start config registry clock).lookup path = .ok node ↔ Seed.Holds config registry path node :=
  lookup_eq_ok_iff.trans Seed.lookup?_iff

theorem lookup_eq_error_iff {s : Session Tool} {path : Path} {e : ShellError} :
    s.lookup path = .error e ↔ e = .pathNotFound ∧ ¬∃ node, s.lookup path = .ok node := by
  unfold lookup
  cases s.root.lookup? path with
  | none => simp [eq_comm]
  | some node => simp

/-- In a new session there is something at the root, at `bin`, at `home`, at `tmp`,
at the user's home and at the user's file in it, at every registered name below
`bin`, and nowhere else: every other path leads to the error that says so.  The
executables are those below `bin`, and each is the program that is registered
under its name; the one file is the user's, and has the text that was configured;
the rest are directories.  They list what is below them in a fixed order, which
for `bin` is the order of registration, and `tmp` lists nothing. -/
theorem seed_layout (config : Config) (registry : Registry Tool)
    (clock : Except Failure Calendar.Reading) :
    let s := start config registry clock
    let about := ["home", config.user, "about.txt"]
    let Occupied (path : Path) : Prop :=
      path ∈ [[], ["bin"], ["home"], ["home", config.user], about, ["tmp"]] ∨
        ∃ name ∈ registry.names, path = ["bin", name]
    (∀ path, (∃ node, s.lookup path = .ok node) ↔ Occupied path) ∧
      (∀ path e, s.lookup path = .error e ↔ e = .pathNotFound ∧ ¬Occupied path) ∧
      (∀ path program, s.lookup path = .ok (.executable program) ↔
        ∃ name, path = ["bin", name] ∧ registry.find? name = some program) ∧
      (∀ path text, s.lookup path = .ok (.file text) ↔ path = about ∧ text = config.about) ∧
      (∀ path names, (∃ entries, s.lookup path = .ok (.directory entries) ∧
          Listing.names entries = names) ↔
        (path, names) ∈ [([], ["bin", "home", "tmp"]), (["bin"], registry.names),
          (["home"], [config.user]), (["home", config.user], ["about.txt"]), (["tmp"], [])]) ∧
      ∀ given : List (String × Program Tool), (given.map Prod.fst).Nodup →
        registry = Registry.ofList given →
          registry.names = given.map Prod.fst ∧
            ∀ entry ∈ given, registry.find? entry.1 = some entry.2 := by
  intro s about Occupied
  have hoccupied (path : Path) : (∃ node, s.lookup path = .ok node) ↔ Occupied path :=
    (exists_congr fun _ => lookup_start_iff).trans Seed.exists_holds_iff
  refine ⟨hoccupied, fun path e => ?_, fun path program => ?_, fun path text => ?_,
    fun path names => ?_, ?_⟩
  · rw [lookup_eq_error_iff, hoccupied]
  · exact lookup_start_iff.trans Seed.holds_executable_iff
  · exact lookup_start_iff.trans Seed.holds_file_iff
  · exact (exists_congr fun _ => and_congr_left' lookup_start_iff).trans Seed.holds_directory_iff
  · rintro given hdistinct rfl
    have hentries : (Registry.ofList given).entries = given := Registry.entries_ofList hdistinct
    refine ⟨congrArg Listing.names hentries, fun entry hentry => ?_⟩
    rw [Registry.find?, hentries]
    exact Listing.get?_of_mem hdistinct hentry

/-- A user called like the directory of programs, and programs called like other
places of the tree. -/
theorem seed_layout_namesakes :
    let config : Config := { user := "bin", user_valid := by decide }
    let given : List (String × Program Empty) :=
      [("tmp", .builtin .ls), ("about.txt", .builtin .cat)]
    let s := start config (Registry.ofList given) (.ok { date := ⟨2024, 3, 5⟩ })
    (given.map Prod.fst).Nodup ∧
      s.lookup ["bin", "about.txt"] = .ok (.executable (.builtin .cat)) ∧
      s.lookup ["home", "bin", "about.txt"] = .ok (.file config.about) ∧
      s.lookup ["home", "bin", "tmp"] = .error .pathNotFound ∧
      ∃ entries, s.lookup ["bin"] = .ok (.directory entries) ∧
        Listing.names entries = ["tmp", "about.txt"] := by
  intro config given s
  obtain ⟨_, hmissing, hprograms, hfile, hdirectories, hgiven⟩ :=
    seed_layout config (Registry.ofList given) (.ok { date := ⟨2024, 3, 5⟩ })
  have hdistinct : (given.map Prod.fst).Nodup := by decide
  obtain ⟨hnames, hfind⟩ := hgiven given hdistinct rfl
  have hcat : ("about.txt", Program.builtin Builtin.cat) ∈ given := by simp [given]
  refine ⟨hdistinct, (hprograms _ _).mpr ⟨"about.txt", rfl, hfind _ hcat⟩,
    (hfile _ _).mpr ⟨rfl, rfl⟩, (hmissing _ _).mpr ⟨rfl, ?_⟩, (hdirectories _ _).mpr ?_⟩
  · rintro (hfixed | ⟨name, _, hname⟩)
    · exact absurd hfixed (by decide)
    · exact absurd hname (by simp)
  · rw [hnames]
    decide

end Session
end TreeShell
