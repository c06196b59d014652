/-
Which names a user can have, and which homes can be named.

A user's home is shown like any other path, and it can be typed in full if the
user's name is a segment that a line can hold: `Path.Serves`.  Two names are
accepted that do not serve.  Both are ways of walking, so that the path of their
home leads elsewhere, and the tree has a directory that nothing but `~` leads to.
`accepted_user_names` says that every other name is accepted exactly if it
serves, and what a name that serves is good for.
-/
import TreeShell.Proofs.Return
import TreeShell.Proofs.Seed

namespace TreeShell

/-- A name that a line can hold and that leads to the home of its user from
everywhere, typed behind the name of the directory of all homes. -/
def Path.Serves (name : String) : Prop :=
  ' ' ∉ name.toList ∧ ∀ cwd home, resolve (format ["home", name]) cwd home = ["home", name]

theorem Path.serves_iff {name : String} : Serves name ↔ Typable ["home", name] := by
  have hhome : Ordinary "home" ∧ ' ' ∉ "home".toList := by decide
  constructor
  · rintro ⟨hspace, hresolve⟩ segment hsegment
    have hnormal : Normal ["home", name] := resolve_format_iff.mp (hresolve [] [])
    refine ⟨hnormal segment hsegment, ?_⟩
    simp only [List.mem_cons, List.not_mem_nil, or_false] at hsegment
    rcases hsegment with rfl | rfl
    · exact hhome.2
    · exact hspace
  · intro h
    exact ⟨(h name (by simp)).2, resolve_format h.normal⟩

/-- A name that serves is a user name, and of these only the two that walk do
not serve. -/
theorem userName_iff {name : String} :
    UserName name ↔ Path.Serves name ∨ name = "." ∨ name = ".." := by
  rw [Path.serves_iff]
  constructor
  · intro hname
    by_cases hdot : name = "."
    · exact .inr (.inl hdot)
    by_cases hdots : name = ".."
    · exact .inr (.inr hdots)
    exact .inl (@UserName.typable_home { user := name, user_valid := hname } hdot hdots)
  · rintro (hserves | rfl | rfl)
    · obtain ⟨⟨hempty, _, _, hslash⟩, hspace⟩ := hserves name (by simp)
      exact ⟨hempty, hslash, hspace⟩
    · decide
    · decide

/-! ## Home, and what is in it -/

namespace Session

/-- A `cat` of one argument shows the file that it names. -/
theorem command_cat {s : Shell} {target text : String}
    (hcat : s.registry.find? "cat" = some (.builtin .cat))
    (htarget : target ≠ "" ∧ ' ' ∉ target.toList)
    (hfile : s.root.lookup? (s.resolve target) = some (.file text)) :
    (s.command ("cat " ++ target)).1 = .ok (Text.endLine text) := by
  rw [command_pair (by decide) (by decide) hcat htarget,
    Builtin.run_cat_file (s := (s.remember ("cat " ++ target)).announce "cat") hfile]
  rfl

end Session

namespace Config

variable {config : Config}

/-- What lies under the home of a user whose name serves can be typed in full as
it can by `~`. -/
theorem typed_under_home (h : Path.Serves config.user) {rest : Path} (hrest : rest.Typable)
    {short full : String} (hshort : short ≠ "" ∧ ' ' ∉ short.toList)
    (hcut : Path.components short = "~" :: rest)
    (hfull : full = Path.format (config.home ++ rest)) {word : String}
    (hword : word ∈ [short, full]) :
    (word ≠ "" ∧ ' ' ∉ word.toList) ∧
      ∀ cwd, Path.resolve word cwd config.home = config.home ++ rest := by
  have htypable : (config.home ++ rest : Path).Typable := by
    intro segment hsegment
    rcases List.mem_append.mp hsegment with hhome | hin
    · exact Path.serves_iff.mp h segment hhome
    · exact hrest segment hin
  simp only [List.mem_cons, List.not_mem_nil, or_false] at hword
  rcases hword with rfl | rfl
  · exact ⟨hshort, fun cwd => Path.resolve_of_tilde hcut hrest.normal cwd config.home⟩
  · rw [hfull]
    exact ⟨htypable.format, fun cwd => Path.resolve_format htypable.normal cwd config.home⟩

theorem home_typed (h : Path.Serves config.user) {place : String}
    (hplace : place ∈ ["~", "/home/" ++ config.user]) :
    (place ≠ "" ∧ ' ' ∉ place.toList) ∧
      ∀ cwd, Path.resolve place cwd config.home = config.home := by
  have hformat : "/home/" ++ config.user = Path.format (config.home ++ []) := by
    rw [← String.toList_inj]
    simp [Path.format, home, Text.joined]
  have htyped := typed_under_home h (by decide) (by decide) (by decide) hformat hplace
  rwa [List.append_nil] at htyped

theorem about_typed (h : Path.Serves config.user) {file : String}
    (hfile : file ∈ ["~/about.txt", "/home/" ++ config.user ++ "/about.txt"]) :
    (file ≠ "" ∧ ' ' ∉ file.toList) ∧
      ∀ cwd, Path.resolve file cwd config.home = config.home ++ ["about.txt"] := by
  have hformat : "/home/" ++ config.user ++ "/about.txt" =
      Path.format (config.home ++ ["about.txt"]) := by
    rw [← String.toList_inj]
    simp [Path.format, home, Text.joined]
  exact typed_under_home h (by decide) (by decide) (by decide) hformat hfile

end Config

/-- A user's name is accepted if it serves, and it is accepted for no other cause
but that it is one of the two names that walk; any other is refused.  The home of
a user whose name serves is the same place typed in full as it is by `~`: for
every path, and in a new shell for `cd` and for `cat` of the user's file. -/
theorem accepted_user_names (user : String) :
    ((∃ config, Config.make (some user) none none = .ok config) ↔
      Path.Serves user ∨ user = "." ∨ user = "..") ∧
    (¬(Path.Serves user ∨ user = "." ∨ user = "..") →
      Config.make (some user) none none = .error ⟨user⟩) ∧
    ∀ config : Config, Path.Serves config.user →
      let places := ["~", "/home/" ++ config.user]
      let files := ["~/about.txt", "/home/" ++ config.user ++ "/about.txt"]
      (∀ cwd, (∀ place ∈ places, Path.resolve place cwd config.home = config.home) ∧
        ∀ file ∈ files, Path.resolve file cwd config.home = config.home ++ ["about.txt"]) ∧
      ∀ (registry : Registry Empty) (clock : Except Failure Calendar.Reading),
        let s := Session.start config registry clock
        (registry.find? "cd" = some (.builtin .cd) → ∀ place ∈ places,
          (s.command ("cd " ++ place)).1 = .ok "" ∧
            (s.command ("cd " ++ place)).2.cwd = config.home) ∧
        (registry.find? "cat" = some (.builtin .cat) → ∀ file ∈ files,
          (s.command ("cat " ++ file)).1 = .ok (Text.endLine config.about)) := by
  rw [← userName_iff]
  refine ⟨Config.checked_isOk_iff user _ _, Config.checked_eq_error, ?_⟩
  intro config hserves places files
  refine ⟨fun cwd => ?_, fun registry clock => ?_⟩
  · exact ⟨fun place hplace => (Config.home_typed hserves hplace).2 cwd,
      fun file hfile => (Config.about_typed hserves hfile).2 cwd⟩
  · intro s
    refine ⟨fun hcd place hplace => ?_, fun hcat file hfile => ?_⟩
    · obtain ⟨hword, hresolve⟩ := Config.home_typed hserves hplace
      have hthere : s.resolve place = config.home := hresolve s.cwd
      have hdir : s.IsDirectory config.home :=
        ⟨_, Session.lookup_eq_ok_iff.mpr (Seed.lookup?_of_holds .user)⟩
      have hgone := Session.command_cd hcd hword (hthere.symm ▸ hdir)
      rwa [hthere] at hgone
    · obtain ⟨hword, hresolve⟩ := Config.about_typed hserves hfile
      have hthere : s.resolve file = config.home ++ ["about.txt"] := hresolve s.cwd
      refine Session.command_cat hcat hword ?_
      rw [hthere]
      exact Seed.lookup?_of_holds .about

/-- Both dots are accepted for a user's name, and the path of the home that they
give leads to the directory above. -/
theorem dotted_user_name_accepted :
    (∃ config, Config.make (some "..") none none = .ok config) ∧
      Path.resolve (Path.format ["home", ".."]) [] [] ≠ ["home", ".."] :=
  ⟨(Config.checked_isOk_iff ".." _ _).mpr (by decide), by decide⟩

end TreeShell
