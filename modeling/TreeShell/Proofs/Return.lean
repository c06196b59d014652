/-
Coming back to where one has been.

The prompt shows the working directory, and what it shows can be typed.  That is
so because every segment of the directory came from a word of a line or from
the user's name: a word holds no space, what is cut at its slashes holds no
slash, and the components that go up or stay are walked and not kept.
`Path.Typable` is what such a path is, and `Rooted` the invariant of a shell that
keeps its working directory so.

The tree has no part in it.  It may be changed between two lines in any way, and
a directory that is there again can be gone to again.
-/
import TreeShell.Proofs.Dispatch
import TreeShell.Proofs.Path

namespace TreeShell
namespace Path

/-- A path that a line can hold as one word and that leads where it says. -/
def Typable (path : Path) : Prop := ∀ segment ∈ path, Ordinary segment ∧ ' ' ∉ segment.toList

instance (path : Path) : Decidable (Typable path) :=
  inferInstanceAs (Decidable (∀ segment ∈ path, Ordinary segment ∧ ' ' ∉ segment.toList))

theorem Typable.normal {path : Path} (h : Typable path) : Normal path :=
  fun segment hsegment => (h segment hsegment).1

theorem Typable.format {path : Path} (h : Typable path) :
    path.format ≠ "" ∧ ' ' ∉ path.format.toList := by
  constructor
  · simp [Path.format, ← String.toList_inj]
  · intro hspace
    simp only [Path.format, String.toList_append, List.mem_append] at hspace
    rcases hspace with hslash | hjoined
    · exact absurd hslash (by decide)
    · rcases Text.mem_joined hjoined with hsep | ⟨segment, hsegment, hin⟩
      · exact absurd hsep (by decide)
      · exact (h segment hsegment).2 hin

/-- What a word of a line resolves to is typable where home and the working
directory are. -/
theorem typable_resolve {line word : String} (hword : word ∈ Text.words line) {cwd home : Path}
    (hcwd : Typable cwd) (hhome : Typable home) : Typable (resolve word cwd home) :=
  forall_mem_resolve hcwd hhome fun _ hc hchars =>
    ⟨hc, fun hspace => Text.space_not_mem_of_mem_words hword (hchars hspace)⟩

end Path

theorem UserName.typable_home {config : Config} (hdot : config.user ≠ ".")
    (hdots : config.user ≠ "..") : config.home.Typable := by
  obtain ⟨hempty, hslash, hspace⟩ := config.user_valid
  intro segment hsegment
  simp only [Config.home, List.mem_cons, List.not_mem_nil, or_false] at hsegment
  rcases hsegment with rfl | rfl
  · decide
  · exact ⟨⟨hempty, hdot, hdots, hslash⟩, hspace⟩

namespace Session

/-- A registered built-in that is typed with one argument runs on the two words. -/
theorem runAt_pair {Tool : Type} (box : Toolbox Tool) (depth : Nat) {s : Session Tool}
    {verb name target : String} {b : Builtin} (hverb : verb = name ++ " ")
    (hname : name ≠ "" ∧ ' ' ∉ name.toList)
    (hregistered : s.registry.find? name = some (.builtin b))
    (htarget : target ≠ "" ∧ ' ' ∉ target.toList) :
    runAt box depth (verb ++ target) s = settle ⟨[name, target],
      b.run [name, target] ((s.remember (verb ++ target)).announce name)⟩ := by
  have hwords : Text.words (verb ++ target) = [name, target] := by
    rw [hverb]
    exact Text.words_pair hname htarget
  have hfind : s.findProgram name = .ok (.builtin b) := by
    simp only [findProgram, hregistered]
  exact runAt_found box depth hwords hfind

theorem command_pair {s : Shell} {verb name target : String} {b : Builtin}
    (hverb : verb = name ++ " ") (hname : name ≠ "" ∧ ' ' ∉ name.toList)
    (hregistered : s.registry.find? name = some (.builtin b))
    (htarget : target ≠ "" ∧ ' ' ∉ target.toList) :
    s.command (verb ++ target) = settle ⟨[name, target],
      b.run [name, target] ((s.remember (verb ++ target)).announce name)⟩ :=
  runAt_pair Toolbox.none 0 hverb hname hregistered htarget

/-- A `cd` that names a directory goes there. -/
theorem command_cd {s : Shell} {target : String}
    (hcd : s.registry.find? "cd" = some (.builtin .cd))
    (htarget : target ≠ "" ∧ ' ' ∉ target.toList) (hdir : s.IsDirectory (s.resolve target)) :
    (s.command ("cd " ++ target)).1 = .ok "" ∧
      (s.command ("cd " ++ target)).2.cwd = s.resolve target := by
  rw [command_pair (by decide) (by decide) hcd htarget,
    Builtin.run_cd_directory (s := (s.remember ("cd " ++ target)).announce "cd") hdir]
  exact ⟨rfl, settle_cwd ["cd", target] _ _⟩

/-- A directory is gone to by its path as it is shown. -/
theorem command_cd_format {s : Shell} {path : Path}
    (hcd : s.registry.find? "cd" = some (.builtin .cd)) (hpath : path.Typable)
    (hdir : s.IsDirectory path) :
    (s.command ("cd " ++ path.format)).1 = .ok "" ∧
      (s.command ("cd " ++ path.format)).2.cwd = path := by
  have hthere : s.resolve path.format = path := Path.resolve_format hpath.normal s.cwd s.home
  have hgone := command_cd hcd hpath.format (hthere.symm ▸ hdir)
  rwa [hthere] at hgone

/-- The shell is the one of a configuration and a registry still, and its working
directory can be typed. -/
structure Rooted (config : Config) (registry : Registry Empty) (s : Shell) : Prop where
  configured : s.config = config
  registered : s.registry = registry
  place : s.cwd.Typable

namespace Rooted

variable {config : Config} {registry : Registry Empty} {s : Shell}

theorem command (h : Rooted config registry s) (hhome : config.home.Typable) (line : String) :
    Rooted config registry (s.command line).2 := by
  have hframe : s.Frame (s.command line).2 := s.command_frame line
  refine ⟨hframe.config.trans h.configured, hframe.registry.trans h.registered, ?_⟩
  have hs : s.home.Typable := by
    rw [home, h.configured]
    exact hhome
  rcases s.command_cwd line with hsame | hhere | ⟨target, htarget, hthere, _⟩
  · rw [hsame]
    exact h.place
  · rw [hhere]
    exact hs
  · rw [hthere]
    exact Path.typable_resolve htarget h.place hs

theorem live (h : Rooted config registry s) (hhome : config.home.Typable)
    (happening : Happening Empty) :
    Rooted config registry (s.live Toolbox.none 0 happening) := by
  cases happening with
  | typed t => exact command (s := s.atClock t.clock) ⟨h.configured, h.registered, h.place⟩ hhome _
  | changed root => exact ⟨h.configured, h.registered, h.place⟩

theorem liveThrough (h : Rooted config registry s) (hhome : config.home.Typable)
    (happenings : List (Happening Empty)) :
    Rooted config registry (s.liveThrough Toolbox.none 0 happenings) := by
  induction happenings generalizing s with
  | nil => exact h
  | cons happening rest ih => exact ih (h.live hhome happening)

end Rooted

/-- Whatever lines are typed and however the tree is changed between them, the
segments of the working directory are ones that can be typed; shown as a path it
resolves to itself from everywhere; and whenever there is a directory again where
a shell once stood, `cd` with the path as it was shown goes back. -/
theorem cwd_typed_back (config : Config) (registry : Registry Empty)
    (clock : Except Failure Calendar.Reading) (hdot : config.user ≠ ".")
    (hdots : config.user ≠ "..") (hcd : registry.find? "cd" = some (.builtin .cd))
    (earlier later : List (Happening Empty)) :
    let s := (Session.start config registry clock).liveThrough Toolbox.none 0 earlier
    let t := s.liveThrough Toolbox.none 0 later
    let line := "cd " ++ s.cwd.format
    (∀ segment ∈ s.cwd, segment ≠ "" ∧ segment ≠ "." ∧ segment ≠ ".." ∧
      '/' ∉ segment.toList ∧ ' ' ∉ segment.toList) ∧
      (∀ cwd home, Path.resolve s.cwd.format cwd home = s.cwd) ∧
      (t.IsDirectory s.cwd → (t.command line).1 = .ok "" ∧ (t.command line).2.cwd = s.cwd) := by
  intro s t line
  have hhome : config.home.Typable := UserName.typable_home hdot hdots
  have hstart : Rooted config registry (Session.start config registry clock) := ⟨rfl, rfl, hhome⟩
  have hs : Rooted config registry s := hstart.liveThrough hhome earlier
  have ht : Rooted config registry t := hs.liveThrough hhome later
  refine ⟨fun segment hsegment => ?_, fun cwd home => ?_, fun hdir => ?_⟩
  · obtain ⟨⟨hempty, hstay, hup, hslash⟩, hspace⟩ := hs.place segment hsegment
    exact ⟨hempty, hstay, hup, hslash, hspace⟩
  · exact Path.resolve_format hs.place.normal cwd home
  · exact command_cd_format (ht.registered.symm ▸ hcd) hs.place hdir

/-- Back to a directory that was gone for a while, from a home that is gone. -/
theorem cwd_typed_back_after_loss :
    let clock : Except Failure Calendar.Reading := .ok { date := ⟨2024, 3, 5⟩ }
    let kept : Node Empty := .directory [("tmp", .directory [("a.b", .directory [])])]
    let earlier : List (Happening Empty) :=
      [.changed kept, .typed ⟨"cd ../.././/tmp/a.b", clock⟩]
    let later : List (Happening Empty) :=
      [.changed (.directory []), .typed ⟨"cd", clock⟩, .changed kept]
    let fresh := Session.start Config.standard Registry.standard clock
    let s := fresh.liveThrough Toolbox.none 0 earlier
    let t := s.liveThrough Toolbox.none 0 later
    Config.standard.user ≠ "." ∧ Config.standard.user ≠ ".." ∧
      (@Registry.standard Empty).find? "cd" = some (.builtin .cd) ∧ s.cwd = ["tmp", "a.b"] ∧
      t.cwd = ["home", "nick"] ∧ t.IsDirectory s.cwd ∧
      (t.command ("cd " ++ s.cwd.format)).1 = .ok "" ∧
      (t.command ("cd " ++ s.cwd.format)).2.cwd = s.cwd := by
  intro clock kept earlier later fresh s t
  have hplace : s.cwd = ["tmp", "a.b"] := by decide
  have hdir : t.IsDirectory s.cwd := by
    rw [hplace]
    exact ⟨[], rfl⟩
  refine ⟨by decide, by decide, by decide, hplace, by decide, hdir, ?_⟩
  obtain ⟨_, _, hback⟩ := cwd_typed_back Config.standard Registry.standard clock (by decide)
    (by decide) (by decide) earlier later
  -- With the names in place the two shells would be compared by running them.
  simp only [t, s, fresh] at hdir ⊢
  exact hback hdir

end Session
end TreeShell
