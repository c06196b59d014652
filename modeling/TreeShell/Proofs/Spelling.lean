/-
A program typed by its path.

A registered name is also the name of an executable in `/bin`, and the same
program stands under both.  It is found in two ways, by the registry and by a
walk through the tree, and a path has endlessly many spellings that depend on
where the shell stands.  `path_runs_as_name` says that it does not matter which
one is typed.  A built-in never looks at the word by which it was called, so that
only what the session itself says of the line tells the two apart.

A path could also be shadowed by a name: a registered name with a slash is found
before the tree is looked at.  That is why the names of the registry have none
here.
-/
import TreeShell.Proofs.Moves
import TreeShell.Proofs.Outcome
import TreeShell.Proofs.Pieces
import TreeShell.Proofs.Seed

namespace TreeShell

/-! ## The word in front -/

theorem Builtin.run_word {Tool : Type} (b : Builtin) (word other : String) (rest : List String)
    (s : Session Tool) : b.run (word :: rest) s = b.run (other :: rest) s := by
  cases b with
  | cd => cases rest <;> rfl
  | ls => cases rest <;> rfl
  | cat => rfl
  | date => rfl
  | echo => rfl
  | help => rfl
  | pwd => rfl
  | whoami => rfl

namespace Session

/-- The entry that tells of a fault of the program that a word means. -/
def failed (s : Shell) (word : String) (f : Fault) : Log.Entry :=
  ⟨.error, word ++ " failed: " ++ f.kind ++ ": " ++ f.text, "shell", s.user⟩

/-- Settling names the word only where it tells of a fault. -/
theorem settle_word (rest : List String) (result : Except Failure String) (s : Shell) :
    ∃ (answer : Except Escape String) (details : List Log.Entry) (fault : Option Fault),
      ∀ word, (settle ⟨word :: rest, result, s⟩).1 = answer ∧
        (settle ⟨word :: rest, result, s⟩).2.log =
          s.log ++ details ++ (fault.map (s.failed word)).toList := by
  match result with
  | .ok output => exact ⟨.ok (Text.endLine output), [], none, fun _ => ⟨rfl, by simp [settle]⟩⟩
  | .error (.shell e) =>
    refine ⟨.ok (e.message ++ "\n"), [⟨.warning, e.message, "shell", s.user⟩], none, fun _ => ?_⟩
    exact ⟨rfl, by simp [settle, complain]⟩
  | .error (.fault f) =>
    exact ⟨.ok "Error\n", [], some f, fun _ => ⟨rfl, by simp [settle, failed]⟩⟩
  | .error (.interrupt i) =>
    exact ⟨.error (.interrupt i), [], none, fun _ => ⟨rfl, by simp [settle]⟩⟩

/-- What a built-in comes to on a line, whatever word of the line it is called
by. -/
theorem command_word (s : Shell) (b : Builtin) (rest : List String) :
    ∃ (answer : Except Escape String) (place : Path) (details : List Log.Entry)
      (fault : Option Fault),
      ∀ line word, Text.words line = word :: rest → s.findProgram word = .ok (.builtin b) →
        (s.command line).1 = answer ∧ (s.command line).2.cwd = place ∧
          (s.command line).2.log =
            s.log ++ ⟨.debug, "exec " ++ word, "shell", s.user⟩ :: details ++
              (fault.map (s.failed word)).toList := by
  -- On the bare shell the run is one and the same; what is remembered comes below it.
  rcases hended : b.run ("" :: rest) s.bare with ⟨result, ended⟩
  obtain ⟨answer, details, fault, hsettle⟩ := settle_word rest result ended
  refine ⟨answer, ended.cwd, ended.log ++ details, fault, fun line word hwords hfind => ?_⟩
  let called := (s.remember line).announce word
  have hbuiltin : b.run (word :: rest) called = (result, ended.onto called) := by
    have honto := b.run_onto ("" :: rest) called.bare called
    have hbare : called.bare = s.bare := rfl
    rw [bare_onto, hbare, hended] at honto
    rw [b.run_word word ""]
    exact honto
  have hrun : s.command line =
      (settle ⟨word :: rest, result, ended⟩).map id (onto · called) := by
    rw [command_builtin hwords hfind, hbuiltin, settle_onto]
  have hconfig : ended.config = s.config := by
    have hframe := b.run_frame ("" :: rest) s.bare
    rw [hended] at hframe
    exact hframe.config
  have hfailed : ended.failed word = s.failed word := by
    funext f
    rw [failed, failed, user, user, hconfig]
  obtain ⟨hanswer, hlog⟩ := hsettle word
  rw [hrun]
  refine ⟨hanswer, settle_cwd (word :: rest) result ended, ?_⟩
  show _ ++ (settle ⟨word :: rest, result, ended⟩).2.log = _
  rw [hlog, hfailed, announce_log]
  simp [remember, user]

/-! ## Two ways to one program -/

/-- Lines change neither the tree nor what the shell was started with. -/
theorem typeAll_keeps (s : Shell) (run : List Typed) :
    (s.typeAll run).config = s.config ∧ (s.typeAll run).registry = s.registry ∧
      (s.typeAll run).root = s.root := by
  induction run generalizing s with
  | nil => exact ⟨rfl, rfl, rfl⟩
  | cons t rest ih =>
    have hframe : (s.atClock t.clock).Frame (s.type t).2 := command_frame ..
    obtain ⟨hconfig, hregistry, hroot⟩ := ih (s.type t).2
    exact ⟨hconfig.trans hframe.config, hregistry.trans hframe.registry, hroot.trans hframe.root⟩

/-- A registered name and a path to the executable of that name mean one
program. -/
theorem findProgram_spellings {config : Config} {registry : Registry Empty} {s : Shell}
    (hregistry : s.registry = registry) (hroot : s.root = Seed.tree config registry)
    {name word : String} {program : Program Empty} (hname : registry.find? name = some program)
    (hword : registry.find? word = none) (hslash : '/' ∈ word.toList)
    (hthere : s.resolve word = ["bin", name]) :
    s.findProgram name = .ok program ∧ s.findProgram word = .ok program := by
  subst hregistry
  refine ⟨findProgram_of_means (.registered hname), ?_⟩
  refine findProgram_of_means (.executable hword hslash ?_)
  rw [hthere, hroot]
  exact Seed.lookup?_of_holds (.program hname)

/-- In a shell that nothing but lines has touched, a registered name and any path
to the executable of that name can stand for one another in front of a line: the
answer is the same, the shell stands in the same place and has the same tree
afterwards, and the entries that the line adds to the log are the same but for
the word in the announcement of the program and, if it breaks off, in the entry
that tells of it. -/
theorem path_runs_as_name (config : Config) (registry : Registry Empty)
    (clock now : Except Failure Calendar.Reading) (run : List Typed)
    (hnames : ∀ name ∈ registry.names, name ≠ "" ∧ '/' ∉ name.toList ∧ ' ' ∉ name.toList)
    {name word : String} (hname : name ∈ registry.names) (hslash : '/' ∈ word.toList)
    (hspace : ' ' ∉ word.toList)
    (hthere : ((Session.start config registry clock).typeAll run).resolve word = ["bin", name])
    (rest : String) :
    let s := ((Session.start config registry clock).typeAll run).atClock now
    let byName := s.command (name ++ " " ++ rest)
    let byPath := s.command (word ++ " " ++ rest)
    byPath.1 = byName.1 ∧ byPath.2.cwd = byName.2.cwd ∧ byPath.2.root = byName.2.root ∧
      ∃ (details : List Log.Entry) (fault : Option Fault), ∀ typed ∈ [name, word],
        (s.command (typed ++ " " ++ rest)).2.log =
          s.log ++ ⟨.debug, "exec " ++ typed, "shell", s.user⟩ :: details ++
            (fault.map fun f =>
              ⟨.error, typed ++ " failed: " ++ f.kind ++ ": " ++ f.text, "shell", s.user⟩).toList := by
  intro s byName byPath
  obtain ⟨_, hregistry, hroot⟩ := typeAll_keeps (Session.start config registry clock) run
  obtain ⟨hempty, _, hnamespace⟩ := hnames name hname
  have hwordEmpty : word ≠ "" := by
    rintro rfl
    nomatch hslash
  have hunregistered : registry.find? word = none := by
    refine (Listing.get?_eq_none_iff _ _).mpr fun hword => ?_
    exact (hnames word hword).2.1 hslash
  obtain ⟨b, hb⟩ : ∃ b, registry.find? name = some (.builtin b) := by
    cases hfind : registry.find? name with
    | none => exact absurd hname ((Listing.get?_eq_none_iff _ _).mp hfind)
    | some program =>
      cases program with
      | builtin b => exact ⟨b, rfl⟩
      | tool t => nomatch t
  obtain ⟨hbyName, hbyPath⟩ :=
    findProgram_spellings (s := s) hregistry hroot hb hunregistered hslash hthere
  obtain ⟨answer, place, details, fault, hline⟩ :=
    command_word s b (Text.words rest)
  have hboth : ∀ typed ∈ [name, word],
      Text.words (typed ++ " " ++ rest) = typed :: Text.words rest ∧
        s.findProgram typed = .ok (.builtin b) := by
    intro typed htyped
    simp only [List.mem_cons, List.not_mem_nil, or_false] at htyped
    rcases htyped with rfl | rfl
    · exact ⟨Text.words_cons ⟨hempty, hnamespace⟩ rest, hbyName⟩
    · exact ⟨Text.words_cons ⟨hwordEmpty, hspace⟩ rest, hbyPath⟩
  have hall : ∀ typed ∈ [name, word], _ := fun typed htyped =>
    hline _ typed (hboth typed htyped).1 (hboth typed htyped).2
  obtain ⟨hnameAnswer, hnamePlace, _⟩ := hall name (by simp)
  obtain ⟨hwordAnswer, hwordPlace, _⟩ := hall word (by simp)
  refine ⟨hwordAnswer.trans hnameAnswer.symm, hwordPlace.trans hnamePlace.symm, ?_,
    details, fault, fun typed htyped => (hall typed htyped).2.2⟩
  exact (command_frame _ s).root.trans (command_frame _ s).root.symm

/-- A `cd` that is typed by a path from home through `/tmp`. -/
theorem path_runs_as_name_cd :
    let clock : Except Failure Calendar.Reading := .ok { date := ⟨2024, 3, 5⟩ }
    let run : List Typed := [⟨"cd ..", clock⟩]
    let s := ((Session.start Config.standard Registry.standard clock).typeAll run).atClock clock
    let word := "~/../../tmp//..//bin/./cd"
    (∀ name ∈ (@Registry.standard Empty).names,
      name ≠ "" ∧ '/' ∉ name.toList ∧ ' ' ∉ name.toList) ∧
      "cd" ∈ (@Registry.standard Empty).names ∧ '/' ∈ word.toList ∧ ' ' ∉ word.toList ∧
      s.resolve word = ["bin", "cd"] ∧
      (s.command (word ++ " " ++ " nick x")).1 = (s.command ("cd" ++ " " ++ " nick x")).1 ∧
      (s.command (word ++ " " ++ " nick x")).2.cwd = ["home", "nick"] := by
  intro clock run s word
  have hnames : ∀ name ∈ (@Registry.standard Empty).names,
      name ≠ "" ∧ '/' ∉ name.toList ∧ ' ' ∉ name.toList := by decide
  have hname : "cd" ∈ (@Registry.standard Empty).names := by decide
  have hslash : '/' ∈ word.toList := by decide
  have hspace : ' ' ∉ word.toList := by decide
  have hthere : s.resolve word = ["bin", "cd"] := by decide
  obtain ⟨hanswer, hcwd, _⟩ := path_runs_as_name Config.standard Registry.standard clock clock run
    hnames hname hslash hspace hthere " nick x"
  have hplace : (s.command ("cd" ++ " " ++ " nick x")).2.cwd = ["home", "nick"] := by decide
  exact ⟨hnames, hname, hslash, hspace, hthere, hanswer, hcwd.trans hplace⟩

end Session
end TreeShell
