/-
What is safe in a session that nothing but lines has touched.

The built-ins trust the working directory.  `ls` without an argument looks it up
and has no text to show instead where it is no directory, and `cd` without an
argument goes home without looking.  What makes this safe is that the tree stays
the seed tree, whose directories are five and one of them is home, so that a
session that starts there never leaves them.  `Placed` is that invariant, which
holds under any clock, and `Settled` adds what follows from it for the log where
the clock can be read; `command` keeps each of them for one line, and
`seed_session_safe` draws the consequences for every run of lines.
-/
import TreeShell.Proofs.Dispatch
import TreeShell.Proofs.Seed

namespace TreeShell
namespace Session

/-! ## The place -/

/-- The shell still has its first configuration and its first tree, and stands in
one of the directories of that tree. -/
structure Placed (config : Config) (registry : Registry Empty) (s : Shell) : Prop where
  configured : s.config = config
  root : s.root = Seed.tree config registry
  place : s.cwd ∈ Seed.places config

namespace Placed

variable {config : Config} {registry : Registry Empty} {s : Shell}

theorem start (config : Config) (registry : Registry Empty)
    (clock : Except Failure Calendar.Reading) :
    Placed config registry (Session.start config registry clock) where
  configured := rfl
  root := rfl
  place := Seed.home_mem_places config

theorem atClock (h : Placed config registry s) (clock : Except Failure Calendar.Reading) :
    Placed config registry (s.atClock clock) :=
  ⟨h.configured, h.root, h.place⟩

theorem announced (h : Placed config registry s) (line name : String) :
    Placed config registry ((s.remember line).announce name) :=
  ⟨h.configured, h.root, h.place⟩

theorem lookup_iff (h : Placed config registry s) {path : Path} {node : Node Empty} :
    s.lookup path = .ok node ↔ Seed.Holds config registry path node := by
  rw [lookup_eq_ok_iff, h.root]
  exact Seed.lookup?_iff

theorem isDirectory_iff (h : Placed config registry s) (path : Path) :
    s.IsDirectory path ↔ path ∈ Seed.places config := by
  unfold IsDirectory
  simp only [lookup_eq_ok_iff, h.root]
  exact Seed.directory_iff

theorem cwd_isDirectory (h : Placed config registry s) : s.IsDirectory s.cwd :=
  (h.isDirectory_iff s.cwd).mpr h.place

theorem command (h : Placed config registry s) (line : String) :
    Placed config registry (s.command line).2 where
  configured := (command_frame line s).config.trans h.configured
  root := (command_frame line s).root.trans h.root
  place := by
    rcases command_cwd line s with hstays | hmoves
    · rw [hstays]
      exact h.place
    · generalize (s.command line).2.cwd = path at hmoves
      rcases hmoves with rfl | ⟨_, _, _, hdir⟩
      · show s.config.home ∈ _
        rw [h.configured]
        exact Seed.home_mem_places config
      · exact (h.isDirectory_iff path).mp hdir

theorem typeAll (h : Placed config registry s) (run : List Typed) :
    Placed config registry (s.typeAll run) := by
  induction run generalizing s with
  | nil => exact h
  | cons t rest ih => exact ih ((h.atClock t.clock).command t.line)

/-- Where the clock can be read, a built-in fails with nothing but a shell
error. -/
theorem failure (h : Placed config registry s) {reading : Calendar.Reading}
    (hclock : s.clock = .ok reading) {b : Builtin} {word : String} {rest : List String}
    {f : Failure} (hf : (b.run (word :: rest) s).1 = .error f) : ∃ e, f = .shell e := by
  rcases b.run_failure hf with hshell | ⟨_, hfails⟩ | ⟨_, _, _, hdir⟩
  · exact hshell
  · rw [hclock] at hfails
    nomatch hfails
  · exact absurd h.cwd_isDirectory hdir

end Placed

/-! ## The log -/

/-- The log tells of no fault. -/
def Faultless {Tool : Type} (s : Session Tool) : Prop := ∀ entry ∈ s.log, entry.level ≠ .error

namespace Faultless

variable {Tool : Type} {s : Session Tool}

theorem note (h : s.Faultless) {level : Log.Level} (hlevel : level ≠ .error)
    (source message : String) : (s.note level source message).Faultless := by
  intro entry hentry
  rw [note_log] at hentry
  rcases List.mem_append.mp hentry with hold | hnew
  · exact h entry hold
  · rw [List.mem_singleton.mp hnew]
    exact hlevel

theorem moveTo (h : s.Faultless) (path : Path) : (s.moveTo path).Faultless :=
  note (s := { s with cwd := path }) h (by decide) _ _

theorem builtin (h : s.Faultless) (b : Builtin) (args : List String) :
    (b.run args s).2.Faultless := by
  rcases b.run_cases args s with ⟨result, hrun, _⟩ | ⟨path, _, hrun, _⟩ <;> rw [hrun]
  · exact h
  · exact h.moveTo path

theorem settle (h : s.Faultless) {result : Except Failure String}
    (hresult : ∀ f, result = .error f → ∃ e, f = .shell e) (words : List String) :
    (Session.settle ⟨words, result, s⟩).2.Faultless := by
  rcases settle_cases words result s with hs | ⟨e, _, hs⟩ | ⟨f, _, hf, _⟩
  · rw [hs]
    exact h
  · rw [hs]
    exact h.note (by decide) _ _
  · obtain ⟨e, he⟩ := hresult _ hf
    nomatch he

end Faultless

/-! ## Both -/

/-- The shell stands in a directory of its first tree, and its log tells of no
fault. -/
structure Settled (config : Config) (registry : Registry Empty) (s : Shell) : Prop
    extends Placed config registry s where
  log : s.Faultless

namespace Settled

variable {config : Config} {registry : Registry Empty} {s : Shell}

theorem start (config : Config) (registry : Registry Empty)
    (clock : Except Failure Calendar.Reading) :
    Settled config registry (Session.start config registry clock) where
  toPlaced := Placed.start config registry clock
  log := by simp [Faultless, Session.start]

theorem command (h : Settled config registry s) {reading : Calendar.Reading}
    (hclock : s.clock = .ok reading) (line : String) :
    Settled config registry (s.command line).2 where
  toPlaced := h.toPlaced.command line
  log := by
    have hremember : (s.remember line).Faultless := h.log
    rcases command_cases line s with ⟨_, hs⟩ | ⟨_, _, e, _, _, hs⟩ | ⟨name, rest, b, _, _, hs⟩ <;>
      rw [hs]
    · exact hremember
    · exact hremember.note (by decide) _ _
    · have hannounce : ((s.remember line).announce name).Faultless :=
        hremember.note (by decide) _ _
      refine (hannounce.builtin b _).settle (fun f hf => ?_) _
      exact (h.announced line name).failure hclock hf

theorem type (h : Settled config registry s) {t : Typed}
    (hclock : ∃ reading, t.clock = .ok reading) : Settled config registry (s.type t).2 := by
  obtain ⟨reading, hreading⟩ := hclock
  exact command (s := s.atClock t.clock) ⟨h.atClock t.clock, h.log⟩ hreading t.line

theorem typeAll (h : Settled config registry s) {run : List Typed}
    (hclock : ∀ t ∈ run, ∃ reading, t.clock = .ok reading) :
    Settled config registry (s.typeAll run) := by
  induction run generalizing s with
  | nil => exact h
  | cons t rest ih =>
    have hhead : Settled config registry (s.type t).2 := h.type (hclock t List.mem_cons_self)
    exact ih hhead fun u hu => hclock u (List.mem_cons_of_mem t hu)

end Settled

/-- After any run of lines under a clock that can be read, the tree is the seed
tree, the working directory is one of its five directories, the log holds no
error, the next line is answered, and `ls` without an argument has a directory
to list. -/
theorem seed_session_safe (config : Config) (registry : Registry Empty)
    (clock : Except Failure Calendar.Reading) (run : List Typed)
    (hclock : ∀ t ∈ run, ∃ reading, t.clock = .ok reading) :
    let s := (Session.start config registry clock).typeAll run
    s.root = Seed.tree config registry ∧
      s.cwd ∈ [[], ["bin"], ["home"], ["home", config.user], ["tmp"]] ∧
      (∃ entries, s.lookup s.cwd = .ok (.directory entries)) ∧
      (∀ entry ∈ s.log, entry.level ≠ .error) ∧
      (∀ line reading, ∃ output, (s.type ⟨line, .ok reading⟩).1 = .ok output) ∧
      ∀ word, ∃ output, Builtin.list s [word] = .ok output := by
  intro s
  have hs : Settled config registry s := (Settled.start config registry clock).typeAll hclock
  refine ⟨hs.root, hs.place, hs.cwd_isDirectory, hs.log, ?_, ?_⟩
  · intro line reading
    exact command_answers (s := s.atClock (.ok reading)) rfl line
  · intro word
    obtain ⟨entries, hfound⟩ := hs.cwd_isDirectory
    refine ⟨Text.joined '\n' (Listing.names entries), ?_⟩
    show Builtin.showListing s s.cwd none = _
    unfold Builtin.showListing
    rw [hfound]

/-- Going up from a home named `..` and coming back to it. -/
theorem seed_session_safe_dotted :
    let config : Config := { user := "..", user_valid := by decide }
    let clock : Except Failure Calendar.Reading := .ok { date := ⟨2024, 3, 5⟩ }
    let run : List Typed := [⟨"cd ..", clock⟩, ⟨"cd", clock⟩]
    let s := (Session.start config Registry.standard clock).typeAll run
    s.cwd = ["home", ".."] ∧ (∃ entries, s.lookup s.cwd = .ok (.directory entries)) ∧
      ∀ word, ∃ output, Builtin.list s [word] = .ok output := by
  intro config clock run s
  have hclock : ∀ t ∈ run, ∃ reading, t.clock = .ok reading := by simp [run, clock]
  obtain ⟨_, _, hplace, _, _, hlist⟩ :=
    seed_session_safe config Registry.standard clock run hclock
  exact ⟨by decide, hplace, hlist⟩

end Session
end TreeShell
