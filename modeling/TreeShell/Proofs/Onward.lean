/-
Going on from where one went.

A text that goes on from another behind a slash leads where it would lead by
itself from the place that the first one leads to: `resolve_onward`.  So a way
may be gone in two lines instead of one, and what is found at its end is the
same.  It may not be the other way round: a way that is gone in one line can pass
through what is no directory, as long as it goes up again from there, and only
the second line of two would notice.  Where the text goes up nowhere, a directory
at its end has directories all the way.
-/
import TreeShell.Proofs.Return

namespace TreeShell

/-! ## Paths -/

namespace Path

theorem components_onward (front back : String) :
    components (front ++ "/" ++ back) = components front ++ components back :=
  Text.pieces_append '/' front back

theorem head?_components_onward (front back : String) :
    (components (front ++ "/" ++ back)).head? = (components front).head? := by
  obtain ⟨first, others, hfront⟩ := List.exists_cons_of_ne_nil (Text.pieces_ne_nil '/' front)
  have hcut : components front = first :: others := hfront
  rw [components_onward, hcut]
  rfl

theorem steps_append (front back : String) :
    steps (front ++ "/" ++ back) = steps front ++ components back := by
  obtain ⟨first, others, hfront⟩ := List.exists_cons_of_ne_nil (Text.pieces_ne_nil '/' front)
  have hfront' : components front = first :: others := hfront
  simp only [steps, components_onward, hfront', List.cons_append]
  split <;> rfl

theorem steps_of_head_ne {text : String} (h : (components text).head? ≠ some "~") :
    steps text = components text := by
  unfold steps
  split
  · next hcut => exact hcut.symm
  · next first rest hcut =>
    rw [hcut] at h ⊢
    exact if_neg fun htilde => h (congrArg some htilde)

theorem steps_onward {front back : String} (htilde : (components back).head? ≠ some "~") :
    steps (front ++ "/" ++ back) = steps front ++ steps back := by
  rw [steps_append, steps_of_head_ne htilde]

theorem base_onward {front : String} (hfront : front ≠ "") (back : String) (cwd home : Path) :
    base (front ++ "/" ++ back) cwd home = base front cwd home := by
  have hhead : (front ++ "/" ++ back).toList.head? = front.toList.head? := by
    have hne : front.toList ≠ [] := by simpa using hfront
    obtain ⟨c, cs, hchars⟩ := List.exists_cons_of_ne_nil hne
    rw [String.toList_append, String.toList_append, hchars]
    rfl
  rw [base, hhead, head?_components_onward]
  rfl

/-- What goes on behind a slash is walked from where the text in front of it
leads. -/
theorem resolve_onward {front back : String} (hfront : front ≠ "")
    (hrooted : back.toList.head? ≠ some '/') (htilde : (components back).head? ≠ some "~")
    (cwd home : Path) :
    resolve (front ++ "/" ++ back) cwd home = resolve back (resolve front cwd home) home := by
  have hbase : base back (resolve front cwd home) home = resolve front cwd home :=
    base_of_relative hrooted htilde _ home
  rw [resolve.eq_def back, hbase, resolve, base_onward hfront, steps_onward htilde, follow_append]
  rfl

theorem prefix_follow {components : List String} (h : ".." ∉ components) (base : Path) :
    base <+: follow base components := by
  induction components generalizing base with
  | nil => exact List.prefix_rfl
  | cons c rest ih =>
    have hup : c ≠ ".." := fun e => h (e ▸ List.mem_cons_self)
    have hwalk : base <+: walk base c := by
      rw [walk, if_neg hup]
      split
      · exact List.prefix_rfl
      · exact List.prefix_append base [c]
    exact hwalk.trans (ih (fun hin => h (List.mem_cons_of_mem c hin)) (walk base c))

/-- A text that never goes up leads to somewhere below its base. -/
theorem prefix_resolve {text : String} (hup : ".." ∉ components text)
    (hrooted : text.toList.head? ≠ some '/') (htilde : (components text).head? ≠ some "~")
    (cwd home : Path) : cwd <+: resolve text cwd home := by
  have hsteps : ".." ∉ steps text := fun h => hup (mem_components_of_mem_steps h)
  rw [resolve, base_of_relative hrooted htilde]
  exact prefix_follow hsteps cwd

end Path

/-! ## The tree -/

namespace Node

variable {Tool : Type}

/-- What has something below it is a directory. -/
theorem directory_of_lookup?_below {root found : Node Tool} {path below : Path} (hne : below ≠ [])
    (h : root.lookup? (path ++ below) = some found) :
    ∃ entries, root.lookup? path = some (.directory entries) := by
  rw [lookup?_append, Option.bind_eq_some_iff] at h
  obtain ⟨node, hnode, hbelow⟩ := h
  obtain ⟨segment, rest, rfl⟩ := List.exists_cons_of_ne_nil hne
  cases node with
  | directory entries => exact ⟨entries, hnode⟩
  | file text => nomatch hbelow
  | executable program => nomatch hbelow

theorem directory_of_prefix {root : Node Tool} {path deeper : Path} (habove : path <+: deeper)
    {entries : Listing (Node Tool)} (h : root.lookup? deeper = some (.directory entries)) :
    ∃ entries, root.lookup? path = some (.directory entries) := by
  obtain ⟨below, rfl⟩ := habove
  by_cases hne : below = []
  · subst hne
    rw [List.append_nil] at h
    exact ⟨entries, h⟩
  · exact directory_of_lookup?_below hne h

end Node

/-! ## Lines -/

namespace Session

variable {Tool : Type} {box : Toolbox Tool} {depth : Nat} {s : Session Tool} {target : String}

/-- A line that tells of a shell error is not answered with nothing. -/
theorem complain_ne_silent (s : Session Tool) (e : ShellError) : (s.complain e).1 ≠ .ok "" := by
  intro h
  have htext : e.message ++ "\n" = "" := Except.ok.inj h
  exact absurd (String.append_eq_empty_iff.mp htext).2 (by decide)

theorem runAt_cd_of_directory (hcd : s.registry.find? "cd" = some (.builtin .cd))
    (htarget : target ≠ "" ∧ ' ' ∉ target.toList) (hdir : s.IsDirectory (s.resolve target)) :
    runAt box depth ("cd " ++ target) s =
      (.ok "", ((s.remember ("cd " ++ target)).announce "cd").moveTo (s.resolve target)) := by
  rw [runAt_pair box depth (by decide) (by decide) hcd htarget,
    Builtin.run_cd_directory (s := (s.remember ("cd " ++ target)).announce "cd") hdir]
  rfl

/-- A `cd` is answered with nothing exactly if it goes to a directory. -/
theorem runAt_cd_iff (hcd : s.registry.find? "cd" = some (.builtin .cd))
    (htarget : target ≠ "" ∧ ' ' ∉ target.toList) :
    (runAt box depth ("cd " ++ target) s).1 = .ok "" ↔ s.IsDirectory (s.resolve target) := by
  refine ⟨fun h => ?_, fun hdir => by rw [runAt_cd_of_directory hcd htarget hdir]⟩
  rw [runAt_pair box depth (by decide) (by decide) hcd htarget] at h
  have hlookup : ((s.remember ("cd " ++ target)).announce "cd").lookup
      (((s.remember ("cd " ++ target)).announce "cd").resolve target) =
      s.lookup (s.resolve target) := rfl
  simp only [Builtin.run, Builtin.changeDirectory, hlookup] at h
  split at h
  · exact absurd h (complain_ne_silent _ _)
  · next entries hfound => exact ⟨entries, hfound⟩
  · exact absurd h (complain_ne_silent _ _)
  · exact absurd h (complain_ne_silent _ _)

theorem runAt_cd_of_unregistered (hcd : s.registry.find? "cd" = none)
    (htarget : target ≠ "" ∧ ' ' ∉ target.toList) :
    (runAt box depth ("cd " ++ target) s).1 ≠ .ok "" := by
  have hverb : "cd " = "cd" ++ " " := by decide
  have hname : "cd" ≠ "" ∧ ' ' ∉ "cd".toList := by decide
  have hwords : Text.words ("cd " ++ target) = ["cd", target] := by
    rw [hverb]
    exact Text.words_pair hname htarget
  have hfind : s.findProgram "cd" = .error .commandNotFound := by
    have hslash : '/' ∉ "cd".toList := by decide
    simp only [findProgram, hcd, if_neg hslash]
  rw [runAt_unfound box depth hwords hfind]
  exact complain_ne_silent _ _

/-! ## Ways in two parts -/

variable {first second whole : String}

/-- At the end of the first part of a way, the second part names what the whole
way named at its beginning, and leads there. -/
theorem runAt_cd_onward (hcd : s.registry.find? "cd" = some (.builtin .cd))
    (hfirst : first ≠ "" ∧ ' ' ∉ first.toList) (hsecond : second ≠ "" ∧ ' ' ∉ second.toList)
    (hwhole : whole ≠ "" ∧ ' ' ∉ whole.toList)
    (hway : s.resolve whole = Path.resolve second (s.resolve first) s.home)
    (hdir : s.IsDirectory (s.resolve first)) :
    let there := (runAt box depth ("cd " ++ first) s).2
    let onward := runAt box depth ("cd " ++ second) there
    let direct := runAt box depth ("cd " ++ whole) s
    there.lookup (there.resolve second) = s.lookup (s.resolve whole) ∧
      (onward.1 = .ok "" ↔ direct.1 = .ok "") ∧
      (onward.1 = .ok "" → onward.2.cwd = direct.2.cwd) := by
  intro there onward direct
  have hthere : there = ((s.remember ("cd " ++ first)).announce "cd").moveTo (s.resolve first) :=
    congrArg Prod.snd (runAt_cd_of_directory hcd hfirst hdir)
  have hcd' : there.registry.find? "cd" = some (.builtin .cd) := by
    rw [hthere]
    exact hcd
  have hplace : there.resolve second = s.resolve whole := by
    rw [hthere, hway]
    rfl
  have htree (path : Path) : there.lookup path = s.lookup path := by
    rw [hthere]
    rfl
  have hsame : there.IsDirectory (there.resolve second) ↔ s.IsDirectory (s.resolve whole) := by
    rw [hplace, IsDirectory, IsDirectory, htree]
  have honward : onward.1 = .ok "" ↔ s.IsDirectory (s.resolve whole) :=
    (runAt_cd_iff hcd' hsecond).trans hsame
  refine ⟨by rw [hplace, htree], honward.trans (runAt_cd_iff hcd hwhole).symm, fun h => ?_⟩
  have hend : s.IsDirectory (s.resolve whole) := honward.mp h
  simp only [onward, direct]
  rw [runAt_cd_of_directory hcd' hsecond (hsame.mpr hend), runAt_cd_of_directory hcd hwhole hend]
  exact hplace

/-- Whoever can go down to a place can go to any other on the way. -/
theorem runAt_cd_halfway (hcd : s.registry.find? "cd" = some (.builtin .cd))
    (hfirst : first ≠ "" ∧ ' ' ∉ first.toList) (hwhole : whole ≠ "" ∧ ' ' ∉ whole.toList)
    (hbelow : s.resolve first <+: s.resolve whole)
    (hdirect : (runAt box depth ("cd " ++ whole) s).1 = .ok "") :
    (runAt box depth ("cd " ++ first) s).1 = .ok "" := by
  obtain ⟨entries, hend⟩ := (runAt_cd_iff hcd hwhole).mp hdirect
  obtain ⟨above, habove⟩ := Node.directory_of_prefix hbelow (lookup_eq_ok_iff.mp hend)
  exact (runAt_cd_iff hcd hfirst).mpr ⟨above, lookup_eq_ok_iff.mpr habove⟩

/-- A way in two parts leads where the second part leads from the end of the
first.  For a shell in which `cd` is the built-in, if it is anything: after a `cd`
that succeeded, what the second part names is what the whole way named before, and
`cd` goes on there exactly if it would have gone the whole way, and to the same
place.  Where the second part goes up nowhere, a `cd` that goes the whole way
could have stopped at the end of the first. -/
theorem cd_in_two_steps {a b : String} (ha : a ≠ "") (hb : b ≠ "")
    (hrooted : b.toList.head? ≠ some '/') (htilde : (Path.components b).head? ≠ some "~") :
    (∀ cwd home, Path.resolve (a ++ "/" ++ b) cwd home =
      Path.resolve b (Path.resolve a cwd home) home) ∧
    ∀ (Tool : Type) (box : Toolbox Tool) (depth : Nat) (s : Session Tool),
      (∀ program, s.registry.find? "cd" = some program → program = .builtin .cd) →
      ' ' ∉ a.toList → ' ' ∉ b.toList →
      let there := runAt box depth ("cd " ++ a) s
      let onward := runAt box depth ("cd " ++ b) there.2
      let direct := runAt box depth ("cd " ++ (a ++ "/" ++ b)) s
      (there.1 = .ok "" →
        there.2.lookup (there.2.resolve b) = s.lookup (s.resolve (a ++ "/" ++ b)) ∧
        (onward.1 = .ok "" ↔ direct.1 = .ok "") ∧
        (onward.1 = .ok "" → onward.2.cwd = direct.2.cwd)) ∧
      (".." ∉ Path.components b → direct.1 = .ok "" → there.1 = .ok "") := by
  refine ⟨Path.resolve_onward ha hrooted htilde, fun Tool box depth s hcd haspace hbspace => ?_⟩
  intro there onward direct
  have hfirst : a ≠ "" ∧ ' ' ∉ a.toList := ⟨ha, haspace⟩
  have hsecond : b ≠ "" ∧ ' ' ∉ b.toList := ⟨hb, hbspace⟩
  have hwhole : a ++ "/" ++ b ≠ "" ∧ ' ' ∉ (a ++ "/" ++ b).toList := by
    refine ⟨fun h => hb (String.append_eq_empty_iff.mp h).2, ?_⟩
    simpa [haspace] using hbspace
  have hway : s.resolve (a ++ "/" ++ b) = Path.resolve b (s.resolve a) s.home :=
    Path.resolve_onward ha hrooted htilde s.cwd s.home
  cases hfound : s.registry.find? "cd" with
  | none =>
    exact ⟨fun h => absurd h (runAt_cd_of_unregistered hfound hfirst),
      fun _ h => absurd h (runAt_cd_of_unregistered hfound hwhole)⟩
  | some program =>
    obtain rfl := hcd program hfound
    refine ⟨fun hthere => ?_, fun hup hdirect => ?_⟩
    · have hdir : s.IsDirectory (s.resolve a) := (runAt_cd_iff hfound hfirst).mp hthere
      exact runAt_cd_onward hfound hfirst hsecond hwhole hway hdir
    · have hbelow : s.resolve a <+: s.resolve (a ++ "/" ++ b) := by
        rw [hway]
        exact Path.prefix_resolve hup hrooted htilde (s.resolve a) s.home
      exact runAt_cd_halfway hfound hfirst hwhole hbelow hdirect

/-- Up from home and back to it, in two lines and in one. -/
theorem cd_in_two_steps_home :
    let clock : Except Failure Calendar.Reading := .ok { date := ⟨2024, 3, 5⟩ }
    let s : Shell := Session.start Config.standard Registry.standard clock
    let there := s.command ("cd " ++ "~/..")
    let onward := there.2.command ("cd " ++ "./nick/")
    let direct := s.command ("cd " ++ ("~/.." ++ "/" ++ "./nick/"))
    "./nick/".toList.head? ≠ some '/' ∧ (Path.components "./nick/").head? ≠ some "~" ∧
      (∀ program, s.registry.find? "cd" = some program → program = .builtin .cd) ∧
      there.1 = .ok "" ∧ there.2.cwd = ["home"] ∧
      there.2.lookup (there.2.resolve "./nick/") = s.lookup ["home", "nick"] ∧
      (onward.1 = .ok "" ↔ direct.1 = .ok "") ∧ direct.2.cwd = ["home", "nick"] := by
  intro clock s there onward direct
  have hrooted : "./nick/".toList.head? ≠ some '/' := by decide
  have htilde : (Path.components "./nick/").head? ≠ some "~" := by decide
  have hcd : ∀ program, s.registry.find? "cd" = some program → program = .builtin .cd :=
    fun program h => (Option.some.inj h).symm
  have hthere : there.1 = .ok "" := by rfl
  obtain ⟨_, hshells⟩ := cd_in_two_steps (a := "~/..") (by decide) (by decide) hrooted htilde
  obtain ⟨hlook, hsame, _⟩ :=
    (hshells Empty Toolbox.none 0 s hcd (by decide) (by decide)).1 hthere
  exact ⟨hrooted, htilde, hcd, hthere, by decide, hlook, hsame, by decide⟩

end Session
end TreeShell
