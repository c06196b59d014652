/-
How what a shell shows ends.

An answer that is shown ends its last line, and `Text.endLine` adds a newline for
that where there is none.  It takes none away: an answer that ends in two newlines
of its own ends in two when it is shown.  A built-in gives such an answer only if
it has the end of it from somewhere, from the user's file, from the user's name or
from a word of the line, and `LeavesGap` says for each built-in from where.  What `date`
and `help` show ends in one newline always.
-/
import Mathlib.Data.List.Basic
import TreeShell.Proofs.Concatenation
import TreeShell.Proofs.Layout
import TreeShell.Proofs.Path
import TreeShell.Proofs.Safety
import TreeShell.Proofs.Stamp
import TreeShell.Proofs.Words

namespace TreeShell

/-! ## Ends of texts -/

namespace Text

def EndsWith (text tail : String) : Prop := tail.toList <:+ text.toList

instance (text tail : String) : Decidable (EndsWith text tail) :=
  inferInstanceAs (Decidable (tail.toList <:+ text.toList))

theorem endsWith_append (front back : String) : EndsWith (front ++ back) back := by
  unfold EndsWith
  rw [String.toList_append]
  exact List.suffix_append _ _

theorem endsWith_newline_iff {text : String} :
    EndsWith text "\n" ↔ text.toList.getLast? = some '\n' :=
  List.singleton_suffix_iff_getLast?_eq_some

theorem endsWith_newline_of_twice {text : String} (h : EndsWith text "\n\n") :
    EndsWith text "\n" :=
  (List.suffix_append ['\n'] ['\n']).trans h

theorem not_endsWith_of_not_mem {text : String} (h : '\n' ∉ text.toList) :
    ¬EndsWith text "\n\n" :=
  fun hends => h (hends.subset (by decide))

theorem newlines_suffix_concat {chars : List Char} {c : Char} :
    ['\n', '\n'] <:+ chars ++ [c] ↔ ['\n'] <:+ chars ∧ c = '\n' := by
  have hcut : ['\n'] ++ ['\n'] <:+ chars ++ [c] ↔ ['\n'] <:+ chars ∧ ['\n'] = [c] :=
    @List.suffix_append_inj_of_length_eq Char ['\n'] chars ['\n'] [c] rfl
  simpa [eq_comm] using hcut

/-- Of two texts in a row the second one decides, unless it is a newline alone. -/
theorem endsTwice_append_iff {front back : String} (hback : back ≠ "") :
    EndsWith (front ++ back) "\n\n" ↔
      EndsWith back "\n\n" ∨ (back = "\n" ∧ EndsWith front "\n") := by
  have hne : back.toList ≠ [] := by simpa using hback
  unfold EndsWith
  rw [String.toList_append, ← String.toList_inj]
  show ['\n', '\n'] <:+ _ ↔ ['\n', '\n'] <:+ _ ∨ (_ = ['\n'] ∧ ['\n'] <:+ _)
  generalize front.toList = xs
  generalize back.toList = ys at hne
  rcases ys.eq_nil_or_concat' with rfl | ⟨zs, c, rfl⟩
  · exact absurd rfl hne
  rw [← List.append_assoc, newlines_suffix_concat, newlines_suffix_concat]
  rcases zs.eq_nil_or_concat' with rfl | ⟨ws, d, rfl⟩
  · simp [and_comm]
  · have hlong : ws ++ [d] ++ [c] ≠ ['\n'] := fun h => by simpa using congrArg List.length h
    rw [← List.append_assoc xs, or_iff_left fun h => hlong h.1,
      List.singleton_suffix_append_singleton_iff, List.singleton_suffix_append_singleton_iff]

theorem endsWith_newline_endLine {text : String} (h : text ≠ "") :
    EndsWith (endLine text) "\n" := by
  by_cases hended : text = "" ∨ text.toList.getLast? = some '\n'
  · rw [endLine_of_ended hended]
    exact endsWith_newline_iff.mpr (hended.resolve_left h)
  · rw [endLine_of_not_ended hended]
    exact endsWith_append text "\n"

/-- Ending the last line ends no line twice that was not ended twice before. -/
theorem endsTwice_endLine_iff (text : String) :
    EndsWith (endLine text) "\n\n" ↔ EndsWith text "\n\n" := by
  by_cases hended : text = "" ∨ text.toList.getLast? = some '\n'
  · rw [endLine_of_ended hended]
  · have hopen : ¬EndsWith text "\n" := fun h => hended (.inr (endsWith_newline_iff.mp h))
    rw [endLine_of_not_ended hended, endsTwice_append_iff (by decide)]
    constructor
    · rintro (hnewline | ⟨_, h⟩)
      · exact absurd hnewline (by decide)
      · exact absurd h hopen
    · exact fun h => absurd (endsWith_newline_of_twice h) hopen

theorem endsTwice_append_of_open {front : String} (hfront : ¬EndsWith front "\n")
    (back : String) : EndsWith (front ++ back) "\n\n" ↔ EndsWith back "\n\n" := by
  by_cases hback : back = ""
  · subst hback
    rw [String.append_empty]
    exact iff_of_false (fun h => hfront (endsWith_newline_of_twice h)) (by decide)
  · rw [endsTwice_append_iff hback]
    exact or_iff_left fun h => hfront h.2

/-- The last of several parts decides how they end when they are joined, unless the
separator is a newline itself. -/
theorem endsTwice_joined_concat_iff {sep : Char} (hsep : sep ≠ '\n') (front : List String)
    (last : String) : EndsWith (joined sep (front ++ [last])) "\n\n" ↔ EndsWith last "\n\n" := by
  have hopen : ¬EndsWith (String.join (front.map (· ++ String.singleton sep))) "\n" := by
    rcases front.eq_nil_or_concat' with rfl | ⟨init, part, rfl⟩
    · exact (by decide : ¬EndsWith "" "\n")
    · rw [endsWith_newline_iff]
      simpa using hsep
  rw [joined_concat, endsTwice_append_of_open hopen]

/-- A text over and over ends in two newlines if it does so itself, or if it is
nothing but a newline and comes more than once. -/
theorem endsTwice_replicate_iff {text : String} (htext : text ≠ "") (n : Nat) :
    EndsWith (String.join (List.replicate (n + 1) text)) "\n\n" ↔
      EndsWith text "\n\n" ∨ (text = "\n" ∧ 2 ≤ n + 1) := by
  have hsplit : ∀ m, String.join (List.replicate (m + 1) text) =
      String.join (List.replicate m text) ++ text := by
    intro m
    rw [List.replicate_succ', String.join_append]
    simp
  rw [hsplit, endsTwice_append_iff htext]
  refine or_congr_right (and_congr_right fun hnewline => ?_)
  cases n with
  | zero => simp; decide
  | succ n =>
    rw [hsplit, hnewline]
    exact iff_of_true (endsWith_append _ "\n") (by omega)

/-! ## Numbers and days -/

theorem isDigit_of_mem_decimal {width n : Nat} {c : Char} (h : c ∈ (decimal width n).toList) :
    c.isDigit = true := by
  rw [decimal, String.toList_ofList] at h
  induction width generalizing n with
  | zero => exact absurd h List.not_mem_nil
  | succ width ih =>
    rw [digits] at h
    rcases List.mem_append.mp h with hfront | hlast
    · exact ih hfront
    · rw [List.mem_singleton.mp hlast, Nat.isDigit_digitChar]
      exact decide_eq_true (Nat.mod_lt n (by decide))

theorem newline_not_mem_decimal (width n : Nat) : '\n' ∉ (decimal width n).toList :=
  fun h => absurd (isDigit_of_mem_decimal h) (by decide)

end Text

namespace Calendar

theorem newline_not_mem_weekday (w : Weekday) : '\n' ∉ w.name.toList := by
  cases w <;> decide

theorem newline_not_mem_monthName (month : Nat) : '\n' ∉ (monthName month).toList := by
  unfold monthName
  split <;> decide

theorem newline_not_mem_zone (offset : Option Int) : '\n' ∉ (zone offset).toList := by
  cases offset with
  | none => decide
  | some us =>
    have hsign : '\n' ∉ (if us < 0 then "-" else "+").toList := by split <;> decide
    have hbelow : ∀ seconds micro, '\n' ∉ (belowMinute seconds micro).toList := by
      intro seconds micro
      unfold belowMinute
      split <;> split <;> simp [Text.newline_not_mem_decimal]
    simp [zone, offsetText_eq, hsign, hbelow, Text.newline_not_mem_decimal]

theorem Reading.newline_not_mem_stamp (r : Reading) : '\n' ∉ r.stamp.toList := by
  simp [stamp_eq, newline_not_mem_weekday, newline_not_mem_monthName, newline_not_mem_zone,
    Text.newline_not_mem_decimal]

end Calendar

/-! ## Paths -/

/-- What a typed text ends in twice, the path that it leads to ends in twice: no
step that goes up or stays ends in a newline. -/
theorem Path.getLast?_resolve_of_endsTwice {text : String} (h : Text.EndsWith text "\n\n")
    (cwd home : Path) :
    ∃ last, (resolve text cwd home).getLast? = some last ∧ Text.EndsWith last "\n\n" := by
  rcases (components text).eq_nil_or_concat' with hnil | ⟨init, last, hcut⟩
  · exact absurd hnil (Text.pieces_ne_nil '/' text)
  have htext : text = Text.joined '/' (init ++ [last]) := by
    rw [← hcut]
    exact (Text.joined_pieces '/' text).symm
  have hlast : Text.EndsWith last "\n\n" := by
    rwa [htext, Text.endsTwice_joined_concat_iff (by decide)] at h
  obtain ⟨hup, hstay, hempty, htilde⟩ :
      last ≠ ".." ∧ last ≠ "." ∧ last ≠ "" ∧ last ≠ "~" := by
    refine ⟨?_, ?_, ?_, ?_⟩ <;> rintro rfl <;> exact absurd hlast (by decide)
  obtain ⟨front, hsteps⟩ : ∃ front, steps text = front ++ [last] := by
    unfold steps
    rw [hcut]
    cases init with
    | nil => exact ⟨[], if_neg htilde⟩
    | cons first rest =>
      by_cases hfirst : first = "~"
      · exact ⟨rest, if_pos hfirst⟩
      · exact ⟨first :: rest, if_neg hfirst⟩
  refine ⟨last, ?_, hlast⟩
  rw [resolve, hsteps, follow_append]
  show (walk _ last).getLast? = some last
  simp [walk, hup, hstay, hempty]

namespace Session

/-! ## Shells that only lines have touched -/

/-- A file or a program is below a directory of the root, under a name that does not
end in two newlines. -/
theorem Placed.exists_leaf_name {config : Config} {s : Shell} (h : s.Placed config .standard)
    {path : Path} (hleaf : (∃ text, s.lookup path = .ok (.file text)) ∨
      ∃ program, s.lookup path = .ok (.executable program)) :
    ∃ front name, path = front ++ [name] ∧ front ≠ [] ∧ ¬Text.EndsWith name "\n\n" := by
  have hnames : ∀ name ∈ (Registry.standard : Registry Empty).names,
      ¬Text.EndsWith name "\n\n" := by decide
  rcases hleaf with ⟨text, hfound⟩ | ⟨program, hfound⟩
  · obtain ⟨habout, _⟩ := Seed.holds_file_iff.mp (h.lookup_iff.mp hfound)
    exact ⟨["home", config.user], "about.txt", habout, by simp, by decide⟩
  · obtain ⟨name, hbin, hfind⟩ := Seed.holds_executable_iff.mp (h.lookup_iff.mp hfound)
    exact ⟨["bin"], name, hbin, by simp, hnames name (Listing.mem_names_of_get? hfind)⟩

end Session

/-! ## Built-ins -/

namespace Builtin

variable {config : Config} {s : Shell} {word raw : String} {args : List String}

theorem showListing_eq_ok {path : Path} {typed : Option String}
    (h : showListing s path typed = .ok raw) :
    (∃ entries, s.lookup path = .ok (.directory entries) ∧
        raw = Text.joined '\n' (Listing.names entries)) ∨
      typed = some raw ∧ ((∃ text, s.lookup path = .ok (.file text)) ∨
        ∃ program, s.lookup path = .ok (.executable program)) := by
  unfold showListing at h
  split at h
  · nomatch h
  · next entries hfound => exact .inl ⟨entries, hfound, (Except.ok.inj h).symm⟩
  all_goals
    next hfound =>
    cases typed with
    | none => nomatch h
    | some text =>
      cases h
      exact .inr ⟨rfl, by simp [hfound]⟩

/-- Where `ls` looks. -/
def listed (s : Shell) (args : List String) : Path := args.head?.elim s.cwd s.resolve

/-- When a built-in that has something to show shows a text that ends in two
newlines. -/
def LeavesGap (s : Shell) (args : List String) : Builtin → Prop
  | cat => Text.EndsWith s.config.about "\n\n" ∨ (s.config.about = "\n" ∧ 2 ≤ args.length)
  | echo => ∃ last ∈ args.getLast?, Text.EndsWith last "\n\n"
  | ls => Text.EndsWith s.user "\n\n" ∧ listed s args = ["home"]
  | pwd => Text.EndsWith s.user "\n\n" ∧ s.cwd = s.home
  | whoami => Text.EndsWith s.user "\n\n"
  | cd | date | help => False

instance (s : Shell) (args : List String) (b : Builtin) : Decidable (b.LeavesGap s args) :=
  match b with
  | cat => inferInstanceAs (Decidable (_ ∨ _))
  | echo => inferInstanceAs (Decidable (∃ last ∈ args.getLast?, Text.EndsWith last "\n\n"))
  | ls | pwd => inferInstanceAs (Decidable (_ ∧ _))
  | whoami => inferInstanceAs (Decidable (Text.EndsWith _ _))
  | cd | date | help => isFalse id

theorem endsTwice_cat_iff (h : s.Placed config .standard)
    (hrun : (cat.run (word :: args) s).1 = .ok raw) (hraw : raw ≠ "") :
    Text.EndsWith raw "\n\n" ↔ LeavesGap s args cat := by
  obtain ⟨texts, htexts, rfl⟩ := concatenate_eq_ok_iff.mp (run_cat_eq_ok_iff.mp hrun)
  have habout : ∀ text ∈ texts, text = s.config.about := by
    intro text htext
    have hread : some (Node.file text) ∈ args.map fun arg => s.root.lookup? (s.resolve arg) := by
      rw [htexts]
      exact List.mem_map_of_mem htext
    obtain ⟨arg, _, hfound⟩ := List.mem_map.mp hread
    rw [h.configured]
    exact (Seed.holds_file_iff.mp (h.lookup_iff.mp (Session.lookup_eq_ok_iff.mpr hfound))).2
  have hlength : texts.length = args.length := by
    simpa using (congrArg List.length htexts).symm
  obtain rfl : texts = List.replicate args.length s.config.about :=
    List.eq_replicate_iff.mpr ⟨hlength, habout⟩
  obtain ⟨n, hn⟩ : ∃ n, args.length = n + 1 := by
    refine Nat.exists_eq_succ_of_ne_zero fun hzero => hraw ?_
    rw [hzero]
    rfl
  have hne : s.config.about ≠ "" := by
    intro hempty
    refine hraw ?_
    rw [hempty, ← String.toList_inj]
    simp
  rw [LeavesGap, hn]
  exact Text.endsTwice_replicate_iff hne n

theorem endsTwice_echo_iff (hraw : raw ≠ "") (h : raw = Text.joined ' ' args) :
    Text.EndsWith raw "\n\n" ↔ LeavesGap s args echo := by
  subst h
  rcases args.eq_nil_or_concat' with rfl | ⟨front, last, rfl⟩
  · exact absurd rfl hraw
  · rw [Text.endsTwice_joined_concat_iff (by decide)]
    simp [LeavesGap]

/-- What is shown for an argument that is no directory is the argument, and that one
ends in the name of a file or of a program. -/
theorem endsTwice_ls_iff (h : s.Placed config .standard)
    (hrun : (ls.run (word :: args) s).1 = .ok raw) :
    Text.EndsWith raw "\n\n" ↔ LeavesGap s args ls := by
  have hlist : showListing s (listed s args) args.head? = .ok raw := by
    cases args <;> exact hrun
  rw [LeavesGap, Session.user, h.configured]
  rcases showListing_eq_ok hlist with ⟨entries, hfound, rfl⟩ | ⟨htyped, hleaf⟩
  · have hplace := Seed.holds_directory_iff.mp ⟨entries, h.lookup_iff.mp hfound, rfl⟩
    simp only [List.mem_cons, List.not_mem_nil, or_false, Prod.mk.injEq] at hplace
    rcases hplace with ⟨hpath, hnames⟩ | ⟨hpath, hnames⟩ | ⟨hpath, hnames⟩ | ⟨hpath, hnames⟩ |
      ⟨hpath, hnames⟩ <;> rw [hpath, hnames]
    · exact iff_of_false (by decide) (by simp)
    · exact iff_of_false (by decide) (by simp)
    · simp [Text.joined]
    · exact iff_of_false (by decide) (by simp)
    · exact iff_of_false (by decide) (by simp)
  · -- The end of the argument is a component that is walked down, so it is the end of the
    -- path, and that is a name of the tree.
    have hpath : listed s args = s.resolve raw := by rw [listed, htyped, Option.elim_some]
    obtain ⟨front, name, hshape, hfront, hname⟩ := h.exists_leaf_name hleaf
    refine iff_of_false (fun hends => ?_) fun hhome => ?_
    · obtain ⟨last, hlast, htwice⟩ := Path.getLast?_resolve_of_endsTwice hends s.cwd s.home
      have hsame : (listed s args).getLast? = some last := hpath ▸ hlast
      rw [hshape, List.getLast?_concat, Option.some.injEq] at hsame
      exact hname (hsame ▸ htwice)
    · rw [hshape] at hhome
      simpa [hfront] using congrArg List.length hhome.2

theorem endsTwice_pwd_iff (h : s.Placed config .standard) :
    Text.EndsWith s.cwd.format "\n\n" ↔ LeavesGap s args pwd := by
  have hhome : s.home = ["home", config.user] := by
    rw [← h.configured]
    rfl
  have hplace : s.cwd ∈ [[], ["bin"], ["home"], ["home", config.user], ["tmp"]] := h.place
  rw [LeavesGap, Session.user, h.configured, hhome]
  simp only [List.mem_cons, List.not_mem_nil, or_false] at hplace
  rcases hplace with hpath | hpath | hpath | hpath | hpath <;> rw [hpath]
  · exact iff_of_false (by decide) (by simp)
  · exact iff_of_false (by decide) (by simp)
  · exact iff_of_false (by decide) (by simp)
  · rw [Path.format, Text.endsTwice_append_of_open (by decide)]
    exact (Text.endsTwice_joined_concat_iff (by decide) ["home"] config.user).trans (by simp)
  · exact iff_of_false (by decide) (by simp)

theorem not_endsTwice_helpText : ¬Text.EndsWith helpText "\n\n" := by
  have hlast : helpText = _ ++ helpLine whoami :=
    Text.joined_concat '\n' (all.dropLast.map helpLine) (helpLine whoami)
  rw [hlast, Text.endsTwice_append_iff (by decide)]
  decide

/-- What a built-in shows ends in two newlines in the cases of `LeavesGap` only. -/
theorem endsTwice_run_iff {b : Builtin} (h : s.Placed config .standard)
    (hrun : (b.run (word :: args) s).1 = .ok raw) (hraw : raw ≠ "") :
    Text.EndsWith raw "\n\n" ↔ LeavesGap s args b := by
  cases b with
  | cat => exact endsTwice_cat_iff h hrun hraw
  | cd =>
    rcases changeDirectory_cases s (word :: args) with ⟨f, hf⟩ | ⟨path, hpath, _⟩
    · rw [run, hf] at hrun
      cases hrun
    · rw [run, hpath] at hrun
      exact absurd (Except.ok.inj hrun).symm hraw
  | date =>
    have hdate : s.clock.map Calendar.Reading.stamp = .ok raw := hrun
    cases hclock : s.clock with
    | error f =>
      rw [hclock] at hdate
      cases hdate
    | ok reading =>
      rw [hclock] at hdate
      obtain rfl : reading.stamp = raw := Except.ok.inj hdate
      exact iff_of_false (Text.not_endsWith_of_not_mem reading.newline_not_mem_stamp) id
  | echo => exact endsTwice_echo_iff hraw (Except.ok.inj hrun).symm
  | help =>
    obtain rfl : helpText = raw := Except.ok.inj hrun
    exact iff_of_false not_endsTwice_helpText id
  | ls => exact endsTwice_ls_iff h hrun
  | pwd =>
    obtain rfl : s.cwd.format = raw := Except.ok.inj hrun
    exact endsTwice_pwd_iff h
  | whoami =>
    obtain rfl : s.user = raw := Except.ok.inj hrun
    exact Iff.rfl

end Builtin

/-! ## Lines -/

namespace Session

/-- In a shell that only lines have touched, a line whose program succeeds and has
something to show is shown with its last line ended.  It ends in one newline,
unless the program has left a gap there of its own. -/
theorem ends_once_unless_gap (config : Config) (clock : Except Failure Calendar.Reading)
    (run : List Typed) (now : Except Failure Calendar.Reading) (line : String) :
    let s := ((start config .standard clock).typeAll run).atClock now
    ∀ (b : Builtin) (name : String) (args : List String) (raw : String),
      Text.words line = name :: args → s.Means name (.ok (.builtin b)) →
        (b.run (name :: args) s).1 = .ok raw → raw ≠ "" →
          ∃ output, (s.command line).1 = .ok output ∧ Text.EndsWith output "\n" ∧
            (Text.EndsWith output "\n\n" ↔ b.LeavesGap s args) := by
  intro s b name args raw hwords hmeans hrun hraw
  have hs : s.Placed config .standard :=
    ((Placed.start config .standard clock).typeAll run).atClock now
  have hshown : (s.command line).1 = .ok (Text.endLine raw) :=
    command_shown hwords (findProgram_of_means hmeans) hrun
  refine ⟨_, hshown, Text.endsWith_newline_endLine hraw, ?_⟩
  rw [Text.endsTwice_endLine_iff]
  exact b.endsTwice_run_iff hs hrun hraw

/-- A file of one blank line, shown once and twice. -/
theorem ends_once_unless_gap_blank :
    let config : Config := { about := "\n" }
    let clock : Except Failure Calendar.Reading := .ok { date := ⟨2024, 3, 5⟩ }
    let run : List Typed := [⟨"cd ..", clock⟩]
    let s := ((start config .standard clock).typeAll run).atClock clock
    (∃ output, (s.command "cat ~/about.txt").1 = .ok output ∧ Text.EndsWith output "\n" ∧
      ¬Text.EndsWith output "\n\n") ∧
    ∃ output, (s.command "cat ~/about.txt nick/about.txt").1 = .ok output ∧
      Text.EndsWith output "\n" ∧ Text.EndsWith output "\n\n" := by
  intro config clock run s
  have hcat : s.Means "cat" (.ok (.builtin .cat)) := .registered (by decide)
  obtain ⟨once, honce, hended, hgap⟩ := ends_once_unless_gap config clock run clock
    "cat ~/about.txt" .cat "cat" ["~/about.txt"] "\n" (by decide) hcat (by decide) (by decide)
  obtain ⟨twice, htwice, hended', hgap'⟩ := ends_once_unless_gap config clock run clock
    "cat ~/about.txt nick/about.txt" .cat "cat" ["~/about.txt", "nick/about.txt"] "\n\n"
    (by decide) hcat (by decide) (by decide)
  refine ⟨⟨once, honce, hended, fun h => ?_⟩, twice, htwice, hended',
    hgap'.mpr (by decide)⟩
  exact absurd (hgap.mp h) (by decide)

/-- A file that ends in a blank line is shown with the blank line. -/
theorem blank_line_shown :
    let s := start { about := "Hi\n\n" } .standard (.ok { date := ⟨2024, 3, 5⟩ })
    s.Means "cat" (.ok (.builtin .cat)) ∧
      (Builtin.cat.run ["cat", "about.txt"] s).1 = .ok "Hi\n\n" ∧
      (s.command "cat about.txt").1 = .ok "Hi\n\n" ∧ Text.EndsWith "Hi\n\n" "\n\n" := by
  intro s
  have hcat : s.Means "cat" (.ok (.builtin .cat)) := .registered (by decide)
  have hrun : (Builtin.cat.run ["cat", "about.txt"] s).1 = .ok "Hi\n\n" := rfl
  exact ⟨hcat, hrun, command_shown (by decide) (findProgram_of_means hcat) hrun, by decide⟩

end Session
end TreeShell
