/-
Several files read as one.

What an argument of `cat` comes to by itself is decided by what stands where it
leads: `Reads` lists the four cases.  Several arguments come to the texts of all of
them, one after the other, or else to what the first of them comes to that cannot be
read.  What the others come to does not matter then, whether they stand in front of
it or behind, and no text of theirs is shown.
-/
import TreeShell.Proofs.Outcome

namespace TreeShell
namespace Builtin

variable {Tool : Type} {s : Session Tool}

/-! ## One argument -/

/-- What an argument comes to: the text of a file, or an error.  An error names the
argument as it was typed, unless there is nothing where the argument leads. -/
inductive Reads (s : Session Tool) (arg : String) : Except ShellError String → Prop where
  | file {text : String} (hfound : s.root.lookup? (s.resolve arg) = some (.file text)) :
    Reads s arg (.ok text)
  | directory {entries : Listing (Node Tool)}
    (hfound : s.root.lookup? (s.resolve arg) = some (.directory entries)) :
    Reads s arg (.error (.isDirectory arg))
  | executable {program : Program Tool}
    (hfound : s.root.lookup? (s.resolve arg) = some (.executable program)) :
    Reads s arg (.error (.isBinary arg))
  | missing (hfound : s.root.lookup? (s.resolve arg) = none) : Reads s arg (.error .pathNotFound)

theorem reads_readFile (s : Session Tool) (arg : String) : Reads s arg (readFile s arg) := by
  unfold readFile Session.lookup
  cases hfound : s.root.lookup? (s.resolve arg) with
  | none => exact .missing hfound
  | some node =>
    cases node with
    | directory entries => exact .directory hfound
    | file text => exact .file hfound
    | executable program => exact .executable hfound

theorem readFile_eq_ok_iff {arg text : String} :
    readFile s arg = .ok text ↔ s.root.lookup? (s.resolve arg) = some (.file text) := by
  constructor
  · intro h
    have hreads : Reads s arg (.ok text) := h ▸ reads_readFile s arg
    cases hreads with
    | file hfound => exact hfound
  · intro h
    simp only [readFile, Session.lookup_eq_ok_iff.mpr h]

/-! ## Several arguments -/

theorem concatenate_singleton (s : Session Tool) (arg : String) :
    concatenate s [arg] = readFile s arg := by
  simp only [concatenate]
  cases readFile s arg with
  | error e => rfl
  | ok text => exact congrArg Except.ok String.append_empty

theorem concatenate_append (s : Session Tool) (xs ys : List String) :
    concatenate s (xs ++ ys) =
      (concatenate s xs).bind fun front => (concatenate s ys).map (front ++ ·) := by
  induction xs with
  | nil =>
    have hempty : ("" ++ ·) = (id : String → String) := funext fun _ => String.empty_append
    show concatenate s ys = (concatenate s ys).map ("" ++ ·)
    rw [hempty, Except.map_id]
    rfl
  | cons x rest ih =>
    simp only [List.cons_append, concatenate, ih]
    cases readFile s x with
    | error e => rfl
    | ok text =>
      cases concatenate s rest with
      | error e => rfl
      | ok more =>
        cases concatenate s ys with
        | error e => rfl
        | ok back => exact congrArg Except.ok String.append_assoc.symm

/-- Arguments that all lead to files come to the texts of these in order, with
nothing between them. -/
theorem concatenate_eq_ok_iff {args : List String} {text : String} :
    concatenate s args = .ok text ↔ ∃ texts : List String,
      args.map (fun arg => s.root.lookup? (s.resolve arg)) =
        texts.map (fun text => some (.file text)) ∧
      text = String.join texts := by
  induction args generalizing text with
  | nil =>
    constructor
    · intro h
      exact ⟨[], rfl, (Except.ok.inj h).symm⟩
    · rintro ⟨texts, htexts, rfl⟩
      rw [List.map_eq_nil_iff.mp htexts.symm]
      rfl
  | cons arg rest ih =>
    constructor
    · intro h
      simp only [concatenate] at h
      split at h
      · cases h
      · next first hfirst =>
        split at h
        · cases h
        · next more hmore =>
          obtain ⟨texts, htexts, rfl⟩ := ih.mp hmore
          refine ⟨first :: texts, ?_, ?_⟩
          · rw [List.map_cons, List.map_cons, readFile_eq_ok_iff.mp hfirst, htexts]
          · rw [String.join_cons, Except.ok.inj h]
    · rintro ⟨_ | ⟨first, texts⟩, htexts, rfl⟩
      · exact absurd htexts (List.cons_ne_nil _ _)
      · obtain ⟨hfirst, hrest⟩ := List.cons.inj htexts
        simp only [concatenate, readFile_eq_ok_iff.mpr hfirst, ih.mpr ⟨texts, hrest, rfl⟩,
          String.join_cons]

/-- Arguments of which one cannot be read come to what the first such one comes
to. -/
theorem concatenate_eq_error {args : List String} {e : ShellError}
    (h : concatenate s args = .error e) :
    ∃ before arg later, args = before ++ arg :: later ∧
      (∀ x ∈ before, ∃ text, readFile s x = .ok text) ∧ readFile s arg = .error e := by
  induction args with
  | nil => cases h
  | cons arg rest ih =>
    simp only [concatenate] at h
    split at h
    · next hfirst =>
      refine ⟨[], arg, rest, rfl, by simp, ?_⟩
      rw [hfirst, Except.error.inj h]
    · next text hfirst =>
      split at h
      · next hrest =>
        -- This argument can be read, so the error is one of the others.
        have hlater : concatenate s rest = .error e :=
          hrest.trans (congrArg _ (Except.error.inj h))
        obtain ⟨before, first, later, rfl, hbefore, he⟩ := ih hlater
        refine ⟨arg :: before, first, later, rfl, ?_, he⟩
        intro x hx
        rcases List.mem_cons.mp hx with rfl | hin
        · exact ⟨text, hfirst⟩
        · exact hbefore x hin
      · cases h

theorem exists_concatenate_eq_ok_iff {args : List String} :
    (∃ text, concatenate s args = .ok text) ↔
      ∀ arg ∈ args, ∃ text, s.root.lookup? (s.resolve arg) = some (.file text) := by
  constructor
  · rintro ⟨text, htext⟩ arg harg
    obtain ⟨texts, htexts, _⟩ := concatenate_eq_ok_iff.mp htext
    have hin := List.mem_map_of_mem (f := fun arg => s.root.lookup? (s.resolve arg)) harg
    rw [htexts] at hin
    obtain ⟨found, _, hfound⟩ := List.mem_map.mp hin
    exact ⟨found, hfound.symm⟩
  · intro hfiles
    cases hargs : concatenate s args with
    | ok text => exact ⟨text, rfl⟩
    | error e =>
      obtain ⟨before, arg, later, rfl, _, harg⟩ := concatenate_eq_error hargs
      obtain ⟨text, htext⟩ := hfiles arg (by simp)
      rw [readFile_eq_ok_iff.mpr htext] at harg
      nomatch harg

/-- Two rows of arguments can be read together only if each can be read alone. -/
theorem concatenate_append_eq_error {xs ys : List String}
    (h : ¬((∃ front, concatenate s xs = .ok front) ∧ ∃ back, concatenate s ys = .ok back)) :
    ∃ e, concatenate s (xs ++ ys) = .error e := by
  cases hboth : concatenate s (xs ++ ys) with
  | error e => exact ⟨e, rfl⟩
  | ok text =>
    have hfiles := exists_concatenate_eq_ok_iff.mp ⟨text, hboth⟩
    refine absurd ⟨?_, ?_⟩ h
    · exact exists_concatenate_eq_ok_iff.mpr fun x hx => hfiles x (List.mem_append_left ys hx)
    · exact exists_concatenate_eq_ok_iff.mpr fun y hy => hfiles y (List.mem_append_right xs hy)

/-! ## The built-in -/

theorem run_cat_eq_ok_iff {word text : String} {args : List String} :
    (cat.run (word :: args) s).1 = .ok text ↔ concatenate s args = .ok text := by
  show (concatenate s args).mapError Failure.shell = .ok text ↔ _
  cases concatenate s args with
  | error e => exact ⟨fun h => (nomatch h), fun h => (nomatch h)⟩
  | ok joined =>
    exact ⟨fun h => congrArg _ (Except.ok.inj h), fun h => congrArg _ (Except.ok.inj h)⟩

theorem run_cat_of_error {word : String} {args : List String} {e : ShellError}
    (h : concatenate s args = .error e) : (cat.run (word :: args) s).1 = .error (.shell e) := by
  show (concatenate s args).mapError Failure.shell = _
  rw [h]
  rfl

end Builtin

/-- A line whose `cat` fails is answered like any other line that is told of a shell
error. -/
theorem Session.runAt_cat_fails {Tool : Type} {s : Session Tool} (box : Toolbox Tool)
    (depth : Nat) {line name : String} {args : List String} {e : ShellError}
    (hwords : Text.words line = name :: args) (hfind : s.findProgram name = .ok (.builtin .cat))
    (he : Builtin.concatenate s args = .error e) :
    runAt box depth line s = ((s.remember line).announce name).complain e := by
  let called := (s.remember line).announce name
  have hcalled : Builtin.concatenate called args = .error e := by
    rw [Builtin.concatenate_congr (s := called) (t := s) (fun _ => rfl), he]
  have hcat : Builtin.cat.run (name :: args) called = (.error (.shell e), called) :=
    Prod.ext (Builtin.run_cat_of_error hcalled) rfl
  rw [runAt_found box depth hwords hfind]
  show settle ⟨name :: args, Builtin.cat.run (name :: args) called⟩ = _
  rw [hcat]
  rfl

namespace Builtin

variable {Tool : Type}

/-- `cat` takes a row of arguments to the texts of their files in a row.  If it reads
two rows of arguments it reads both together, and gives the two texts together; if it
fails at one of the two, it fails at both together, with the error with which the
first argument that cannot be read fails by itself.  It reads a row exactly if each
of the arguments leads to a file, and it leaves the session alone.  A line whose
`cat` fails is answered by the message of its error, with the line ended. -/
theorem cat_joins_files (s : Session Tool) (word : String) :
    let read (args : List String) := (cat.run (word :: args) s).1
    (∀ xs ys front back, read xs = .ok front → read ys = .ok back →
      read (xs ++ ys) = .ok (front ++ back)) ∧
    (∀ xs ys, ¬((∃ front, read xs = .ok front) ∧ ∃ back, read ys = .ok back) →
      ∃ before arg later e, xs ++ ys = before ++ arg :: later ∧
        (∀ x ∈ before, ∃ text, read [x] = .ok text) ∧
        Reads s arg (.error e) ∧ read [arg] = .error (.shell e) ∧
        read (xs ++ ys) = .error (.shell e)) ∧
    (∀ args, (∃ text, read args = .ok text) ↔
      ∀ arg ∈ args, ∃ text, s.root.lookup? (s.resolve arg) = some (.file text)) ∧
    (∀ args text, read args = .ok text ↔ ∃ texts : List String,
      args.map (fun arg => s.root.lookup? (s.resolve arg)) =
        texts.map (fun text => some (.file text)) ∧
      text = String.join texts) ∧
    (∀ args, (cat.run (word :: args) s).2 = s) ∧
    ∀ box depth line args, Text.words line = word :: args → s.Means word (.ok (.builtin cat)) →
      (∀ text, read args ≠ .ok text) → ∃ e, read args = .error (.shell e) ∧
        (Session.runAt box depth line s).1 = .ok (e.message ++ "\n") := by
  intro read
  have hread (args : List String) (text : String) :
      read args = .ok text ↔ concatenate s args = .ok text := run_cat_eq_ok_iff
  have hsingle (arg text : String) : read [arg] = .ok text ↔ readFile s arg = .ok text := by
    rw [hread, concatenate_singleton]
  refine ⟨fun xs ys front back hfront hback => ?_, fun xs ys hfails => ?_, fun args => ?_,
    fun args text => (hread args text).trans concatenate_eq_ok_iff, fun _ => rfl,
    fun box depth line args hwords hword hfails => ?_⟩
  · rw [hread] at hfront hback ⊢
    rw [concatenate_append, hfront, hback]
    rfl
  · simp only [hread] at hfails
    obtain ⟨e, he⟩ := concatenate_append_eq_error hfails
    obtain ⟨before, arg, later, hargs, hbefore, harg⟩ := concatenate_eq_error he
    refine ⟨before, arg, later, e, hargs, fun x hx => ?_, harg ▸ reads_readFile s arg, ?_,
      run_cat_of_error he⟩
    · obtain ⟨text, htext⟩ := hbefore x hx
      exact ⟨text, (hsingle x text).mpr htext⟩
    · exact run_cat_of_error ((concatenate_singleton s arg).trans harg)
  · rw [exists_congr fun text => hread args text]
    exact exists_concatenate_eq_ok_iff
  · cases hargs : concatenate s args with
    | ok text => exact absurd ((hread args text).mpr hargs) (hfails text)
    | error e =>
      refine ⟨e, run_cat_of_error hargs, ?_⟩
      rw [Session.runAt_cat_fails box depth hwords (Session.findProgram_of_means hword) hargs]
      rfl

end Builtin
end TreeShell
