/-
What a reader selects from a log.

A log is what was written, entry behind entry, and a selection is the log without
the entries that fail a criterion: `select_takes_exactly`.  It names the places of
the log whose entries are taken, so that nothing is moved and nothing that was
written twice is taken once.  A criterion that is not given is met by every entry.
So is the lowest level, but not the empty source, which is a source like any other.

Both criteria can be met one after the other.  To ask for a higher level is then to
select once more from what was selected, and to write more is to have more selected
behind it.
-/
import Mathlib.Data.List.FinRange
import TreeShell.Log

namespace TreeShell
namespace Log

variable {least : Option Level} {source : Option String}

/-! ## Criteria -/

theorem Entry.selected_iff {e : Entry} :
    e.selected least source = true ↔
      (∀ l ∈ least, l ≤ e.level) ∧ ∀ name ∈ source, name = e.source := by
  simp only [Entry.selected, Bool.and_eq_true, Option.all_eq_true, decide_eq_true_eq]
  rfl

/-- The two criteria have nothing to do with each other. -/
theorem Entry.selected_eq_and (least : Option Level) (source : Option String) (e : Entry) :
    e.selected least source = (e.selected least none && e.selected none source) := by
  simp only [Entry.selected, Option.all_none, Bool.and_true, Bool.true_and]

theorem Entry.selected_debug (source : Option String) (e : Entry) :
    e.selected (some .debug) source = e.selected none source := by
  have hlowest : decide (Level.debug ≤ e.level) = true := decide_eq_true (Level.debug_le e.level)
  simp only [Entry.selected, Option.all_some, Option.all_none, hlowest]

/-- What meets a level meets every lower one. -/
theorem Entry.selected_of_higher {higher : Level} (h : ∀ l ∈ least, l ≤ higher) {e : Entry}
    (he : e.selected (some higher) none = true) : e.selected least none = true := by
  obtain ⟨hlevel, _⟩ := selected_iff.mp he
  exact selected_iff.mpr
    ⟨fun l hl => Level.le_trans (h l hl) (hlevel higher rfl), fun _ hname => nomatch hname⟩

/-! ## Writing -/

theorem foldl_write (log : Log) (entries : List Entry) :
    entries.foldl write log = log ++ entries := by
  induction entries generalizing log with
  | nil => exact (List.append_nil log).symm
  | cons e rest ih => rw [List.foldl_cons, ih, write, List.append_assoc, List.singleton_append]

/-! ## Places -/

/-- Where the entries stand that meet the criteria, the earliest first. -/
def places (log : Log) (least : Option Level) (source : Option String) :
    List (Fin log.length) :=
  (List.finRange log.length).filter fun i => log[i].selected least source

theorem places_ascending (log : Log) (least : Option Level) (source : Option String) :
    (log.places least source).Pairwise (· < ·) :=
  (List.pairwise_lt_finRange log.length).filter _

theorem mem_places_iff {log : Log} {i : Fin log.length} :
    i ∈ log.places least source ↔ log[i].selected least source = true := by
  rw [places, List.mem_filter]
  exact and_iff_right (List.mem_finRange i)

theorem select_eq_map_places (log : Log) (least : Option Level) (source : Option String) :
    log.select least source = (log.places least source).map log.get := by
  have hlog : log = (List.finRange log.length).map log.get := (List.map_get_finRange log).symm
  calc log.select least source
      = ((List.finRange log.length).map log.get).filter (Entry.selected least source) := by
        rw [← hlog, select]
    _ = (log.places least source).map log.get := List.filter_map

/-! ## Selecting from a selection -/

/-- To select from a selection is to select once, by criteria that an entry meets
where it meets all of those. -/
theorem select_select {first second both : Option Level} {near far name : Option String}
    (h : ∀ e : Entry, (e.selected second far && e.selected first near) = e.selected both name)
    (log : Log) : Log.select (log.select first near) second far = log.select both name := by
  rw [select, select, List.filter_filter]
  exact List.filter_congr fun e _ => h e

theorem select_by_level_first (log : Log) (least : Option Level) (source : Option String) :
    Log.select (log.select least none) none source = log.select least source := by
  refine select_select (fun e => ?_) log
  rw [Entry.selected_eq_and least source, Bool.and_comm]

theorem select_by_source_first (log : Log) (least : Option Level) (source : Option String) :
    Log.select (log.select none source) least none = log.select least source :=
  select_select (fun e => (Entry.selected_eq_and least source e).symm) log

/-- The entries of a higher level are found among those of the lower one. -/
theorem select_higher {higher : Level} (h : ∀ l ∈ least, l ≤ higher) (log : Log)
    (source : Option String) :
    Log.select (log.select least source) (some higher) none = log.select (some higher) source := by
  refine select_select (fun e => ?_) log
  rw [Entry.selected_eq_and least source, Entry.selected_eq_and (some higher) source]
  cases hhigher : e.selected (some higher) none with
  | false => rfl
  | true => rw [Entry.selected_of_higher h hhigher, Bool.true_and]

/-- A selection takes the entries at some places of what was written, in the order
of these places, and they are the places of all entries that are of the least level
or above it and from the source, as far as a level and a source are asked for.

Without criteria everything is taken.  One criterion after the other, in either
order, is both at once; a higher level takes some of what a lower one takes, in the
same order; and what is written later has its own selection put behind the one
before. -/
theorem select_takes_exactly (written further : List Entry) (least : Option Level)
    (source : Option String) :
    let log : Log := written.foldl write []
    (∃ places : List (Fin written.length), places.Pairwise (· < ·) ∧
      (∀ i, i ∈ places ↔
        (∀ l ∈ least, l ≤ written[i].level) ∧ ∀ name ∈ source, name = written[i].source) ∧
      log.select least source = places.map written.get) ∧
    log.select none none = written ∧
    log.select (some .debug) source = log.select none source ∧
    Log.select (log.select least none) none source = log.select least source ∧
    Log.select (log.select none source) least none = log.select least source ∧
    (∀ higher, (∀ l ∈ least, l ≤ higher) →
      List.Sublist (log.select (some higher) source) (log.select least source)) ∧
    Log.select (further.foldl write log) least source =
      log.select least source ++ Log.select (further.foldl write []) least source := by
  intro log
  have hlog : log = written := foldl_write [] written
  have hfurther : further.foldl write [] = further := foldl_write [] further
  refine ⟨?_, ?_, ?_, select_by_level_first log least source,
    select_by_source_first log least source, fun higher hhigher => ?_, ?_⟩
  · rw [hlog]
    exact ⟨places written least source, places_ascending written least source,
      fun i => mem_places_iff.trans Entry.selected_iff, select_eq_map_places written least source⟩
  · rw [hlog]
    exact List.filter_true written
  · exact List.filter_congr fun e _ => Entry.selected_debug source e
  · rw [← select_higher hhigher log source]
    exact List.filter_sublist
  · rw [foldl_write log further, hfurther, select_append]

/-- An entry without a source that is written twice, and a third time later. -/
theorem select_takes_exactly_twice :
    let odd : Entry := ⟨.warning, "odd", "", "nick"⟩
    let written : List Entry :=
      [⟨.info, "Session started for nick", "shell", "nick"⟩, odd, ⟨.debug, "quiet", "", ""⟩, odd,
        ⟨.error, "ls failed", "shell", "nick"⟩]
    let log : Log := written.foldl write []
    (∀ l ∈ some Level.info, l ≤ .warning) ∧
      List.Sublist (log.select (some .warning) (some "")) (log.select (some .info) (some "")) ∧
      Log.select ([odd].foldl write log) (some .info) (some "") = [odd, odd, odd] := by
  intro odd written log
  have hhigher : ∀ l ∈ some Level.info, l ≤ .warning := by decide
  obtain ⟨_, _, _, _, _, hraise, hgrow⟩ :=
    select_takes_exactly written [odd] (some .info) (some "")
  exact ⟨hhigher, hraise .warning hhigher, hgrow.trans rfl⟩

end Log
end TreeShell
