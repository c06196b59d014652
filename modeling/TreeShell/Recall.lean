/-
Recall: walking back and forth over the lines that were typed.

A walk stands at a line of the history or, before its first step, at none.  It
knows the history only when it takes a step, so lines that are typed in between
slip in at the front under a walk that stays where it is.
-/

namespace TreeShell

structure Recall where
  /-- How many lines are newer than the one where the walk stands. -/
  position : Option Nat := none
deriving DecidableEq

namespace Recall

def start : Recall := {}

/-- The position as a number: one less than that of the newest line where the
walk stands at none. -/
def index (r : Recall) : Int :=
  match r.position with
  | none => -1
  | some p => p

/-- A step to the next older line.  The oldest line is left by no step, and an
empty history has no line to step to. -/
def older (history : List String) (r : Recall) : Option String × Recall :=
  if history = [] then (none, start)
  else
    let next := match r.position with
      | none => 0
      | some p => p + 1
    let p := min next (history.length - 1)
    (history[p]?, ⟨some p⟩)

/-- A step to the next newer line.  Past the newest line there is an empty one,
which does not count as a place to stand. -/
def newer (history : List String) (r : Recall) : Option String × Recall :=
  match r.position with
  | none => (none, r)
  | some 0 => (some "", r)
  | some (p + 1) => (history[p]?, ⟨some p⟩)

theorem index_start : start.index = -1 := rfl

end Recall
end TreeShell
