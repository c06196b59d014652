/-
Readings of a clock, and the text that shows one.

A reading names a day, a time of that day and, if the clock knows it, how far
local time is ahead of universal time.  The stamp shows all of that down to the
second; what an offset has below the minute is shown only where there is any.
-/
import TreeShell.Calendar
import TreeShell.Text.Digits

namespace TreeShell
namespace Calendar

structure Reading where
  date : Date
  hour : Nat := 0
  minute : Nat := 0
  second : Nat := 0
  microsecond : Nat := 0
  /-- Microseconds ahead of universal time, if that is known. -/
  offset : Option Int := none
deriving DecidableEq

namespace Reading

/-- Readings that a clock can give: a day with a year of four digits, a time of
that day, and an offset of less than a day. -/
def Valid (r : Reading) : Prop :=
  r.date.Valid ∧ (1000 ≤ r.date.year ∧ r.date.year ≤ 9999) ∧ r.hour < 24 ∧ r.minute < 60 ∧
    r.second < 60 ∧ r.microsecond < 1000000 ∧
    ∀ us ∈ r.offset, us.natAbs < 24 * 60 * 60 * 1000000

instance (r : Reading) : Decidable r.Valid :=
  have : Decidable (∀ us ∈ r.offset, us.natAbs < 24 * 60 * 60 * 1000000) :=
    match r.offset with
    | none => isTrue (by simp)
    | some us => decidable_of_iff (us.natAbs < 24 * 60 * 60 * 1000000) (by simp)
  inferInstanceAs (Decidable (_ ∧ _ ∧ _ ∧ _ ∧ _ ∧ _ ∧ _))

end Reading

/-- An offset has one sign, and hours and minutes always; seconds follow only if
there is anything below the minute, microseconds only if there are any. -/
def offsetText (us : Int) : String :=
  let seconds := us.natAbs / 1000000
  let micro := us.natAbs % 1000000
  (if us < 0 then "-" else "+") ++ Text.decimal 2 (seconds / 3600) ++
    Text.decimal 2 (seconds / 60 % 60) ++
    (if seconds % 60 = 0 ∧ micro = 0 then "" else Text.decimal 2 (seconds % 60)) ++
    (if micro = 0 then "" else "." ++ Text.decimal 6 micro)

namespace Reading

def time (r : Reading) : String :=
  Text.decimal 2 r.hour ++ ":" ++ Text.decimal 2 r.minute ++ ":" ++ Text.decimal 2 r.second

/-- The line that shows a reading.  A clock without an offset leaves its place
empty. -/
def stamp (r : Reading) : String :=
  r.date.weekday.name ++ " " ++ monthName r.date.month ++ " " ++ Text.decimal 2 r.date.day ++ " " ++
    Text.decimal 4 r.date.year ++ " " ++ r.time ++ " GMT" ++
    (match r.offset with
    | none => ""
    | some us => offsetText us)

end Reading
end Calendar
end TreeShell
