/-
The log of a session.

Entries are kept in the order in which they were written and are never changed
or dropped.  A reader selects among them by a least level, by a source, or by
both; a criterion that is not given does not select at all, while the lowest
level and the empty source are criteria like any other.
-/

namespace TreeShell
namespace Log

inductive Level where
  | debug
  | info
  | warning
  | error
deriving DecidableEq

namespace Level

def rank : Level → Nat
  | debug => 0
  | info => 1
  | warning => 2
  | error => 3

def name : Level → String
  | debug => "DEBUG"
  | info => "INFO"
  | warning => "WARNING"
  | error => "ERROR"

/-- Levels are ordered by their rank, from the least to the most severe. -/
instance : LE Level := ⟨fun a b => a.rank ≤ b.rank⟩

instance (a b : Level) : Decidable (a ≤ b) := inferInstanceAs (Decidable (a.rank ≤ b.rank))

theorem debug_le (l : Level) : debug ≤ l := Nat.zero_le l.rank

theorem le_trans {a b c : Level} (hab : a ≤ b) (hbc : b ≤ c) : a ≤ c := Nat.le_trans hab hbc

end Level

structure Entry where
  level : Level
  message : String
  /-- The part of the shell that wrote the entry. -/
  source : String
  user : String
deriving DecidableEq

/-- An entry as one line of text.  The user is recorded but not shown. -/
def Entry.text (e : Entry) : String :=
  "[" ++ e.level.name ++ "] " ++ e.source ++ ": " ++ e.message

/-- Whether an entry meets both criteria. -/
def Entry.selected (least : Option Level) (source : Option String) (e : Entry) : Bool :=
  least.all (· ≤ e.level) && source.all (· = e.source)

end Log

abbrev Log := List Log.Entry

/-- Writes an entry behind all that are there. -/
def Log.write (log : Log) (entry : Log.Entry) : Log := log ++ [entry]

def Log.select (log : Log) (least : Option Log.Level) (source : Option String) : List Log.Entry :=
  log.filter (Log.Entry.selected least source)

theorem Log.select_append (log further : Log) (least : Option Log.Level) (source : Option String) :
    Log.select (log ++ further) least source =
      log.select least source ++ further.select least source :=
  List.filter_append ..

end TreeShell
