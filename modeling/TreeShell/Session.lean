/-
A session: one shell and everything it remembers.

What does not change while lines are typed is the configuration and the
registry; what does are the tree, the working directory, the history and the
log.  The clock is held as its present reading, or as the failure that reading
it gives, so that a session is a value and what `date` shows is part of it.

The programs that are not built in have a type of their own, `Tool`.  A session
whose `Tool` has no members can run nothing but built-ins.
-/
import TreeShell.Calendar.Reading
import TreeShell.Failure
import TreeShell.Log
import TreeShell.Seed

namespace TreeShell

structure Session (Tool : Type) where
  config : Config
  registry : Registry Tool
  clock : Except Failure Calendar.Reading
  root : Node Tool
  cwd : Path
  /-- Every line that was typed, the latest one first. -/
  history : List String
  log : Log

namespace Session

variable {Tool : Type}

def user (s : Session Tool) : String := s.config.user

def home (s : Session Tool) : Path := s.config.home

/-- Adds an entry to the log in the user's name. -/
def note (s : Session Tool) (level : Log.Level) (source message : String) : Session Tool :=
  { s with log := s.log.write ⟨level, message, source, s.user⟩ }

/-- A new session is at home in a seed tree, and its log says that it started. -/
def start (config : Config) (registry : Registry Tool) (clock : Except Failure Calendar.Reading) :
    Session Tool :=
  let fresh : Session Tool :=
    { config, registry, clock, root := Seed.tree config registry, cwd := config.home,
      history := [], log := [] }
  fresh.note .info "shell" ("Session started for " ++ config.user)

def welcome : String := "Welcome! Type \"help\" to see a list of commands\n"

/-- What the terminal shows before the place where a line is typed. -/
def prompt (s : Session Tool) : String :=
  s.user ++ "@" ++ s.config.hostname ++ ":" ++ s.cwd.format ++ " $ "

def resolve (s : Session Tool) (text : String) : Path := Path.resolve text s.cwd s.home

def lookup (s : Session Tool) (path : Path) : Except ShellError (Node Tool) :=
  match s.root.lookup? path with
  | none => .error .pathNotFound
  | some node => .ok node

/-- Makes a path the working directory and says so in the log.  That there is a
directory is for the caller to know. -/
def moveTo (s : Session Tool) (path : Path) : Session Tool :=
  { s with cwd := path }.note .debug "cd" ("cwd -> " ++ path.format)

/-! ## What a note touches

A note is an entry at the end of the log and nothing else. -/

@[simp] theorem note_log (s : Session Tool) (level : Log.Level) (source message : String) :
    (s.note level source message).log = s.log ++ [⟨level, message, source, s.user⟩] := rfl

@[simp] theorem note_cwd (s : Session Tool) (level : Log.Level) (source message : String) :
    (s.note level source message).cwd = s.cwd := rfl

@[simp] theorem note_root (s : Session Tool) (level : Log.Level) (source message : String) :
    (s.note level source message).root = s.root := rfl

@[simp] theorem note_history (s : Session Tool) (level : Log.Level) (source message : String) :
    (s.note level source message).history = s.history := rfl

@[simp] theorem note_config (s : Session Tool) (level : Log.Level) (source message : String) :
    (s.note level source message).config = s.config := rfl

@[simp] theorem note_registry (s : Session Tool) (level : Log.Level) (source message : String) :
    (s.note level source message).registry = s.registry := rfl

@[simp] theorem note_clock (s : Session Tool) (level : Log.Level) (source message : String) :
    (s.note level source message).clock = s.clock := rfl

theorem lookup_eq_ok_iff {s : Session Tool} {path : Path} {node : Node Tool} :
    s.lookup path = .ok node ↔ s.root.lookup? path = some node := by
  unfold lookup
  cases s.root.lookup? path <;> simp

end Session
end TreeShell
