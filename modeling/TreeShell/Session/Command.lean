/-
Running a line.

A line is first written into the history, whatever becomes of it.  Its first
word names a program: a registered name, or else, if the word has a slash, an
executable of the tree.  The program runs on all the words.  What the user gets
is its answer, the message of a shell error, or one fixed word for a fault; an
interrupt is handed on instead of answered.

The log tells of a fault under the first word of the line.  That word is looked
for when the program has ended, among those that the program has left, so that
it need not be the one that the program was found by; and if none is left,
looking for it is a fault itself, which nobody answers.

A tool may ask for further lines, and these are run in the same way, one level
deeper.  `runAt` counts the levels that are left.  How many there are to begin
with is up to the machine, and a shell without tools needs none.
-/
import TreeShell.Session.Builtins
import TreeShell.Session.Script

namespace TreeShell
namespace Session

variable {Tool : Type}

/-- The program that the first word of a line means. -/
def findProgram (s : Session Tool) (name : String) : Except ShellError (Program Tool) :=
  match s.registry.find? name with
  | some program => .ok program
  | none =>
    if '/' ∈ name.toList then
      match s.lookup (s.resolve name) with
      | .error e => .error e
      | .ok (.executable program) => .ok program
      | .ok (.directory _) | .ok (.file _) => .error (.notExecutable name)
    else .error .commandNotFound

/-- Tells the user about a shell error and the log as well. -/
def complain (s : Session Tool) (e : ShellError) : Except Escape String × Session Tool :=
  (.ok (e.message ++ "\n"), s.note .warning "shell" e.message)

/-- What a line gives back, once its program has ended. -/
def settle : Ended Tool → Except Escape String × Session Tool
  | ⟨_, .ok output, s⟩ => (.ok (Text.endLine output), s)
  | ⟨_, .error (.shell e), s⟩ => s.complain e
  | ⟨[], .error (.fault _), s⟩ => (.error (.fault .missingArgument), s)
  | ⟨word :: _, .error (.fault f), s⟩ =>
    (.ok "Error\n", s.note .error "shell" (word ++ " failed: " ++ f.kind ++ ": " ++ f.text))
  | ⟨_, .error (.interrupt i), s⟩ => (.error (.interrupt i), s)

end Session

namespace Program

variable {Tool : Type}

/-- Runs a program on the words of a line.  A built-in leaves them as they are. -/
def run (box : Toolbox Tool) (nested : Option (Runner Tool)) (program : Program Tool)
    (args : List String) (s : Session Tool) : Ended Tool :=
  match program with
  | builtin b => ⟨args, b.run args s⟩
  | tool t => (box t args).run nested args s

end Program

namespace Session

variable {Tool : Type}

/-- Runs the words of a line: none at all do nothing. -/
def dispatch (box : Toolbox Tool) (nested : Option (Runner Tool)) (words : List String)
    (s : Session Tool) : Except Escape String × Session Tool :=
  match words with
  | [] => (.ok "", s)
  | name :: rest =>
    match s.findProgram name with
    | .error e => s.complain e
    | .ok program =>
      settle (program.run box nested (name :: rest) (s.note .debug "shell" ("exec " ++ name)))

/-- Runs a line below which at most `depth` further lines may be nested. -/
def runAt (box : Toolbox Tool) (depth : Nat) : Runner Tool := fun line s =>
  dispatch box
    (match depth with
    | 0 => none
    | depth + 1 => some (runAt box depth))
    (Text.words line) { s with history := line :: s.history }

theorem runAt_zero (box : Toolbox Tool) (line : String) (s : Session Tool) :
    runAt box 0 line s =
      dispatch box none (Text.words line) { s with history := line :: s.history } := by
  rw [runAt]

theorem runAt_succ (box : Toolbox Tool) (depth : Nat) (line : String) (s : Session Tool) :
    runAt box (depth + 1) line s =
      dispatch box (some (runAt box depth)) (Text.words line)
        { s with history := line :: s.history } := by
  rw [runAt]

end Session

/-- A shell with nothing but built-ins. -/
abbrev Shell := Session Empty

/-- Runs a line of a shell that has no tools.  Nothing asks for a further line
there, so no level is needed below it. -/
def Session.command (line : String) (s : Shell) : Except Escape String × Shell :=
  runAt Toolbox.none 0 line s

end TreeShell
