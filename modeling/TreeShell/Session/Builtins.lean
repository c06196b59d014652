/-
What the built-ins do to a session.

A built-in gets the words of the line, the first of which is its own name as
typed and is never looked at.  Only `cd` changes the session, and only when it
succeeds; the others read it and answer.  What a built-in answers is raw: ending
the last line is for whoever shows the answer.
-/
import TreeShell.Session

namespace TreeShell
namespace Builtin

variable {Tool : Type}

/-- The text of the file that an argument names.  A refusal names the argument
as it was typed. -/
def readFile (s : Session Tool) (arg : String) : Except ShellError String :=
  match s.lookup (s.resolve arg) with
  | .error e => .error e
  | .ok (.directory _) => .error (.isDirectory arg)
  | .ok (.executable _) => .error (.isBinary arg)
  | .ok (.file text) => .ok text

/-- The texts of several files, one after the other.  The first argument that
cannot be read decides, and then there is no text at all. -/
def concatenate (s : Session Tool) : List String → Except ShellError String
  | [] => .ok ""
  | arg :: rest =>
    match readFile s arg with
    | .error e => .error e
    | .ok text =>
      match concatenate s rest with
      | .error e => .error e
      | .ok more => .ok (text ++ more)

/-- Without an argument the way home needs no tree: a home that is gone can be
gone to. -/
def changeDirectory (s : Session Tool) : List String → Except Failure String × Session Tool
  | [] => (.error (.fault .missingArgument), s)
  | [_] => (.ok "", s.moveTo s.home)
  | _ :: target :: _ =>
    match s.lookup (s.resolve target) with
    | .error e => (.error (.shell e), s)
    | .ok (.directory _) => (.ok "", s.moveTo (s.resolve target))
    | .ok (.file _) => (.error (.shell (.notDirectory target)), s)
    | .ok (.executable _) => (.error (.shell (.notDirectory target)), s)

/-- The names that a directory lists.  Anything else is shown by the text that
was typed for it, and without one that text is a missing argument. -/
def showListing (s : Session Tool) (path : Path) (typed : Option String) :
    Except Failure String :=
  match s.lookup path with
  | .error e => .error (.shell e)
  | .ok (.directory entries) => .ok (Text.joined '\n' (Listing.names entries))
  | .ok (.file _) | .ok (.executable _) =>
    match typed with
    | some text => .ok text
    | none => .error (.fault .missingArgument)

def list (s : Session Tool) : List String → Except Failure String
  | [] => .error (.fault .missingArgument)
  | [_] => showListing s s.cwd none
  | _ :: target :: _ => showListing s (s.resolve target) (some target)

/-- Runs a built-in on the words of a line. -/
def run (b : Builtin) (args : List String) (s : Session Tool) :
    Except Failure String × Session Tool :=
  match b with
  | cat => ((concatenate s args.tail).mapError .shell, s)
  | cd => changeDirectory s args
  | date => (s.clock.map Calendar.Reading.stamp, s)
  | echo => (.ok (Text.joined ' ' args.tail), s)
  | help => (.ok helpText, s)
  | ls => (list s args, s)
  | pwd => (.ok s.cwd.format, s)
  | whoami => (.ok s.user, s)

/-- A built-in other than `cd` leaves the session as it was, however it ends. -/
theorem run_snd_of_ne_cd {b : Builtin} (h : b ≠ cd) (args : List String) (s : Session Tool) :
    (b.run args s).2 = s := by
  cases b <;> first | rfl | exact absurd rfl h

end Builtin
end TreeShell
