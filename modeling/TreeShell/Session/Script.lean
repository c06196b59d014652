/-
Scripts: what a tool does to the session that runs it.

A tool is given as a tree of steps.  Each step either reads the session, asks it
to run a line, or changes one of the things that a session remembers, and the
tool goes on depending on what it learned; in the end it answers or fails.  A
tool sees what escapes a line that it asked for and may end because of it or go
on.  Every path through a script is finite, so nothing but lines that call one
another can keep a session busy for ever.

The words of the line are handed to a tool as they are kept by the session, and
not as a copy.  A tool may put others in their place or take all of them away,
and what it has left of them is there when it has ended.
-/
import TreeShell.Session

namespace TreeShell

inductive Script (Tool : Type) where
  /-- Ends with an answer or with a failure. -/
  | finish (result : Except Failure String)
  | observe (next : Session Tool → Script Tool)
  /-- Has the session run a line, and goes on with the line's answer. -/
  | command (line : String) (next : Except Escape String → Script Tool)
  | log (entry : Log.Entry) (next : Script Tool)
  /-- Makes a path the working directory without looking whether there is one. -/
  | enter (path : Path) (next : Script Tool)
  /-- Puts another tree in place of the present one. -/
  | plant (root : Node Tool) (next : Script Tool)
  /-- Puts other words in place of those of the line. -/
  | reword (words : List String) (next : Script Tool)

/-- What every tool does with the words of a line. -/
abbrev Toolbox (Tool : Type) := Tool → List String → Script Tool

/-- The toolbox of a shell that has built-ins only. -/
def Toolbox.none : Toolbox Empty := fun tool => nomatch tool

/-- How a session runs a line. -/
abbrev Runner (Tool : Type) := String → Session Tool → Except Escape String × Session Tool

/-- What is there when a program has ended. -/
structure Ended (Tool : Type) where
  /-- The words of the line as the program has left them. -/
  words : List String
  /-- What the program comes to, and the session after it. -/
  outcome : Except Failure String × Session Tool

/-- Runs a script on the words of a line, given how the session runs the lines
that the script asks for.  Where no further line may be asked for, asking is a
fault. -/
def Script.run {Tool : Type} (nested : Option (Runner Tool)) :
    Script Tool → List String → Session Tool → Ended Tool
  | finish result, words, s => ⟨words, result, s⟩
  | observe next, words, s => (next s).run nested words s
  | command line next, words, s =>
    match nested with
    | none => ⟨words, .error (.fault .nestedTooDeep), s⟩
    | some runLine => (next (runLine line s).1).run nested words (runLine line s).2
  | log entry next, words, s => next.run nested words { s with log := s.log.write entry }
  | enter path next, words, s => next.run nested words { s with cwd := path }
  | plant root next, words, s => next.run nested words { s with root }
  | reword left next, _, s => next.run nested left s

end TreeShell
