/-
The terminal: lines typed one after the other until the input ends.

What a run shows is a value, its transcript, which keeps apart what is written,
the prompts under which lines were asked for, and what the line editor is told:
whether to keep lines by itself, and the lines that it is given to recall.  There
is one prompt more than there are lines, for the line that did not come.
-/
import TreeShell.Session.Command

namespace TreeShell
namespace Terminal

/-- How the input ends. -/
inductive Ending where
  | endOfInput
  | interrupt
deriving DecidableEq

def Ending.text : Ending → String
  | endOfInput => "\n"
  | interrupt => "\nInterrupted.\n"

structure Transcript where
  written : String
  prompts : List String
  /-- The lines given to the line editor, in the order in which they were typed. -/
  kept : List String
  /-- What the line editor was told each time about keeping lines by itself. -/
  keepsByItself : List Bool
deriving DecidableEq

/-- What comes of a line: the run goes on in the shell as it is afterwards, or
it ends. -/
inductive Turn where
  | goesOn (output : String) (after : Shell)
  | ends (text : String)

/-- Runs a line.  An interrupt within it ends the run as one at the prompt does,
and anything else that escapes it, a request to exit above all, ends it in
silence. -/
def turn (line : String) (s : Shell) : Turn :=
  match s.command line with
  | (.ok output, after) => .goesOn output after
  | (.error (.interrupt (.keyboard _)), _) => .ends Ending.interrupt.text
  | (.error _, _) => .ends ""

/-- Runs the lines one after the other.  The line editor is given the line that
the session remembers as its latest one. -/
def converse (ending : Ending) : List String → Shell → Transcript
  | [], s => { written := ending.text, prompts := [s.prompt], kept := [], keepsByItself := [] }
  | line :: rest, s =>
    match turn line s with
    | .goesOn output after =>
      let t := converse ending rest after
      { t with
        written := output ++ t.written
        prompts := s.prompt :: t.prompts
        kept := after.history.take 1 ++ t.kept }
    | .ends text => { written := text, prompts := [s.prompt], kept := [], keepsByItself := [] }

/-- A whole run: the session is configured by the environment, and nothing is
written if that is refused.  The line editor is told to keep no line by itself
before the first one is asked for. -/
def run (environment : Listing String) (clock : Calendar.Reading) (lines : List String)
    (ending : Ending) : Except InvalidUser Transcript :=
  (Config.ofEnvironment environment).map fun config =>
    let t := converse ending lines (Session.start config Registry.standard (.ok clock))
    { t with
      written := Session.welcome ++ t.written
      keepsByItself := false :: t.keepsByItself }

end Terminal
end TreeShell
