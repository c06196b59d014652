/-
The programs that every shell brings along.

A built-in is known by its name, and the order of `Builtin.all` is the order in
which a standard shell lists them.  What each does to a session is in
`TreeShell.Session.Builtins`; here is only what can be said without one.
-/
import TreeShell.Text.Pieces

namespace TreeShell

inductive Builtin where
  | cat
  | cd
  | date
  | echo
  | help
  | ls
  | pwd
  | whoami
deriving DecidableEq

namespace Builtin

def all : List Builtin := [cat, cd, date, echo, help, ls, pwd, whoami]

def name : Builtin → String
  | cat => "cat"
  | cd => "cd"
  | date => "date"
  | echo => "echo"
  | help => "help"
  | ls => "ls"
  | pwd => "pwd"
  | whoami => "whoami"

def ofName? (name : String) : Option Builtin := all.find? (·.name = name)

def summary : Builtin → String
  | cat => "Output the contents of a file"
  | cd => "Change directory"
  | date => "Shows the current date"
  | echo => "Outputs whatever is given to it"
  | help => "Display this help dialog"
  | ls => "List a directory"
  | pwd => "Display current directory"
  | whoami => "Shows your username"

/-- A name and what it does; the names are padded to the longest of them. -/
def helpLine (b : Builtin) : String :=
  b.name ++ String.ofList (List.replicate (6 - b.name.length) ' ') ++ " - " ++ b.summary

def helpText : String := Text.joined '\n' (all.map helpLine)

theorem mem_all (b : Builtin) : b ∈ all := by
  cases b <;> decide

theorem ofName?_name (b : Builtin) : ofName? b.name = some b := by
  cases b <;> decide

end Builtin

/-- What an executable holds: a built-in, or one of the tools that are installed
beside them.  In a shell without any, `Tool` has no members. -/
inductive Program (Tool : Type) where
  | builtin (b : Builtin)
  | tool (t : Tool)
deriving DecidableEq

end TreeShell
