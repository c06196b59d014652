/-
Why a line did not end well.

There are three ways.  A shell error is one that the user is told about in its
own words: a path that leads nowhere, a directory where a file was wanted.  A
fault is anything else that goes wrong inside a program; the user reads one
fixed word and the log keeps the kind and the text.  An interrupt is no failure
of the program at all: it asks the whole shell to stop, so a session does not
answer it but hands it on.

What a session hands on instead of answering is an `Escape`.  Shell errors are
always answered; a fault can escape as well, if there is no word left that the
log could name it by.
-/

namespace TreeShell

/-- What the user can be told.  The arguments are kept as they were typed. -/
inductive ShellError where
  | pathNotFound
  | isDirectory (arg : String)
  | isBinary (arg : String)
  | notDirectory (arg : String)
  | notExecutable (arg : String)
  | commandNotFound
  | other (message : String)
deriving DecidableEq

def ShellError.message : ShellError → String
  | .pathNotFound => "No such file or directory"
  | .isDirectory arg => arg ++ " is a directory"
  | .isBinary arg => arg ++ " is a binary file"
  | .notDirectory arg => arg ++ " is not a directory"
  | .notExecutable arg => arg ++ " is not executable"
  | .commandNotFound => "Command not found"
  | .other message => message

/-- What goes wrong inside a program without being meant for the user. -/
inductive Fault where
  /-- A program read an argument that was not given. -/
  | missingArgument
  /-- Programs ran one another deeper than a session allows. -/
  | nestedTooDeep
  /-- A program broke off for a reason of its own. -/
  | other (kind text : String)
deriving DecidableEq

/-- The kind under which the log records a fault. -/
def Fault.kind : Fault → String
  | .missingArgument => "IndexError"
  | .nestedTooDeep => "RecursionError"
  | .other kind _ => kind

def Fault.text : Fault → String
  | .missingArgument => "list index out of range"
  | .nestedTooDeep => "maximum recursion depth exceeded"
  | .other _ text => text

inductive Interrupt where
  | keyboard (text : String)
  | exit (text : String)
deriving DecidableEq

inductive Failure where
  | shell (error : ShellError)
  | fault (fault : Fault)
  | interrupt (interrupt : Interrupt)
deriving DecidableEq

inductive Escape where
  | fault (fault : Fault)
  | interrupt (interrupt : Interrupt)
deriving DecidableEq

/-- How a program fails that had a line run and does not catch what escapes it. -/
def Escape.failure : Escape → Failure
  | fault f => .fault f
  | interrupt i => .interrupt i

end TreeShell
