/-
The program: a terminal shell on the standard input and output.

The session is configured by the environment.  Each line is run under the clock
as it reads when the line has been typed.
-/
import Std.Time.Zoned
import TreeShell.Terminal

namespace TreeShell
namespace Console

/-- The local time. -/
def now : IO Calendar.Reading := do
  let time ← Std.Time.DateTime.now
  return {
    date := ⟨time.year.toInt.toNat, time.month.val.toNat, time.day.val.toNat⟩
    hour := time.hour.val.toNat
    minute := time.minute.val.toNat
    second := time.second.val.toNat
    microsecond := time.nanosecond.val.toNat / 1000
    offset := some (time.offset.second.val * 1000000) }

/-- The variables of the environment that a configuration asks for. -/
def environment : IO (Listing String) :=
  Config.variableNames.filterMapM fun name => do
    return (← IO.getEnv name).map fun value => (name, value)

def withoutLineEnd (typed : String) : String :=
  if typed.toList.getLast? = some '\n' then String.ofList typed.toList.dropLast else typed

partial def loop (input output : IO.FS.Stream) (s : Shell) : IO Unit := do
  output.putStr s.prompt
  output.flush
  let typed ← input.getLine
  if typed.isEmpty then
    output.putStr Terminal.Ending.endOfInput.text
  else
    match Terminal.turn (withoutLineEnd typed) { s with clock := .ok (← now) } with
    | .goesOn text after =>
      output.putStr text
      loop input output after
    | .ends text => output.putStr text

end Console
end TreeShell

def main : IO UInt32 := do
  match TreeShell.Config.ofEnvironment (← TreeShell.Console.environment) with
  | .error e =>
    (← IO.getStderr).putStrLn e.message
    return 1
  | .ok config =>
    let output ← IO.getStdout
    output.putStr TreeShell.Session.welcome
    let session := TreeShell.Session.start config TreeShell.Registry.standard
      (.ok (← TreeShell.Console.now))
    TreeShell.Console.loop (← IO.getStdin) output session
    return 0
