/-
Texts quoted for a message.

A quoted text stands between two quote marks on one line, and every character of
it is readable: the mark in use and the backslash have a backslash before them,
the tab and the two line ends have letters, and any other character that is not
printable is written by its code point in the shortest of the three forms that
has room for it.
-/
import TreeShell.Text.Digits
import TreeShell.Text.Printable

namespace TreeShell
namespace Text

/-- Single marks, unless the text holds a single mark and no double one: then
double marks leave nothing to escape. -/
def quoteMark (text : String) : Char :=
  if '\'' ∈ text.toList ∧ '"' ∉ text.toList then '"' else '\''

def escapeCode (code : Nat) : List Char :=
  if code < 0x100 then '\\' :: 'x' :: digits 16 2 code
  else if code < 0x10000 then '\\' :: 'u' :: digits 16 4 code
  else '\\' :: 'U' :: digits 16 8 code

def escape (mark c : Char) : List Char :=
  if c = mark ∨ c = '\\' then ['\\', c]
  else if c = '\t' then ['\\', 't']
  else if c = '\n' then ['\\', 'n']
  else if c = '\r' then ['\\', 'r']
  else if isPrintable c then [c]
  else escapeCode c.toNat

def quote (text : String) : String :=
  let mark := quoteMark text
  String.ofList (mark :: text.toList.flatMap (escape mark) ++ [mark])

end Text
end TreeShell
