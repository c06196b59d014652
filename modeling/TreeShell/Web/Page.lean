/-
The page that a browser shows.

A page is a terminal: it shows the welcome text, sends every line that is typed
to the application together with the token of its session, and asks for older
and newer lines at the arrow keys.  Only the token and the welcome text differ
from page to page; both are escaped, so that neither can end the place it stands
in.
-/
import TreeShell.Text.Pieces

namespace TreeShell
namespace Web

/-- The five characters that mean something in a page are written by name or by
number. -/
def escapeChar : Char → List Char
  | '&' => "&amp;".toList
  | '<' => "&lt;".toList
  | '>' => "&gt;".toList
  | '\'' => "&#39;".toList
  | '"' => "&#34;".toList
  | c => [c]

def escape (text : String) : String := String.ofList (text.toList.flatMap escapeChar)

structure Page where
  token : String
  welcome : String
deriving DecidableEq

namespace Page

/-- What stands before the body. -/
def head : List String := [
  "<!doctype html>",
  "<html lang=\"en\">",
  "<head>",
  "  <meta charset=\"utf-8\">",
  "  <title>WebShell</title>",
  "  <style>",
  "    body \x7b margin: 0; background: #111; color: #ddd; font: 14px monospace; \x7d",
  "    #terminal \x7b height: 100vh; overflow-y: auto; padding: 8px; box-sizing: border-box; \x7d",
  "    #output \x7b margin: 0; white-space: pre-wrap; \x7d",
  "    #prompt \x7b display: flex; \x7d",
  "    #input \x7b flex: 1; background: transparent; border: 0; color: inherit; font: inherit; outline: none; \x7d",
  "  </style>",
  "</head>"]

/-- The body up to the text that the terminal shows first. -/
def opening (page : Page) : List String := [
  "<body data-session=\"" ++ escape page.token ++ "\">",
  "  <div id=\"terminal\">",
  "    <pre id=\"output\">" ++ escape page.welcome ++ "</pre>"]

/-- The line on which the user types. -/
def input : List String := [
  "    <div id=\"prompt\"><span>$&nbsp;</span><input id=\"input\" autofocus autocomplete=\"off\"></div>",
  "  </div>"]

/-- What the page does with keys, and its end. -/
def script : List String := [
  "  <script>",
  "    const session = document.body.dataset.session;",
  "    const terminal = document.getElementById('terminal');",
  "    const output = document.getElementById('output');",
  "    const input = document.getElementById('input');",
  "",
  "    async function post(url, body) \x7b",
  "      const response = await fetch(url, \x7b",
  "        method: 'POST',",
  "        headers: \x7b'Content-Type': 'application/json'\x7d,",
  "        body: JSON.stringify(Object.assign(\x7bsession: session\x7d, body)),",
  "      \x7d);",
  "      return response.json();",
  "    \x7d",
  "",
  "    terminal.addEventListener('click', () => input.focus());",
  "",
  "    input.addEventListener('keydown', async (e) => \x7b",
  "      if (e.key === 'Enter') \x7b",
  "        const line = input.value;",
  "        input.value = '';",
  "        const data = await post('/api/execute', \x7bcommand: line\x7d);",
  "        output.textContent += '$ ' + line + '\\n' + data.output;",
  "        terminal.scrollTop = terminal.scrollHeight;",
  "      \x7d else if (e.key === 'ArrowUp' || e.key === 'ArrowDown') \x7b",
  "        e.preventDefault();",
  "        const url = e.key === 'ArrowUp' ? '/api/history/older' : '/api/history/newer';",
  "        const data = await post(url);",
  "        if (data.value !== null) \x7b",
  "          input.value = data.value;",
  "        \x7d",
  "      \x7d",
  "    \x7d);",
  "  </script>",
  "</body>",
  "</html>"]

def html (page : Page) : String :=
  Text.joined '\n' (head ++ page.opening ++ input ++ script)

end Page

theorem escape_empty : escape "" = "" := rfl

end Web
end TreeShell
