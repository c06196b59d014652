/-
The places that a request can lead to.

Six routes are known by their whole path, letter for letter, and one by how its
path begins: the files that a page may ask for.  A route is either read or
posted to, which fixes the methods that it knows.  A request that leads to no
route, or to one by a method that the route does not know, is answered without
the application.
-/
import TreeShell.Text.Capital

namespace TreeShell
namespace Web

inductive Method where
  | get
  | head
  | options
  | post
  | other (name : String)
deriving DecidableEq

namespace Method

/-- The case of the letters does not matter. -/
def ofName (name : String) : Method :=
  let capitalized := Text.capitalized name
  if capitalized = "GET" then get
  else if capitalized = "HEAD" then head
  else if capitalized = "OPTIONS" then options
  else if capitalized = "POST" then post
  else other capitalized

def name : Method → String
  | get => "GET"
  | head => "HEAD"
  | options => "OPTIONS"
  | post => "POST"
  | other name => name

end Method

inductive Route where
  | index
  | welcome
  | execute
  | history
  | older
  | newer
  | file
deriving DecidableEq

namespace Route

def all : List Route := [index, welcome, execute, history, older, newer, file]

/-- The path of a route, or the beginning of the paths of the files. -/
def path : Route → String
  | index => "/"
  | welcome => "/api/welcome"
  | execute => "/api/execute"
  | history => "/api/history"
  | older => "/api/history/older"
  | newer => "/api/history/newer"
  | file => "/static/"

/-- The methods of a route, in the order of their names.  A route that is read
answers the question for its head alone, too. -/
def methods : Route → List Method
  | index | welcome | history | file => [.get, .head, .options]
  | execute | older | newer => [.options, .post]

end Route

inductive Destination where
  | route (route : Route)
  /-- The path is one of another spelling. -/
  | moved
  /-- The route does not know the method. -/
  | badMethod (route : Route)
  /-- The server has no such name, or the route is not for sockets. -/
  | badAddress
  | nowhere
deriving DecidableEq

end Web
end TreeShell
