/-
The web application: one session for every page that is open.

Reading the index opens a page: it starts a session, keeps it under the next
token and gives the token to the browser, which names it in every later request.
Only the newest pages are kept, as many as the limit says; using a page does not
make it newer.  A request that names no page that is kept is refused and changes
nothing, and a request that names one touches no other.

The application is a value, and answering a request gives the application as it
is afterwards, so a run of requests is a fold.
-/
import TreeShell.Recall
import TreeShell.Session.Command
import TreeShell.Web.Request

namespace TreeShell
namespace Web

/-- An open page: its shell, and where the user stands in its history. -/
structure Tab where
  shell : Shell
  recalled : Recall

structure App where
  config : Config
  /-- What the clock of every new session reads. -/
  clock : Calendar.Reading
  /-- How many pages are kept.  A negative limit is one that nothing meets. -/
  limit : Int
  /-- The token of each page, by the number of pages opened before it. -/
  tokens : Nat → String
  opened : Nat := 0
  /-- The pages that are kept, the oldest first. -/
  tabs : Listing Tab := []

namespace App

def defaultLimit : Int := 256

/-- An application whose configuration is in the environment. -/
def ofEnvironment (environment : Listing String) (clock : Calendar.Reading) (limit : Int)
    (tokens : Nat → String) : Except InvalidUser App :=
  (Config.ofEnvironment environment).map fun config => { config, clock, limit, tokens }

def newTab (app : App) : Tab where
  shell := Session.start app.config Registry.standard (.ok app.clock)
  recalled := Recall.start

/-- Opens a page and drops the oldest ones over the limit.  No number of pages
meets a negative limit: all of them are dropped and the request breaks off. -/
def openPage (app : App) : Response × App :=
  let token := app.tokens app.opened
  let tabs := app.tabs.put token app.newTab
  let app := { app with opened := app.opened + 1 }
  if app.limit < 0 then (.brokenOff, { app with tabs := [] })
  else
    (.ofPage ⟨token, Session.welcome⟩,
      { app with tabs := tabs.drop (tabs.length - app.limit.toNat) })

/-- The page that is kept under a token. -/
def tab? (app : App) (token : Option String) : Option (String × Tab) :=
  token.bind fun t => (app.tabs.get? t).map fun tab => (t, tab)

def keep (app : App) (token : String) (tab : Tab) : App :=
  { app with tabs := app.tabs.put token tab }

/-- Runs a line on a page.  The user then stands at no line of the history. -/
def execute (app : App) (request : Request) : Response × App :=
  match request.members?.bind (Listing.get? · "command") with
  | none => (.noCommand, app)
  | some (.string line) =>
    match app.tab? request.bodyToken? with
    | none => (.noSession, app)
    | some (token, tab) =>
      match tab.shell.command line with
      | (.ok output, shell) =>
        (.ofJson 200 [("output", .string output)], app.keep token ⟨shell, Recall.start⟩)
      | (.error _, shell) => (.brokenOff, app.keep token { tab with shell })
  | some _ => (.commandNotText, app)

/-- Takes a step through the history of a page. -/
def walk (step : List String → Recall → Option String × Recall) (app : App) (request : Request) :
    Response × App :=
  match app.tab? request.bodyToken? with
  | none => (.noSession, app)
  | some (token, tab) =>
    let (line, recalled) := step tab.shell.history tab.recalled
    (.ofJson 200 [("value", (line.map Json.string).getD .null)],
      app.keep token { tab with recalled })

/-- Answers a request by its body, unless the body breaks it off. -/
def post (answer : App → Request → Response × App) (app : App) (request : Request) :
    Response × App :=
  if request.TooDeep then (.brokenOff, app) else answer app request

/-- Answers a request that only reads a page. -/
def read (answer : Tab → Response) (app : App) (request : Request) : Response × App :=
  match app.tab? request.queryToken? with
  | none => (.noSession, app)
  | some (_, tab) => (answer tab, app)

def welcome (_ : Tab) : Response := .ofJson 200 [("output", .string Session.welcome)]

def history (tab : Tab) : Response :=
  .ofJson 200 [("history", .array (tab.shell.history.map .string))]

/-- What a route does when it is used by its own method.  There are no files. -/
def serve (route : Route) (app : App) (request : Request) : Response × App :=
  match route with
  | .index => app.openPage
  | .welcome => app.read welcome request
  | .execute => app.post execute request
  | .history => app.read history request
  | .older => app.post (walk Recall.older) request
  | .newer => app.post (walk Recall.newer) request
  | .file => (.notFound, app)

/-- Answers a request.  Asking for the head alone does everything that reading
does, and asking for the methods does nothing. -/
def handle (app : App) (request : Request) : Response × App :=
  match request.destination with
  | .nowhere => (.notFound, app)
  | .moved => (.moved, app)
  | .badMethod route => (.badMethod route, app)
  | .badAddress => (.badAddress, app)
  | .route route =>
    if request.verb = .options then (.options route, app)
    else if request.headOnly then
      let (response, app) := app.serve route request
      (response.headOnly, app)
    else app.serve route request

/-- The application after a run of requests. -/
def run (app : App) (requests : List Request) : App :=
  requests.foldl (fun app request => (app.handle request).2) app

/-- The answers to a run of requests. -/
def answers (app : App) : List Request → List Response
  | [] => []
  | request :: rest => (app.handle request).1 :: (app.handle request).2.answers rest

end App

/-- An application that is served by itself. -/
structure Serving where
  app : App
  /-- Whether whoever uses it is shown what went wrong. -/
  debug : Bool
  port : Nat

/-- Serves the application of an environment to whoever develops it. -/
def Serving.start (environment : Listing String) (clock : Calendar.Reading)
    (tokens : Nat → String) : Except InvalidUser Serving :=
  (App.ofEnvironment environment clock App.defaultLimit tokens).map fun app =>
    { app, debug := true, port := 8080 }

end Web
end TreeShell
