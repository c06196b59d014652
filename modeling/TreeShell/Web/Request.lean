/-
What a browser asks and what it is told.

A request comes to the application through a framework, which finds the route for
it and reads what it holds.  What the framework hands over is a `Request`, and
nothing of the application depends on how it was sent.  What is relied on is part
of it, as the laws that stand last.  Any function into `Request` is a framework
therefore, and what is proved of requests holds behind all of them; the one that
serves the program is `Request.ofSent`.

A body is a JSON value or none.  A body that goes too deep to be read is neither:
it breaks the request off.
-/
import TreeShell.Json.Reader
import TreeShell.Web.Page
import TreeShell.Web.Route

namespace TreeShell
namespace Web

structure Request where
  verb : Method
  destination : Destination
  /-- Whether the answer is sent without its body. -/
  headOnly : Bool
  /-- What reading the body comes to, which is malformed if it is no JSON text or
  is not said to be one. -/
  reading : Except Json.ReadError Json
  /-- The session that the query names. -/
  queryToken? : Option String
  /-- A route is reached by the methods that it knows. -/
  verb_known : ∀ route, destination = .route route → verb ∈ route.methods
  /-- No other method leaves out the body. -/
  verb_head : headOnly = true → verb = .head

namespace Request

def json? (r : Request) : Option Json := r.reading.toOption

def readError? (r : Request) : Option Json.ReadError :=
  match r.reading with
  | .ok _ => none
  | .error e => some e

/-- Whether the body goes deeper than it can be read. -/
def TooDeep (r : Request) : Prop := r.readError? = some .tooDeep

instance (r : Request) : Decidable r.TooDeep := inferInstanceAs (Decidable (_ = _))

/-- The members of the body, if it is an object. -/
def members? (r : Request) : Option (Listing Json) :=
  match r.json? with
  | some (.object members) => some members
  | _ => none

/-- The session that the body names. -/
def bodyToken? (r : Request) : Option String :=
  r.members?.bind fun members => (Listing.get? members "session").bind Json.string?

end Request

inductive Body where
  | empty
  | page (page : Page)
  /-- A JSON value, or the announcement of one that is left out. -/
  | json (value : Option Json)

/-- What is left of a body when only the head was asked for. -/
def Body.headOnly : Body → Body
  | json _ => json none
  | _ => empty

structure Response where
  status : Nat
  body : Body := .empty
  /-- The methods that the route knows, where the answer is about them. -/
  allow : Option (List Method) := none

namespace Response

def ofJson (status : Nat) (members : List (String × Json)) : Response :=
  { status, body := .json (some (.object members)) }

def ofPage (page : Page) : Response := { status := 200, body := .page page }

def refusal (status : Nat) (reason : String) : Response :=
  ofJson status [("error", .string reason)]

def noCommand : Response := refusal 400 "Missing 'command' field"

def commandNotText : Response := refusal 400 "'command' must be a string"

def noSession : Response := refusal 404 "Unknown or expired session"

def notFound : Response := { status := 404 }

/-- Sends the request on to another spelling of its path. -/
def moved : Response := { status := 308 }

def badAddress : Response := { status := 400 }

def brokenOff : Response := { status := 500 }

def options (route : Route) : Response := { status := 200, allow := some route.methods }

def badMethod (route : Route) : Response := { status := 405, allow := some route.methods }

def headOnly (r : Response) : Response := { r with body := r.body.headOnly }

end Response
end Web
end TreeShell
