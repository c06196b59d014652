/-
Requests as they are sent.

What is sent is a method and an address, and perhaps a body.  The body is read as
JSON only if the request says so by its content type.  `Request.ofSent` makes of
it the request that the application is given.  How many arrays and objects of a
body may be open at once is up to the machine that reads it.
-/
import TreeShell.Json.Octets
import TreeShell.Text.Blank
import TreeShell.Web.Query
import TreeShell.Web.Request
import TreeShell.Web.Routing

namespace TreeShell
namespace Web

structure Sent where
  /-- The method as it is written. -/
  method : String
  address : String
  /-- The query, unless it is written in the address. -/
  query : Option String := none
  contentType : Option String := none
  body : List UInt8 := []

namespace Sent

/-- The content type without its parameters, in lower case. -/
def mediaType (s : Sent) : List Char :=
  let value := (s.contentType.getD "").toList
  (Text.trim (value.takeWhile (· ≠ ';'))).map Char.toLower

def IsJson (s : Sent) : Prop :=
  s.mediaType = "application/json".toList ∨
    ("application/".toList <+: s.mediaType ∧ "+json".toList <:+ s.mediaType)

instance (s : Sent) : Decidable s.IsJson := inferInstanceAs (Decidable (_ ∨ _))

def reading (bodyDepth : Nat) (s : Sent) : Except Json.ReadError Json :=
  if s.IsJson then Json.ofOctets bodyDepth s.body else .error .malformed

def queryToken? (s : Sent) : Option String :=
  let written := s.query.getD (String.ofList (Address.ofText s.address).query)
  Query.value? written "session"

end Sent

/-- What the application is given of what was sent.  Only one spelling asks for the
head alone: in other letters the method is the same, but the body is sent. -/
def Request.ofSent (bodyDepth : Nat) (s : Sent) : Request where
  verb := Method.ofName s.method
  destination := Destination.find (Method.ofName s.method) (Address.ofText s.address)
  headOnly := s.method = Method.head.name
  reading := s.reading bodyDepth
  queryToken? := s.queryToken?
  verb_known := fun _ h => Destination.mem_methods_of_find h
  verb_head := fun h => by
    rw [of_decide_eq_true h]
    decide

end Web
end TreeShell
