/-
Finding the route of an address.

A path that leads nowhere may do so because slashes were doubled.  If it leads
to a route with one slash for each two, the request is sent on to that path
instead of being served.  No route is for sockets.
-/
import TreeShell.Web.Address
import TreeShell.Web.Route

namespace TreeShell
namespace Web

namespace Route

/-- The name of a file may have slashes, but not in front, and a line break only
there. -/
def isFileName : List Char → Bool
  | [] => false
  | c :: cs => c ≠ '/' && '\n' ∉ cs

def owns (route : Route) (path : List Char) : Bool :=
  match route with
  | file => (file.path.toList.isPrefixOf? path).any isFileName
  | route => path = route.path.toList

def ofPath? (path : List Char) : Option Route := all.find? (·.owns path)

theorem ofPath?_path {route : Route} (h : route ≠ file) :
    ofPath? route.path.toList = some route := by
  cases route with
  | file => exact absurd rfl h
  | _ => decide

end Route

/-- A path with one slash for each two. -/
def mergeSlashes : List Char → List Char
  | '/' :: '/' :: rest => '/' :: mergeSlashes rest
  | c :: rest => c :: mergeSlashes rest
  | [] => []

namespace Destination

/-- The empty path is a spelling of the path of the index, for its methods. -/
def find (method : Method) (address : Address) : Destination :=
  let arrive (route : Route) (destination : Destination) : Destination :=
    if method ∉ route.methods then badMethod route
    else if address.ForSocket then badAddress
    else destination
  if ¬address.Named then badAddress
  else if address.path = [] then
    if method ∈ Route.index.methods ∧ ¬address.ForSocket then moved else nowhere
  else
    match Route.ofPath? address.path with
    | some r => arrive r (route r)
    | none =>
      match Route.ofPath? (mergeSlashes address.path) with
      | some r => arrive r moved
      | none => nowhere

/-- A route is found for the methods that it knows. -/
theorem mem_methods_of_find {method : Method} {address : Address} {route : Route}
    (h : find method address = .route route) : method ∈ route.methods := by
  unfold find at h
  simp only at h
  split at h
  · nomatch h
  split at h
  · split at h <;> nomatch h
  split at h
  · next found hfound =>
    by_cases hmethod : method ∈ found.methods
    · rw [if_neg (not_not_intro hmethod)] at h
      split at h
      · nomatch h
      · rwa [← Destination.route.inj h]
    · rw [if_pos hmethod] at h
      nomatch h
  · split at h
    · split at h
      · nomatch h
      · split at h <;> nomatch h
    · nomatch h

end Destination
end Web
end TreeShell
