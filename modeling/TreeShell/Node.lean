/-
The tree of directories, files and executables.

A tree is its root node.  A path is walked from there one segment at a time, and
the walk fails at a name that is not listed and at anything that is not a
directory; `lookup?_append` says that a walk may be cut anywhere.  An edit walks
to a directory, changes its listing and leaves everything beside the walk as it
was.
-/
import TreeShell.Builtin
import TreeShell.Listing
import TreeShell.Path

namespace TreeShell

inductive Node (Tool : Type) where
  | directory (entries : List (String × Node Tool))
  | file (text : String)
  | executable (program : Program Tool)

namespace Node

variable {Tool : Type}

/-- What a directory lists under a name; nothing else lists anything. -/
def child? : Node Tool → String → Option (Node Tool)
  | directory entries, name => Listing.get? entries name
  | file _, _ => none
  | executable _, _ => none

def lookup? : Node Tool → Path → Option (Node Tool)
  | node, [] => some node
  | node, segment :: rest => (node.child? segment).bind (lookup? · rest)

def names? : Node Tool → Option (List String)
  | directory entries => some (Listing.names entries)
  | file _ => none
  | executable _ => none

/-- The tree with the listing at a path changed, if there is one. -/
def edit? (change : Listing (Node Tool) → Listing (Node Tool)) :
    Node Tool → Path → Option (Node Tool)
  | directory entries, [] => some (directory (change entries))
  | directory entries, segment :: rest =>
    match Listing.get? entries segment with
    | none => none
    | some child => (edit? change child rest).map fun c => directory (Listing.put entries segment c)
  | file _, _ => none
  | executable _, _ => none

/-- The tree with a node put under a name of the directory at `parent`. -/
def put? (root : Node Tool) (parent : Path) (name : String) (node : Node Tool) :
    Option (Node Tool) :=
  root.edit? (·.put name node) parent

/-- The tree without a name of the directory at `parent`. -/
def remove? (root : Node Tool) (parent : Path) (name : String) : Option (Node Tool) :=
  root.edit? (·.remove name) parent

/-- No directory of the tree lists a name twice. -/
inductive WellFormed : Node Tool → Prop where
  | directory {entries : Listing (Node Tool)} (distinct : entries.Distinct)
      (below : ∀ entry ∈ entries, WellFormed entry.2) : WellFormed (.directory entries)
  | file (text : String) : WellFormed (.file text)
  | executable (program : Program Tool) : WellFormed (.executable program)

/-! ## Walking -/

theorem lookup?_cons (node : Node Tool) (segment : String) (rest : Path) :
    node.lookup? (segment :: rest) = (node.child? segment).bind (·.lookup? rest) := rfl

theorem lookup?_append (node : Node Tool) (p q : Path) :
    node.lookup? (p ++ q) = (node.lookup? p).bind (·.lookup? q) := by
  induction p generalizing node with
  | nil => rfl
  | cons segment rest ih =>
    rw [List.cons_append, lookup?_cons, lookup?_cons, Option.bind_assoc]
    exact congrArg _ (funext fun child => ih child)

theorem WellFormed.child? {node child : Node Tool} {name : String} (h : node.WellFormed)
    (hc : node.child? name = some child) : child.WellFormed := by
  cases h with
  | directory _ below => exact below _ (Listing.mem_of_get? hc)
  | file _ => nomatch hc
  | executable _ => nomatch hc

/-- Whatever a walk finds in a well-formed tree is well-formed itself. -/
theorem WellFormed.lookup? {node found : Node Tool} {path : Path} (h : node.WellFormed)
    (hf : node.lookup? path = some found) : found.WellFormed := by
  induction path generalizing node with
  | nil =>
    obtain rfl : node = found := Option.some.inj hf
    exact h
  | cons segment rest ih =>
    rw [lookup?_cons, Option.bind_eq_some_iff] at hf
    obtain ⟨child, hc, hrest⟩ := hf
    exact ih (h.child? hc) hrest

end Node
end TreeShell
