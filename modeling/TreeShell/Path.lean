/-
Paths: where a typed text points, seen from a working directory and a home.

A path is the list of its segments, counted from the root, and the root itself
has none.  A typed text is cut at its slashes; where it starts from is its
`base`, and each component of `steps` then walks one step: `..` goes up and
stays at the root, `.` and the empty component go nowhere, any other component
goes down.  Nothing here looks at a tree, so a typed text has a meaning whether
or not there is anything to be found.
-/
import TreeShell.Text.Pieces

namespace TreeShell

abbrev Path := List String

namespace Path

/-- One component of a typed text, walked from where the earlier ones led. -/
def walk (path : Path) (component : String) : Path :=
  if component = ".." then path.dropLast
  else if component = "." ∨ component = "" then path
  else path ++ [component]

def follow (base : Path) (components : List String) : Path :=
  components.foldl walk base

def components (text : String) : List String := Text.pieces '/' text

/-- A text that starts with a slash starts at the root, one whose first
component is exactly `~` at home, and every other one here. -/
def base (text : String) (cwd home : Path) : Path :=
  if text.toList.head? = some '/' then []
  else if (components text).head? = some "~" then home
  else cwd

/-- The components that are walked.  A leading `~` only says where to start; so
does a leading slash, whose empty component goes nowhere. -/
def steps (text : String) : List String :=
  match components text with
  | [] => []
  | first :: rest => if first = "~" then rest else first :: rest

def resolve (text : String) (cwd home : Path) : Path :=
  follow (base text cwd home) (steps text)

/-- A path as it is shown: always from the root. -/
def format (path : Path) : String :=
  "/" ++ Text.joined '/' path

/-- A segment that can be typed as it stands: a name, and no way of going up or
of staying. -/
def Ordinary (segment : String) : Prop :=
  segment ≠ "" ∧ segment ≠ "." ∧ segment ≠ ".." ∧ '/' ∉ segment.toList

instance (segment : String) : Decidable (Ordinary segment) :=
  inferInstanceAs (Decidable (_ ∧ _ ∧ _ ∧ _))

def Normal (path : Path) : Prop := ∀ segment ∈ path, Ordinary segment

instance (path : Path) : Decidable (Normal path) :=
  inferInstanceAs (Decidable (∀ segment ∈ path, Ordinary segment))

/-! ## Single steps -/

theorem walk_up (path : Path) : walk path ".." = path.dropLast := rfl

theorem walk_stay (path : Path) : walk path "." = path ∧ walk path "" = path := by
  constructor <;> simp [walk]

theorem walk_down (path : Path) {component : String} (h : Ordinary component) :
    walk path component = path ++ [component] := by
  simp [walk, h.1, h.2.1, h.2.2.1]

theorem follow_append (base : Path) (xs ys : List String) :
    follow base (xs ++ ys) = follow (follow base xs) ys :=
  List.foldl_append

/-- Walking ordinary segments puts them after the base one by one. -/
theorem follow_normal (base : Path) {path : Path} (h : Normal path) :
    follow base path = base ++ path := by
  induction path generalizing base with
  | nil => simp [follow]
  | cons s rest ih =>
    have hs : Ordinary s := h s List.mem_cons_self
    have hrest : Normal rest := fun t ht => h t (List.mem_cons_of_mem _ ht)
    have hstep : follow base (s :: rest) = follow (walk base s) rest := rfl
    rw [hstep, walk_down _ hs, ih _ hrest, List.append_assoc, List.singleton_append]

end Path
end TreeShell
