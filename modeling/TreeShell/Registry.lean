/-
Registries: the programs that a bare name on a line can mean.

A registry lists every name once, in the order of registration.  It is consulted
before the tree, so nothing in the tree can take a registered name over.
-/
import TreeShell.Node

namespace TreeShell

structure Registry (Tool : Type) where
  entries : Listing (Program Tool)
  distinct : entries.Distinct

namespace Registry

variable {Tool : Type}

/-- Registers the entries one after the other. -/
def ofList (entries : List (String × Program Tool)) : Registry Tool :=
  ⟨Listing.ofList entries, Listing.distinct_ofList entries⟩

/-- Every built-in under its own name. -/
def standard : Registry Tool where
  entries := Builtin.all.map fun b => (b.name, .builtin b)
  distinct := by
    have hnames : Listing.names (Builtin.all.map fun b => (b.name, @Program.builtin Tool b)) =
        Builtin.all.map Builtin.name := by
      simp [Listing.names]
    unfold Listing.Distinct
    rw [hnames]
    decide

def find? (registry : Registry Tool) (name : String) : Option (Program Tool) :=
  registry.entries.get? name

def names (registry : Registry Tool) : List String := registry.entries.names

end Registry
end TreeShell
