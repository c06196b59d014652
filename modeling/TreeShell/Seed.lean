/-
The tree with which a session starts.

The root lists `bin`, `home` and `tmp`, in this order.  `bin` has an executable
for every registered program, `home` has the user's directory with the sample
file, and `tmp` is empty.
-/
import TreeShell.Config
import TreeShell.Registry

namespace TreeShell
namespace Seed

variable {Tool : Type}

def bin (registry : Registry Tool) : Node Tool :=
  .directory (registry.entries.map fun entry => (entry.1, .executable entry.2))

def home (config : Config) : Node Tool :=
  .directory [(config.user, .directory [("about.txt", .file config.about)])]

def tree (config : Config) (registry : Registry Tool) : Node Tool :=
  .directory [("bin", bin registry), ("home", home config), ("tmp", .directory [])]

/-- A seed tree lists no name twice: the registry does not, and the other names
are fixed. -/
theorem tree_wellFormed (config : Config) (registry : Registry Tool) :
    (tree config registry).WellFormed := by
  have hbin : (bin registry).WellFormed := by
    refine .directory ?_ ?_
    · have hnames : Listing.names (registry.entries.map fun e => (e.1, Node.executable e.2)) =
          registry.entries.names := by
        simp [Listing.names]
      unfold Listing.Distinct
      rw [hnames]
      exact registry.distinct
    · intro entry hentry
      obtain ⟨e, _, rfl⟩ := List.mem_map.mp hentry
      exact .executable e.2
  have hhome : (@home Tool config).WellFormed := by
    refine .directory (Listing.distinct_singleton _ _) ?_
    intro entry hentry
    obtain rfl := List.mem_singleton.mp hentry
    refine .directory (Listing.distinct_singleton _ _) ?_
    intro entry hentry
    obtain rfl := List.mem_singleton.mp hentry
    exact .file _
  have htmp : (@Node.directory Tool []).WellFormed :=
    .directory List.nodup_nil (by simp)
  refine .directory (show ["bin", "home", "tmp"].Nodup by decide) ?_
  intro entry hentry
  simp only [List.mem_cons, List.not_mem_nil, or_false] at hentry
  obtain rfl | rfl | rfl := hentry
  · exact hbin
  · exact hhome
  · exact htmp

end Seed
end TreeShell
