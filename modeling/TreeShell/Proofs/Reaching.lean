/-
What is listed can be reached.

A directory lists names, and a name behind a slash leads from the directory to what
it lists there.  So looking at a listing tells everything that one step further down
can find: `listed_iff_reached`.  A tree that lists no name twice is needed for that.
Every session starts with such a tree, and putting nodes into it and taking some out
leaves it one.

`Leads` is the walk itself, step by step from one listing to the next, and says
nothing of how a step is looked up.  Only directories have a next step.
-/
import TreeShell.Proofs.Arrival
import TreeShell.Proofs.Onward

namespace TreeShell

/-! ## One step further down -/

namespace Path

theorem components_of_ordinary {name : String} (h : Ordinary name) : components name = [name] := by
  have hjoined : Text.joined '/' [name] = name := by simp [Text.joined]
  have hcut : Text.pieces '/' (Text.joined '/' [name]) = [name] :=
    Text.pieces_joined (by simp) (by simpa using h.2.2.2)
  rwa [hjoined] at hcut

/-- An ordinary name behind a slash leads one step down, also where it would lead
home if it stood in front. -/
theorem resolve_down {text name : String} (htext : text ≠ "") (hname : Ordinary name)
    (cwd home : Path) :
    resolve (text ++ "/" ++ name) cwd home = resolve text cwd home ++ [name] := by
  -- `steps_onward` does not apply here, since the name may be a tilde.
  rw [resolve, base_onward htext, steps_append, components_of_ordinary hname, follow_append]
  exact walk_down _ hname

end Path

namespace Node

variable {Tool : Type}

/-- A walk down from a node, along what directories list. -/
inductive Leads : Node Tool → Path → Node Tool → Prop where
  | here (node : Node Tool) : Leads node [] node
  | down {entries : Listing (Node Tool)} {name : String} {child found : Node Tool} {rest : Path}
    (hlisted : (name, child) ∈ entries) (hrest : Leads child rest found) :
    Leads (.directory entries) (name :: rest) found

theorem WellFormed.child?_iff {node child : Node Tool} {name : String} (h : node.WellFormed) :
    node.child? name = some child ↔
      ∃ entries, node = .directory entries ∧ (name, child) ∈ entries := by
  cases h with
  | @directory entries distinct below =>
    constructor
    · intro hchild
      exact ⟨entries, rfl, Listing.mem_of_get? hchild⟩
    · rintro ⟨_, hsame, hlisted⟩
      obtain rfl := Node.directory.inj hsame
      exact Listing.get?_of_mem distinct hlisted
  | file text => exact ⟨fun hchild => (nomatch hchild), fun ⟨_, hdir, _⟩ => (nomatch hdir)⟩
  | executable program => exact ⟨fun hchild => (nomatch hchild), fun ⟨_, hdir, _⟩ => (nomatch hdir)⟩

theorem WellFormed.lookup?_iff {root found : Node Tool} {path : Path} (h : root.WellFormed) :
    root.lookup? path = some found ↔ root.Leads path found := by
  induction path generalizing root with
  | nil =>
    constructor
    · intro hfound
      obtain rfl := Option.some.inj hfound
      exact .here root
    · rintro ⟨⟩
      rfl
  | cons name rest ih =>
    rw [lookup?_cons, Option.bind_eq_some_iff]
    constructor
    · rintro ⟨child, hchild, hrest⟩
      obtain ⟨entries, rfl, hlisted⟩ := h.child?_iff.mp hchild
      exact .down hlisted ((ih (h.child? hchild)).mp hrest)
    · rintro (_ | ⟨hlisted, hrest⟩)
      have hchild := h.child?_iff.mpr ⟨_, rfl, hlisted⟩
      exact ⟨_, hchild, (ih (h.child? hchild)).mpr hrest⟩

/-! ## Trees that are changed -/

theorem WellFormed.edit? {change : Listing (Node Tool) → Listing (Node Tool)}
    (hchange : ∀ entries,
      WellFormed (.directory entries) → WellFormed (.directory (change entries)))
    {root edited : Node Tool} {path : Path} (h : root.WellFormed)
    (hedited : root.edit? change path = some edited) : edited.WellFormed := by
  induction path generalizing root edited with
  | nil =>
    cases h with
    | directory distinct below =>
      obtain rfl := Option.some.inj hedited
      exact hchange _ (.directory distinct below)
    | file text => nomatch hedited
    | executable program => nomatch hedited
  | cons segment rest ih =>
    cases h with
    | directory distinct below =>
      rw [Node.edit?] at hedited
      split at hedited
      · nomatch hedited
      · next child hchild =>
        obtain ⟨c, hc, rfl⟩ := Option.map_eq_some_iff.mp hedited
        -- The child goes back under its own name, so that no name is listed twice.
        have hwell : c.WellFormed := ih (below _ (Listing.mem_of_get? hchild)) hc
        refine .directory (distinct.put segment c) fun entry hentry => ?_
        rcases Listing.mem_of_mem_put hentry with hold | rfl
        · exact below entry hold
        · exact hwell
    | file text => nomatch hedited
    | executable program => nomatch hedited

theorem WellFormed.put? {root node edited : Node Tool} {parent : Path} {name : String}
    (h : root.WellFormed) (hnode : node.WellFormed)
    (hedited : root.put? parent name node = some edited) : edited.WellFormed := by
  refine h.edit? (fun entries hentries => ?_) hedited
  cases hentries with
  | directory distinct below =>
    refine .directory (distinct.put name node) fun entry hentry => ?_
    rcases Listing.mem_of_mem_put hentry with hold | rfl
    · exact below entry hold
    · exact hnode

theorem WellFormed.remove? {root edited : Node Tool} {parent : Path} {name : String}
    (h : root.WellFormed) (hedited : root.remove? parent name = some edited) :
    edited.WellFormed := by
  refine h.edit? (fun entries hentries => ?_) hedited
  cases hentries with
  | directory distinct below =>
    exact .directory (distinct.remove name) fun entry hentry =>
      below entry (List.mem_filter.mp hentry).1

end Node

/-! ## Sessions -/

namespace Session

variable {Tool : Type} {s : Session Tool}

theorem lookup_eq_error_of_not_leads (hroot : s.root.WellFormed) {path : Path}
    (h : ∀ found, ¬s.root.Leads path found) : s.lookup path = .error .pathNotFound := by
  cases hlookup : s.root.lookup? path with
  | none => simp only [lookup, hlookup]
  | some found => exact absurd (hroot.lookup?_iff.mp hlookup) (h found)

theorem lookup_append_iff (hroot : s.root.WellFormed) {p q : Path} {found : Node Tool} :
    s.lookup (p ++ q) = .ok found ↔ ∃ node, s.lookup p = .ok node ∧ node.Leads q found := by
  rw [lookup_eq_ok_iff, Node.lookup?_append, Option.bind_eq_some_iff]
  refine exists_congr fun node => ?_
  rw [lookup_eq_ok_iff]
  exact and_congr_right fun hnode => (hroot.lookup? hnode).lookup?_iff

/-- What a directory lists under a name is what the name behind a slash leads to. -/
theorem lookup_down_iff (hroot : s.root.WellFormed) {text name : String} (htext : text ≠ "")
    (hname : Path.Ordinary name) {entries : Listing (Node Tool)} {node : Node Tool}
    (hdir : s.lookup (s.resolve text) = .ok (.directory entries)) :
    s.lookup (s.resolve (text ++ "/" ++ name)) = .ok node ↔ (name, node) ∈ entries := by
  have hdown : s.resolve (text ++ "/" ++ name) = s.resolve text ++ [name] :=
    Path.resolve_down htext hname s.cwd s.home
  rw [hdown, lookup_append_iff hroot]
  constructor
  · rintro ⟨above, habove, hleads⟩
    obtain rfl : Node.directory entries = above := Except.ok.inj (hdir.symm.trans habove)
    cases hleads with
    | down hlisted hrest =>
      cases hrest
      exact hlisted
  · intro hlisted
    exact ⟨.directory entries, hdir, .down hlisted (.here node)⟩

/-- Where a typed text leads to a directory, `ls` shows what it lists, and an
ordinary name behind the text and a slash leads to something exactly if the directory
lists it, namely to what it lists under that name.  No name is listed twice, and the
names stand in the order in which they came, however the directory was made.  A walk
may be cut anywhere and goes on from what it came to; what it passed before its end
are directories; and where there is no walk, the path is not found. -/
theorem listed_iff_reached (s : Session Tool) (hroot : s.root.WellFormed) :
    (∀ text entries, text ≠ "" → s.lookup (s.resolve text) = .ok (.directory entries) →
      (∀ word, Builtin.ls.run [word, text] s =
        (.ok (Text.joined '\n' (Listing.names entries)), s)) ∧
      (∀ name, name ≠ "" → name ≠ "." → name ≠ ".." → '/' ∉ name.toList →
        ((∃ node, s.lookup (s.resolve (text ++ "/" ++ name)) = .ok node) ↔
          name ∈ Listing.names entries) ∧
        ∀ node, s.lookup (s.resolve (text ++ "/" ++ name)) = .ok node ↔ (name, node) ∈ entries) ∧
      (Listing.names entries).Nodup ∧
      (∃ changes, Listing.made changes = entries) ∧
      ∀ changes, Listing.made changes = entries →
        (Listing.names entries).Pairwise (Listing.Earlier changes)) ∧
    (∀ p q found, s.lookup (p ++ q) = .ok found ↔
      ∃ node, s.lookup p = .ok node ∧ node.Leads q found) ∧
    (∀ p above found, s.lookup p = .ok found → above <+: p → above ≠ p → s.IsDirectory above) ∧
    ∀ p, (∀ found, ¬s.root.Leads p found) → s.lookup p = .error .pathNotFound := by
  refine ⟨fun text entries htext hdir => ?_, fun p q found => lookup_append_iff hroot,
    fun p above found hfound habove hproper => ?_, fun p => lookup_eq_error_of_not_leads hroot⟩
  · have hdistinct : Listing.Distinct entries := by
      cases hroot.lookup? (lookup_eq_ok_iff.mp hdir) with
      | directory distinct _ => exact distinct
    refine ⟨fun word => ?_, fun name hempty hstay hup hslash => ?_, hdistinct,
      hdistinct.exists_made, fun changes hmade => hmade ▸ Listing.names_made changes⟩
    · simp only [Builtin.run, Builtin.list, Builtin.showListing, hdir]
    · have hlisted (node : Node Tool) :
          s.lookup (s.resolve (text ++ "/" ++ name)) = .ok node ↔ (name, node) ∈ entries :=
        lookup_down_iff hroot htext ⟨hempty, hstay, hup, hslash⟩ hdir
      refine ⟨?_, hlisted⟩
      rw [exists_congr hlisted, Listing.mem_names_iff]
  · obtain ⟨below, rfl⟩ := habove
    have hbelow : below ≠ [] := by
      rintro rfl
      exact hproper (List.append_nil above).symm
    obtain ⟨entries, hentries⟩ :=
      Node.directory_of_lookup?_below hbelow (lookup_eq_ok_iff.mp hfound)
    exact ⟨entries, lookup_eq_ok_iff.mpr hentries⟩

/-- A directory put beside those of a fresh session lists a file whose name is that
of home when it stands in front. -/
theorem listed_iff_reached_tilde :
    let opt : Node Empty := .directory [("~", .file "x"), ("b", .directory [])]
    let root := ((Seed.tree Config.standard Registry.standard).put? [] "opt" opt).getD opt
    let s : Shell :=
      { Session.start Config.standard Registry.standard (.ok { date := ⟨2024, 3, 5⟩ }) with root }
    s.root.WellFormed ∧ s.lookup (s.resolve "../../opt/.") = .ok opt ∧
      Builtin.ls.run ["ls", "../../opt/."] s = (.ok "~\nb", s) ∧
      s.lookup (s.resolve "../../opt/./~") = .ok (.file "x") ∧
      s.lookup ["opt", "~", "y"] = .error .pathNotFound := by
  intro opt root s
  have hopt : opt.WellFormed := by
    refine .directory (show ["~", "b"].Nodup by decide) ?_
    intro entry hentry
    simp only [List.mem_cons, List.not_mem_nil, or_false] at hentry
    obtain rfl | rfl := hentry
    · exact .file "x"
    · exact .directory List.nodup_nil fun entry h => nomatch h
  have hput : (Seed.tree Config.standard Registry.standard).put? [] "opt" opt = some root := by rfl
  have hroot : s.root.WellFormed :=
    (Seed.tree_wellFormed Config.standard Registry.standard).put? hopt hput
  have hdir : s.lookup (s.resolve "../../opt/.") = .ok opt := by rfl
  obtain ⟨hreach, -, -, hlost⟩ := listed_iff_reached s hroot
  obtain ⟨hls, hnames, -⟩ := hreach "../../opt/." _ (by decide) hdir
  have htilde := (hnames "~" (by decide) (by decide) (by decide) (by decide)).2 (.file "x")
  refine ⟨hroot, hdir, hls "ls", htilde.mpr List.mem_cons_self, hlost _ fun found hfound => ?_⟩
  exact nomatch hroot.lookup?_iff.mpr hfound

end Session
end TreeShell
