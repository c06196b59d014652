/-
What a request asks, and what a page does on its own.

A request either opens a page, or asks an act of the page that it names, or does
neither, and the request alone tells which: `Request.OpensPage` and
`Request.Asks`.  An `Act` is done by a page without the application around it,
so that a page can be run alone and be compared with one that is kept among
others.  `Tab.perform_replies` says that a page has a reply to every act as long
as its clock can be read.
-/
import TreeShell.Proofs.Dispatch
import TreeShell.Web.App

namespace TreeShell
namespace Web

/-! ## Pages on their own -/

inductive Act where
  | execute (line : String)
  | older
  | newer
  | history
  | welcome

namespace Tab

def fresh (config : Config) (clock : Calendar.Reading) : Tab where
  shell := Session.start config Registry.standard (.ok clock)
  recalled := Recall.start

/-- A step through the history, and the line it comes to. -/
def walk (step : List String → Recall → Option String × Recall) (tab : Tab) :
    Option Json × Tab :=
  let (line, recalled) := step tab.shell.history tab.recalled
  (some (.object [("value", (line.map Json.string).getD .null)]), { tab with recalled })

/-- Runs a line.  One that is interrupted has no reply. -/
def execute (line : String) (tab : Tab) : Option Json × Tab :=
  match tab.shell.command line with
  | (.ok output, shell) =>
    (some (.object [("output", .string output)]), { shell, recalled := Recall.start })
  | (.error _, shell) => (none, { tab with shell })

def perform (tab : Tab) : Act → Option Json × Tab
  | .execute line => tab.execute line
  | .older => tab.walk Recall.older
  | .newer => tab.walk Recall.newer
  | .history => (some (.object [("history", .array (tab.shell.history.map .string))]), tab)
  | .welcome => (some (.object [("output", .string Session.welcome)]), tab)

theorem execute_shell (line : String) (tab : Tab) :
    (tab.execute line).2.shell = (tab.shell.command line).2 := by
  unfold execute
  split <;> next heq => rw [heq]

theorem perform_clock (tab : Tab) (act : Act) :
    (tab.perform act).2.shell.clock = tab.shell.clock := by
  cases act with
  | execute line =>
    show (tab.execute line).2.shell.clock = _
    rw [execute_shell]
    exact (tab.shell.command_frame line).clock
  | older => rfl
  | newer => rfl
  | history => rfl
  | welcome => rfl

theorem perform_replies {tab : Tab} {reading : Calendar.Reading}
    (hclock : tab.shell.clock = .ok reading) (act : Act) :
    ∃ reply, (tab.perform act).1 = some reply := by
  cases act with
  | execute line =>
    obtain ⟨output, houtput⟩ := Session.command_answers hclock line
    show ∃ reply, (tab.execute line).1 = some reply
    unfold execute
    split
    · exact ⟨_, rfl⟩
    · next heq =>
      rw [heq] at houtput
      nomatch houtput
  | older => exact ⟨_, rfl⟩
  | newer => exact ⟨_, rfl⟩
  | history => exact ⟨_, rfl⟩
  | welcome => exact ⟨_, rfl⟩

end Tab

def Response.ofReply : Option Json → Response
  | some reply => { status := 200, body := .json (some reply) }
  | none => .brokenOff

/-! ## Reading a request -/

namespace Request

def OpensPage (r : Request) : Prop :=
  r.destination = .route .index ∧ (r.verb = .get ∨ r.verb = .head)

instance (r : Request) : Decidable r.OpensPage := inferInstanceAs (Decidable (_ ∧ _))

def line? (r : Request) : Option String :=
  (r.members?.bind (Listing.get? · "command")).bind Json.string?

theorem line?_eq_some_iff {r : Request} {line : String} :
    r.line? = some line ↔ r.members?.bind (Listing.get? · "command") = some (.string line) := by
  unfold line?
  constructor
  · intro h
    obtain ⟨value, hvalue, hstring⟩ := Option.bind_eq_some_iff.mp h
    cases value with
    | string text =>
      obtain rfl : text = line := Option.some.inj hstring
      exact hvalue
    | null | bool | number | array | object => nomatch hstring
  · intro h
    rw [h]
    rfl

/-- Asks an act of the page under a token: reading is asked by the query, and
everything else by a body that is posted. -/
def Asks (r : Request) (token : String) : Act → Prop
  | .execute line => r.destination = .route .execute ∧ r.verb = .post ∧
      r.bodyToken? = some token ∧ r.line? = some line
  | .older => r.destination = .route .older ∧ r.verb = .post ∧ r.bodyToken? = some token
  | .newer => r.destination = .route .newer ∧ r.verb = .post ∧ r.bodyToken? = some token
  | .history => r.destination = .route .history ∧ r.verb = .get ∧ r.queryToken? = some token
  | .welcome => r.destination = .route .welcome ∧ r.verb = .get ∧ r.queryToken? = some token

def asks? (r : Request) : Option (String × Act) :=
  match r.destination with
  | .route .execute =>
    if r.verb = .post then r.bodyToken?.bind fun token => r.line?.map (token, .execute ·) else none
  | .route .older => if r.verb = .post then r.bodyToken?.map (·, .older) else none
  | .route .newer => if r.verb = .post then r.bodyToken?.map (·, .newer) else none
  | .route .history => if r.verb = .get then r.queryToken?.map (·, .history) else none
  | .route .welcome => if r.verb = .get then r.queryToken?.map (·, .welcome) else none
  | _ => none

theorem asks?_of_asks {r : Request} {token : String} {act : Act} (h : r.Asks token act) :
    r.asks? = some (token, act) := by
  unfold asks?
  cases act with
  | execute line =>
    obtain ⟨hdest, hverb, htoken, hline⟩ := h
    simp [hdest, hverb, htoken, hline]
  | older =>
    obtain ⟨hdest, hverb, htoken⟩ := h
    simp [hdest, hverb, htoken]
  | newer =>
    obtain ⟨hdest, hverb, htoken⟩ := h
    simp [hdest, hverb, htoken]
  | history =>
    obtain ⟨hdest, hverb, htoken⟩ := h
    simp [hdest, hverb, htoken]
  | welcome =>
    obtain ⟨hdest, hverb, htoken⟩ := h
    simp [hdest, hverb, htoken]

theorem asks_of_asks? {r : Request} {token : String} {act : Act}
    (h : r.asks? = some (token, act)) : r.Asks token act := by
  unfold asks? at h
  split at h
  · next hdest =>
    split at h
    · next hverb =>
      obtain ⟨name, hname, hasked⟩ := Option.bind_eq_some_iff.mp h
      obtain ⟨line, hline, hpair⟩ := Option.map_eq_some_iff.mp hasked
      obtain ⟨rfl, rfl⟩ := Prod.mk.inj hpair
      exact ⟨hdest, hverb, hname, hline⟩
    · nomatch h
  case h_6 => nomatch h
  all_goals
    next hdest =>
    split at h
    · next hverb =>
      obtain ⟨name, hname, hpair⟩ := Option.map_eq_some_iff.mp h
      obtain ⟨rfl, rfl⟩ := Prod.mk.inj hpair
      exact ⟨hdest, hverb, hname⟩
    · nomatch h

theorem asks?_of_opensPage {r : Request} (h : r.OpensPage) : r.asks? = none := by
  unfold asks?
  rw [h.1]

theorem not_opensPage_of_asks {r : Request} {token : String} {act : Act} (h : r.Asks token act) :
    ¬r.OpensPage := by
  intro hopens
  have hasked : r.asks? = none := asks?_of_opensPage hopens
  rw [asks?_of_asks h] at hasked
  nomatch hasked

theorem verb_of_read {r : Request} {route : Route} (h : r.destination = .route route)
    (hroute : route.methods = [.get, .head, .options]) (hverb : r.verb ≠ .options) :
    r.verb = .get ∨ r.verb = .head := by
  have hmethod : r.verb ∈ route.methods := r.verb_known route h
  simpa [hroute, hverb] using hmethod

theorem verb_of_posted {r : Request} {route : Route} (h : r.destination = .route route)
    (hroute : route.methods = [.options, .post]) (hverb : r.verb ≠ .options) : r.verb = .post := by
  have hmethod : r.verb ∈ route.methods := r.verb_known route h
  simpa [hroute, hverb] using hmethod

theorem not_tooDeep_of_members {r : Request} {members : Listing Json}
    (h : r.members? = some members) : ¬r.TooDeep := by
  intro hdeep
  unfold TooDeep readError? at hdeep
  split at hdeep
  · nomatch hdeep
  · next e he =>
    have hnone : r.json? = none := by
      unfold json?
      rw [he]
      rfl
    unfold members? at h
    rw [hnone] at h
    nomatch h

theorem not_tooDeep_of_bodyToken {r : Request} {token : String} (h : r.bodyToken? = some token) :
    ¬r.TooDeep := by
  obtain ⟨members, hmembers, _⟩ := Option.bind_eq_some_iff.mp h
  exact not_tooDeep_of_members hmembers

end Request

end Web
end TreeShell
