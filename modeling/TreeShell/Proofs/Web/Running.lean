/-
What runs of requests keep.

`App.run_induction` is the one induction over requests: what no request breaks,
no run breaks.  `App.Sound` is what holds of every application from its start on,
with any limit and any tokens: the tokens of the kept pages are distinct, the
clock of each page can be read, and an application whose limit nothing can meet
keeps no page.
-/
import Mathlib.Logic.Function.Basic
import TreeShell.Proofs.Web.Handling

namespace TreeShell
namespace Web
namespace App

theorem run_cons (app : App) (r : Request) (rest : List Request) :
    app.run (r :: rest) = (app.handle r).2.run rest := by
  unfold run
  rw [List.foldl_cons]

theorem run_induction {P : App → Prop} (hstep : ∀ app r, P app → P (app.handle r).2)
    {app : App} (h : P app) (requests : List Request) : P (app.run requests) := by
  induction requests generalizing app with
  | nil => exact h
  | cons r rest ih =>
    rw [run_cons]
    exact ih (hstep app r h)

theorem Frame.trans {app next last : App} (h : app.Frame next) (h' : next.Frame last) :
    app.Frame last where
  config := h'.config.trans h.config
  clock := h'.clock.trans h.clock
  limit := h'.limit.trans h.limit
  tokens := h'.tokens.trans h.tokens

theorem run_frame (app : App) (requests : List Request) : app.Frame (app.run requests) :=
  run_induction (fun next r h => h.trans (next.handle_frame r)) (.refl app) requests

theorem opened_run (app : App) (requests : List Request) :
    (app.run requests).opened =
      app.opened + requests.countP fun r => decide r.OpensPage := by
  induction requests generalizing app with
  | nil => rfl
  | cons r rest ih =>
    rw [run_cons, ih, handle_opened, List.countP_cons]
    by_cases h : r.OpensPage
    · rw [if_pos h, if_pos (decide_eq_true h)]
      omega
    · rw [if_neg h, if_neg (by simp [h])]
      omega

/-! ## The tokens that were handed out -/

/-- The tokens handed out so far, the oldest first. -/
def issued (app : App) : List String := (List.range app.opened).map app.tokens

theorem mem_issued {app : App} {token : String} :
    token ∈ app.issued ↔ ∃ i, i < app.opened ∧ app.tokens i = token := by
  simp only [issued, List.mem_map, List.mem_range]

theorem mem_issued_handle {app : App} {token : String} (h : token ∈ app.issued) (r : Request) :
    token ∈ (app.handle r).2.issued := by
  obtain ⟨i, hi, htoken⟩ := mem_issued.mp h
  rw [mem_issued, handle_opened, (app.handle_frame r).tokens]
  exact ⟨i, Nat.lt_add_right _ hi, htoken⟩

theorem next_not_mem_issued {app : App} (hinj : Function.Injective app.tokens) :
    app.tokens app.opened ∉ app.issued := by
  rw [mem_issued]
  rintro ⟨i, hi, htoken⟩
  exact Nat.ne_of_lt hi (hinj htoken)

theorem dropped_handle {app : App} (hinj : Function.Injective app.tokens) {token : String}
    (hissued : token ∈ app.issued) (hgone : token ∉ app.tabs.names) (r : Request) :
    token ∉ (app.handle r).2.tabs.names := by
  rcases handle_cases app r with ⟨_, hnext⟩ | ⟨other, act, tab, _, htab, hact⟩ | ⟨_, hnext, _⟩
  · rw [hnext]
    intro hback
    rcases mem_names_openPage hback with hkept | rfl
    · exact hgone hkept
    · exact next_not_mem_issued hinj hissued
  · rw [hact]
    show token ∉ (app.keep other _).tabs.names
    rwa [keep_names htab]
  · rw [hnext]
    exact hgone

/-- A page that was dropped does not come back. -/
theorem dropped_run {app : App} (hinj : Function.Injective app.tokens) {token : String}
    (hissued : token ∈ app.issued) (hgone : token ∉ app.tabs.names) (requests : List Request) :
    token ∉ (app.run requests).tabs.names := by
  induction requests generalizing app with
  | nil => exact hgone
  | cons r rest ih =>
    rw [run_cons]
    refine ih ?_ (mem_issued_handle hissued r) (dropped_handle hinj hissued hgone r)
    rwa [(app.handle_frame r).tokens]

/-! ## The pages that are kept -/

structure Sound (app : App) : Prop where
  distinct : app.tabs.Distinct
  clock : ∀ entry ∈ app.tabs, entry.2.shell.clock = .ok app.clock
  overdrawn : app.limit < 0 → app.tabs = []

namespace Sound

theorem start (config : Config) (clock : Calendar.Reading) (limit : Int) (tokens : Nat → String) :
    (App.start config clock limit tokens).Sound :=
  ⟨List.nodup_nil, by simp [App.start], fun _ => rfl⟩

theorem tab_clock {app : App} (h : app.Sound) {token : String} {tab : Tab}
    (htab : app.tabs.get? token = some tab) : tab.shell.clock = .ok app.clock :=
  h.clock _ (Listing.mem_of_get? htab)

theorem openPage {app : App} (h : app.Sound) : app.openPage.2.Sound := by
  obtain ⟨n, hn⟩ := app.openPage_snd
  rw [hn]
  refine ⟨(h.distinct.put _ _).drop _, fun entry hentry => ?_, fun hneg => ?_⟩
  · rcases Listing.mem_of_mem_put (List.mem_of_mem_drop hentry) with hold | hnew
    · exact h.clock entry hold
    · rw [hnew]
      rfl
  · have hlimit : app.limit < 0 := hneg
    rw [← hn, openPage_of_neg hlimit]

theorem keep {app : App} (h : app.Sound) {token : String} {tab tab' : Tab}
    (htab : app.tabs.get? token = some tab) (hclock : tab'.shell.clock = tab.shell.clock) :
    (app.keep token tab').Sound where
  distinct := h.distinct.put token tab'
  clock := by
    intro entry hentry
    rcases Listing.mem_of_mem_put hentry with hold | hnew
    · exact h.clock entry hold
    · rw [hnew, hclock]
      exact h.tab_clock htab
  overdrawn := by
    intro hneg
    rw [h.overdrawn hneg] at htab
    nomatch htab

theorem handle {app : App} (h : app.Sound) (r : Request) : (app.handle r).2.Sound := by
  rcases handle_cases app r with ⟨_, hnext⟩ | ⟨token, act, tab, _, htab, hnext⟩ | ⟨_, hnext, _⟩
  · rw [hnext]
    exact h.openPage
  · rw [hnext]
    exact h.keep htab (tab.perform_clock act)
  · rw [hnext]
    exact h

theorem run {app : App} (h : app.Sound) (requests : List Request) : (app.run requests).Sound :=
  run_induction (fun _ r h => h.handle r) h requests

end Sound
end App
end Web
end TreeShell
