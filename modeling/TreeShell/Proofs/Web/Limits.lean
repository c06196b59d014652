/-
One run of requests under two limits.

An application with a higher limit drops pages later.  Up to then both opened the
same pages and asked the same of them, so that what the one with the lower limit
keeps is the newest part of what the other one keeps, page for page: `Narrower`.
A request that the first one can answer is about a page of that part, and the
other one answers it alike.  What it asks of an older page is refused by the
first, and changes nothing that both of them keep.

Tokens are `Apart` under the higher limit.  Pages of which only one can be kept
there may share a token.

The clock may go on between the requests, as long as it reads the same for both
applications.
-/
import Mathlib.Data.List.Forall2
import TreeShell.Proofs.Web.Window

namespace TreeShell

/-- The last elements of a list that is the end of another are among the last of
the other. -/
theorem drop_suffix_drop {α : Type} {short long : List α} (h : short <:+ long) {m n : Nat}
    (hle : m ≤ n) : short.drop (short.length - m) <:+ long.drop (long.length - n) := by
  have hlength : short.length ≤ long.length := h.length_le
  refine List.suffix_of_suffix_length_le ((List.drop_suffix _ short).trans h)
    (List.drop_suffix _ long) ?_
  rw [List.length_drop, List.length_drop]
  omega

namespace Web

/-! ## Requests at their times -/

/-- A request, and what the clock reads while it is answered. -/
structure Visit where
  request : Request
  time : Calendar.Reading

/-- The other answer is the same, if this one is a success. -/
def Response.KeptBy (answer other : Response) : Prop := answer.status = 200 → other = answer

theorem Response.KeptBy.headOnly {answer other : Response} (h : answer.KeptBy other) :
    answer.headOnly.KeptBy other.headOnly :=
  fun hstatus => congrArg Response.headOnly (h hstatus)

def Tab.atTime (time : Calendar.Reading) (tab : Tab) : Tab :=
  { tab with shell := tab.shell.atClock (.ok time) }

namespace App

/-- The application at a time: there is one clock for all pages. -/
def atTime (time : Calendar.Reading) (app : App) : App :=
  { app with clock := time, tabs := app.tabs.map fun e => (e.1, e.2.atTime time) }

def receive (app : App) (v : Visit) : Response × App := (app.atTime v.time).handle v.request

/-- The answers to a run of requests, each at its time. -/
def replies (app : App) : List Visit → List Response
  | [] => []
  | v :: rest => (app.receive v).1 :: (app.receive v).2.replies rest

theorem atTime_names (app : App) (time : Calendar.Reading) :
    (app.atTime time).tabs.names = app.tabs.names := by
  show List.map _ (List.map _ _) = _
  rw [List.map_map]
  rfl

namespace Sound

variable {app : App}

theorem atTime (h : app.Sound) (time : Calendar.Reading) : (app.atTime time).Sound where
  distinct := by
    unfold Listing.Distinct
    rw [atTime_names]
    exact h.distinct
  clock := by
    intro entry hentry
    obtain ⟨old, _, rfl⟩ := List.mem_map.mp hentry
    rfl
  overdrawn := fun hneg => by
    show List.map _ app.tabs = []
    rw [h.overdrawn hneg, List.map_nil]

theorem atTime_clock (h : app.Sound) : app.atTime app.clock = app := by
  have htabs : app.tabs.map (fun e => (e.1, e.2.atTime app.clock)) = app.tabs := by
    refine (List.map_congr_left fun entry hentry => ?_).trans (List.map_id _)
    have hclock : entry.2.shell.clock = .ok app.clock := h.clock entry hentry
    show (entry.1, { entry.2 with shell := entry.2.shell.atClock (.ok app.clock) }) = entry
    rw [← hclock]
    rfl
  unfold App.atTime
  rw [htabs]

/-- While the clock stands still, the times of the requests do not matter. -/
theorem answers_eq_replies (h : app.Sound) (requests : List Request) :
    app.answers requests = app.replies (requests.map (⟨·, app.clock⟩)) := by
  induction requests generalizing app with
  | nil => rfl
  | cons r rest ih =>
    have hreceive : app.receive ⟨r, app.clock⟩ = app.handle r := by
      rw [receive, h.atTime_clock]
    have hrest := ih (h.handle r)
    rw [(app.handle_frame r).clock] at hrest
    rw [answers, hrest, List.map_cons, replies, hreceive]

end Sound

theorem Windowed.atTime {app : App} (h : app.Windowed) (time : Calendar.Reading) :
    (app.atTime time).Windowed :=
  (app.atTime_names time).trans h

/-! ## The two runs -/

/-- Two applications that went through the same requests under two limits. -/
structure Narrower (small large : App) : Prop where
  config : small.config = large.config
  clock : small.clock = large.clock
  tokens : small.tokens = large.tokens
  opened : small.opened = large.opened
  limit : small.limit ≤ large.limit
  newest : small.tabs <:+ large.tabs
  sound : large.Sound
  window : large.Windowed
  apart : Apart large.tokens large.limit

namespace Narrower

theorem start (config : Config) (clock : Calendar.Reading) {limit higher : Int}
    (hle : limit ≤ higher) {tokens : Nat → String} (hapart : Apart tokens higher) :
    Narrower (.start config clock limit tokens) (.start config clock higher tokens) where
  config := rfl
  clock := rfl
  tokens := rfl
  opened := rfl
  limit := hle
  newest := List.suffix_rfl
  sound := Sound.start ..
  window := Windowed.start ..
  apart := hapart

variable {small large : App}

theorem atTime (h : Narrower small large) (time : Calendar.Reading) :
    Narrower (small.atTime time) (large.atTime time) where
  config := h.config
  clock := rfl
  tokens := h.tokens
  opened := h.opened
  limit := h.limit
  newest := h.newest.map _
  sound := h.sound.atTime time
  window := h.window.atTime time
  apart := h.apart

theorem get? (h : Narrower small large) {token : String} {tab : Tab}
    (hkept : small.tabs.get? token = some tab) : large.tabs.get? token = some tab :=
  (Listing.get?_of_suffix h.sound.distinct h.newest (Listing.mem_names_of_get? hkept)).trans hkept

theorem tab? (h : Narrower small large) {token : Option String} {found : String × Tab}
    (hfound : small.tab? token = some found) : large.tab? token = some found := by
  obtain ⟨name, rfl, hname⟩ := Option.bind_eq_some_iff.mp hfound
  obtain ⟨tab, htab, rfl⟩ := Option.map_eq_some_iff.mp hname
  rw [App.tab?, Option.bind_some, h.get? htab, Option.map_some]

/-! ### One answer -/

theorem read (h : Narrower small large) (answer : Tab → Response) (r : Request) :
    (small.read answer r).1.KeptBy (large.read answer r).1 := by
  unfold App.read
  cases hfound : small.tab? r.queryToken? with
  | none => nofun
  | some found =>
    rw [h.tab? hfound]
    exact fun _ => rfl

theorem walk (h : Narrower small large) (step : List String → Recall → Option String × Recall)
    (r : Request) : (small.walk step r).1.KeptBy (large.walk step r).1 := by
  unfold App.walk
  cases hfound : small.tab? r.bodyToken? with
  | none => nofun
  | some found =>
    rw [h.tab? hfound]
    exact fun _ => rfl

theorem execute (h : Narrower small large) (r : Request) :
    (small.execute r).1.KeptBy (large.execute r).1 := by
  unfold App.execute
  split
  · exact fun _ => rfl
  · cases hfound : small.tab? r.bodyToken? with
    | none => nofun
    | some found =>
      rw [h.tab? hfound]
      dsimp only
      split <;> exact fun _ => rfl
  · exact fun _ => rfl

theorem post {answer : App → Request → Response × App} {r : Request}
    (h : (answer small r).1.KeptBy (answer large r).1) :
    (small.post answer r).1.KeptBy (large.post answer r).1 := by
  unfold App.post
  split
  · exact fun _ => rfl
  · exact h

theorem openPage_fst (h : Narrower small large) : small.openPage.1.KeptBy large.openPage.1 := by
  intro hstatus
  by_cases hlimit : small.limit < 0
  · rw [openPage_of_neg hlimit] at hstatus
    nomatch hstatus
  · have hsmall : 0 ≤ small.limit := Int.not_lt.mp hlimit
    have hlarge : 0 ≤ large.limit := Int.le_trans hsmall h.limit
    rw [openPage_of_nonneg hsmall, openPage_of_nonneg hlarge, h.tokens, h.opened]

theorem serve (h : Narrower small large) (route : Route) (r : Request) :
    (small.serve route r).1.KeptBy (large.serve route r).1 := by
  cases route with
  | index => exact h.openPage_fst
  | welcome => exact h.read App.welcome r
  | history => exact h.read App.history r
  | execute => exact post (h.execute r)
  | older => exact post (h.walk Recall.older r)
  | newer => exact post (h.walk Recall.newer r)
  | file => exact fun _ => rfl

theorem handle_fst (h : Narrower small large) (r : Request) :
    (small.handle r).1.KeptBy (large.handle r).1 := by
  unfold App.handle
  cases r.destination with
  | route route =>
    dsimp only
    split
    · exact fun _ => rfl
    split
    · exact (h.serve route r).headOnly
    · exact h.serve route r
  | nowhere | moved | badMethod | badAddress => exact fun _ => rfl

/-! ### What is kept afterwards -/

theorem newest_openPage (h : Narrower small large) :
    small.openPage.2.tabs <:+ large.openPage.2.tabs := by
  by_cases hlimit : small.limit < 0
  · rw [openPage_of_neg hlimit]
    exact List.nil_suffix
  have hsmall : 0 ≤ small.limit := Int.not_lt.mp hlimit
  have hnew : large.tokens large.opened ∉ large.tabs.names := h.window.next_not_mem_of_apart h.apart
  have hnew' : large.tokens large.opened ∉ small.tabs.names :=
    fun hin => hnew ((Listing.names_suffix h.newest).mem hin)
  have hwith : small.withPage <:+ large.withPage := by
    rw [withPage, withPage, h.tokens, h.opened, h.config, h.clock, Listing.put_of_not_mem hnew',
      Listing.put_of_not_mem hnew]
    obtain ⟨older, holder⟩ := h.newest
    exact ⟨older, by rw [← holder, List.append_assoc]⟩
  rw [openPage_of_nonneg hsmall, openPage_of_nonneg (Int.le_trans hsmall h.limit)]
  exact drop_suffix_drop hwith (Int.toNat_le_toNat h.limit)

theorem newest_actOn (h : Narrower small large) (token : String) (act : Act) :
    (small.actOn token act).2.tabs <:+ (large.actOn token act).2.tabs := by
  cases hsmall : small.tabs.get? token with
  | some tab =>
    rw [actOn_of_some hsmall, actOn_of_some (h.get? hsmall)]
    exact Listing.put_suffix_put h.sound.distinct h.newest (Listing.mem_names_of_get? hsmall) _
  | none =>
    rw [actOn_of_none hsmall]
    cases hlarge : large.tabs.get? token with
    | none =>
      rw [actOn_of_none hlarge]
      exact h.newest
    | some tab =>
      rw [actOn_of_some hlarge]
      exact Listing.suffix_put h.newest ((Listing.get?_eq_none_iff _ _).mp hsmall)
        (Listing.mem_names_of_get? hlarge) _

theorem newest_handle (h : Narrower small large) (r : Request) :
    (small.handle r).2.tabs <:+ (large.handle r).2.tabs := by
  by_cases hopens : r.OpensPage
  · rw [(handle_opensPage small hopens).1, (handle_opensPage large hopens).1]
    exact h.newest_openPage
  cases hasked : r.asks? with
  | none =>
    rw [handle_idle small hopens hasked, handle_idle large hopens hasked]
    exact h.newest
  | some asked =>
    obtain ⟨token, act⟩ := asked
    have hasks : r.Asks token act := Request.asks_of_asks? hasked
    rw [handle_of_asks small hasks, handle_of_asks large hasks]
    exact h.newest_actOn token act

theorem handle (h : Narrower small large) (r : Request) :
    Narrower (small.handle r).2 (large.handle r).2 := by
  have hsmall : small.Frame (small.handle r).2 := small.handle_frame r
  have hlarge : large.Frame (large.handle r).2 := large.handle_frame r
  refine ⟨?_, ?_, ?_, ?_, ?_, h.newest_handle r, h.sound.handle r,
    h.window.handle_of_openPage (h.window.openPage_of_apart h.apart) r, ?_⟩
  · rw [hsmall.config, hlarge.config, h.config]
  · rw [hsmall.clock, hlarge.clock, h.clock]
  · rw [hsmall.tokens, hlarge.tokens, h.tokens]
  · rw [handle_opened, handle_opened, h.opened]
  · rw [hsmall.limit, hlarge.limit]
    exact h.limit
  · rw [hlarge.tokens, hlarge.limit]
    exact h.apart

theorem replies (h : Narrower small large) (visits : List Visit) :
    List.Forall₂ Response.KeptBy (small.replies visits) (large.replies visits) := by
  induction visits generalizing small large with
  | nil => exact .nil
  | cons v rest ih =>
    have hnow : Narrower (small.atTime v.time) (large.atTime v.time) := h.atTime v.time
    exact .cons (hnow.handle_fst v.request) (ih (hnow.handle v.request))

end Narrower

/-- Whatever is asked in whatever order, and however the clock goes on, an
application with a higher limit repeats every success of one with a lower limit
that gives its pages the same tokens. -/
theorem higher_limit_keeps_answers (config : Config) (clock : Calendar.Reading)
    {limit higher : Int} (hle : limit ≤ higher) {tokens : Nat → String}
    (hapart : Apart tokens higher) :
    let small := App.start config clock limit tokens
    let large := App.start config clock higher tokens
    (∀ requests, List.Forall₂ Response.KeptBy (small.answers requests) (large.answers requests)) ∧
      ∀ visits, List.Forall₂ Response.KeptBy (small.replies visits) (large.replies visits) := by
  intro small large
  have hstart : Narrower small large := Narrower.start config clock hle hapart
  refine ⟨fun requests => ?_, hstart.replies⟩
  have hsmall : small.Sound := Sound.start ..
  rw [hsmall.answers_eq_replies, hstart.sound.answers_eq_replies]
  exact hstart.replies _

/-- The first of two pages is refused under a limit of one, and what the second
answers is the same under both limits. -/
theorem higher_limit_keeps_answers_two :
    let index := Request.ofSent 100 { method := "GET", address := "/" }
    let first := Request.ofSent 100 { method := "GET", address := "/api/history?session=0" }
    let second := Request.ofSent 100 { method := "GET", address := "/api/history?session=1" }
    let requests := [index, index, first, second]
    let small := App.start Config.standard { date := ⟨2024, 3, 5⟩ } 1 Nat.repr
    let large := App.start Config.standard { date := ⟨2024, 3, 5⟩ } 2 Nat.repr
    (small.answers requests).map Response.status = [200, 200, 404, 200] ∧
      (large.answers requests).map Response.status = [200, 200, 200, 200] ∧
      List.Forall₂ Response.KeptBy (small.answers requests) (large.answers requests) := by
  intro index first second requests small large
  obtain ⟨hanswers, _⟩ :=
    higher_limit_keeps_answers Config.standard { date := ⟨2024, 3, 5⟩ }
      (by decide : (1 : Int) ≤ 2) (apart_of_injective repr_injective 2)
  exact ⟨by decide, by decide, hanswers requests⟩

/-- A token that comes again while its page is kept under the higher limit alone
takes the place of the old page there, and is dropped with the old ones. -/
example :
    let index := Request.ofSent 100 { method := "GET", address := "/" }
    let again := Request.ofSent 100 { method := "GET", address := "/api/history?session=a" }
    let requests := [index, index, index, index, index, again]
    let tokens (i : Nat) : String := ["a", "b", "c", "a", "d"].getD i ""
    let small := App.start Config.standard { date := ⟨2024, 3, 5⟩ } 2 tokens
    let large := App.start Config.standard { date := ⟨2024, 3, 5⟩ } 3 tokens
    (small.answers requests).map Response.status = [200, 200, 200, 200, 200, 200] ∧
      (large.answers requests).map Response.status = [200, 200, 200, 200, 200, 404] := by
  decide

end App
end Web
end TreeShell
