/-
What one request does to an application.

Whatever is sent, a request does one of three things: it opens a page, it has a
page that is kept do an act, or it leaves the application alone.
`App.handle_cases` is the statement, and what later files say of runs of requests
is drawn from it without opening a handler again.
-/
import TreeShell.Proofs.Listing
import TreeShell.Proofs.Web.Asking

namespace TreeShell
namespace Web
namespace App

def start (config : Config) (clock : Calendar.Reading) (limit : Int) (tokens : Nat → String) :
    App :=
  { config, clock, limit, tokens }

/-- What stays of an application, whatever is asked of it. -/
structure Frame (app next : App) : Prop where
  config : next.config = app.config
  clock : next.clock = app.clock
  limit : next.limit = app.limit
  tokens : next.tokens = app.tokens

theorem Frame.refl (app : App) : Frame app app := ⟨rfl, rfl, rfl, rfl⟩

def actOn (app : App) (token : String) (act : Act) : Response × App :=
  match app.tabs.get? token with
  | none => (.noSession, app)
  | some tab => (.ofReply (tab.perform act).1, app.keep token (tab.perform act).2)

theorem actOn_of_none {app : App} {token : String} (h : app.tabs.get? token = none) (act : Act) :
    app.actOn token act = (.noSession, app) := by
  unfold actOn
  rw [h]

theorem actOn_of_some {app : App} {token : String} {tab : Tab} (h : app.tabs.get? token = some tab)
    (act : Act) :
    app.actOn token act = (.ofReply (tab.perform act).1, app.keep token (tab.perform act).2) := by
  unfold actOn
  rw [h]

theorem keep_self {app : App} {token : String} {tab : Tab} (h : app.tabs.get? token = some tab) :
    app.keep token tab = app := by
  unfold keep
  rw [Listing.put_of_get? h]

theorem keep_names {app : App} {token : String} {tab : Tab} (h : app.tabs.get? token = some tab)
    (tab' : Tab) : (app.keep token tab').tabs.names = app.tabs.names :=
  Listing.names_put_of_mem (Listing.mem_names_of_get? h) tab'

theorem keep_get?_self (app : App) (token : String) (tab : Tab) :
    (app.keep token tab).tabs.get? token = some tab :=
  Listing.get?_put_self app.tabs token tab

theorem keep_get?_of_ne (app : App) {token other : String} (h : other ≠ token) (tab : Tab) :
    (app.keep token tab).tabs.get? other = app.tabs.get? other :=
  Listing.get?_put_of_ne app.tabs tab h

/-! ## The handlers -/

theorem execute_of_asked (app : App) {r : Request} {line token : String}
    (hline : r.line? = some line) (htoken : r.bodyToken? = some token) :
    app.execute r = app.actOn token (.execute line) := by
  unfold execute
  rw [Request.line?_eq_some_iff.mp hline, htoken]
  cases htab : app.tabs.get? token with
  | none =>
    rw [actOn_of_none htab]
    simp only [tab?, Option.bind_some, htab, Option.map_none]
  | some tab =>
    rw [actOn_of_some htab]
    simp only [tab?, Option.bind_some, htab, Option.map_some, Tab.perform, Tab.execute]
    rcases tab.shell.command line with ⟨result, shell⟩
    cases result <;> rfl

theorem execute_idle (app : App) {r : Request} (h : r.line? = none ∨ r.bodyToken? = none) :
    (app.execute r).2 = app := by
  unfold execute
  split
  · rfl
  · next line hvalue =>
    have hline : r.line? = some line := Request.line?_eq_some_iff.mpr hvalue
    have htoken : r.bodyToken? = none := h.resolve_left (by rw [hline]; nofun)
    rw [htoken]
    rfl
  · rfl

theorem walk_of_asked (app : App) {r : Request} {token : String} {act : Act}
    (step : List String → Recall → Option String × Recall) (htoken : r.bodyToken? = some token)
    (hact : ∀ tab : Tab, tab.perform act = tab.walk step) :
    app.walk step r = app.actOn token act := by
  unfold walk
  rw [htoken]
  cases htab : app.tabs.get? token with
  | none =>
    rw [actOn_of_none htab]
    simp only [tab?, Option.bind_some, htab, Option.map_none]
  | some tab =>
    rw [actOn_of_some htab, hact]
    simp only [tab?, Option.bind_some, htab, Option.map_some, Tab.walk]
    rfl

theorem walk_idle (app : App) {r : Request} (h : r.bodyToken? = none)
    (step : List String → Recall → Option String × Recall) :
    (app.walk step r).2 = app := by
  unfold walk
  rw [h]
  rfl

theorem read_of_asked (app : App) {r : Request} {token : String} {act : Act}
    {answer : Tab → Response} (htoken : r.queryToken? = some token)
    (hact : ∀ tab : Tab, (.ofReply (tab.perform act).1, (tab.perform act).2) = (answer tab, tab)) :
    app.read answer r = app.actOn token act := by
  unfold read
  rw [htoken]
  cases htab : app.tabs.get? token with
  | none =>
    rw [actOn_of_none htab]
    simp only [tab?, Option.bind_some, htab, Option.map_none]
  | some tab =>
    obtain ⟨hanswer, htabs⟩ := Prod.mk.inj (hact tab)
    rw [actOn_of_some htab, hanswer, htabs, keep_self htab]
    simp only [tab?, Option.bind_some, htab, Option.map_some]

theorem read_snd (app : App) (answer : Tab → Response) (r : Request) :
    (app.read answer r).2 = app := by
  unfold read
  split <;> rfl

theorem post_of_not_tooDeep (app : App) {r : Request} (h : ¬r.TooDeep)
    (answer : App → Request → Response × App) : app.post answer r = answer app r :=
  if_neg h

theorem post_idle (app : App) {r : Request} {answer : App → Request → Response × App}
    (h : (answer app r).2 = app) : (app.post answer r).2 = app := by
  unfold post
  split
  · rfl
  · exact h

theorem handle_route (app : App) {r : Request} {route : Route} (h : r.destination = .route route)
    (hverb : r.verb = .get ∨ r.verb = .post) : app.handle r = app.serve route r := by
  have hoptions : r.verb ≠ .options := by
    rcases hverb with hverb | hverb <;> rw [hverb] <;> decide
  have hhead : ¬r.headOnly = true := by
    intro hhead
    rw [r.verb_head hhead] at hverb
    rcases hverb with hverb | hverb <;> nomatch hverb
  simp only [handle, h, hoptions, hhead, if_false, Bool.false_eq_true]

theorem handle_route_snd (app : App) {r : Request} {route : Route}
    (h : r.destination = .route route) (hverb : r.verb ≠ .options) :
    (app.handle r).2 = (app.serve route r).2 := by
  simp only [handle, h, hverb, if_false]
  split <;> rfl

/-! ## The three things that a request can do -/

theorem handle_of_asks (app : App) {r : Request} {token : String} {act : Act}
    (h : r.Asks token act) : app.handle r = app.actOn token act := by
  cases act with
  | execute line =>
    obtain ⟨hdest, hverb, htoken, hline⟩ := h
    rw [handle_route app hdest (.inr hverb), ← execute_of_asked app hline htoken]
    exact post_of_not_tooDeep app (Request.not_tooDeep_of_bodyToken htoken) execute
  | older =>
    obtain ⟨hdest, hverb, htoken⟩ := h
    rw [handle_route app hdest (.inr hverb), ← walk_of_asked app Recall.older htoken fun _ => rfl]
    exact post_of_not_tooDeep app (Request.not_tooDeep_of_bodyToken htoken) (walk Recall.older)
  | newer =>
    obtain ⟨hdest, hverb, htoken⟩ := h
    rw [handle_route app hdest (.inr hverb), ← walk_of_asked app Recall.newer htoken fun _ => rfl]
    exact post_of_not_tooDeep app (Request.not_tooDeep_of_bodyToken htoken) (walk Recall.newer)
  | history =>
    obtain ⟨hdest, hverb, htoken⟩ := h
    rw [handle_route app hdest (.inl hverb)]
    exact read_of_asked app htoken fun _ => rfl
  | welcome =>
    obtain ⟨hdest, hverb, htoken⟩ := h
    rw [handle_route app hdest (.inl hverb)]
    exact read_of_asked app htoken fun _ => rfl

/-- A request that neither opens a page nor asks anything of one changes
nothing, however it is answered. -/
theorem handle_idle (app : App) {r : Request} (hopens : ¬r.OpensPage) (h : r.asks? = none) :
    (app.handle r).2 = app := by
  cases hdest : r.destination with
  | route route =>
    by_cases hverb : r.verb = .options
    · simp only [handle, hdest, hverb, if_true]
    rw [handle_route_snd app hdest hverb]
    unfold Request.asks? at h
    rw [hdest] at h
    cases route with
    | index => exact absurd ⟨hdest, Request.verb_of_read hdest rfl hverb⟩ hopens
    | welcome => exact read_snd ..
    | history => exact read_snd ..
    | execute =>
      have hpost : r.verb = .post := Request.verb_of_posted hdest rfl hverb
      refine post_idle app (execute_idle app ?_)
      simp only [hpost, if_true] at h
      cases htoken : r.bodyToken? with
      | none => exact .inr rfl
      | some token =>
        rw [htoken, Option.bind_some, Option.map_eq_none_iff] at h
        exact .inl h
    | older =>
      have hpost : r.verb = .post := Request.verb_of_posted hdest rfl hverb
      simp only [hpost, if_true, Option.map_eq_none_iff] at h
      exact post_idle app (walk_idle app h Recall.older)
    | newer =>
      have hpost : r.verb = .post := Request.verb_of_posted hdest rfl hverb
      simp only [hpost, if_true, Option.map_eq_none_iff] at h
      exact post_idle app (walk_idle app h Recall.newer)
    | file => rfl
  | nowhere => simp only [handle, hdest]
  | moved => simp only [handle, hdest]
  | badMethod route => simp only [handle, hdest]
  | badAddress => simp only [handle, hdest]

theorem handle_opensPage (app : App) {r : Request} (h : r.OpensPage) :
    (app.handle r).2 = app.openPage.2 ∧
      ((app.handle r).1 = app.openPage.1 ∨ (app.handle r).1 = app.openPage.1.headOnly) := by
  obtain ⟨hdest, hverb⟩ := h
  have hoptions : r.verb ≠ .options := by
    rcases hverb with hverb | hverb <;> rw [hverb] <;> decide
  refine ⟨handle_route_snd app hdest hoptions, ?_⟩
  simp only [handle, hdest, hoptions, if_false]
  split
  · exact .inr rfl
  · exact .inl rfl

/-- What a request does to an application: it opens a page, it acts on one that
is kept, or it does nothing. -/
theorem handle_cases (app : App) (r : Request) :
    (r.OpensPage ∧ (app.handle r).2 = app.openPage.2) ∨
    (∃ token act tab, r.Asks token act ∧ app.tabs.get? token = some tab ∧
      app.handle r = (.ofReply (tab.perform act).1, app.keep token (tab.perform act).2)) ∨
    (¬r.OpensPage ∧ (app.handle r).2 = app ∧
      ∀ token act, r.Asks token act → app.tabs.get? token = none) := by
  by_cases hopens : r.OpensPage
  · exact .inl ⟨hopens, (handle_opensPage app hopens).1⟩
  refine .inr ?_
  cases hasked : r.asks? with
  | none =>
    refine .inr ⟨hopens, handle_idle app hopens hasked, fun token act hasks => ?_⟩
    rw [Request.asks?_of_asks hasks] at hasked
    nomatch hasked
  | some asked =>
    obtain ⟨token, act⟩ := asked
    have hasks : r.Asks token act := Request.asks_of_asks? hasked
    have hact : app.handle r = app.actOn token act := handle_of_asks app hasks
    cases htab : app.tabs.get? token with
    | some tab =>
      rw [actOn_of_some htab] at hact
      exact .inl ⟨token, act, tab, hasks, htab, hact⟩
    | none =>
      rw [actOn_of_none htab] at hact
      refine .inr ⟨hopens, by rw [hact], fun other act' hother => ?_⟩
      rw [Request.asks?_of_asks hother] at hasked
      obtain ⟨rfl, rfl⟩ := Prod.mk.inj (Option.some.inj hasked)
      exact htab

/-! ## Opening a page -/

def withPage (app : App) : Listing Tab :=
  app.tabs.put (app.tokens app.opened) (Tab.fresh app.config app.clock)

theorem openPage_of_neg {app : App} (h : app.limit < 0) :
    app.openPage = (.brokenOff, { app with opened := app.opened + 1, tabs := [] }) := by
  unfold openPage
  rw [if_pos h]

theorem openPage_of_nonneg {app : App} (h : 0 ≤ app.limit) :
    app.openPage = (.ofPage ⟨app.tokens app.opened, Session.welcome⟩,
      { app with
        opened := app.opened + 1
        tabs := app.withPage.drop (app.withPage.length - app.limit.toNat) }) := by
  unfold openPage
  rw [if_neg (Int.not_lt.mpr h)]
  rfl

/-- Whatever the limit is, opening puts the new page and drops some from the
front. -/
theorem openPage_snd (app : App) :
    ∃ n, app.openPage.2 =
      { app with opened := app.opened + 1, tabs := app.withPage.drop n } := by
  by_cases h : app.limit < 0
  · rw [openPage_of_neg h]
    exact ⟨app.withPage.length, by rw [List.drop_length]⟩
  · rw [openPage_of_nonneg (Int.not_lt.mp h)]
    exact ⟨_, rfl⟩

theorem openPage_frame (app : App) : app.Frame app.openPage.2 := by
  obtain ⟨n, h⟩ := app.openPage_snd
  rw [h]
  exact ⟨rfl, rfl, rfl, rfl⟩

theorem openPage_opened (app : App) : app.openPage.2.opened = app.opened + 1 := by
  obtain ⟨n, h⟩ := app.openPage_snd
  rw [h]

theorem mem_names_openPage {app : App} {token : String}
    (h : token ∈ app.openPage.2.tabs.names) :
    token ∈ app.tabs.names ∨ token = app.tokens app.opened := by
  obtain ⟨n, hn⟩ := app.openPage_snd
  rw [hn] at h
  have hdropped : token ∈ Listing.names (app.withPage.drop n) := h
  rw [Listing.names_drop] at hdropped
  have hwith : token ∈ Listing.names app.withPage := List.mem_of_mem_drop hdropped
  rw [withPage, Listing.names_put] at hwith
  split at hwith
  · exact .inl hwith
  · exact (List.mem_append.mp hwith).imp id List.mem_singleton.mp

/-- What is dropped stands in front, so a page that is still kept is the same. -/
theorem get?_openPage {app : App} (hdistinct : app.tabs.Distinct) {token : String}
    (h : token ∈ app.openPage.2.tabs.names) :
    app.openPage.2.tabs.get? token = Listing.get? app.withPage token := by
  obtain ⟨n, hn⟩ := app.openPage_snd
  rw [hn] at h ⊢
  exact Listing.get?_drop (hdistinct.put _ _) h

theorem handle_frame (app : App) (r : Request) : app.Frame (app.handle r).2 := by
  rcases handle_cases app r with ⟨_, h⟩ | ⟨token, act, tab, _, _, h⟩ | ⟨_, h, _⟩
  · rw [h]
    exact openPage_frame app
  · rw [h]
    exact ⟨rfl, rfl, rfl, rfl⟩
  · rw [h]
    exact .refl app

theorem handle_opened (app : App) (r : Request) :
    (app.handle r).2.opened = app.opened + if r.OpensPage then 1 else 0 := by
  rcases handle_cases app r with ⟨hopens, h⟩ | ⟨token, act, tab, hasks, _, h⟩ | ⟨hopens, h, _⟩
  · rw [h, openPage_opened, if_pos hopens]
  · rw [h, if_neg (Request.not_opensPage_of_asks hasks)]
    rfl
  · rw [h, if_neg hopens]
    rfl

/-! ## Showing a page -/

theorem headOnly_body_ne_page (response : Response) (page : Page) :
    response.headOnly.body ≠ .page page := by
  unfold Response.headOnly Body.headOnly
  split <;> nofun

theorem execute_body_ne_page (app : App) (r : Request) (page : Page) :
    (app.execute r).1.body ≠ .page page := by
  unfold execute
  split
  · nofun
  · split
    · nofun
    · split <;> nofun
  · nofun

theorem walk_body_ne_page (app : App) (step : List String → Recall → Option String × Recall)
    (r : Request) (page : Page) : (app.walk step r).1.body ≠ .page page := by
  unfold walk
  split <;> nofun

theorem post_body_ne_page {app : App} {answer : App → Request → Response × App} {r : Request}
    {page : Page} (h : (answer app r).1.body ≠ .page page) :
    (app.post answer r).1.body ≠ .page page := by
  unfold post
  split
  · nofun
  · exact h

theorem serve_body_ne_page (app : App) {route : Route} (h : route ≠ .index) (r : Request)
    (page : Page) : (app.serve route r).1.body ≠ .page page := by
  cases route with
  | index => exact absurd rfl h
  | welcome =>
    show (app.read welcome r).1.body ≠ _
    unfold read
    split <;> nofun
  | history =>
    show (app.read history r).1.body ≠ _
    unfold read
    split <;> nofun
  | execute => exact post_body_ne_page (app.execute_body_ne_page r page)
  | older => exact post_body_ne_page (app.walk_body_ne_page Recall.older r page)
  | newer => exact post_body_ne_page (app.walk_body_ne_page Recall.newer r page)
  | file => nofun

theorem openPage_body {app : App} {page : Page} (h : app.openPage.1.body = .page page) :
    page = ⟨app.tokens app.opened, Session.welcome⟩ := by
  by_cases hlimit : app.limit < 0
  · rw [openPage_of_neg hlimit] at h
    nomatch h
  · rw [openPage_of_nonneg (Int.not_lt.mp hlimit)] at h
    exact (Body.page.inj h).symm

/-- Only a request that opens a page is shown one, and it is shown that one. -/
theorem handle_body {app : App} {r : Request} {page : Page}
    (h : (app.handle r).1.body = .page page) :
    r.OpensPage ∧ page = ⟨app.tokens app.opened, Session.welcome⟩ := by
  have hdest : ∃ route, r.destination = .route route := by
    cases hdest : r.destination with
    | route route => exact ⟨route, rfl⟩
    | nowhere | moved | badMethod | badAddress =>
      simp only [handle, hdest] at h
      nomatch h
  obtain ⟨route, hdest⟩ := hdest
  simp only [handle, hdest] at h
  split at h
  · nomatch h
  next hoptions =>
  split at h
  · exact absurd h (headOnly_body_ne_page _ page)
  by_cases hroute : route = .index
  · subst hroute
    exact ⟨⟨hdest, Request.verb_of_read hdest rfl hoptions⟩, openPage_body h⟩
  · exact absurd h (app.serve_body_ne_page hroute r page)

end App
end Web
end TreeShell
