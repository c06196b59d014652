/-
What a refused request changes, and what an answered one may.

An answer with a status other than 200 leaves the pages as they are.  For the
requests that open a page this is a fact about the negative limit, the only one
that breaks opening off: the new page is put, all pages are dropped, and what was
dropped is nothing but the new one, since such an application never kept a page
before.  For the rest it is `handle_cases` again: whatever acts on a page is
answered with 200.

`executeStatus` is the decision that running a line comes to, read off the body
and the tokens that are kept and off nothing else.  A body that goes too deep to
be read comes to no decision.
-/
import TreeShell.Proofs.Web.Running
import TreeShell.Web.Sent

namespace TreeShell
namespace Web

def executeStatus (body : Option Json) (live : List String) : Nat :=
  match body with
  | some (.object members) =>
    match Listing.get? members "command" with
    | none => 400
    | some (.string _) =>
      match Listing.get? members "session" with
      | some (.string token) => if token ∈ live then 200 else 404
      | _ => 404
    | some _ => 400
  | _ => 400

namespace Request

def PostsTo (r : Request) (route : Route) : Prop :=
  r.destination = .route route ∧ r.verb = .post

theorem json?_of_members? {r : Request} {members : Listing Json}
    (h : r.members? = some members) : r.json? = some (.object members) := by
  unfold members? at h
  split at h
  · next found hbody =>
    rw [hbody, Option.some.inj h]
  · nomatch h

theorem bodyToken_of_asks {r : Request} {token : String} {act : Act} (h : r.Asks token act)
    (hverb : r.verb = .post) : r.bodyToken? = some token := by
  cases act with
  | execute line => exact h.2.2.1
  | older => exact h.2.2
  | newer => exact h.2.2
  | history =>
    rw [h.2.1] at hverb
    nomatch hverb
  | welcome =>
    rw [h.2.1] at hverb
    nomatch hverb

theorem not_opensPage_of_post {r : Request} (h : r.verb = .post) : ¬r.OpensPage := by
  rintro ⟨_, hverb⟩
  rw [h] at hverb
  rcases hverb with hverb | hverb <;> nomatch hverb

end Request

theorem executeStatus_of_no_members {r : Request} (h : r.members? = none) (live : List String) :
    executeStatus r.json? live = 400 := by
  unfold Request.members? at h
  unfold executeStatus
  split
  · next members hbody =>
    rw [hbody] at h
    nomatch h
  · rfl

namespace App

/-- The same pages are kept in the same order, and every page but the one under
a token is the same. -/
structure SameBut (token : Option String) (app next : App) : Prop where
  names : next.tabs.names = app.tabs.names
  others : ∀ other, token ≠ some other → next.tabs.get? other = app.tabs.get? other

theorem SameBut.refl (token : Option String) (app : App) : SameBut token app app :=
  ⟨rfl, fun _ _ => rfl⟩

theorem SameBut.keep {app : App} {token : String} {tab : Tab} (h : app.tabs.get? token = some tab)
    (tab' : Tab) : SameBut (some token) app (app.keep token tab') where
  names := keep_names h tab'
  others := fun _ hother => app.keep_get?_of_ne (fun e => hother (congrArg some e.symm)) tab'

def SameShells (app next : App) : Prop :=
  ∀ token, (next.tabs.get? token).map Tab.shell = (app.tabs.get? token).map Tab.shell

theorem SameShells.keep {app : App} {token : String} {tab tab' : Tab}
    (h : app.tabs.get? token = some tab) (hshell : tab'.shell = tab.shell) :
    app.SameShells (app.keep token tab') := by
  intro other
  by_cases hother : other = token
  · rw [hother, keep_get?_self, h, Option.map_some, Option.map_some, hshell]
  · rw [keep_get?_of_ne app hother]

/-! ## Statuses -/

theorem actOn_status {app : App} (h : app.Sound) (token : String) (act : Act) :
    (app.actOn token act).1.status = if token ∈ app.tabs.names then 200 else 404 := by
  cases htab : app.tabs.get? token with
  | none =>
    rw [actOn_of_none htab, if_neg ((Listing.get?_eq_none_iff app.tabs token).mp htab)]
    rfl
  | some tab =>
    obtain ⟨reply, hreply⟩ := Tab.perform_replies (h.tab_clock htab) act
    rw [actOn_of_some htab, hreply, if_pos (Listing.mem_names_of_get? htab)]
    rfl

theorem execute_of_no_command (app : App) {r : Request}
    (h : r.members?.bind (Listing.get? · "command") = none) :
    app.execute r = (.noCommand, app) := by
  unfold execute
  rw [h]

theorem execute_of_no_token {app : App} {r : Request} {line : String}
    (hline : r.line? = some line) (htoken : r.bodyToken? = none) :
    (app.execute r).1 = .noSession := by
  unfold execute
  rw [Request.line?_eq_some_iff.mp hline, htoken]
  rfl

theorem execute_status {app : App} (h : app.Sound) (r : Request) :
    (app.execute r).1.status = executeStatus r.json? app.tabs.names := by
  cases hmembers : r.members? with
  | none =>
    rw [executeStatus_of_no_members hmembers, execute_of_no_command app (by rw [hmembers]; rfl)]
    rfl
  | some members =>
    rw [Request.json?_of_members? hmembers]
    cases hcommand : Listing.get? members "command" with
    | none =>
      rw [execute_of_no_command app (by rw [hmembers]; exact hcommand)]
      simp only [executeStatus, hcommand]
      rfl
    | some value =>
      cases value with
      | string line =>
        have hline : r.line? = some line := by
          rwa [Request.line?_eq_some_iff, hmembers]
        have htoken : r.bodyToken? = (Listing.get? members "session").bind Json.string? := by
          rw [Request.bodyToken?, hmembers, Option.bind_some]
        cases hsession : Listing.get? members "session" with
        | none =>
          rw [execute_of_no_token hline (by rw [htoken, hsession]; rfl)]
          simp only [executeStatus, hcommand, hsession]
          rfl
        | some session =>
          rw [hsession] at htoken
          cases session with
          | string token =>
            rw [execute_of_asked app hline htoken, actOn_status h]
            simp only [executeStatus, hcommand, hsession]
          | null | bool | number | array | object =>
            rw [execute_of_no_token hline htoken]
            simp only [executeStatus, hcommand, hsession]
            rfl
      | null | bool | number | array | object =>
        simp only [execute, hmembers, Option.bind_some, executeStatus, hcommand]
        rfl

theorem post_execute_status {app : App} (h : app.Sound) {r : Request}
    (hposts : r.PostsTo .execute) :
    (app.handle r).1.status = if r.TooDeep then 500 else executeStatus r.json? app.tabs.names := by
  rw [handle_route app hposts.1 (.inr hposts.2)]
  show (app.post execute r).1.status = _
  by_cases hdeep : r.TooDeep
  · rw [post, if_pos hdeep, if_pos hdeep]
    rfl
  · rw [post_of_not_tooDeep app hdeep, if_neg hdeep]
    exact execute_status h r

/-- No number of pages meets a negative limit, and every other limit lets a page
be opened. -/
theorem opensPage_status (app : App) {r : Request} (h : r.OpensPage) :
    (app.handle r).1.status = if app.limit < 0 then 500 else 200 := by
  have hpage : app.openPage.1.status = if app.limit < 0 then 500 else 200 := by
    by_cases hlimit : app.limit < 0
    · rw [openPage_of_neg hlimit, if_pos hlimit]
      rfl
    · rw [openPage_of_nonneg (Int.not_lt.mp hlimit), if_neg hlimit]
      rfl
  rcases (handle_opensPage app h).2 with hall | hhead
  · rw [hall]
    exact hpage
  · rw [hhead]
    exact hpage

/-! ## What changes -/

theorem refused_tabs {app : App} (h : app.Sound) {r : Request}
    (hrefused : (app.handle r).1.status ≠ 200) : (app.handle r).2.tabs = app.tabs := by
  rcases handle_cases app r with ⟨hopens, hnext⟩ | ⟨token, act, tab, _, htab, hact⟩ | ⟨_, hnext, _⟩
  · have hlimit : app.limit < 0 := by
      refine Int.not_le.mp fun hroom => hrefused ?_
      rw [opensPage_status app hopens, if_neg (Int.not_lt.mpr hroom)]
    rw [hnext, openPage_of_neg hlimit, h.overdrawn hlimit]
  · -- A page under a clock that can be read has a reply to everything.
    obtain ⟨reply, hreply⟩ := Tab.perform_replies (h.tab_clock htab) act
    rw [hact, hreply] at hrefused
    exact absurd rfl hrefused
  · rw [hnext]

theorem opensPage_tabs (app : App) {r : Request} (hopens : r.OpensPage)
    (hok : (app.handle r).1.status = 200) :
    (app.handle r).2.tabs = app.withPage.drop (app.withPage.length - app.limit.toNat) := by
  have hlimit : ¬app.limit < 0 := by
    intro hneg
    rw [opensPage_status app hopens, if_pos hneg] at hok
    nomatch hok
  rw [(handle_opensPage app hopens).1, openPage_of_nonneg (Int.not_lt.mp hlimit)]

/-- A request that is posted changes no page but the one that its body names. -/
theorem post_sameBut (app : App) {r : Request} (hverb : r.verb = .post) :
    SameBut r.bodyToken? app (app.handle r).2 := by
  rcases handle_cases app r with ⟨hopens, _⟩ | ⟨token, act, tab, hasks, htab, hact⟩ | ⟨_, hnext, _⟩
  · exact absurd hopens (Request.not_opensPage_of_post hverb)
  · rw [hact, Request.bodyToken_of_asks hasks hverb]
    exact .keep htab _
  · rw [hnext]
    exact .refl r.bodyToken? app

theorem handle_sameShells (app : App) {r : Request} (hopens : ¬r.OpensPage)
    (hexecute : ¬r.PostsTo .execute) : app.SameShells (app.handle r).2 := by
  rcases handle_cases app r with ⟨hopens', _⟩ | ⟨token, act, tab, hasks, htab, hact⟩ | ⟨_, hnext, _⟩
  · exact absurd hopens' hopens
  · rw [hact]
    refine .keep htab ?_
    cases act with
    | execute line => exact absurd ⟨hasks.1, hasks.2.1⟩ hexecute
    | older | newer | history | welcome => rfl
  · rw [hnext]
    exact fun _ => rfl

theorem handle_same (app : App) {r : Request} (hopens : ¬r.OpensPage)
    (hposts : ∀ route ∈ [Route.execute, .older, .newer], ¬r.PostsTo route) :
    (app.handle r).2 = app := by
  rcases handle_cases app r with ⟨hopens', _⟩ | ⟨token, act, tab, hasks, htab, hact⟩ | ⟨_, hnext, _⟩
  · exact absurd hopens' hopens
  · cases act with
    | execute line => exact absurd ⟨hasks.1, hasks.2.1⟩ (hposts .execute (by decide))
    | older => exact absurd ⟨hasks.1, hasks.2.1⟩ (hposts .older (by decide))
    | newer => exact absurd ⟨hasks.1, hasks.2.1⟩ (hposts .newer (by decide))
    | history | welcome =>
      rw [hact]
      exact keep_self htab
  · exact hnext

/-- A request that is refused leaves the pages as they are.  Running a line is
refused for the first thing that is wrong with the body.  Of what is not refused,
opening puts one fresh page and drops the oldest, running a line changes the page
that is named, a step through the history changes where its user stands, and
nothing else changes anything. -/
theorem refused_request_changes_nothing (config : Config) (clock : Calendar.Reading) (limit : Int)
    (tokens : Nat → String) (requests : List Request) (r : Request) :
    let app := (App.start config clock limit tokens).run requests
    let status := (app.handle r).1.status
    let next := (app.handle r).2
    let grown := app.tabs.put (tokens app.opened) (Tab.fresh config clock)
    (status ≠ 200 → next.tabs = app.tabs) ∧
      (r.PostsTo .execute →
        status = if r.TooDeep then 500 else executeStatus r.json? app.tabs.names) ∧
      (r.OpensPage → status = 200 → next.tabs = grown.drop (grown.length - limit.toNat)) ∧
      (tokens app.opened ∉ app.tabs.names →
        grown = app.tabs ++ [(tokens app.opened, Tab.fresh config clock)]) ∧
      (r.PostsTo .execute → SameBut r.bodyToken? app next) ∧
      (r.PostsTo .older ∨ r.PostsTo .newer →
        SameBut r.bodyToken? app next ∧ app.SameShells next) ∧
      (¬r.OpensPage → (∀ route ∈ [Route.execute, .older, .newer], ¬r.PostsTo route) →
        next = app) := by
  intro app status next grown
  have hframe : (App.start config clock limit tokens).Frame app := run_frame _ requests
  have hsound : app.Sound := (Sound.start config clock limit tokens).run requests
  have hgrown : app.withPage = grown := by
    unfold withPage
    rw [hframe.tokens, hframe.config, hframe.clock]
    rfl
  refine ⟨refused_tabs hsound, post_execute_status hsound, ?_, ?_, ?_, ?_, handle_same app⟩
  · intro hopens hok
    rw [← hgrown, opensPage_tabs app hopens hok, hframe.limit]
    rfl
  · exact fun hnew => Listing.put_of_not_mem hnew _
  · exact fun hposts => post_sameBut app hposts.2
  · intro hwalks
    have hverb : r.verb = .post := hwalks.elim And.right And.right
    have hexecute : ¬r.PostsTo .execute := by
      rintro ⟨hdest, _⟩
      rcases hwalks with hwalks | hwalks <;> rw [hwalks.1] at hdest <;> nomatch hdest
    exact ⟨post_sameBut app hverb,
      handle_sameShells app (Request.not_opensPage_of_post hverb) hexecute⟩

example :
    ((App.start Config.standard { date := ⟨2024, 3, 5⟩ } (-1) Nat.repr).handle
      (.ofSent 100 { method := "GET", address := "/" })).1.status = 500 := by decide

/-- A body that goes one level too deep. -/
example :
    ((App.start Config.standard { date := ⟨2024, 3, 5⟩ } 1 Nat.repr).handle
      (.ofSent 2 { method := "POST", address := "/api/execute"
                   contentType := some "application/json"
                   body := "[[[".toUTF8.toList })).1.status = 500 := by decide +kernel

end App
end Web
end TreeShell
