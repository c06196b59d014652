/-
A page among others is a page on its own.

`page_runs_alone` compares two runs.  One is an application's, in which a page is
opened and anything is asked in any order; the other is that of a single page,
fresh and without an application, of which only the acts are asked that the first
run asks of the page under its token.  As long as the token is kept, both give
the same answers.  What is asked of other pages, what is malformed and what opens
a page does not occur in the second run, so it cannot have mattered in the first.

`Mirrors` is the relation between the two runs.  It says what is kept under the
token if anything is, so that it holds after the request that drops the page, too.
No token is handed out twice: a page opened under the token of another would take
its place.
-/
import TreeShell.Proofs.Web.Window

namespace TreeShell
namespace Web

namespace Request

/-- The act that a request asks of the page under a token. -/
def askedOf? (r : Request) (token : String) : Option Act :=
  r.asks?.bind fun asked => if asked.1 = token then some asked.2 else none

theorem askedOf?_of_asks {r : Request} {name : String} {act : Act} (h : r.Asks name act)
    (token : String) : r.askedOf? token = if name = token then some act else none := by
  rw [askedOf?, asks?_of_asks h, Option.bind_some]

theorem askedOf?_of_opensPage {r : Request} (h : r.OpensPage) (token : String) :
    r.askedOf? token = none := by
  rw [askedOf?, asks?_of_opensPage h, Option.bind_none]

theorem askedOf?_eq_some_iff {r : Request} {token : String} {act : Act} :
    r.askedOf? token = some act ↔ r.Asks token act := by
  constructor
  · intro h
    obtain ⟨⟨name, act'⟩, hasked, hsame⟩ := Option.bind_eq_some_iff.mp h
    have hasks : r.Asks name act' := asks_of_asks? hasked
    split at hsame
    · next hname =>
      obtain rfl : name = token := hname
      rwa [← Option.some.inj hsame]
    · nomatch hsame
  · intro h
    rw [askedOf?_of_asks h, if_pos rfl]

def actsOf (token : String) (requests : List Request) : List Act :=
  requests.filterMap (·.askedOf? token)

theorem actsOf_cons_of_asks {token : String} {act : Act} {r : Request} (h : r.Asks token act)
    (rest : List Request) : actsOf token (r :: rest) = act :: actsOf token rest :=
  List.filterMap_cons_some (askedOf?_eq_some_iff.mpr h)

theorem actsOf_cons_of_none {token : String} {r : Request} (h : r.askedOf? token = none)
    (rest : List Request) : actsOf token (r :: rest) = actsOf token rest :=
  List.filterMap_cons_none h

end Request

namespace Tab

def replies (tab : Tab) : List Act → List (Option Json)
  | [] => []
  | act :: rest => (tab.perform act).1 :: (tab.perform act).2.replies rest

def after (tab : Tab) (acts : List Act) : Tab :=
  acts.foldl (fun tab act => (tab.perform act).2) tab

theorem replies_answered {tab : Tab} {reading : Calendar.Reading}
    (hclock : tab.shell.clock = .ok reading) (acts : List Act) :
    ∀ reply ∈ tab.replies acts, (Response.ofReply reply).status = 200 := by
  induction acts generalizing tab with
  | nil => nofun
  | cons act rest ih =>
    intro reply hreply
    rcases List.mem_cons.mp hreply with rfl | hlater
    · obtain ⟨json, hjson⟩ := perform_replies hclock act
      rw [hjson]
      rfl
    · exact ih ((tab.perform_clock act).trans hclock) reply hlater

end Tab

namespace App

/-- The requests that are made while a token is kept, the one that drops it
included. -/
def lifetime (app : App) (token : String) : List Request → List Request
  | [] => []
  | r :: rest =>
    if token ∈ app.tabs.names then r :: (app.handle r).2.lifetime token rest else []

theorem lifetime_cons_of_mem {app : App} {token : String} (h : token ∈ app.tabs.names) (r : Request)
    (rest : List Request) :
    app.lifetime token (r :: rest) = r :: (app.handle r).2.lifetime token rest :=
  if_pos h

theorem lifetime_cons_of_not_mem {app : App} {token : String} (h : token ∉ app.tabs.names)
    (r : Request) (rest : List Request) : app.lifetime token (r :: rest) = [] :=
  if_neg h

/-- A page that is still kept in the end was kept all the time. -/
theorem lifetime_of_kept {app : App} (hinj : Function.Injective app.tokens) {token : String}
    (hissued : token ∈ app.issued) {requests : List Request}
    (hkept : token ∈ (app.run requests).tabs.names) : app.lifetime token requests = requests := by
  induction requests generalizing app with
  | nil => rfl
  | cons r rest ih =>
    have hlive : token ∈ app.tabs.names := by
      by_contra hgone
      exact dropped_run hinj hissued hgone (r :: rest) hkept
    have hinj' : Function.Injective (app.handle r).2.tokens := by rwa [(app.handle_frame r).tokens]
    rw [run_cons] at hkept
    rw [lifetime_cons_of_mem hlive, ih hinj' (mem_issued_handle hissued r) hkept]

/-- The answers to those requests of a run that ask an act of the page under a
token. -/
def answersAbout (app : App) (token : String) (requests : List Request) : List Response :=
  (requests.zip (app.answers requests)).filterMap fun (r, response) =>
    (r.askedOf? token).map fun _ => response

theorem answersAbout_cons_of_asks (app : App) {token : String} {act : Act} {r : Request}
    (h : r.Asks token act) (rest : List Request) :
    app.answersAbout token (r :: rest) =
      (app.handle r).1 :: (app.handle r).2.answersAbout token rest := by
  have hasked : r.askedOf? token = some act := Request.askedOf?_eq_some_iff.mpr h
  simp only [answersAbout, answers, List.zip_cons_cons, List.filterMap_cons, hasked,
    Option.map_some]

theorem answersAbout_cons_of_none (app : App) {token : String} {r : Request}
    (h : r.askedOf? token = none) (rest : List Request) :
    app.answersAbout token (r :: rest) = (app.handle r).2.answersAbout token rest := by
  simp only [answersAbout, answers, List.zip_cons_cons, List.filterMap_cons, h, Option.map_none]

/-! ## One page through one request -/

theorem handle_page_of_asks {app : App} {token : String} {tab : Tab}
    (htab : app.tabs.get? token = some tab) {r : Request} {act : Act} (hasks : r.Asks token act) :
    (app.handle r).1 = .ofReply (tab.perform act).1 ∧
      (app.handle r).2.tabs.get? token = some (tab.perform act).2 := by
  rw [handle_of_asks app hasks, actOn_of_some htab]
  exact ⟨rfl, app.keep_get?_self token _⟩

/-- A request that asks nothing of a page leaves it as it was, unless it drops
the page or opens another one under its token. -/
theorem handle_page_of_other {app : App} (hdistinct : app.tabs.Distinct) {token : String}
    {r : Request} (hother : r.askedOf? token = none)
    (hnew : r.OpensPage → app.tokens app.opened ≠ token)
    (hlive : token ∈ (app.handle r).2.tabs.names) :
    (app.handle r).2.tabs.get? token = app.tabs.get? token := by
  rcases handle_cases app r with ⟨hopens, h⟩ | ⟨other, act, page, hasks, _, h⟩ | ⟨_, h, _⟩
  · rw [h] at hlive ⊢
    rw [get?_openPage hdistinct hlive, withPage, Listing.get?_put_of_ne _ _ (hnew hopens).symm]
  · have hne : token ≠ other := by
      rintro rfl
      rw [Request.askedOf?_eq_some_iff.mpr hasks] at hother
      cases hother
    rw [h]
    exact app.keep_get?_of_ne hne _
  · rw [h]

/-! ## The simulation -/

/-- A page on its own is the one that an application keeps under a token, if it
still keeps one there. -/
structure Mirrors (app : App) (token : String) (tab : Tab) : Prop where
  sound : app.Sound
  distinct : Function.Injective app.tokens
  issued : token ∈ app.issued
  kept : token ∈ app.tabs.names → app.tabs.get? token = some tab

namespace Mirrors

variable {app : App} {token : String} {tab : Tab}

theorem asks (h : app.Mirrors token tab) (hlive : token ∈ app.tabs.names) {r : Request} {act : Act}
    (hasks : r.Asks token act) :
    (app.handle r).1 = .ofReply (tab.perform act).1 ∧
      (app.handle r).2.Mirrors token (tab.perform act).2 := by
  obtain ⟨hanswer, hkept⟩ := handle_page_of_asks (h.kept hlive) hasks
  refine ⟨hanswer, h.sound.handle r, ?_, mem_issued_handle h.issued r, fun _ => hkept⟩
  rw [(app.handle_frame r).tokens]
  exact h.distinct

theorem waits (h : app.Mirrors token tab) {r : Request} (hother : r.askedOf? token = none) :
    (app.handle r).2.Mirrors token tab := by
  refine ⟨h.sound.handle r, ?_, mem_issued_handle h.issued r, fun hlive => ?_⟩
  · rw [(app.handle_frame r).tokens]
    exact h.distinct
  · have hbefore : token ∈ app.tabs.names := by
      by_contra hgone
      exact dropped_handle h.distinct h.issued hgone r hlive
    have hnew : r.OpensPage → app.tokens app.opened ≠ token := by
      rintro _ rfl
      exact next_not_mem_issued h.distinct h.issued
    rw [handle_page_of_other h.sound.distinct hother hnew hlive]
    exact h.kept hbefore

theorem run (h : app.Mirrors token tab) (requests : List Request) :
    app.answersAbout token (app.lifetime token requests) =
        (tab.replies (Request.actsOf token (app.lifetime token requests))).map .ofReply ∧
      (app.run (app.lifetime token requests)).Mirrors token
        (tab.after (Request.actsOf token (app.lifetime token requests))) := by
  induction requests generalizing app tab with
  | nil => exact ⟨rfl, h⟩
  | cons r rest ih =>
    by_cases hlive : token ∈ app.tabs.names
    · rw [lifetime_cons_of_mem hlive]
      cases hasked : r.askedOf? token with
      | none =>
        rw [Request.actsOf_cons_of_none hasked, answersAbout_cons_of_none app hasked, run_cons]
        exact ih (h.waits hasked)
      | some act =>
        have hasks : r.Asks token act := Request.askedOf?_eq_some_iff.mp hasked
        obtain ⟨hanswer, hnext⟩ := h.asks hlive hasks
        obtain ⟨hanswers, hlast⟩ := ih hnext
        rw [Request.actsOf_cons_of_asks hasks, answersAbout_cons_of_asks app hasks, run_cons,
          hanswer, hanswers]
        exact ⟨rfl, hlast⟩
    · rw [lifetime_cons_of_not_mem hlive]
      exact ⟨rfl, h⟩

/-- An application that just opened a page keeps it fresh, unless it has no room
for one. -/
theorem opening {app : App} (hsound : app.Sound) (hinj : Function.Injective app.tokens)
    {r : Request} (hopens : r.OpensPage) :
    (app.handle r).2.Mirrors (app.tokens app.opened) (Tab.fresh app.config app.clock) := by
  refine ⟨hsound.handle r, ?_, ?_, fun hlive => ?_⟩
  · rwa [(app.handle_frame r).tokens]
  · rw [mem_issued, handle_opened, if_pos hopens, (app.handle_frame r).tokens]
    exact ⟨app.opened, Nat.lt_succ_self app.opened, rfl⟩
  · rw [(handle_opensPage app hopens).1] at hlive ⊢
    rw [get?_openPage hsound.distinct hlive]
    exact Listing.get?_put_self ..

end Mirrors

/-- What a page answers from its opening on, as long as its token is kept, and
what it is afterwards, is what a fresh page answers and becomes that is asked the
same of, whatever else the application was and is asked. -/
theorem page_runs_alone (config : Config) (clock : Calendar.Reading) (limit : Int)
    {tokens : Nat → String} (hinj : Function.Injective tokens) (before : List Request)
    {opening : Request} (hopens : opening.OpensPage) (requests : List Request) :
    let app := (App.start config clock limit tokens).run before
    let token := tokens app.opened
    let opened := (app.handle opening).2
    let span := opened.lifetime token requests
    let acts := Request.actsOf token span
    let alone := Tab.fresh config clock
    (∀ page, (app.handle opening).1.body = .page page → page.token = token) ∧
      (token ∈ (opened.run requests).tabs.names → span = requests) ∧
      opened.answersAbout token span = (alone.replies acts).map .ofReply ∧
      (∀ answer ∈ opened.answersAbout token span, answer.status = 200) ∧
      ∀ tab, (opened.run span).tabs.get? token = some tab → tab = alone.after acts := by
  intro app token opened span acts alone
  have hframe : (App.start config clock limit tokens).Frame app := run_frame _ before
  have hinj' : Function.Injective app.tokens := by rwa [hframe.tokens]
  have hsound : app.Sound := (Sound.start config clock limit tokens).run before
  have hopening : opened.Mirrors token alone := by
    have hfresh := Mirrors.opening hsound hinj' hopens
    rwa [hframe.tokens, hframe.config, hframe.clock] at hfresh
  obtain ⟨hanswers, hlast⟩ := hopening.run requests
  refine ⟨?_, lifetime_of_kept hopening.distinct hopening.issued, hanswers, ?_, ?_⟩
  · intro page hbody
    rw [(handle_body hbody).2, hframe.tokens]
    rfl
  · intro answer hanswer
    rw [hanswers] at hanswer
    obtain ⟨reply, hreply, rfl⟩ := List.mem_map.mp hanswer
    exact alone.replies_answered rfl acts reply hreply
  · intro tab htab
    have hkept := hlast.kept (Listing.mem_names_of_get? htab)
    exact Option.some.inj (htab.symm.trans hkept)

/-- The first of two pages runs a line while the second is opened and read, and
its history has that line alone. -/
theorem page_runs_alone_between :
    let index := Request.ofSent 100 { method := "GET", address := "/" }
    let line := Request.ofSent 100
      { method := "POST", address := "/api/execute", contentType := some "application/json"
        body := "\x7b\"session\": \"0\", \"command\": \"cd /\"\x7d".toUTF8.toList }
    let beside := Request.ofSent 100 { method := "GET", address := "/api/history?session=1" }
    let history := Request.ofSent 100 { method := "GET", address := "/api/history?session=0" }
    let app := App.start Config.standard { date := ⟨2024, 3, 5⟩ } 2 Nat.repr
    index.OpensPage ∧
      (app.handle index).2.answersAbout "0" [line, index, beside, history] =
        [.ofJson 200 [("output", .string "")],
          .ofJson 200 [("history", .array [.string "cd /"])]] := by
  intro index line beside history app
  have hopens : index.OpensPage := by decide
  have hline : line.Asks "0" (.execute "cd /") :=
    ⟨by decide, by decide, by decide +kernel, by decide +kernel⟩
  have hhistory : history.Asks "0" .history := ⟨by decide, by decide, by decide⟩
  have hbeside : beside.Asks "1" .history := ⟨by decide, by decide, by decide⟩
  have hacts : Request.actsOf "0" [line, index, beside, history] = [.execute "cd /", .history] := by
    have hother : beside.askedOf? "0" = none := Request.askedOf?_of_asks hbeside "0"
    rw [Request.actsOf_cons_of_asks hline,
      Request.actsOf_cons_of_none (Request.askedOf?_of_opensPage hopens "0"),
      Request.actsOf_cons_of_none hother, Request.actsOf_cons_of_asks hhistory]
    rfl
  have hwindow : (app.run [index, line, index, beside, history]).Windowed :=
    (Windowed.start ..).run (by decide) repr_injective _
  have hkept : "0" ∈ (app.run [index, line, index, beside, history]).tabs.names := by
    rw [hwindow.mem_iff, opened_run, (app.run_frame _).limit, (app.run_frame _).tokens]
    exact ⟨0, by decide, by decide, rfl⟩
  have htoken : Nat.repr (app.run []).opened = "0" := by decide
  obtain ⟨_, hall, hanswers, _⟩ :=
    page_runs_alone Config.standard { date := ⟨2024, 3, 5⟩ } 2 repr_injective [] hopens
      [line, index, beside, history]
  rw [htoken] at hall hanswers
  rw [run_cons] at hkept
  have hspan : (app.handle index).2.lifetime "0" [line, index, beside, history] =
      [line, index, beside, history] := hall hkept
  rw [show app.run [] = app from rfl, hspan, hacts] at hanswers
  rw [hanswers]
  exact ⟨hopens, rfl⟩

end App
end Web
end TreeShell
