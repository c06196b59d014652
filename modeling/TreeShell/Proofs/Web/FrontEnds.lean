/-
The terminal and a page of the web application show one shell.

Both start the same session from the same environment and run the lines that they
are given.  `front_ends_agree` puts them side by side: the terminal's transcript
of a run of lines, and what a page answers to which the same lines are posted.
The answers are the same one by one, and the history of the page has the lines
that the terminal kept.

The page may be one among many, and anything may be asked of the others in
between.  What is needed is that it stays: that no request drops it, and that its
token is not given to another page.
-/
import TreeShell.Proofs.Transcript
import TreeShell.Proofs.Web.Isolation

namespace TreeShell
namespace Web

/-! ## A page that stays -/

namespace App

/-- A page stays under its token while requests are answered: none of them drops
it, and no page that is opened takes its token. -/
def Stays (app : App) (token : String) : List Request → Prop
  | [] => token ∈ app.tabs.names
  | r :: rest => token ∈ app.tabs.names ∧
    (r.OpensPage → app.tokens app.opened ≠ token) ∧ (app.handle r).2.Stays token rest

instance decidableStays (app : App) (token : String) :
    (requests : List Request) → Decidable (app.Stays token requests)
  | [] => inferInstanceAs (Decidable (_ ∈ _))
  | r :: rest =>
    have := (app.handle r).2.decidableStays token rest
    inferInstanceAs (Decidable (_ ∧ (_ → _) ∧ (app.handle r).2.Stays token rest))

theorem Stays.mem {app : App} {token : String} {requests : List Request}
    (h : app.Stays token requests) : token ∈ app.tabs.names := by
  cases requests with
  | nil => exact h
  | cons r rest => exact h.1

/-- A page that stays answers what is asked of it as it would on its own. -/
theorem Stays.answersAbout {app : App} (hsound : app.Sound) {token : String} {tab : Tab}
    (htab : app.tabs.get? token = some tab) {requests : List Request}
    (h : app.Stays token requests) :
    app.answersAbout token requests =
        (tab.replies (Request.actsOf token requests)).map .ofReply ∧
      (app.run requests).tabs.get? token =
        some (tab.after (Request.actsOf token requests)) := by
  induction requests generalizing app tab with
  | nil => exact ⟨rfl, htab⟩
  | cons r rest ih =>
    obtain ⟨_, hnew, hrest⟩ := h
    rw [run_cons]
    cases hasked : r.askedOf? token with
    | none =>
      have hkept : (app.handle r).2.tabs.get? token = some tab := by
        rw [handle_page_of_other hsound.distinct hasked hnew hrest.mem, htab]
      rw [Request.actsOf_cons_of_none hasked, answersAbout_cons_of_none app hasked]
      exact ih (hsound.handle r) hkept hrest
    | some act =>
      have hasks : r.Asks token act := Request.askedOf?_eq_some_iff.mp hasked
      obtain ⟨hanswer, hkept⟩ := handle_page_of_asks htab hasks
      obtain ⟨hanswers, hlast⟩ := ih (hsound.handle r) hkept hrest
      rw [Request.actsOf_cons_of_asks hasks, answersAbout_cons_of_asks app hasks, hanswer, hanswers]
      exact ⟨rfl, hlast⟩

/-- A page that was just opened, if there is room for it, is fresh. -/
theorem opened_page {app : App} (hsound : app.Sound) {opening : Request}
    (hopens : opening.OpensPage)
    (hlive : app.tokens app.opened ∈ (app.handle opening).2.tabs.names) :
    (app.handle opening).2.tabs.get? (app.tokens app.opened) =
      some (Tab.fresh app.config app.clock) := by
  rw [(handle_opensPage app hopens).1] at hlive ⊢
  rw [get?_openPage hsound.distinct hlive]
  exact Listing.get?_put_self ..

end App

/-! ## Lines that are posted -/

namespace Tab

def ofOutput (output : String) : Json := .object [("output", .string output)]

/-- A page that is posted lines answers as its shell does. -/
theorem replies_execute (tab : Tab) {lines outputs : List String}
    (h : tab.shell.replies lines = outputs.map .ok) :
    tab.replies (lines.map .execute) = outputs.map (some ∘ ofOutput) ∧
      (tab.after (lines.map .execute)).shell = tab.shell.after lines := by
  induction lines generalizing tab outputs with
  | nil =>
    obtain rfl : outputs = [] := List.map_eq_nil_iff.mp h.symm
    exact ⟨rfl, rfl⟩
  | cons line rest ih =>
    obtain ⟨output, others, rfl, hanswer, hrest⟩ := List.map_eq_cons_iff.mp h.symm
    have hcommand : tab.shell.command line = (.ok output, (tab.shell.command line).2) :=
      Prod.ext hanswer.symm rfl
    have hact : tab.perform (.execute line) =
        (some (ofOutput output), ⟨(tab.shell.command line).2, Recall.start⟩) := by
      rw [perform, execute, hcommand]
      rfl
    obtain ⟨hreplies, hshell⟩ := ih ⟨(tab.shell.command line).2, Recall.start⟩ hrest.symm
    have hafter : tab.after ((line :: rest).map .execute) =
        (tab.perform (.execute line)).2.after (rest.map .execute) := by
      rw [after, List.map_cons, List.foldl_cons]
      rfl
    rw [hafter, List.map_cons, replies, hact, hreplies, hshell, Session.after_cons, List.map_cons]
    exact ⟨rfl, rfl⟩

end Tab

/-- A fresh page that stays while lines are posted to it answers them as a shell
of its own does, and its history has them all. -/
theorem App.Stays.posted {app : App} (hsound : app.Sound) {token : String} {config : Config}
    {clock : Calendar.Reading} (hpage : app.tabs.get? token = some (Tab.fresh config clock))
    {requests : List Request} (hstays : app.Stays token requests) {lines outputs : List String}
    (hacts : Request.actsOf token requests = lines.map .execute)
    (houtputs : (Session.start config Registry.standard (.ok clock)).replies lines =
      outputs.map .ok) :
    app.answersAbout token requests =
        outputs.map (fun output => .ofJson 200 [("output", .string output)]) ∧
      ∀ asking, asking.Asks token .history →
        ((app.run requests).handle asking).1 =
          .ofJson 200 [("history", .array (lines.reverse.map .string))] := by
  obtain ⟨hanswers, hlast⟩ := hstays.answersAbout hsound hpage
  obtain ⟨hreplies, hshell⟩ := (Tab.fresh config clock).replies_execute houtputs
  rw [hacts] at hanswers hlast
  refine ⟨?_, fun asking hasks => ?_⟩
  · rw [hanswers, hreplies, List.map_map]
    rfl
  · have hhistory : ((Tab.fresh config clock).after (lines.map .execute)).shell.history =
        lines.reverse := by
      rw [hshell, Session.after_history]
      exact List.append_nil _
    rw [(handle_page_of_asks hlast hasks).1, ← hhistory]
    rfl

/-! ## The terminal beside a page -/

/-- A run of the terminal asks for one line more than it is given and shows under
each prompt where the lines before it led; it writes the welcome, what the shell
answers, and how the input ended; and the line editor, which is told once to keep
no line by itself, is given the lines as they were typed.  A page of an application
in the same environment, to which the same lines are posted, answers the same, and
its history is what the line editor was given, the latest line first.  A user's
name that cannot be one ends the run before it shows anything. -/
theorem front_ends_agree (environment : Listing String) (clock : Calendar.Reading)
    (lines : List String) (ending : Terminal.Ending) :
    let user := (environment.get? "WEBSHELL_USER").getD "nick"
    let hostname := (environment.get? "WEBSHELL_HOSTNAME").getD "webshell"
    (¬UserName user → Terminal.run environment clock lines ending = .error ⟨user⟩) ∧
    (UserName user → ∃ (config : Config) (outputs : List String),
      let s := Session.start config Registry.standard (.ok clock)
      Config.ofEnvironment environment = .ok config ∧ s.replies lines = outputs.map .ok ∧
      Terminal.run environment clock lines ending = .ok {
        written := Session.welcome ++ String.join outputs ++
          match ending with
          | .endOfInput => "\n"
          | .interrupt => "\nInterrupted.\n"
        prompts := (List.range (lines.length + 1)).map fun i =>
          user ++ "@" ++ hostname ++ ":" ++ (s.after (lines.take i)).cwd.format ++ " $ "
        kept := lines
        keepsByItself := [false] } ∧
      ∀ (limit : Int) (tokens : Nat → String) (before : List Request) (opening : Request),
        opening.OpensPage →
        ∃ unused, App.ofEnvironment environment clock limit tokens = .ok unused ∧
          let app := unused.run before
          let token := tokens app.opened
          let opened := (app.handle opening).2
          ∀ requests, opened.Stays token requests →
            Request.actsOf token requests = lines.map .execute →
            opened.answersAbout token requests =
                outputs.map (fun output => .ofJson 200 [("output", .string output)]) ∧
              ∀ asking, asking.Asks token .history →
                ((opened.run requests).handle asking).1 =
                  .ofJson 200 [("history", .array (lines.reverse.map .string))]) := by
  intro user hostname
  refine ⟨fun hinvalid => ?_, fun hvalid => ?_⟩
  · have hrefused : Config.ofEnvironment environment = .error ⟨user⟩ :=
      Config.checked_eq_error hinvalid
    rw [Terminal.run, hrefused]
    rfl
  let config : Config :=
    { user, about := (environment.get? "WEBSHELL_ABOUT").getD Config.standard.about, hostname
      user_valid := hvalid }
  have hconfig : Config.ofEnvironment environment = .ok config := Config.checked_self config
  obtain ⟨outputs, houtputs⟩ :=
    Session.replies_answered (s := Session.start config Registry.standard (.ok clock)) rfl lines
  refine ⟨config, outputs, hconfig, houtputs, ?_, ?_⟩
  · rw [Terminal.run, hconfig]
    simp only [Except.map, Terminal.converse_of_replies houtputs, Session.prompt_after,
      String.append_assoc]
    cases ending <;> rfl
  intro limit tokens before opening hopens
  refine ⟨App.start config clock limit tokens, by rw [App.ofEnvironment, hconfig]; rfl, ?_⟩
  intro app token opened requests hstays hacts
  have hframe : (App.start config clock limit tokens).Frame app := App.run_frame _ before
  have hsound : app.Sound := (App.Sound.start config clock limit tokens).run before
  -- What was asked before the page was opened has left no trace in it.
  have hpage : opened.tabs.get? token = some (Tab.fresh config clock) := by
    have hlive : app.tokens app.opened ∈ opened.tabs.names := by
      rw [hframe.tokens]
      exact hstays.mem
    have hfresh := App.opened_page hsound hopens hlive
    rwa [hframe.tokens, hframe.config, hframe.clock] at hfresh
  exact hstays.posted (hsound.handle opening) hpage hacts houtputs

/-- Two lines in the terminal of a user, and the same two in a page, between which
another page is opened. -/
theorem front_ends_agree_posted :
    let environment : Listing String := [("WEBSHELL_USER", "ann")]
    let clock : Calendar.Reading := { date := ⟨2024, 3, 5⟩ }
    let index := Request.ofSent 100 { method := "GET", address := "/" }
    let post (body : String) := Request.ofSent 100
      { method := "POST", address := "/api/execute", contentType := some "application/json"
        body := body.toUTF8.toList }
    let leave := post "\x7b\"session\": \"0\", \"command\": \"cd /\"\x7d"
    let look := post "\x7b\"session\": \"0\", \"command\": \"pwd\"\x7d"
    UserName "ann" ∧ index.OpensPage ∧
      Terminal.run environment clock ["cd /", "pwd"] .interrupt = .ok {
        written := Session.welcome ++ "/\n" ++ "\nInterrupted.\n"
        prompts := ["ann@webshell:/home/ann $ ", "ann@webshell:/ $ ", "ann@webshell:/ $ "]
        kept := ["cd /", "pwd"]
        keepsByItself := [false] } ∧
      ∃ app, App.ofEnvironment environment clock 2 Nat.repr = .ok app ∧
        (app.handle index).2.answersAbout "0" [leave, index, look] =
          [.ofJson 200 [("output", .string "")], .ofJson 200 [("output", .string "/\n")]] := by
  intro environment clock index post leave look
  have hvalid : UserName "ann" := by decide
  have hopens : index.OpensPage := by decide
  obtain ⟨_, hagree⟩ := front_ends_agree environment clock ["cd /", "pwd"] .interrupt
  obtain ⟨config, outputs, hconfig, houtputs, hrun, hweb⟩ := hagree hvalid
  obtain ⟨app, happ, hpage⟩ := hweb 2 Nat.repr [] index hopens
  let ann : Config := { user := "ann", user_valid := by decide }
  have hann : Config.ofEnvironment environment = .ok ann := Config.checked_self ann
  obtain rfl : ann = config := Except.ok.inj (hann.symm.trans hconfig)
  have hstart : App.ofEnvironment environment clock 2 Nat.repr =
      .ok (App.start ann clock 2 Nat.repr) := by
    rw [App.ofEnvironment, hann]
    rfl
  obtain rfl : App.start ann clock 2 Nat.repr = app := Except.ok.inj (hstart.symm.trans happ)
  have hshown : outputs = ["", "/\n"] := by
    have hread : ((Session.start ann Registry.standard (.ok clock)).replies ["cd /", "pwd"]).map
        Except.toOption = ["", "/\n"].map some := by decide
    rw [houtputs, List.map_map] at hread
    exact (List.map_inj_right fun _ _ => Option.some.inj).mp hread
  subst hshown
  refine ⟨hvalid, hopens, ?_, _, happ, ?_⟩
  · rw [hrun]
    exact congrArg Except.ok (by decide)
  · have hleave : leave.Asks "0" (.execute "cd /") :=
      ⟨by decide, by decide, by decide +kernel, by decide +kernel⟩
    have hlook : look.Asks "0" (.execute "pwd") :=
      ⟨by decide, by decide, by decide +kernel, by decide +kernel⟩
    have hacts : Request.actsOf "0" [leave, index, look] = [.execute "cd /", .execute "pwd"] := by
      rw [Request.actsOf_cons_of_asks hleave,
        Request.actsOf_cons_of_none (Request.askedOf?_of_opensPage hopens "0"),
        Request.actsOf_cons_of_asks hlook]
      rfl
    have hstays : ((App.start ann clock 2 Nat.repr).handle index).2.Stays "0"
        [leave, index, look] := by
      decide +kernel
    have htoken : Nat.repr ((App.start ann clock 2 Nat.repr).run []).opened = "0" := by decide
    have hposted := hpage [leave, index, look]
    rw [htoken] at hposted
    exact (hposted hstays hacts).1

end Web
end TreeShell
