/-
What the history and the log tell of a session.

Neither loses anything.  A line puts itself on top of the history and, above
itself, the lines that were run for it; it puts entries behind the log; and it
does both however deep the lines are nested and however they end:
`history_and_log_grow`.  The log tells still more.  Every `cd` that succeeds
leaves an entry there and nothing else leaves one like it, so that the last one
says where the session stands: `log_tells_cwd`.

Both are read off the account that a session keeps of its calls.  They are about
tools that do nothing but have lines run; a tool that changes the directory by
itself, or writes into the log in another's name, is not bound by them.
-/
import TreeShell.Proofs.Calls

namespace TreeShell
namespace Session

variable {Tool : Type}

/-- A line is kept below the lines that were run for it, the latest one on top,
and above all that was kept before; the log before is the beginning of the log
after, and what comes behind it is in the user's name.  Read from its end, the
history of a session tells all lines in the order in which they were asked for. -/
theorem history_and_log_grow {box : Toolbox Tool} (hbox : box.CommandsOnly) (depth : Nat)
    (line : String) (s : Session Tool) :
    let after := (runAt box depth line s).2
    (∃ nested, calls box depth ⟨line, s⟩ = ⟨line, s⟩ :: nested ∧
      after.history = (nested.map Call.line).reverse ++ [line] ++ s.history) ∧
    (∃ entries, after.log = s.log ++ entries ∧ ∀ entry ∈ entries, entry.user = s.user) ∧
    ∀ happenings,
      (s.liveThrough box depth happenings).history.reverse =
        s.history.reverse ++ (s.callsThrough box depth happenings).map Call.line ∧
      s.log <+: (s.liveThrough box depth happenings).log := by
  intro after
  have hline : s.Recorded after (calls box depth ⟨line, s⟩) := runAt_recorded hbox depth line s
  refine ⟨?_, ?_, fun happenings => ?_⟩
  · obtain ⟨nested, hnested⟩ := exists_calls_eq_cons box depth ⟨line, s⟩
    refine ⟨nested, hnested, ?_⟩
    rw [hline.history, hnested, List.map_cons, List.reverse_cons]
  · obtain ⟨entries, hlog, huser, _⟩ := hline.log
    exact ⟨entries, hlog, huser⟩
  · have hrun := s.liveThrough_recorded hbox depth happenings
    obtain ⟨entries, hlog, _⟩ := hrun.log
    refine ⟨?_, entries, hlog.symm⟩
    rw [hrun.history, List.reverse_append, List.reverse_reverse]

/-- A line whose tool asks for another tool, which asks for two lines and then
stops the shell. -/
theorem history_and_log_grow_nested :
    let box : Toolbox Bool := fun t _ =>
      if t then
        .command "stop" fun answer =>
          .finish (answer.mapError Escape.failure)
      else
        .command "cd /tmp" fun _ => .command "pwd" fun _ =>
          .finish (.error (.interrupt (.keyboard "")))
    let registry :=
      Registry.ofList [("cd", .builtin .cd), ("go", .tool true), ("stop", .tool false)]
    let s := Session.start Config.standard registry (.ok { date := ⟨2024, 3, 5⟩ })
    box.CommandsOnly ∧ (runAt box 2 " go on" s).1 = .error (.interrupt (.keyboard "")) ∧
      (runAt box 2 " go on" s).2.history = ["pwd", "cd /tmp", "stop", " go on"] ∧
      s.log <+: (runAt box 2 " go on" s).2.log := by
  intro box registry s
  have hbox : box.CommandsOnly := by
    intro t args
    cases t with
    | true => exact .command fun answer => .finish _
    | false => exact .command fun _ => .command fun _ => .finish _
  obtain ⟨⟨nested, hcalls, hhistory⟩, ⟨entries, hlog, _⟩, _⟩ :=
    history_and_log_grow hbox 2 " go on" s
  have hlines : nested.map Call.line = ["stop", "cd /tmp", "pwd"] := by
    have hall : (calls box 2 ⟨" go on", s⟩).map Call.line =
        [" go on", "stop", "cd /tmp", "pwd"] := by
      decide
    rw [hcalls, List.map_cons] at hall
    exact (List.cons.inj hall).2
  refine ⟨hbox, rfl, ?_, entries, hlog.symm⟩
  rw [hhistory, hlines]
  rfl

/-- As long as no `cd` succeeded, its source has no entry in the log, and the
session is at home; after that the last entry of this source tells the working
directory.  There are as many as `cd` succeeded times. -/
theorem log_tells_cwd {box : Toolbox Tool} (hbox : box.CommandsOnly) (config : Config)
    (registry : Registry Tool) (clock : Except Failure Calendar.Reading) (depth : Nat)
    (happenings : List (Happening Tool)) :
    let start := Session.start config registry clock
    let s := start.liveThrough box depth happenings
    let arrivals := s.log.select none (some "cd")
    (arrivals = [] → s.cwd = config.home) ∧
      (∀ last, arrivals.getLast? = some last →
        last.level = .debug ∧ last.message = "cwd -> " ++ s.cwd.format) ∧
      arrivals.length = (start.callsThrough box depth happenings).countP
        fun call => call.destination?.isSome := by
  intro start s arrivals
  have hrun : start.Recorded s (start.callsThrough box depth happenings) :=
    start.liveThrough_recorded hbox depth happenings
  obtain ⟨entries, hlog, _, hplaces⟩ := hrun.log
  have harrivals : arrivals =
      ((start.callsThrough box depth happenings).filterMap Call.destination?).map
        start.arrival := by
    have hstart : start.log.select none (some "cd") = [] := rfl
    simp only [arrivals, hlog, Log.select, List.filter_append] at hstart hplaces ⊢
    rw [hstart, hplaces, List.nil_append]
  have hcwd := hrun.cwd
  rw [harrivals]
  refine ⟨fun hnone => ?_, fun last hlast => ?_, ?_⟩
  · rw [hcwd, List.map_eq_nil_iff.mp hnone]
    rfl
  · rw [List.getLast?_map] at hlast
    obtain ⟨path, hpath, rfl⟩ := Option.map_eq_some_iff.mp hlast
    rw [hcwd, hpath]
    exact ⟨rfl, rfl⟩
  · rw [List.length_map, List.length_filterMap_eq_countP]

/-- A tool goes to a directory and fails to go on; then the directory is taken
away, and going there again fails. -/
theorem log_tells_cwd_after_loss :
    let box : Toolbox Unit := fun _ _ =>
      .command "cd /tmp" fun _ => .command "cd ../nowhere" fun _ => .finish (.ok "")
    let registry := Registry.ofList [("cd", .builtin .cd), ("go", .tool ())]
    let clock : Except Failure Calendar.Reading := .ok { date := ⟨2024, 3, 5⟩ }
    let happenings : List (Happening Unit) :=
      [.typed ⟨"go", clock⟩, .changed (.directory []), .typed ⟨"cd /tmp", clock⟩]
    let start := Session.start Config.standard registry clock
    let s := start.liveThrough box 1 happenings
    box.CommandsOnly ∧ (s.log.select none (some "cd")).length = 1 ∧
      ∀ last, (s.log.select none (some "cd")).getLast? = some last →
        last.level = .debug ∧ last.message = "cwd -> " ++ s.cwd.format := by
  intro box registry clock happenings start s
  have hbox : box.CommandsOnly := fun _ _ => .command fun _ => .command fun _ => .finish _
  obtain ⟨_, hlast, hcount⟩ :=
    log_tells_cwd hbox Config.standard registry clock 1 happenings
  refine ⟨hbox, ?_, hlast⟩
  rw [hcount]
  decide

end Session
end TreeShell
