/-
The pages that are kept are the newest ones.

With a limit that can be met, the tokens of the kept pages are at any time the
last ones that were handed out, in the order in which they were, and as many of
them as the limit allows.  That is `App.Windowed`.  A page under a token that is
still listed would take the place of the old one instead of going to the end.
`Apart` is what keeps tokens from that; where none is handed out twice it holds
under every limit.

Using a page does not appear in it at all, so use cannot keep a page alive.
-/
import TreeShell.Proofs.Web.Running
import TreeShell.Web.Sent

namespace TreeShell
namespace Web
namespace App

theorem issued_length (app : App) : app.issued.length = app.opened := by
  rw [issued, List.length_map, List.length_range]

theorem mem_drop_issued {app : App} {n : Nat} {token : String} :
    token ∈ app.issued.drop n ↔ ∃ i, n ≤ i ∧ i < app.opened ∧ app.tokens i = token := by
  have hlength : app.issued.length = app.opened := app.issued_length
  rw [List.mem_drop_iff_getElem]
  constructor
  · rintro ⟨i, hi, htoken⟩
    refine ⟨n + i, Nat.le_add_right n i, by omega, ?_⟩
    rw [← htoken]
    simp [issued]
  · rintro ⟨i, hni, hi, htoken⟩
    refine ⟨i - n, by omega, ?_⟩
    rw [← htoken]
    simp [issued, Nat.add_sub_cancel' hni]

/-- The tokens of the kept pages are the last ones that were handed out, as many
as the limit allows. -/
def Windowed (app : App) : Prop :=
  app.tabs.names = app.issued.drop (app.opened - app.limit.toNat)

/-- A new page never gets the token of one that is kept still: tokens that come
again come only after the page is out of the limit. -/
def Apart (tokens : Nat → String) (limit : Int) : Prop :=
  ∀ i j : Nat, i < j → (j : Int) ≤ i + limit → tokens i ≠ tokens j

theorem apart_of_injective {tokens : Nat → String} (hinj : Function.Injective tokens)
    (limit : Int) : Apart tokens limit :=
  fun _ _ hlt _ hsame => Nat.ne_of_lt hlt (hinj hsame)

/-- Putting an element behind a window of `n` and dropping what is too much moves
the window on. -/
theorem drop_window {α : Type} (l : List α) (a : α) (n : Nat) :
    (l.drop (l.length - n) ++ [a]).drop ((l.drop (l.length - n) ++ [a]).length - n) =
      (l ++ [a]).drop (l.length + 1 - n) := by
  have hle : l.length - n ≤ l.length := Nat.sub_le _ _
  rw [List.length_append, List.length_drop, List.length_singleton,
    ← List.drop_append_of_le_length hle, List.drop_drop]
  congr 1
  omega

namespace Windowed

theorem start (config : Config) (clock : Calendar.Reading) (limit : Int) (tokens : Nat → String) :
    (App.start config clock limit tokens).Windowed := by
  simp [Windowed, issued, App.start, Listing.names]

theorem mem_iff {app : App} (h : app.Windowed) {token : String} :
    token ∈ app.tabs.names ↔
      ∃ i, app.opened - app.limit.toNat ≤ i ∧ i < app.opened ∧ app.tokens i = token := by
  rw [show app.tabs.names = _ from h]
  exact mem_drop_issued

theorem next_not_mem_of_apart {app : App} (h : app.Windowed)
    (hapart : Apart app.tokens app.limit) : app.tokens app.opened ∉ app.tabs.names := by
  intro hkept
  obtain ⟨i, hnewest, hbefore, hsame⟩ := h.mem_iff.mp hkept
  exact hapart i app.opened hbefore (by omega) hsame

theorem next_not_mem {app : App} (h : app.Windowed) (hinj : Function.Injective app.tokens) :
    app.tokens app.opened ∉ app.tabs.names :=
  h.next_not_mem_of_apart (apart_of_injective hinj app.limit)

theorem openPage_of_new {app : App} (h : app.Windowed) (hlimit : 0 ≤ app.limit)
    (hnew : app.tokens app.opened ∉ app.tabs.names) : app.openPage.2.Windowed := by
  have hwith : Listing.names app.withPage = app.tabs.names ++ [app.tokens app.opened] := by
    rw [withPage, Listing.names_put, if_neg hnew]
  have hlength : app.withPage.length = (Listing.names app.withPage).length :=
    (List.length_map _).symm
  have hissued : (List.range (app.opened + 1)).map app.tokens =
      app.issued ++ [app.tokens app.opened] := by
    rw [List.range_succ, List.map_append]
    rfl
  have hmove := drop_window app.issued (app.tokens app.opened) app.limit.toNat
  rw [issued_length] at hmove
  rw [openPage_of_nonneg hlimit]
  show Listing.names (app.withPage.drop (app.withPage.length - app.limit.toNat)) =
    ((List.range (app.opened + 1)).map app.tokens).drop (app.opened + 1 - app.limit.toNat)
  rw [Listing.names_drop, hlength, hwith, show app.tabs.names = _ from h, hissued]
  exact hmove

/-- Any limit will do: one that nothing meets leaves an empty window. -/
theorem openPage_of_apart {app : App} (h : app.Windowed)
    (hapart : Apart app.tokens app.limit) : app.openPage.2.Windowed := by
  by_cases hlimit : app.limit < 0
  · have htabs : app.openPage.2.tabs = [] := by rw [openPage_of_neg hlimit]
    have hnone : app.openPage.2.limit.toNat = 0 := by
      rw [app.openPage_frame.limit]
      exact Int.toNat_of_nonpos (Int.le_of_lt hlimit)
    have hissued : app.openPage.2.issued.length ≤ app.openPage.2.opened :=
      Nat.le_of_eq (issued_length _)
    unfold Windowed
    rw [htabs, hnone, Nat.sub_zero, List.drop_of_length_le hissued]
    rfl
  · exact h.openPage_of_new (Int.not_lt.mp hlimit) (h.next_not_mem_of_apart hapart)

theorem openPage {app : App} (h : app.Windowed) (hlimit : 0 ≤ app.limit)
    (hinj : Function.Injective app.tokens) : app.openPage.2.Windowed :=
  h.openPage_of_new hlimit (h.next_not_mem hinj)

theorem handle_of_openPage {app : App} (h : app.Windowed) (hopen : app.openPage.2.Windowed)
    (r : Request) : (app.handle r).2.Windowed := by
  rcases handle_cases app r with ⟨_, hnext⟩ | ⟨token, act, tab, _, htab, hnext⟩ | ⟨_, hnext, _⟩
  · rw [hnext]
    exact hopen
  · rw [hnext]
    exact (keep_names htab _).trans h
  · rw [hnext]
    exact h

theorem handle {app : App} (h : app.Windowed) (hlimit : 0 ≤ app.limit)
    (hinj : Function.Injective app.tokens) (r : Request) : (app.handle r).2.Windowed :=
  h.handle_of_openPage (h.openPage hlimit hinj) r

theorem run {app : App} (h : app.Windowed) (hlimit : 0 ≤ app.limit)
    (hinj : Function.Injective app.tokens) (requests : List Request) :
    (app.run requests).Windowed := by
  have hall : 0 ≤ (app.run requests).limit ∧ Function.Injective (app.run requests).tokens ∧
      (app.run requests).Windowed := by
    refine run_induction (P := fun app => 0 ≤ app.limit ∧ Function.Injective app.tokens ∧
      app.Windowed) (fun app r ⟨hlimit, hinj, h⟩ => ?_) ⟨hlimit, hinj, h⟩ requests
    have hframe : app.Frame (app.handle r).2 := app.handle_frame r
    exact ⟨by rwa [hframe.limit], by rwa [hframe.tokens], h.handle hlimit hinj r⟩
  exact hall.2.2

theorem length {app : App} (h : app.Windowed) :
    app.tabs.length = min app.opened app.limit.toNat := by
  have hlength : app.tabs.length = app.tabs.names.length := (List.length_map _).symm
  rw [hlength, show app.tabs.names = _ from h, List.length_drop, issued_length]
  omega

end Windowed

/-- The kept pages are a window of the newest ones, whatever is asked in between:
a page that is opened is in it where anything can be, and what fell out of it
does not come back. -/
theorem store_keeps_newest (config : Config) (clock : Calendar.Reading) {limit : Int}
    {tokens : Nat → String} (hlimit : 0 ≤ limit) (hinj : Function.Injective tokens)
    (requests : List Request) :
    let app := (App.start config clock limit tokens).run requests
    app.opened = (requests.countP fun r => decide r.OpensPage) ∧
      app.tabs.names =
        ((List.range app.opened).map tokens).drop (app.opened - limit.toNat) ∧
      app.tabs.length = min app.opened limit.toNat ∧
      (∀ r, r.OpensPage → 1 ≤ limit → tokens app.opened ∈ (app.handle r).2.tabs.names) ∧
      (∀ r page, (app.handle r).1.body = .page page →
        r.OpensPage ∧ page.token = tokens app.opened) ∧
      ∀ token ∈ (List.range app.opened).map tokens, token ∉ app.tabs.names →
        ∀ later, token ∉ (app.run later).tabs.names := by
  intro app
  have hframe : (App.start config clock limit tokens).Frame app := run_frame _ requests
  have hlimit' : 0 ≤ app.limit := by rwa [hframe.limit]
  have hinj' : Function.Injective app.tokens := by rwa [hframe.tokens]
  have hissued : app.issued = (List.range app.opened).map tokens := by
    rw [issued, hframe.tokens]
    rfl
  have hwindow : app.Windowed := (Windowed.start config clock limit tokens).run hlimit hinj requests
  have hlength : app.tabs.length = min app.opened app.limit.toNat := hwindow.length
  rw [hframe.limit] at hlength
  refine ⟨?_, ?_, hlength, ?_, ?_, ?_⟩
  · exact (opened_run _ requests).trans (Nat.zero_add _)
  · rw [← hissued, show app.tabs.names = _ from hwindow, hframe.limit]
    rfl
  · intro r hopens hroom
    have hnext : (app.handle r).2.Windowed := hwindow.handle hlimit' hinj' r
    have hframe' : app.Frame (app.handle r).2 := app.handle_frame r
    rw [hnext.mem_iff, handle_opened, if_pos hopens, hframe'.limit, hframe'.tokens, hframe.limit,
      hframe.tokens]
    have hinside : app.opened + 1 - limit.toNat ≤ app.opened := by omega
    exact ⟨app.opened, hinside, Nat.lt_succ_self app.opened, rfl⟩
  · intro r page hbody
    obtain ⟨hopens, hpage⟩ := handle_body hbody
    rw [hframe.tokens] at hpage
    exact ⟨hopens, congrArg Page.token hpage⟩
  · intro token htoken hgone later
    rw [← hissued] at htoken
    exact dropped_run hinj' htoken hgone later

theorem repr_injective : Function.Injective Nat.repr := by
  intro m n h
  have hdigits : Nat.toDigits 10 m = Nat.toDigits 10 n := String.ofList_injective h
  rw [← @Nat.ofDigitChars_ten_toDigits m, hdigits, Nat.ofDigitChars_ten_toDigits]

/-- The oldest of three pages is gone for good, though it was used last. -/
theorem store_keeps_newest_two :
    let index := Request.ofSent 100 { method := "GET", address := "/" }
    let used := Request.ofSent 100 { method := "GET", address := "/api/history?session=0" }
    let app := (App.start Config.standard { date := ⟨2024, 3, 5⟩ } 2 Nat.repr).run
      [index, index, used, index]
    app.tabs.names = ["1", "2"] ∧ ∀ later, "0" ∉ (app.run later).tabs.names := by
  intro index used app
  obtain ⟨hopened, hnames, _, _, _, hgone⟩ :=
    store_keeps_newest Config.standard { date := ⟨2024, 3, 5⟩ } (by decide : (0 : Int) ≤ 2)
      repr_injective [index, index, used, index]
  have hthree : app.opened = 3 := hopened.trans (by decide)
  have hkept : app.tabs.names = ["1", "2"] := by
    rw [hnames, hthree]
    decide
  refine ⟨hkept, hgone "0" ?_ ?_⟩
  · rw [hthree]
    decide
  · rw [hkept]
    decide

end App
end Web
end TreeShell
