/-
What a stamp tells of a reading.

All parts of a stamp but the last have a fixed width, so that each can be found in
the text and read back: the number of a day or an hour, and the name of a month.
The last is the offset.  It is as wide as it needs to be, and how wide it is tells
what there is of it below the minute, so that nothing of it is lost either.  The
fraction of a second is not shown, and `stamp_tells_seconds` says that this is all
that two readings of one stamp can differ in.

The weekday in front adds nothing to that, but it has to fit the date.  It is the
one after that of the day before.
-/
import Mathlib.Algebra.Group.Nat.Defs
import TreeShell.Proofs.Pieces
import TreeShell.Session.Builtins

namespace TreeShell

/-! ## Texts of a fixed width -/

namespace Text

theorem append_inj {a b c d : String} (h : a ++ c = b ++ d) (hlength : a.length = b.length) :
    a = b ∧ c = d := by
  rw [← String.toList_inj, String.toList_append, String.toList_append] at h
  obtain ⟨hfront, hback⟩ := List.append_inj h hlength
  exact ⟨String.toList_inj.mp hfront, String.toList_inj.mp hback⟩

theorem digitChar_inj {a b : Nat} (ha : a < 16) (hb : b < 16)
    (h : Nat.digitChar a = Nat.digitChar b) : a = b := by
  have hall : ∀ x < 16, ∀ y < 16, Nat.digitChar x = Nat.digitChar y → x = y := by decide
  exact hall a ha b hb h

/-- A number that has room on its places can be read back. -/
theorem digits_inj {base width n m : Nat} (hbase : 0 < base ∧ base ≤ 16) (hn : n < base ^ width)
    (hm : m < base ^ width) (h : digits base width n = digits base width m) : n = m := by
  induction width generalizing n m with
  | zero =>
    rw [pow_zero] at hn hm
    omega
  | succ width ih =>
    rw [pow_succ] at hn hm
    rw [digits, digits, List.append_singleton_inj] at h
    have hhigh : n / base = m / base :=
      ih (Nat.div_lt_of_lt_mul (by rwa [Nat.mul_comm]))
        (Nat.div_lt_of_lt_mul (by rwa [Nat.mul_comm])) h.1
    have hlow : n % base = m % base :=
      digitChar_inj (Nat.lt_of_lt_of_le (Nat.mod_lt n hbase.1) hbase.2)
        (Nat.lt_of_lt_of_le (Nat.mod_lt m hbase.1) hbase.2) h.2
    rw [← Nat.div_add_mod n base, ← Nat.div_add_mod m base, hhigh, hlow]

theorem decimal_inj {width n m : Nat} (hn : n < 10 ^ width) (hm : m < 10 ^ width)
    (h : decimal width n = decimal width m) : n = m :=
  digits_inj (by decide) hn hm (String.ofList_injective h)

end Text

namespace Calendar

open Text (append_inj decimal decimal_inj decimal_length)

theorem Weekday.name_length (w : Weekday) : w.name.length = 3 := by
  cases w <;> decide

theorem monthName_length (month : Nat) : (monthName month).length = 3 := by
  unfold monthName
  split <;> decide

theorem monthName_inj {m n : Nat} (hm : 1 ≤ m ∧ m ≤ 12) (hn : 1 ≤ n ∧ n ≤ 12)
    (h : monthName m = monthName n) : m = n := by
  have hall : ∀ x < 13, ∀ y < 13, 1 ≤ x → 1 ≤ y → monthName x = monthName y → x = y := by decide
  exact hall m (by omega) n (by omega) hm.1 hn.1 h

/-! ## Offsets -/

/-- What is shown of an offset behind its minutes. -/
def belowMinute (seconds micro : Nat) : String :=
  (if seconds = 0 ∧ micro = 0 then "" else decimal 2 seconds) ++
    (if micro = 0 then "" else "." ++ decimal 6 micro)

theorem offsetText_eq (us : Int) :
    offsetText us = (if us < 0 then "-" else "+") ++
      (decimal 2 (us.natAbs / 1000000 / 3600) ++ (decimal 2 (us.natAbs / 1000000 / 60 % 60) ++
        belowMinute (us.natAbs / 1000000 % 60) (us.natAbs % 1000000))) := by
  simp only [offsetText, belowMinute, String.append_assoc]

theorem belowMinute_length (seconds micro : Nat) :
    (belowMinute seconds micro).length =
      (if seconds = 0 ∧ micro = 0 then 0 else 2) + (if micro = 0 then 0 else 7) := by
  have hpoint : ".".length = 1 := rfl
  rw [belowMinute, String.length_append]
  congr 1
  · split <;> simp [decimal_length]
  · split <;> simp [decimal_length, hpoint]

/-- How long the text is says which of its two parts are there. -/
theorem belowMinute_inj {s t m n : Nat} (hs : s < 60) (ht : t < 60) (hm : m < 1000000)
    (hn : n < 1000000) (h : belowMinute s m = belowMinute t n) : s = t ∧ m = n := by
  have hlength := congrArg String.length h
  rw [belowMinute_length, belowMinute_length] at hlength
  have hwidths : (m = 0 ↔ n = 0) ∧ (s = 0 ∧ m = 0 ↔ t = 0 ∧ n = 0) := by
    repeat' split at hlength
    all_goals omega
  obtain ⟨hzero, hnone⟩ := hwidths
  by_cases hm0 : m = 0
  · have hn0 : n = 0 := hzero.mp hm0
    by_cases hs0 : s = 0
    · omega
    · have ht0 : t ≠ 0 := by omega
      simp only [belowMinute, hm0, hn0, hs0, ht0, false_and, if_false, if_true,
        String.append_empty] at h
      exact ⟨decimal_inj (by omega) (by omega) h, hm0.trans hn0.symm⟩
  · have hn0 : n ≠ 0 := fun hn0 => hm0 (hzero.mpr hn0)
    simp only [belowMinute, hm0, hn0, and_false, if_false] at h
    obtain ⟨hseconds, hmicro⟩ := append_inj h (by rw [decimal_length, decimal_length])
    exact ⟨decimal_inj (by omega) (by omega) hseconds,
      decimal_inj (by omega) (by omega) ((String.append_right_inj ".").mp hmicro)⟩

theorem offsetText_inj {us vs : Int} (hus : us.natAbs < 24 * 60 * 60 * 1000000)
    (hvs : vs.natAbs < 24 * 60 * 60 * 1000000) (h : offsetText us = offsetText vs) : us = vs := by
  rw [offsetText_eq, offsetText_eq] at h
  have hwidth : ∀ z : Int, (if z < 0 then "-" else "+").length = 1 := by
    intro z
    split <;> rfl
  obtain ⟨hsign, htime⟩ := append_inj h (by rw [hwidth, hwidth])
  obtain ⟨hhours, hrest⟩ := append_inj htime (by rw [decimal_length, decimal_length])
  obtain ⟨hminutes, hbelow⟩ := append_inj hrest (by rw [decimal_length, decimal_length])
  have hsign' : us < 0 ↔ vs < 0 := by
    by_cases hu : us < 0 <;> by_cases hv : vs < 0 <;> simp [hu, hv] at hsign ⊢
  have hours := decimal_inj (by omega) (by omega) hhours
  have minutes := decimal_inj (by omega) (by omega) hminutes
  obtain ⟨seconds, micro⟩ :=
    belowMinute_inj (by omega) (by omega) (by omega) (by omega) hbelow
  omega

/-- What stands in the place of the offset. -/
def zone : Option Int → String
  | none => ""
  | some us => offsetText us

/-- An offset that is shown is never shown as nothing. -/
theorem zone_inj {x y : Option Int} (hx : ∀ us ∈ x, us.natAbs < 24 * 60 * 60 * 1000000)
    (hy : ∀ us ∈ y, us.natAbs < 24 * 60 * 60 * 1000000) (h : zone x = zone y) : x = y := by
  have hshown : ∀ us, offsetText us ≠ "" := by
    intro us hempty
    have hlength := congrArg String.length hempty
    simp [offsetText_eq, decimal_length] at hlength
  cases x with
  | none =>
    cases y with
    | none => rfl
    | some vs => exact absurd h.symm (hshown vs)
  | some us =>
    cases y with
    | none => exact absurd h (hshown us)
    | some vs => rw [offsetText_inj (hx us rfl) (hy vs rfl) h]

/-! ## Days -/

theorem monthLength_between (year month : Nat) :
    28 ≤ monthLength year month ∧ monthLength year month ≤ 31 := by
  unfold monthLength
  repeat' split
  all_goals omega

theorem Date.eq_iff {d e : Date} :
    d = e ↔ d.year = e.year ∧ d.month = e.month ∧ d.day = e.day := by
  cases d
  cases e
  rw [Date.mk.injEq]

theorem Date.Valid.tomorrow {d : Date} (h : d.Valid) : d.tomorrow.Valid := by
  obtain ⟨hyear, ⟨hfirst, hlast⟩, hday, _⟩ := h
  have hlong (year month : Nat) : 1 ≤ monthLength year month :=
    Nat.le_trans (by decide) (monthLength_between year month).1
  unfold Date.tomorrow
  split
  · next hbefore => exact ⟨hyear, ⟨hfirst, hlast⟩, Nat.le_add_left 1 d.day, hbefore⟩
  · split
    · next hbefore =>
      exact ⟨hyear, ⟨Nat.le_add_left 1 d.month, hbefore⟩, Nat.le_refl 1, hlong ..⟩
    · exact ⟨Nat.le_add_left 1 d.year, ⟨Nat.le_refl 1, Nat.le_add_left 1 11⟩, Nat.le_refl 1,
        hlong ..⟩

/-- February is longer in the year 2000 than in the year 1900. -/
example : (⟨1900, 2, 28⟩ : Date).tomorrow = ⟨1900, 3, 1⟩ ∧
    (⟨2000, 2, 28⟩ : Date).tomorrow = ⟨2000, 2, 29⟩ := by decide

/-! ## Stamps -/

namespace Reading

theorem stamp_eq (r : Reading) :
    r.stamp = r.date.weekday.name ++ (" " ++ (monthName r.date.month ++ (" " ++
      (decimal 2 r.date.day ++ (" " ++ (decimal 4 r.date.year ++ (" " ++ (decimal 2 r.hour ++
        (":" ++ (decimal 2 r.minute ++ (":" ++ (decimal 2 r.second ++
          (" GMT" ++ zone r.offset))))))))))))) := by
  obtain ⟨date, hour, minute, second, microsecond, offset⟩ := r
  cases offset <;> simp only [stamp, zone, time, String.append_assoc]

/-- Two stamps that are the same are the same in each of their parts. -/
theorem parts_of_stamp_eq {r t : Reading} (h : r.stamp = t.stamp) :
    monthName r.date.month = monthName t.date.month ∧
      decimal 2 r.date.day = decimal 2 t.date.day ∧
      decimal 4 r.date.year = decimal 4 t.date.year ∧
      decimal 2 r.hour = decimal 2 t.hour ∧ decimal 2 r.minute = decimal 2 t.minute ∧
      decimal 2 r.second = decimal 2 t.second ∧ zone r.offset = zone t.offset := by
  have hwidth (width n m : Nat) : (decimal width n).length = (decimal width m).length := by
    rw [decimal_length, decimal_length]
  have hnames (m n : Nat) : (monthName m).length = (monthName n).length := by
    rw [monthName_length, monthName_length]
  rw [stamp_eq, stamp_eq] at h
  obtain ⟨_, h⟩ := append_inj h (by rw [Weekday.name_length, Weekday.name_length])
  obtain ⟨hmonth, h⟩ := append_inj ((String.append_right_inj _).mp h) (hnames ..)
  obtain ⟨hday, h⟩ := append_inj ((String.append_right_inj _).mp h) (hwidth ..)
  obtain ⟨hyear, h⟩ := append_inj ((String.append_right_inj _).mp h) (hwidth ..)
  obtain ⟨hhour, h⟩ := append_inj ((String.append_right_inj _).mp h) (hwidth ..)
  obtain ⟨hminute, h⟩ := append_inj ((String.append_right_inj _).mp h) (hwidth ..)
  obtain ⟨hsecond, h⟩ := append_inj ((String.append_right_inj _).mp h) (hwidth ..)
  exact ⟨hmonth, hday, hyear, hhour, hminute, hsecond, (String.append_right_inj _).mp h⟩

theorem stamp_eq_iff {r t : Reading} (hr : r.Valid) (ht : t.Valid) :
    r.stamp = t.stamp ↔ r.date = t.date ∧
      (r.hour = t.hour ∧ r.minute = t.minute ∧ r.second = t.second) ∧ r.offset = t.offset := by
  constructor
  · intro h
    obtain ⟨⟨_, hrmonth, hrday⟩, hryear, hrhour, hrminute, hrsecond, _, hroffset⟩ := hr
    obtain ⟨⟨_, htmonth, htday⟩, htyear, hthour, htminute, htsecond, _, htoffset⟩ := ht
    obtain ⟨hmonth, hday, hyear, hhour, hminute, hsecond, hzone⟩ := parts_of_stamp_eq h
    have hrlast := (monthLength_between r.date.year r.date.month).2
    have htlast := (monthLength_between t.date.year t.date.month).2
    have hdate : r.date = t.date := Date.eq_iff.mpr
      ⟨decimal_inj (by omega) (by omega) hyear, monthName_inj hrmonth htmonth hmonth,
        decimal_inj (by omega) (by omega) hday⟩
    exact ⟨hdate, ⟨decimal_inj (by omega) (by omega) hhour,
      decimal_inj (by omega) (by omega) hminute, decimal_inj (by omega) (by omega) hsecond⟩,
      zone_inj hroffset htoffset hzone⟩
  · rintro ⟨hdate, ⟨hhour, hminute, hsecond⟩, hoffset⟩
    rw [stamp_eq, stamp_eq, hdate, hhour, hminute, hsecond, hoffset]

theorem head_words_stamp (r : Reading) :
    (Text.words r.stamp).head? = some r.date.weekday.name := by
  have hname : r.date.weekday.name ≠ "" ∧ ' ' ∉ r.date.weekday.name.toList := by
    cases r.date.weekday <;> decide
  rw [stamp_eq, ← String.append_assoc, Text.words_cons hname]
  rfl

end Reading

/-- `date` shows a reading as its stamp, and two readings that a clock can give as
the same text if and only if they are of the same date, hour, minute and second
and of the same offset, or both of none.  The first word of the text is a weekday,
and on the next day of the calendar it is the next one. -/
theorem stamp_tells_seconds {Tool : Type} (s : Session Tool) (args : List String) :
    let shown (r : Reading) := (Builtin.date.run args { s with clock := .ok r }).1
    (∀ r, shown r = .ok r.stamp) ∧
      (∀ r t : Reading, r.Valid → t.Valid → (shown r = shown t ↔
        (r.date.year = t.date.year ∧ r.date.month = t.date.month ∧ r.date.day = t.date.day) ∧
          (r.hour = t.hour ∧ r.minute = t.minute ∧ r.second = t.second) ∧
          r.offset = t.offset)) ∧
      ∀ r t : Reading, r.date.Valid → t.date = r.date.tomorrow → t.date.Valid ∧
        ∃ (day : Weekday) (text next : String), shown r = .ok text ∧ shown t = .ok next ∧
          (Text.words text).head? = some day.name ∧
          (Text.words next).head? = some day.next.name := by
  intro shown
  refine ⟨fun r => rfl, fun r t hr ht => ?_, fun r t hr ht => ?_⟩
  · rw [← Date.eq_iff, ← Reading.stamp_eq_iff hr ht]
    exact ⟨Except.ok.inj, congrArg Except.ok⟩
  · refine ⟨ht ▸ hr.tomorrow, r.date.weekday, r.stamp, t.stamp, rfl, rfl, r.head_words_stamp, ?_⟩
    rw [t.head_words_stamp, ht, weekday_tomorrow hr]

/-- The last second of a century on a clock that is a millionth of a second behind
universal time. -/
theorem stamp_tells_seconds_turn :
    let s : Session Empty := .start .standard .standard (.ok { date := ⟨2024, 3, 5⟩ })
    let shown (r : Reading) := (Builtin.date.run ["date"] { s with clock := .ok r }).1
    let late : Reading := ⟨⟨1999, 12, 31⟩, 23, 59, 59, 0, some (-1)⟩
    let later : Reading := { late with microsecond := 999999 }
    let ahead : Reading := { late with offset := some 1 }
    let next : Reading := { date := ⟨2000, 1, 1⟩ }
    (late.Valid ∧ later.Valid ∧ ahead.Valid ∧ next.Valid) ∧
      shown late = .ok "Fri Dec 31 1999 23:59:59 GMT-000000.000001" ∧
      shown late = shown later ∧ shown late ≠ shown ahead ∧
      next.date = late.date.tomorrow ∧ ∃ (day : Weekday) (text following : String),
        shown late = .ok text ∧ shown next = .ok following ∧
          (Text.words text).head? = some day.name ∧
          (Text.words following).head? = some day.next.name := by
  intro s shown late later ahead next
  obtain ⟨hstamp, hsame, hnext⟩ := stamp_tells_seconds s ["date"]
  obtain ⟨hlate, hlater, hahead, hafter⟩ :
      late.Valid ∧ later.Valid ∧ ahead.Valid ∧ next.Valid := by decide
  have htext : late.stamp = "Fri Dec 31 1999 23:59:59 GMT-000000.000001" := by decide
  refine ⟨⟨hlate, hlater, hahead, hafter⟩, (hstamp late).trans (by rw [htext]),
    (hsame late later hlate hlater).mpr (by decide),
    fun h => absurd ((hsame late ahead hlate hahead).mp h) (by decide), by decide, ?_⟩
  exact (hnext late next hlate.1 (by decide)).2

end Calendar
end TreeShell
