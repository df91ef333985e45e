import JudgeClient.Proofs.Numeral
import JudgeClient.Proofs.Text.Blank
import JudgeClient.Timestamp
import Mathlib.Tactic.Common
import Mathlib.Tactic.IntervalCases

/-!
# Timestamps of fixed width

The API writes a timestamp as seven runs of digits, `YYYY-MM-DDTHH:MM:SS.mmmZ`.  A text of this form
is read run by run, and it stands for the point in time that its digits name, unless there is no
such point: reading looks the day up in the calendar and the time of day on the clock.  The calendar
here is the one of the standard library, so the rules for leap years and lengths of months are
compared with rules that were written elsewhere.

* `Timestamp.isDay_iff` : the days that reading accepts are those of the calendar;
* `Timestamp.Digits` : seven runs of digits, what they are written as and what they stand for;
* `Timestamp.read?_text` : a text of the form is read as what its digits stand for, if that exists;
* `Timestamp.IsCivil.hasShape_digits`, `Timestamp.value_digits` : every point in time of the years
  up to 9999 has such a text;
* `Timestamp.IsCivil.write_eq_shown` : pages show its digits up to the second.
-/

namespace JudgeClient

namespace Timestamp

/-! ### The calendar -/

/-- The standard library's calendar has the day. -/
def IsDay (t : Timestamp) : Prop :=
  ∃ date : Std.Time.PlainDate,
    date.year.toInt = t.year ∧ date.month.val = t.month ∧ date.day.val = t.day

theorem isLeap_eq (year : Std.Time.Year.Offset) : year.isLeap = isLeapYear year.toInt := by
  have h : ∀ n, Int.tmod year.toInt n = 0 ↔ year.toInt % n = 0 := fun n => by
    rw [← Int.dvd_iff_tmod_eq_zero, Int.dvd_iff_emod_eq_zero]
  rw [Bool.eq_iff_iff]
  simp [Std.Time.Year.Offset.isLeap, isLeapYear, h]

theorem days_eq (year : Std.Time.Year.Offset) (month : Std.Time.Month.Ordinal) :
    (month.days year.isLeap).val = daysInMonth year.toInt month.val.toNat := by
  rw [isLeap_eq]
  obtain ⟨month, hfirst, hlast⟩ := month
  interval_cases month <;> cases h : isLeapYear year.toInt <;> simp [daysInMonth, h] <;> rfl

theorem month_of_daysInMonth_pos {year : Int} {month : Nat} (h : 0 < daysInMonth year month) :
    1 ≤ month ∧ month ≤ 12 := by
  by_contra hmonth
  -- any other month has no days, whatever the year is
  obtain rfl | ⟨n, rfl⟩ : month = 0 ∨ ∃ n, month = n + 13 := by
    by_cases hzero : month = 0
    · exact .inl hzero
    · exact .inr ⟨month - 13, by omega⟩
  · exact absurd h (Nat.lt_irrefl 0)
  · exact absurd h (Nat.lt_irrefl 0)

/-- The days that are accepted are those of the calendar. -/
theorem isDay_iff {t : Timestamp} : t.IsDay ↔ 1 ≤ t.day ∧ t.day ≤ daysInMonth t.year t.month := by
  constructor
  · rintro ⟨⟨year, month, day, hvalid⟩, hyear, hmonth, hday⟩
    have hdays := days_eq year month
    have hlast : day.val ≤ (month.days year.isLeap).val := hvalid
    have hfirst : 1 ≤ day.val := day.property.1
    simp only at hyear hmonth hday
    rw [hdays, hyear, hmonth, Int.toNat_natCast] at hlast
    omega
  · rintro ⟨hfirst, hlast⟩
    obtain ⟨hmonth, hmonth'⟩ := month_of_daysInMonth_pos (Nat.lt_of_lt_of_le hfirst hlast)
    let month : Std.Time.Month.Ordinal := ⟨t.month, by omega, by omega⟩
    let year : Std.Time.Year.Offset := t.year
    have hdays : (month.days year.isLeap).val = daysInMonth t.year t.month := days_eq year month
    have hle : (month.days year.isLeap).val ≤ 31 := (month.days year.isLeap).property.2
    let day : Std.Time.Day.Ordinal := ⟨t.day, by omega, by omega⟩
    have hvalid : day.val ≤ (month.days year.isLeap).val := by
      rw [hdays]
      exact Int.ofNat_le.2 hlast
    exact ⟨⟨year, month, day, hvalid⟩, rfl, rfl, rfl⟩

/-! ### Runs of digits -/

/-- The text is a run of digits of the given width. -/
def IsRun (width : Nat) (s : List Char) : Prop := s.length = width ∧ ∀ c ∈ s, c.isDigit = true

theorem IsRun.exists_cons {width : Nat} {run : List Char} (h : IsRun (width + 1) run) :
    ∃ c tail, run = c :: tail ∧ c.isDigit = true := by
  cases run with
  | nil => exact absurd h.1 (Nat.succ_ne_zero width).symm
  | cons c tail => exact ⟨c, tail, rfl, h.2 c List.mem_cons_self⟩

section Reading

variable {width : Nat} {run : List Char}

theorem readDigits?_run (h : IsRun (width + 1) run) (rest : List Char) :
    readDigits? (width + 1) (run ++ rest) = some (Numeral.ofDigits run, rest) := by
  obtain ⟨c, tail, hrun, -⟩ := h.exists_cons
  have hne : run.isEmpty = false := by simp [hrun]
  have htake : (run ++ rest).take (width + 1) = run := List.take_left' h.1
  have hall : run.takeWhile Char.isDigit = run := List.takeWhile_eq_self_iff.2 h.2
  simp [readDigits?, htake, hall, hne]

/-- No blanks stand before a run. -/
theorem trimStart_run (h : IsRun (width + 1) run) (rest : List Char) :
    Text.trimStart (run ++ rest) = run ++ rest := by
  obtain ⟨c, tail, rfl, hc⟩ := h.exists_cons
  exact List.dropWhile_cons_of_neg (by simp [Text.isBlank_of_isDigit hc])

theorem readField?_run (h : IsRun 2 run) (rest : List Char) :
    readField? (run ++ rest) = some (Numeral.ofDigits run, rest) := by
  rw [readField?, trimStart_run h, readDigits?_run h]

/-- A run has no sign before it. -/
theorem readYear?_run (h : IsRun 4 run) (rest : List Char) :
    readYear? (run ++ rest) = some ((Numeral.ofDigits run : Int), rest) := by
  have hread := readDigits?_run h rest
  obtain ⟨c, tail, hrun, hc⟩ := h.exists_cons
  rw [readYear?, trimStart_run h]
  split
  · next heq =>
    rw [hrun] at heq
    cases heq
    cases hc
  · next heq =>
    rw [hrun] at heq
    cases heq
    cases hc
  · rw [hread, Option.map_some]

theorem readFraction?_run (h : IsRun 3 run) (rest : List Char) :
    readFraction? ('.' :: (run ++ rest)) = some (Numeral.ofDigits run, rest) := by
  have htake : (run ++ rest).take 3 = run := List.take_left' h.1
  have hdrop : (run ++ rest).drop 3 = rest := List.drop_left' h.1
  have hlength : 3 ≤ (run ++ rest).length := by simp [h.1]
  have hall : run.all Char.isDigit = true := List.all_eq_true.2 h.2
  simp only [readFraction?, htake, hdrop, hlength, hall, and_self, if_true]

end Reading

/-! ### The digits of a text -/

/-- The runs of digits of a text of the form `YYYY-MM-DDTHH:MM:SS.mmmZ`. -/
structure Digits where
  year : List Char
  month : List Char
  day : List Char
  hour : List Char
  minute : List Char
  second : List Char
  millisecond : List Char

namespace Digits

/-- The runs have their widths. -/
structure HasShape (d : Digits) : Prop where
  year : IsRun 4 d.year
  month : IsRun 2 d.month
  day : IsRun 2 d.day
  hour : IsRun 2 d.hour
  minute : IsRun 2 d.minute
  second : IsRun 2 d.second
  millisecond : IsRun 3 d.millisecond

/-- The text, as the API writes it. -/
def text (d : Digits) : String :=
  String.ofList (d.year ++ '-' :: (d.month ++ '-' :: (d.day ++ 'T' :: (d.hour ++ ':' ::
    (d.minute ++ ':' :: (d.second ++ '.' :: (d.millisecond ++ ['Z'])))))))

/-- The digits up to the second, as pages show them: `YYYY-MM-DD HH:MM:SS`. -/
def shown (d : Digits) : String :=
  String.ofList (d.year ++ '-' :: (d.month ++ '-' :: (d.day ++ ' ' :: (d.hour ++ ':' ::
    (d.minute ++ ':' :: d.second)))))

/-- What the digits stand for, whether or not it exists. -/
def value (d : Digits) : Timestamp where
  year := Numeral.ofDigits d.year
  month := Numeral.ofDigits d.month
  day := Numeral.ofDigits d.day
  hour := Numeral.ofDigits d.hour
  minute := Numeral.ofDigits d.minute
  second := Numeral.ofDigits d.second
  millisecond := Numeral.ofDigits d.millisecond

theorem text_ne_empty (d : Digits) : d.text ≠ "" := by
  simp [text, ← String.toList_inj]

theorem shown_ne_empty (d : Digits) : d.shown ≠ "" := by
  simp [shown, ← String.toList_inj]

end Digits

theorem bind_of_eq_some {α β : Type} {x : Option α} {a : α} (h : x = some a) (f : α → Option β) :
    (x >>= f) = f a := by
  rw [h]
  rfl

theorem readMark?_cons (c : Char) (rest : List Char) : readMark? c (c :: rest) = some rest :=
  if_pos rfl

/-- A text of the form is read as what its digits stand for, if that is valid. -/
theorem read?_text {d : Digits} (h : d.HasShape) :
    read? d.text = if d.value.isValid then some d.value else none := by
  rw [read?, Digits.text, String.toList_ofList]
  -- one step for each run, and one for each mark behind it
  refine (bind_of_eq_some (readYear?_run h.year _) _).trans ?_
  refine (bind_of_eq_some (readMark?_cons '-' _) _).trans ?_
  refine (bind_of_eq_some (readField?_run h.month _) _).trans ?_
  refine (bind_of_eq_some (readMark?_cons '-' _) _).trans ?_
  refine (bind_of_eq_some (readField?_run h.day _) _).trans ?_
  refine (bind_of_eq_some (readMark?_cons 'T' _) _).trans ?_
  refine (bind_of_eq_some (readField?_run h.hour _) _).trans ?_
  refine (bind_of_eq_some (readMark?_cons ':' _) _).trans ?_
  refine (bind_of_eq_some (readField?_run h.minute _) _).trans ?_
  refine (bind_of_eq_some (readMark?_cons ':' _) _).trans ?_
  refine (bind_of_eq_some (readField?_run h.second _) _).trans ?_
  refine (bind_of_eq_some (readFraction?_run h.millisecond _) _).trans ?_
  refine (bind_of_eq_some (readMark?_cons 'Z' _) _).trans ?_
  rfl

/-! ### The digits of a point in time -/

/-- The point in time is one of the years 0 to 9999, and no leap second. -/
structure IsCivil (t : Timestamp) : Prop where
  year : 0 ≤ t.year ∧ t.year ≤ 9999
  day : t.IsDay
  hour : t.hour < 24
  minute : t.minute < 60
  second : t.second < 60
  millisecond : t.millisecond < 1000

/-- The digits of a point in time, with leading zeros. -/
def digits (t : Timestamp) : Digits where
  year := pad 4 t.year.natAbs
  month := pad 2 t.month
  day := pad 2 t.day
  hour := pad 2 t.hour
  minute := pad 2 t.minute
  second := pad 2 t.second
  millisecond := pad 3 t.millisecond

theorem isRun_pad {width n : Nat} (h : (Nat.toDigits 10 n).length ≤ width) :
    IsRun width (pad width n) := by
  refine ⟨?_, fun c hc => ?_⟩
  · simp only [pad, List.length_append, List.length_replicate]
    omega
  · rcases List.mem_append.1 hc with hzero | hdigit
    · rw [List.eq_of_mem_replicate hzero]
      decide
    · exact Nat.isDigit_of_mem_toDigits (by decide) (by decide) hdigit

theorem ofDigits_pad (width n : Nat) : Numeral.ofDigits (pad width n) = n := by
  simp only [pad, Numeral.ofDigits_replicate_append, Numeral.ofDigits_toDigits]

theorem value_digits {t : Timestamp} (h : 0 ≤ t.year) : t.digits.value = t := by
  have hyear : (t.year.natAbs : Int) = t.year := Int.natAbs_of_nonneg h
  simp only [Digits.value, digits, ofDigits_pad, hyear]

theorem IsDay.bounds {t : Timestamp} (h : t.IsDay) :
    (1 ≤ t.month ∧ t.month ≤ 12) ∧ 1 ≤ t.day ∧ t.day ≤ 31 := by
  obtain ⟨date, -, hmonth, hday⟩ := h
  have hmonths := date.month.property
  have hdays := date.day.property
  rw [hmonth] at hmonths
  rw [hday] at hdays
  omega

/-- The digits have their widths. -/
theorem IsCivil.hasShape_digits {t : Timestamp} (h : t.IsCivil) : t.digits.HasShape := by
  have hrun : ∀ {width n : Nat}, 0 < width → n < 10 ^ width → IsRun width (pad width n) :=
    fun hpos hn => isRun_pad ((Nat.length_toDigits_le_iff (by decide) hpos).2 hn)
  obtain ⟨⟨-, hmonth⟩, -, hday⟩ := h.day.bounds
  obtain ⟨hyear, hyear'⟩ := h.year
  have hhour := h.hour
  have hminute := h.minute
  have hsecond := h.second
  exact ⟨hrun (by decide) (by omega), hrun (by decide) (by omega), hrun (by decide) (by omega),
    hrun (by decide) (by omega), hrun (by decide) (by omega), hrun (by decide) (by omega),
    hrun (by decide) h.millisecond⟩

/-- Pages show the digits up to the second. -/
theorem IsCivil.write_eq_shown {t : Timestamp} (h : t.IsCivil) :
    String.ofList t.write = t.digits.shown := by
  obtain ⟨hyear, hyear'⟩ := h.year
  have hwrite : writeYear t.year = pad 4 t.year.natAbs := by
    rw [writeYear, if_neg (by omega), if_neg (by omega)]
  rw [write, hwrite]
  rfl

/-! ### What is read -/

/-- The digits stand for a day that is not in the calendar, or for a time that no clock shows. -/
def Digits.IsImpossible (d : Digits) : Prop :=
  ¬d.value.IsDay ∨ 24 ≤ d.value.hour ∨ 60 ≤ d.value.minute ∨ 60 < d.value.second

/-- Four digits never leave the years of the calendar. -/
theorem isYear_of_le {year : Int} (hfirst : 0 ≤ year) (hlast : year ≤ 9999) :
    isYear year = true := by
  simp only [isYear, Bool.and_eq_true, decide_eq_true_eq]
  omega

theorem isValid_value_iff {d : Digits} (h : d.HasShape) :
    d.value.isValid = true ↔ ¬d.IsImpossible := by
  have hyear : isYear d.value.year = true := by
    have hlt := Numeral.ofDigits_lt h.year.2
    rw [h.year.1] at hlt
    have hle : Numeral.ofDigits d.year ≤ 9999 := Nat.le_of_lt_succ hlt
    exact isYear_of_le (Int.natCast_nonneg _) (Int.ofNat_le.2 hle)
  simp only [isValid, hyear, Bool.true_and, Bool.and_eq_true, decide_eq_true_eq,
    Digits.IsImpossible, isDay_iff, not_or, not_not]
  omega

/-- A text of the form is not read if it stands for nothing. -/
theorem read?_text_of_isImpossible {d : Digits} (h : d.HasShape) (himpossible : d.IsImpossible) :
    read? d.text = none := by
  rw [read?_text h, if_neg fun hvalid => (isValid_value_iff h).1 hvalid himpossible]

/-- Any other text of the form is read as what its digits stand for. -/
theorem read?_text_of_not_isImpossible {d : Digits} (h : d.HasShape)
    (hpossible : ¬d.IsImpossible) : read? d.text = some d.value := by
  rw [read?_text h, if_pos ((isValid_value_iff h).2 hpossible)]

/-- A point in time is read from its text. -/
theorem IsCivil.read?_text {t : Timestamp} (h : t.IsCivil) : read? t.digits.text = some t := by
  have hpossible : ¬t.digits.IsImpossible := by
    rw [Digits.IsImpossible, value_digits h.year.1]
    rintro (hno | hno | hno | hno)
    · exact hno h.day
    · exact absurd h.hour (Nat.not_lt.2 hno)
    · exact absurd h.minute (Nat.not_lt.2 hno)
    · exact absurd h.second (Nat.not_lt.2 (Nat.le_of_lt hno))
  rw [read?_text_of_not_isImpossible h.hasShape_digits hpossible, value_digits h.year.1]

/-! ### What is shown -/

theorem IsCivil.display_text {t : Timestamp} (h : t.IsCivil) :
    display t.digits.text = t.digits.shown := by
  rw [display, h.read?_text]
  exact h.write_eq_shown

theorem display_text_of_isImpossible {d : Digits} (h : d.HasShape) (himpossible : d.IsImpossible) :
    display d.text = d.text := by
  rw [display, read?_text_of_isImpossible h himpossible]

end Timestamp

end JudgeClient
