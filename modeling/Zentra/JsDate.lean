import Mathlib.Order.Monotone.Basic

/-!
# Dates of the JavaScript runtime

A date is a moment in milliseconds since 1970, read in the local time of a zone.  The
getters and setters below compute as the standard library of the language describes
them: a setter builds a local date from its fields, where a field that is too large
carries over, and converts it back.

* `Zone` — what the host knows of its time zone;
* `civil`, `makeDay` — days and calendar dates;
* `civil_spec`, `monthStart_le_iff` — the month of a day;
* `makeDay_civil` — the two are one calendar;
* `isoDate`, `toISOString` — the texts of a moment;
* `day_eq_of_formatDate` — a date text is that of one day.
-/

namespace JsDate

/-- The time zone of the host: local times of moments, moments of local times, and the
text of a moment in local time. -/
structure Zone where
  toLocal : Int → Int
  toUtc : Int → Int
  dateString : Int → String

def msPerDay : Int := 86400000

def msPerHour : Int := 3600000

def msPerMinute : Int := 60000

def msPerSecond : Int := 1000

/-- `Day(t)`. -/
def day (t : Int) : Int := t / msPerDay

/-- `TimeWithinDay(t)`. -/
def timeWithinDay (t : Int) : Int := t % msPerDay

/-- A calendar date; the months are counted from zero. -/
structure Civil where
  year : Int
  month : Int
  date : Int
  deriving DecidableEq, Repr

/-- The calendar date of a day.  The years are counted from March, in cycles of four
hundred. -/
def civil (days : Int) : Civil :=
  let z := days + 719468
  let cycle := z / 146097
  let dayOfCycle := z % 146097
  let yearOfCycle :=
    (dayOfCycle - dayOfCycle / 1460 + dayOfCycle / 36524 - dayOfCycle / 146096) / 365
  let dayOfYear := dayOfCycle - (365 * yearOfCycle + yearOfCycle / 4 - yearOfCycle / 100)
  let fromMarch := (5 * dayOfYear + 2) / 153
  let month := if fromMarch < 10 then fromMarch + 2 else fromMarch - 10
  { year := yearOfCycle + cycle * 400 + if month ≤ 1 then 1 else 0
    month := month
    date := dayOfYear - (153 * fromMarch + 2) / 5 + 1 }

/-- `MakeDay`: the day of a calendar date whose month and date may be out of range. -/
def makeDay (year month date : Int) : Int :=
  let monthInYear := month % 12
  let shifted := year + month / 12 - if monthInYear ≤ 1 then 1 else 0
  let fromMarch := if monthInYear ≤ 1 then monthInYear + 10 else monthInYear - 2
  let cycle := shifted / 400
  let yearOfCycle := shifted % 400
  let dayOfYear := (153 * fromMarch + 2) / 5
  let dayOfCycle := yearOfCycle * 365 + yearOfCycle / 4 - yearOfCycle / 100 + dayOfYear
  cycle * 146097 + dayOfCycle - 719468 + (date - 1)

example : civil 19782 = ⟨2024, 1, 29⟩ := by decide

example : makeDay 2024 (-1) 31 = makeDay 2023 11 31 := by decide

example : civil (makeDay 2023 1 31) = ⟨2023, 2, 3⟩ := by decide

def marchDay (year : Int) : Int :=
  year / 400 * 146097 + (year % 400 * 365 + year % 400 / 4 - year % 400 / 100) - 719468

theorem makeDay_of_le {year month : Int} (date : Int) (h : month % 12 ≤ 1) :
    makeDay year month date =
      marchDay (year + month / 12 - 1) + (153 * (month % 12 + 10) + 2) / 5 + (date - 1) := by
  unfold makeDay marchDay
  simp only [if_pos h]
  omega

theorem makeDay_of_lt {year month : Int} (date : Int) (h : 1 < month % 12) :
    makeDay year month date =
      marchDay (year + month / 12) + (153 * (month % 12 - 2) + 2) / 5 + (date - 1) := by
  have hnot : ¬ month % 12 ≤ 1 := by omega
  unfold makeDay marchDay
  simp only [if_neg hnot, Int.sub_zero]
  omega

theorem marchDay_succ (year : Int) :
    marchDay year + 365 ≤ marchDay (year + 1) ∧ marchDay (year + 1) ≤ marchDay year + 366 := by
  unfold marchDay
  by_cases hlast : year % 400 = 399
  · have hcycle : (year + 1) / 400 = year / 400 + 1 := by omega
    have hyear : (year + 1) % 400 = 0 := by omega
    rw [hlast, hcycle, hyear]
    omega
  · have hcycle : (year + 1) / 400 = year / 400 := by omega
    have hyear : (year + 1) % 400 = year % 400 + 1 := by omega
    rw [hcycle, hyear]
    omega

theorem marchDay_cycle {cycle year : Int} (hfirst : 0 ≤ year) (hlast : year ≤ 399) :
    marchDay (year + cycle * 400) =
      cycle * 146097 + (365 * year + year / 4 - year / 100) - 719468 := by
  unfold marchDay
  have hcycle : (year + cycle * 400) / 400 = cycle := by omega
  have hyear : (year + cycle * 400) % 400 = year := by omega
  rw [hcycle, hyear]
  omega

/-- The first day of a month; the months are counted through the years. -/
def monthStart (index : Int) : Int := makeDay 0 index 1

theorem makeDay_eq_monthStart (year month date : Int) :
    makeDay year month date = monthStart (12 * year + month) + (date - 1) := by
  have hdiv : (12 * year + month) / 12 = year + month / 12 := by omega
  have hmod : (12 * year + month) % 12 = month % 12 := by omega
  by_cases hspring : month % 12 ≤ 1
  · rw [monthStart, makeDay_of_le date hspring, makeDay_of_le 1 (by omega), hdiv, hmod,
      Int.zero_add]
    omega
  · rw [monthStart, makeDay_of_lt date (by omega), makeDay_of_lt 1 (by omega), hdiv, hmod,
      Int.zero_add]
    omega

theorem monthStart_march {year month : Int} (hfirst : 0 ≤ month) (hlast : month ≤ 11) :
    monthStart (12 * year + month + 2) = marchDay year + (153 * month + 2) / 5 := by
  by_cases hspring : month < 10
  · have hdiv : 0 + (12 * year + month + 2) / 12 = year := by omega
    have hmod : (12 * year + month + 2) % 12 = month + 2 := by omega
    rw [monthStart, makeDay_of_lt 1 (by omega), hdiv, hmod]
    omega
  · have hdiv : 0 + (12 * year + month + 2) / 12 - 1 = year := by omega
    have hmod : (12 * year + month + 2) % 12 = month - 10 := by omega
    rw [monthStart, makeDay_of_le 1 (by omega), hdiv, hmod]
    omega

theorem monthStart_succ (index : Int) :
    monthStart index + 28 ≤ monthStart (index + 1) ∧
      monthStart (index + 1) ≤ monthStart index + 31 := by
  have hindex : index = 12 * ((index - 2) / 12) + (index - 2) % 12 + 2 := by omega
  have hstart := @monthStart_march ((index - 2) / 12) ((index - 2) % 12) (by omega) (by omega)
  rw [← hindex] at hstart
  by_cases hlast : (index - 2) % 12 = 11
  · have hnext : index + 1 = 12 * ((index - 2) / 12 + 1) + 0 + 2 := by omega
    have hyear := marchDay_succ ((index - 2) / 12)
    rw [hstart, hnext, monthStart_march (by omega) (by omega)]
    omega
  · have hnext : index + 1 = 12 * ((index - 2) / 12) + ((index - 2) % 12 + 1) + 2 := by omega
    rw [hstart, hnext, monthStart_march (by omega) (by omega)]
    omega

/-- **Later months start later.** -/
theorem monthStart_lt_monthStart {index other : Int} :
    monthStart index < monthStart other ↔ index < other := by
  refine (strictMono_int_of_lt_succ fun index => ?_).lt_iff_lt
  have hlength := monthStart_succ index
  show monthStart index < monthStart (index + 1)
  omega

theorem monthStart_le_monthStart {index other : Int} (h : index ≤ other) :
    monthStart index ≤ monthStart other :=
  not_lt.1 fun hlt => absurd (monthStart_lt_monthStart.1 hlt) (not_lt.2 h)

theorem dayOfYear_century {d year century : Int} (hfirst : 0 ≤ century) (hlast : century ≤ 3)
    (hcentury : d / 36524 = century) (hyear : year = (d - d / 1460 + century) / 365) :
    365 * year + year / 4 - year / 100 ≤ d ∧
      (d < 365 * (year + 1) + (year + 1) / 4 - (year + 1) / 100 ∨ year = 399) := by
  have hcenturies : year / 100 = century := by omega
  have hleap : d / 1460 = year / 4 ∨ d / 1460 = year / 4 + 1 := by omega
  have hrest : year % 4 = 0 ∨ year % 4 = 1 ∨ year % 4 = 2 ∨ year % 4 = 3 := by omega
  have hnext : (year + 1) / 100 = century ∨ (year + 1) / 100 = century + 1 := by omega
  rcases hleap with hleap | hleap
  · rcases hrest with hrest | hrest | hrest | hrest
    · omega
    · omega
    · omega
    · omega
  · omega

theorem dayOfYear_cycle {d year : Int} (hfirst : 0 ≤ d) (hlast : d < 146097)
    (hyear : year = (d - d / 1460 + d / 36524 - d / 146096) / 365) :
    0 ≤ year ∧ year ≤ 399 ∧ 365 * year + year / 4 - year / 100 ≤ d ∧
      (d < 365 * (year + 1) + (year + 1) / 4 - (year + 1) / 100 ∨ year = 399) := by
  by_cases hend : d = 146096
  · subst hend
    subst hyear
    decide
  · have hleap : d / 146096 = 0 := by omega
    have hcentury := @dayOfYear_century d year (d / 36524) (by omega) (by omega) rfl (by omega)
    exact ⟨by omega, by omega, hcentury⟩

theorem exists_marchDay (days : Int) :
    ∃ year month, marchDay year ≤ days ∧ days < marchDay (year + 1) ∧
      month = (5 * (days - marchDay year) + 2) / 153 ∧
      (civil days).month = (if month < 10 then month + 2 else month - 10) ∧
      12 * (civil days).year + (civil days).month = 12 * year + month + 2 ∧
      (civil days).date = days - marchDay year - (153 * month + 2) / 5 + 1 := by
  obtain ⟨hfirst, hlast, hstart, hend⟩ :=
    @dayOfYear_cycle ((days + 719468) % 146097) _ (by omega) (by omega) rfl
  unfold civil
  dsimp only
  generalize hyear : ((days + 719468) % 146097 - (days + 719468) % 146097 / 1460 +
    (days + 719468) % 146097 / 36524 - (days + 719468) % 146097 / 146096) / 365 = year
    at hfirst hlast hstart hend
  have hmarch := @marchDay_cycle ((days + 719468) / 146097) year hfirst hlast
  have hnext : days < marchDay (year + (days + 719468) / 146097 * 400 + 1) := by
    by_cases hcycle : year = 399
    -- The last year of a cycle ends where the next cycle starts.
    · have hdays : year + (days + 719468) / 146097 * 400 + 1 =
          0 + ((days + 719468) / 146097 + 1) * 400 := by omega
      rw [hdays, marchDay_cycle (by omega) (by omega)]
      omega
    · have hdays : year + (days + 719468) / 146097 * 400 + 1 =
          year + 1 + (days + 719468) / 146097 * 400 := by omega
      rw [hdays, marchDay_cycle (by omega) (by omega)]
      omega
  have hday : (days + 719468) % 146097 - (365 * year + year / 4 - year / 100) =
      days - marchDay (year + (days + 719468) / 146097 * 400) := by omega
  rw [hday]
  refine ⟨year + (days + 719468) / 146097 * 400, _, by omega, hnext, rfl, rfl, ?_, rfl⟩
  omega

/-- The month of a day, counted through the years. -/
def monthOf (days : Int) : Int := 12 * (civil days).year + (civil days).month

/-- **The calendar date of a day**: its month is the one that the day is in. -/
theorem civil_spec (days : Int) :
    (0 ≤ (civil days).month ∧ (civil days).month ≤ 11) ∧
    (civil days).date = days - monthStart (monthOf days) + 1 ∧
    monthStart (monthOf days) ≤ days ∧ days < monthStart (monthOf days + 1) := by
  obtain ⟨year, month, hstart, hend, hmonth, hcivil, hindex, hdate⟩ := exists_marchDay days
  have hlength := marchDay_succ year
  have hfirst : 0 ≤ month := by omega
  have hlast : month ≤ 11 := by omega
  have hbegin := @monthStart_march year month hfirst hlast
  rw [monthOf, hindex, hcivil, hdate, hbegin]
  refine ⟨by omega, by omega, by omega, ?_⟩
  by_cases hspring : month = 11
  · have hnext : 12 * year + month + 2 + 1 = 12 * (year + 1) + 0 + 2 := by omega
    rw [hnext, monthStart_march (by omega) (by omega)]
    omega
  · have hnext : 12 * year + month + 2 + 1 = 12 * year + (month + 1) + 2 := by omega
    rw [hnext, monthStart_march (by omega) (by omega)]
    omega

theorem civil_month (days : Int) : 0 ≤ (civil days).month ∧ (civil days).month ≤ 11 :=
  (civil_spec days).1

theorem civil_date (days : Int) : 1 ≤ (civil days).date ∧ (civil days).date ≤ 31 := by
  obtain ⟨_, hdate, hstart, hend⟩ := civil_spec days
  have hlength := monthStart_succ (monthOf days)
  omega

/-- **The day of the calendar date of a day** is that day. -/
theorem makeDay_civil (days : Int) :
    makeDay (civil days).year (civil days).month (civil days).date = days := by
  obtain ⟨_, hdate, _⟩ := civil_spec days
  rw [makeDay_eq_monthStart, hdate, monthOf]
  omega

theorem monthStart_le_iff {index days : Int} :
    monthStart index ≤ days ↔ index ≤ monthOf days := by
  obtain ⟨_, _, hstart, hend⟩ := civil_spec days
  constructor
  · intro h
    have hlt : monthStart index < monthStart (monthOf days + 1) := by omega
    have hindex := monthStart_lt_monthStart.1 hlt
    omega
  · intro h
    have hle := monthStart_le_monthStart h
    omega

theorem makeDay_add (year month date days : Int) :
    makeDay year month (date + days) = makeDay year month date + days := by
  rw [makeDay_eq_monthStart, makeDay_eq_monthStart]
  omega

variable (zone : Zone) (t : Int)

def localDate : Civil := civil (day (zone.toLocal t))

def getFullYear : Int := (localDate zone t).year

def getMonth : Int := (localDate zone t).month

def getDate : Int := (localDate zone t).date

/-- `getDay`: Sunday is zero. -/
def getDay : Int := (day (zone.toLocal t) + 4) % 7

def getHours : Int := timeWithinDay (zone.toLocal t) / msPerHour

def getMinutes : Int := timeWithinDay (zone.toLocal t) % msPerHour / msPerMinute

def getSeconds : Int := timeWithinDay (zone.toLocal t) % msPerMinute / msPerSecond

/-- The moment of a local day and a time within it. -/
def makeDate (days time : Int) : Int := zone.toUtc (days * msPerDay + time)

/-- `setHours` with all four arguments. -/
def setHours (hours minutes seconds ms : Int) : Int :=
  makeDate zone (day (zone.toLocal t))
    (hours * msPerHour + minutes * msPerMinute + seconds * msPerSecond + ms)

/-- `setHours` with the hours only. -/
def setHour (hours : Int) : Int :=
  makeDate zone (day (zone.toLocal t))
    (hours * msPerHour + timeWithinDay (zone.toLocal t) % msPerHour)

def setMinutes (minutes : Int) : Int :=
  makeDate zone (day (zone.toLocal t))
    (getHours zone t * msPerHour + minutes * msPerMinute +
      timeWithinDay (zone.toLocal t) % msPerMinute)

def setSeconds (seconds : Int) : Int :=
  makeDate zone (day (zone.toLocal t))
    (timeWithinDay (zone.toLocal t) / msPerMinute * msPerMinute + seconds * msPerSecond +
      timeWithinDay (zone.toLocal t) % msPerSecond)

def setDate (date : Int) : Int :=
  makeDate zone (makeDay (getFullYear zone t) (getMonth zone t) date)
    (timeWithinDay (zone.toLocal t))

def setMonth (month : Int) : Int :=
  makeDate zone (makeDay (getFullYear zone t) month (getDate zone t))
    (timeWithinDay (zone.toLocal t))

def setFullYear (year : Int) : Int :=
  makeDate zone (makeDay year (getMonth zone t) (getDate zone t))
    (timeWithinDay (zone.toLocal t))

/-- The year that the constructor makes of a number: one of two digits is of the last century. -/
def fullYear (year : Int) : Int := if 0 ≤ year ∧ year ≤ 99 then 1900 + year else year

/-- `new Date(year, month, date)`. -/
def newDate (year month date : Int) : Int :=
  makeDate zone (makeDay (fullYear year) month date) 0

/-- The decimal digits of a number, at least `width` of them. -/
def padded (width n : Nat) : List Char :=
  List.replicate (width - (Nat.toDigits 10 n).length) '0' ++ Nat.toDigits 10 n

/-- The year of a date text: four digits, or a sign and six. -/
def yearText (year : Int) : List Char :=
  if year < 0 then '-' :: padded 6 year.natAbs
  else if year ≤ 9999 then padded 4 year.natAbs
  else '+' :: padded 6 year.natAbs

/-- The date of `toISOString`. -/
def isoDate (t : Int) : List Char :=
  let c := civil (day t)
  yearText c.year ++ '-' :: (padded 2 (c.month + 1).natAbs ++ '-' :: padded 2 c.date.natAbs)

/-- The time of `toISOString`. -/
def isoTime (t : Int) : List Char :=
  let time := timeWithinDay t
  padded 2 (time / msPerHour).natAbs ++ ':' ::
    (padded 2 (time % msPerHour / msPerMinute).natAbs ++ ':' ::
      (padded 2 (time % msPerMinute / msPerSecond).natAbs ++ '.' ::
        (padded 3 (time % msPerSecond).natAbs ++ ['Z'])))

def toISOString (t : Int) : String := String.ofList (isoDate t ++ 'T' :: isoTime t)

/-- `toISOString().split('T')[0]`. -/
def formatDate (t : Int) : String := String.ofList (isoDate t)

/-- Coordinated universal time, with its dates in ISO form. -/
def utc : Zone where
  toLocal := id
  toUtc := id
  dateString := toISOString

example : toISOString 1709210096789 = "2024-02-29T12:34:56.789Z" := by decide

def DateChar (c : Char) : Prop := c.isDigit = true ∨ c = '-' ∨ c = '+'

theorem dateChar_padded {width n : Nat} {c : Char} (h : c ∈ padded width n) : DateChar c := by
  obtain h | h := List.mem_append.1 h
  · rw [List.eq_of_mem_replicate h]
    exact .inl rfl
  · exact .inl (Nat.isDigit_of_mem_toDigits (by decide) (by decide) h)

theorem dateChar_yearText {year : Int} {c : Char} (h : c ∈ yearText year) : DateChar c := by
  by_cases hnegative : year < 0
  · rw [yearText, if_pos hnegative] at h
    obtain rfl | h := List.mem_cons.1 h
    · exact .inr (.inl rfl)
    · exact dateChar_padded h
  · by_cases hfour : year ≤ 9999
    · rw [yearText, if_neg hnegative, if_pos hfour] at h
      exact dateChar_padded h
    · rw [yearText, if_neg hnegative, if_neg hfour] at h
      obtain rfl | h := List.mem_cons.1 h
      · exact .inr (.inr rfl)
      · exact dateChar_padded h

theorem dateChar_formatDate {t : Int} {c : Char} (h : c ∈ (formatDate t).toList) :
    DateChar c := by
  simp only [formatDate, String.toList_ofList, isoDate, List.mem_append, List.mem_cons] at h
  obtain h | rfl | h | rfl | h := h
  · exact dateChar_yearText h
  · exact .inr (.inl rfl)
  · exact dateChar_padded h
  · exact .inr (.inl rfl)
  · exact dateChar_padded h

def MomentChar (c : Char) : Prop := DateChar c ∨ c = ':' ∨ c = '.' ∨ c = 'T' ∨ c = 'Z'

theorem momentChar_isoTime {t : Int} {c : Char} (h : c ∈ isoTime t) : MomentChar c := by
  simp only [isoTime, List.mem_append, List.mem_cons, List.not_mem_nil, or_false] at h
  obtain h | rfl | h | rfl | h | rfl | h | rfl := h
  · exact .inl (dateChar_padded h)
  · exact .inr (.inl rfl)
  · exact .inl (dateChar_padded h)
  · exact .inr (.inl rfl)
  · exact .inl (dateChar_padded h)
  · exact .inr (.inr (.inl rfl))
  · exact .inl (dateChar_padded h)
  · exact .inr (.inr (.inr (.inr rfl)))

theorem momentChar_toISOString {t : Int} {c : Char} (h : c ∈ (toISOString t).toList) :
    MomentChar c := by
  simp only [toISOString, String.toList_ofList, List.mem_append, List.mem_cons] at h
  obtain h | rfl | h := h
  · have hdate : c ∈ (formatDate t).toList := by simpa [formatDate] using h
    exact .inl (dateChar_formatDate hdate)
  · exact .inr (.inr (.inr (.inl rfl)))
  · exact momentChar_isoTime h

theorem ofDigitChars_padded (width n : Nat) : Nat.ofDigitChars 10 (padded width n) 0 = n := by
  unfold padded
  rw [Nat.ofDigitChars_append, Nat.ofDigitChars_replicate_zero, Nat.mul_zero,
    Nat.ofDigitChars_ten_toDigits]

theorem padded_inj {width width' n n' : Nat} (h : padded width n = padded width' n') : n = n' := by
  have hvalue := congrArg (fun text => Nat.ofDigitChars 10 text 0) h
  simpa only [ofDigitChars_padded] using hvalue

theorem length_padded {n : Nat} (h : n < 100) : (padded 2 n).length = 2 := by
  have hlength : (Nat.toDigits 10 n).length ≤ 2 :=
    (Nat.length_toDigits_le_iff (by decide) (by decide)).2 h
  unfold padded
  rw [List.length_append, List.length_replicate]
  omega

theorem padded_ne_cons {width n : Nat} {sign : Char} {rest : List Char}
    (hsign : sign.isDigit = false) : padded width n ≠ sign :: rest := by
  intro h
  have hmem : sign ∈ padded width n := by
    rw [h]
    exact List.mem_cons_self
  rcases List.mem_append.1 hmem with hzero | hdigit
  · rw [List.eq_of_mem_replicate hzero] at hsign
    cases hsign
  · have hisDigit := Nat.isDigit_of_mem_toDigits (by decide) (by decide) hdigit
    rw [hsign] at hisDigit
    cases hisDigit

theorem yearText_cases (year : Int) :
    (year < 0 ∧ yearText year = '-' :: padded 6 year.natAbs) ∨
    (0 ≤ year ∧ yearText year = padded 4 year.natAbs) ∨
    (0 ≤ year ∧ yearText year = '+' :: padded 6 year.natAbs) := by
  unfold yearText
  by_cases hnegative : year < 0
  · exact .inl ⟨hnegative, if_pos hnegative⟩
  · rw [if_neg hnegative]
    by_cases hfour : year ≤ 9999
    · exact .inr (.inl ⟨Int.not_lt.1 hnegative, if_pos hfour⟩)
    · exact .inr (.inr ⟨Int.not_lt.1 hnegative, if_neg hfour⟩)

theorem yearText_inj {year other : Int} (h : yearText year = yearText other) : year = other := by
  rcases yearText_cases year with ⟨hyear, hleft⟩ | ⟨hyear, hleft⟩ | ⟨hyear, hleft⟩
  · rcases yearText_cases other with ⟨hother, hright⟩ | ⟨hother, hright⟩ | ⟨hother, hright⟩
    · rw [hleft, hright] at h
      have habs := padded_inj (List.cons.inj h).2
      omega
    · rw [hleft, hright] at h
      exact absurd h.symm (padded_ne_cons rfl)
    · rw [hleft, hright] at h
      exact absurd (List.cons.inj h).1 (by decide)
  · rcases yearText_cases other with ⟨hother, hright⟩ | ⟨hother, hright⟩ | ⟨hother, hright⟩
    · rw [hleft, hright] at h
      exact absurd h (padded_ne_cons rfl)
    · rw [hleft, hright] at h
      have habs := padded_inj h
      omega
    · rw [hleft, hright] at h
      exact absurd h (padded_ne_cons rfl)
  · rcases yearText_cases other with ⟨hother, hright⟩ | ⟨hother, hright⟩ | ⟨hother, hright⟩
    · rw [hleft, hright] at h
      exact absurd (List.cons.inj h).1 (by decide)
    · rw [hleft, hright] at h
      exact absurd h.symm (padded_ne_cons rfl)
    · rw [hleft, hright] at h
      have habs := padded_inj (List.cons.inj h).2
      omega

theorem civil_ext {c other : Civil} (hyear : c.year = other.year) (hmonth : c.month = other.month)
    (hdate : c.date = other.date) : c = other := by
  obtain ⟨year, month, date⟩ := c
  obtain ⟨year', month', date'⟩ := other
  rw [Civil.mk.injEq]
  exact ⟨hyear, hmonth, hdate⟩

/-- **A date text is that of one day.** -/
theorem day_eq_of_formatDate {t u : Int} (h : formatDate t = formatDate u) : day t = day u := by
  have htext : isoDate t = isoDate u := String.ofList_injective h
  have hmonth := civil_month (day t)
  have hmonth' := civil_month (day u)
  have hdate := civil_date (day t)
  have hdate' := civil_date (day u)
  have hlengths : ∀ c : Civil, 0 ≤ c.month → c.month ≤ 11 → 1 ≤ c.date → c.date ≤ 31 →
      (padded 2 (c.month + 1).natAbs).length = 2 ∧ (padded 2 c.date.natAbs).length = 2 :=
    fun c _ _ _ _ => ⟨length_padded (by omega), length_padded (by omega)⟩
  obtain ⟨hm, hd⟩ := hlengths (civil (day t)) hmonth.1 hmonth.2 hdate.1 hdate.2
  obtain ⟨hm', hd'⟩ := hlengths (civil (day u)) hmonth'.1 hmonth'.2 hdate'.1 hdate'.2
  obtain ⟨hyear, hrest⟩ := List.append_inj' htext (by simp [hm, hd, hm', hd'])
  obtain ⟨hmonths, hdates⟩ := List.append_inj (List.cons.inj hrest).2 (hm.trans hm'.symm)
  have hsameYear := yearText_inj hyear
  have hsameMonth := padded_inj hmonths
  have hsameDate := padded_inj (List.cons.inj hdates).2
  have hcivil : civil (day t) = civil (day u) :=
    civil_ext hsameYear (by omega) (by omega)
  rw [← makeDay_civil (day t), hcivil, makeDay_civil]

def dateText (days : Int) : String := formatDate (days * msPerDay)

theorem formatDate_eq (t : Int) : formatDate t = dateText (day t) := by
  have hday : day (day t * msPerDay) = day t := Int.mul_ediv_cancel _ (by decide)
  rw [dateText, formatDate, formatDate, isoDate, isoDate, hday]

theorem dateText_inj {days days' : Int} (h : dateText days = dateText days') : days = days' := by
  have hday := day_eq_of_formatDate h
  unfold day msPerDay at hday
  omega

/-- The largest time of a date. -/
def maxTime : Int := 8640000000000000

/-- `TimeClip` keeps the time; a date of any other time is an invalid date. -/
def IsDate (t : Int) : Prop := -maxTime ≤ t ∧ t ≤ maxTime

instance (t : Int) : Decidable (IsDate t) := inferInstanceAs (Decidable (_ ∧ _))

/-- A zone whose local time is always the same time ahead of universal time. -/
def fixedOffset (offset : Int) : Zone where
  toLocal t := t + offset
  toUtc t := t - offset
  dateString := toISOString

/-- The moment at which a local day begins. -/
def midnight (offset days : Int) : Int := days * msPerDay - offset

section Midnight

variable (offset days : Int)

theorem makeDate_zero : makeDate (fixedOffset offset) days 0 = midnight offset days := by
  show days * msPerDay + 0 - offset = days * msPerDay - offset
  omega

theorem day_toLocal_midnight :
    day ((fixedOffset offset).toLocal (midnight offset days)) = days := by
  show (days * msPerDay - offset + offset) / msPerDay = days
  rw [Int.sub_add_cancel]
  exact Int.mul_ediv_cancel days (by decide)

theorem timeWithinDay_midnight :
    timeWithinDay ((fixedOffset offset).toLocal (midnight offset days)) = 0 := by
  show (days * msPerDay - offset + offset) % msPerDay = 0
  rw [Int.sub_add_cancel]
  exact Int.mul_emod_left days msPerDay

theorem localDate_midnight : localDate (fixedOffset offset) (midnight offset days) = civil days := by
  rw [localDate, day_toLocal_midnight]

/-- **`setDate` counts days** from a midnight. -/
theorem setDate_midnight (count : Int) :
    setDate (fixedOffset offset) (midnight offset days)
        (getDate (fixedOffset offset) (midnight offset days) + count) =
      midnight offset (days + count) := by
  unfold setDate getFullYear getMonth getDate
  rw [localDate_midnight, timeWithinDay_midnight, makeDay_add, makeDay_civil, makeDate_zero]

theorem newDate_midnight (year month date : Int) :
    newDate (fixedOffset offset) year month date =
      midnight offset (monthStart (12 * fullYear year + month) + (date - 1)) := by
  rw [newDate, makeDate_zero, makeDay_eq_monthStart]

end Midnight

end JsDate
