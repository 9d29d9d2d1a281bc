import Mathlib.Order.Bounds.Basic
import Zentra.QueryDefinition

/-!
# Preset date ranges as local days

A preset names some of the host's local days: today, the days of last month, the thirty days
up to today.  The query engine builds moments in local time and writes them down in universal
time, so the bounds are those days only on some hosts.

* `resolvePresetDates` — the bounds of a preset, where its moments are dates;
* `namesLocalDays_iff` — when the bounds are the first and the last of those days.
-/

open JsDate

namespace Zentra

namespace QueryEngine

def week (days : Int) : Int := (days + 3) / 7

def PresetDateRange.Names (today days : Int) : PresetDateRange → Prop
  | .today => days = today
  | .yesterday => days + 1 = today
  | .thisWeek => week days = week today
  | .lastWeek => week days + 1 = week today
  | .thisMonth => monthOf days = monthOf today
  | .lastMonth => monthOf days + 1 = monthOf today
  | .thisQuarter => monthOf days / 3 = monthOf today / 3
  | .lastQuarter => monthOf days / 3 + 1 = monthOf today / 3
  | .thisYear => (civil days).year = (civil today).year
  | .lastYear => (civil days).year + 1 = (civil today).year
  | .last7Days => today - 7 < days ∧ days ≤ today
  | .last14Days => today - 14 < days ∧ days ≤ today
  | .last30Days => today - 30 < days ∧ days ≤ today
  | .last60Days => today - 60 < days ∧ days ≤ today
  | .last90Days => today - 90 < days ∧ days ≤ today
  | .last365Days => today - 365 < days ∧ days ≤ today
  | .allTime => 0 ≤ days ∧ days ≤ today

/-- Whole months of a year, from the first up to the next one after them. -/
def monthDays (year first next : Int) : Int × Int :=
  (monthStart (12 * year + first), monthStart (12 * year + next) - 1)

/-- The first and the last day that a preset names, where a year counts as `yearOf` says. -/
def PresetDateRange.span (yearOf : Int → Int) (today : Int) : PresetDateRange → Int × Int
  | .today => (today, today)
  | .yesterday => (today - 1, today - 1)
  | .thisWeek => (today - (today + 3) % 7, today - (today + 3) % 7 + 6)
  | .lastWeek => (today - (today + 3) % 7 - 7, today - (today + 3) % 7 - 1)
  | .thisMonth =>
      monthDays (yearOf (civil today).year) (civil today).month ((civil today).month + 1)
  | .lastMonth =>
      monthDays (yearOf (civil today).year) ((civil today).month - 1) (civil today).month
  | .thisQuarter =>
      monthDays (yearOf (civil today).year) ((civil today).month / 3 * 3)
        ((civil today).month / 3 * 3 + 3)
  | .lastQuarter =>
      monthDays (yearOf (civil today).year) (((civil today).month / 3 - 1) * 3)
        ((civil today).month / 3 * 3)
  | .thisYear => monthDays (yearOf (civil today).year) 0 12
  | .lastYear => monthDays (yearOf ((civil today).year - 1)) 0 12
  | .last7Days => (today - 6, today)
  | .last14Days => (today - 13, today)
  | .last30Days => (today - 29, today)
  | .last60Days => (today - 59, today)
  | .last90Days => (today - 89, today)
  | .last365Days => (today - 364, today)
  | .allTime => (0, today)

theorem mem_monthDays_iff {year first next days : Int} :
    (monthDays year first next).1 ≤ days ∧ days ≤ (monthDays year first next).2 ↔
      12 * year + first ≤ monthOf days ∧ monthOf days < 12 * year + next := by
  have hfirst := @monthStart_le_iff (12 * year + first) days
  have hnext := @monthStart_le_iff (12 * year + next) days
  unfold monthDays
  dsimp only
  omega

/-- **The days of a preset** are those from the first to the last. -/
theorem names_iff (preset : PresetDateRange) (today days : Int) :
    preset.Names today days ↔
      (preset.span id today).1 ≤ days ∧ days ≤ (preset.span id today).2 := by
  have hmonth := civil_month today
  have hmonth' := civil_month days
  cases preset with
  | thisWeek | lastWeek =>
      unfold PresetDateRange.Names PresetDateRange.span week
      dsimp only
      omega
  | thisMonth | lastMonth | thisQuarter | lastQuarter | thisYear | lastYear =>
      unfold PresetDateRange.Names PresetDateRange.span
      rw [mem_monthDays_iff]
      unfold monthOf
      dsimp only [id]
      omega
  | _ =>
      unfold PresetDateRange.Names PresetDateRange.span
      dsimp only
      omega

theorem bounds_names_iff {preset : PresetDateRange} {today first last : Int} :
    IsLeast {days | preset.Names today days} first ∧
        IsGreatest {days | preset.Names today days} last ↔
      (preset.span id today).1 ≤ (preset.span id today).2 ∧
        first = (preset.span id today).1 ∧ last = (preset.span id today).2 := by
  have hset : {days | preset.Names today days} =
      Set.Icc (preset.span id today).1 (preset.span id today).2 := by
    ext days
    exact names_iff preset today days
  rw [hset]
  constructor
  · intro h
    obtain ⟨hleast, hgreatest⟩ := h
    have hle : (preset.span id today).1 ≤ (preset.span id today).2 :=
      le_trans hleast.1.1 hleast.1.2
    exact ⟨hle, hleast.unique (isLeast_Icc hle), hgreatest.unique (isGreatest_Icc hle)⟩
  · intro h
    obtain ⟨hle, rfl, rfl⟩ := h
    exact ⟨isLeast_Icc hle, isGreatest_Icc hle⟩

section Moments

variable (zone : Zone) (now : Int)

/-- The moment that a range of days up to today starts with. -/
def startOfDays (count : Int) : Int :=
  setDate zone (today zone now) (getDate zone (today zone now) - count)

/-- The two dates whose texts are the bounds of a preset. -/
def presetMoments : PresetDateRange → Int × Int
  | .today => (today zone now, today zone now)
  | .yesterday => (startOfDays zone now 1, startOfDays zone now 1)
  | .thisWeek =>
      let start := startOfWeek zone (today zone now)
      (start, setDate zone start (getDate zone start + 6))
  | .lastWeek =>
      let date := today zone now
      let weekday := getDay zone date
      let start := setDate zone date
        (getDate zone date - weekday + (if weekday = 0 then -6 else 1) - 7)
      (start, setDate zone start (getDate zone start + 6))
  | .thisMonth =>
      let year := getFullYear zone (today zone now)
      let month := getMonth zone (today zone now)
      (newDate zone year month 1, newDate zone year (month + 1) 0)
  | .lastMonth =>
      let year := getFullYear zone (today zone now)
      let month := getMonth zone (today zone now)
      (newDate zone year (month - 1) 1, newDate zone year month 0)
  | .thisQuarter =>
      let year := getFullYear zone (today zone now)
      let quarter := getMonth zone (today zone now) / 3
      (newDate zone year (quarter * 3) 1, newDate zone year (quarter * 3 + 3) 0)
  | .lastQuarter =>
      let year := getFullYear zone (today zone now)
      let quarter := getMonth zone (today zone now) / 3
      (newDate zone year ((quarter - 1) * 3) 1, newDate zone year (quarter * 3) 0)
  | .thisYear =>
      let year := getFullYear zone (today zone now)
      (newDate zone year 0 1, newDate zone year 11 31)
  | .lastYear =>
      let year := getFullYear zone (today zone now)
      (newDate zone (year - 1) 0 1, newDate zone (year - 1) 11 31)
  | .last7Days => (startOfDays zone now 6, today zone now)
  | .last14Days => (startOfDays zone now 13, today zone now)
  | .last30Days => (startOfDays zone now 29, today zone now)
  | .last60Days => (startOfDays zone now 59, today zone now)
  | .last90Days => (startOfDays zone now 89, today zone now)
  | .last365Days => (startOfDays zone now 364, today zone now)
  -- The first bound is a fixed text, that of the first date of all.
  | .allTime => (0, today zone now)

theorem resolvePresetDateRange_eq (preset : PresetDateRange) :
    resolvePresetDateRange zone now preset =
      ⟨formatDate (presetMoments zone now preset).1,
        formatDate (presetMoments zone now preset).2⟩ := by
  cases preset with
  | allTime =>
      have hepoch : "1970-01-01" = formatDate 0 := by decide
      exact congrArg (fun text => DateBounds.mk text (formatDate (today zone now))) hepoch
  | _ => rfl

/-- `resolvePresetDateRange`, whose `toISOString` raises a `RangeError` for an invalid date. -/
def resolvePresetDates (preset : PresetDateRange) : Option DateBounds :=
  if IsDate (today zone now) ∧ IsDate (presetMoments zone now preset).1 ∧
      IsDate (presetMoments zone now preset).2 then
    some (resolvePresetDateRange zone now preset)
  else none

end Moments

/-- A host whose local time is a fixed time ahead of universal time, or behind it. -/
structure Host where
  offset : Int
  withinDay : -msPerDay < offset ∧ offset < msPerDay

def Host.zone (host : Host) : Zone := fixedOffset host.offset

/-- A reference instant: the moment of a valid date. -/
structure Instant where
  time : Int
  isDate : IsDate time

def Host.localDay (host : Host) (now : Instant) : Int := day (now.time + host.offset)

section Fixed

variable (offset now : Int)

theorem today_fixedOffset :
    today (fixedOffset offset) now = midnight offset (day (now + offset)) :=
  makeDate_zero offset (day (now + offset))

theorem startOfDays_fixedOffset (count : Int) :
    startOfDays (fixedOffset offset) now count =
      midnight offset (day (now + offset) - count) := by
  rw [startOfDays, today_fixedOffset, Int.sub_eq_add_neg, setDate_midnight, Int.sub_eq_add_neg]

theorem getDay_midnight (days : Int) :
    getDay (fixedOffset offset) (midnight offset days) = (days + 4) % 7 := by
  rw [getDay, day_toLocal_midnight]

/-- A setter that goes back to Monday, and some days further. -/
theorem setDate_monday (days back : Int) :
    setDate (fixedOffset offset) (midnight offset days)
        (getDate (fixedOffset offset) (midnight offset days) -
          getDay (fixedOffset offset) (midnight offset days) +
          (if getDay (fixedOffset offset) (midnight offset days) = 0 then -6 else 1) - back) =
      midnight offset (days - (days + 3) % 7 - back) := by
  rw [getDay_midnight, Int.sub_eq_add_neg, Int.sub_eq_add_neg, Int.add_assoc, Int.add_assoc,
    setDate_midnight]
  congr 1
  by_cases hsunday : (days + 4) % 7 = 0
  · rw [if_pos hsunday]
    omega
  · rw [if_neg hsunday]
    omega

theorem startOfWeek_midnight (days : Int) :
    startOfWeek (fixedOffset offset) (midnight offset days) =
      midnight offset (days - (days + 3) % 7) := by
  have hmonday := setDate_monday offset days 0
  rw [Int.sub_zero, Int.sub_zero] at hmonday
  exact hmonday

theorem newDate_months (year first next : Int) :
    (newDate (fixedOffset offset) year first 1, newDate (fixedOffset offset) year next 0) =
      (midnight offset (monthDays (fullYear year) first next).1,
        midnight offset (monthDays (fullYear year) first next).2) := by
  rw [newDate_midnight, newDate_midnight, Int.sub_self, Int.add_zero, Int.zero_sub,
    ← Int.sub_eq_add_neg]
  rfl

theorem newDate_year (year : Int) :
    (newDate (fixedOffset offset) year 0 1, newDate (fixedOffset offset) year 11 31) =
      (midnight offset (monthDays (fullYear year) 0 12).1,
        midnight offset (monthDays (fullYear year) 0 12).2) := by
  have hdecember := @monthStart_march (fullYear year) 9 (by decide) (by decide)
  have hjanuary := @monthStart_march (fullYear year) 10 (by decide) (by decide)
  have hstart : 12 * fullYear year + 11 = 12 * fullYear year + 9 + 2 := by omega
  have hnext : 12 * fullYear year + 12 = 12 * fullYear year + 10 + 2 := by omega
  rw [← newDate_months, newDate_midnight offset _ 11, newDate_midnight offset _ 12, hstart, hnext]
  congr 2
  omega

/-- **The moments of a preset** are midnights; a year is the one that the constructor makes. -/
theorem presetMoments_fixedOffset {preset : PresetDateRange} (h : preset ≠ .allTime) :
    presetMoments (fixedOffset offset) now preset =
      (midnight offset (preset.span fullYear (day (now + offset))).1,
        midnight offset (preset.span fullYear (day (now + offset))).2) := by
  cases preset with
  | allTime => exact absurd rfl h
  | thisWeek =>
      unfold presetMoments
      dsimp only
      rw [today_fixedOffset, startOfWeek_midnight, setDate_midnight]
      rfl
  | lastWeek =>
      unfold presetMoments
      dsimp only
      rw [today_fixedOffset, setDate_monday, setDate_midnight]
      unfold PresetDateRange.span
      dsimp only
      congr 2
      omega
  | thisMonth | lastMonth | thisQuarter | lastQuarter =>
      unfold presetMoments getFullYear getMonth
      dsimp only
      rw [today_fixedOffset, localDate_midnight, newDate_months]
      rfl
  | thisYear | lastYear =>
      unfold presetMoments getFullYear
      dsimp only
      rw [today_fixedOffset, localDate_midnight, newDate_year]
      rfl
  | today => exact congrArg (fun t => (t, t)) (today_fixedOffset offset now)
  | yesterday => exact congrArg (fun t => (t, t)) (startOfDays_fixedOffset offset now 1)
  | _ =>
      exact congrArg₂ Prod.mk (startOfDays_fixedOffset offset now _)
        (today_fixedOffset offset now)

theorem presetMoments_snd (preset : PresetDateRange) :
    (presetMoments (fixedOffset offset) now preset).2 =
      midnight offset (preset.span fullYear (day (now + offset))).2 := by
  by_cases hall : preset = .allTime
  · subst hall
    exact today_fixedOffset offset now
  · rw [presetMoments_fixedOffset offset now hall]

end Fixed

theorem day_midnight (host : Host) (days : Int) :
    (host.offset ≤ 0 → day (midnight host.offset days) = days) ∧
      (0 < host.offset → day (midnight host.offset days) = days - 1) := by
  have hwithin := host.withinDay
  unfold day midnight msPerDay at *
  omega

def PresetDateRange.yearArgument (year : Int) : PresetDateRange → Option Int
  | .thisMonth => some year
  | .lastMonth => some year
  | .thisQuarter => some year
  | .lastQuarter => some year
  | .thisYear => some year
  | .lastYear => some (year - 1)
  | _ => none

def PresetDateRange.KeepsYear (year : Int) (preset : PresetDateRange) : Prop :=
  ∀ argument ∈ preset.yearArgument year, ¬ (0 ≤ argument ∧ argument ≤ 99)

theorem span_of_keepsYear {preset : PresetDateRange} {today : Int}
    (h : preset.KeepsYear (civil today).year) : preset.span fullYear today = preset.span id today := by
  have hkeep : ∀ argument ∈ preset.yearArgument (civil today).year,
      fullYear argument = id argument :=
    fun argument hargument => if_neg (h argument hargument)
  cases preset with
  | thisMonth | lastMonth | thisQuarter | lastQuarter | thisYear | lastYear =>
      unfold PresetDateRange.span
      dsimp only
      rw [hkeep _ rfl]
  | _ => rfl

theorem monthDays_fullYear {year : Int} (first next : Int) (h : 0 ≤ year ∧ year ≤ 99) :
    (monthDays year first next).2 + 28 ≤ (monthDays (fullYear year) first next).2 := by
  have hlater : 12 * year + next + 1 ≤ 12 * fullYear year + next := by
    rw [fullYear, if_pos h]
    omega
  have hmonth := monthStart_succ (12 * year + next)
  have hstart := monthStart_le_monthStart hlater
  unfold monthDays
  dsimp only
  omega

theorem span_of_not_keepsYear {preset : PresetDateRange} {today : Int}
    (h : ¬ preset.KeepsYear (civil today).year) :
    (preset.span id today).2 + 28 ≤ (preset.span fullYear today).2 := by
  unfold PresetDateRange.KeepsYear at h
  push Not at h
  obtain ⟨argument, hargument, hdigits⟩ := h
  cases preset with
  | thisMonth | lastMonth | thisQuarter | lastQuarter | thisYear | lastYear =>
      cases hargument
      exact monthDays_fullYear _ _ hdigits
  | _ => cases hargument

/-- The bounds are the first and the last of the local days that a preset names. -/
def NamesLocalDays (host : Host) (now : Instant) (preset : PresetDateRange) : Prop :=
  ∃ first last, first ≤ last ∧
    IsLeast {days | preset.Names (host.localDay now) days} first ∧
    IsGreatest {days | preset.Names (host.localDay now) days} last ∧
    resolvePresetDates host.zone now.time preset = some ⟨dateText first, dateText last⟩

/-- **Where the bounds are local days.**  Midnight comes no earlier than in universal time,
the constructor keeps the year, and the preset names days, all of which begin at a date. -/
structure InStep (host : Host) (now : Instant) (preset : PresetDateRange) : Prop where
  notAhead : host.offset ≤ 0
  keepsYear : preset.KeepsYear (civil (host.localDay now)).year
  names : ∃ days, preset.Names (host.localDay now) days
  isDate : ∀ days, preset.Names (host.localDay now) days → IsDate (midnight host.offset days)

theorem resolvePresetDates_eq_some_iff {zone : Zone} {now : Int} {preset : PresetDateRange}
    {first last : Int} :
    resolvePresetDates zone now preset = some ⟨dateText first, dateText last⟩ ↔
      (IsDate (today zone now) ∧ IsDate (presetMoments zone now preset).1 ∧
        IsDate (presetMoments zone now preset).2) ∧
      day (presetMoments zone now preset).1 = first ∧
      day (presetMoments zone now preset).2 = last := by
  unfold resolvePresetDates
  rw [resolvePresetDateRange_eq, formatDate_eq, formatDate_eq]
  constructor
  · intro h
    split at h
    next hdates =>
      obtain ⟨hfirst, hlast⟩ := DateBounds.mk.inj (Option.some.inj h)
      exact ⟨hdates, dateText_inj hfirst, dateText_inj hlast⟩
    next => cases h
  · intro ⟨hdates, hfirst, hlast⟩
    rw [if_pos hdates, hfirst, hlast]

section Resolving

variable (host : Host) (now : Instant) (preset : PresetDateRange)

/-- The last bound is the last day that a preset names on a host that is not ahead, and on
no other. -/
theorem lastDay_iff :
    day (presetMoments host.zone now.time preset).2 =
        (preset.span id (host.localDay now)).2 ↔
      host.offset ≤ 0 ∧ preset.KeepsYear (civil (host.localDay now)).year := by
  have hlast := presetMoments_snd host.offset now.time preset
  obtain ⟨hbehind, hahead⟩ := day_midnight host (preset.span fullYear (host.localDay now)).2
  rw [Host.zone, hlast]
  constructor
  · intro h
    by_cases hkeeps : preset.KeepsYear (civil (host.localDay now)).year
    · refine ⟨?_, hkeeps⟩
      by_contra hpositive
      have hday := (hahead (by omega)).symm.trans h
      rw [span_of_keepsYear hkeeps] at hday
      omega
    · have hlater := span_of_not_keepsYear hkeeps
      by_cases hnonpos : host.offset ≤ 0
      · have hday := (hbehind hnonpos).symm.trans h
        omega
      · have hday := (hahead (by omega)).symm.trans h
        omega
  · intro ⟨hnonpos, hkeeps⟩
    rw [← span_of_keepsYear hkeeps]
    exact hbehind hnonpos

theorem firstDay (h : host.offset ≤ 0) :
    day (presetMoments host.zone now.time preset).1 =
        (preset.span fullYear (host.localDay now)).1 ∧
      (IsDate (presetMoments host.zone now.time preset).1 ↔
        IsDate (midnight host.offset (preset.span fullYear (host.localDay now)).1)) := by
  by_cases hall : preset = .allTime
  -- The epoch and the midnight of its day are both dates.
  · subst hall
    refine ⟨rfl, ?_⟩
    have hwithin := host.withinDay
    show IsDate 0 ↔ IsDate (midnight host.offset 0)
    unfold IsDate midnight maxTime
    unfold msPerDay at *
    omega
  · rw [Host.zone, presetMoments_fixedOffset _ _ hall]
    exact ⟨(day_midnight host _).1 h, Iff.rfl⟩

theorem span_fst_le {preset : PresetDateRange} {today : Int}
    (h : (preset.span id today).1 ≤ (preset.span id today).2) :
    (preset.span id today).1 ≤ today := by
  have hmonth := civil_month today
  cases preset with
  | thisMonth | lastMonth | thisQuarter | lastQuarter | thisYear | lastYear =>
      unfold PresetDateRange.span monthDays
      dsimp only [id]
      apply monthStart_le_iff.2
      unfold monthOf
      omega
  | allTime => exact h
  | _ =>
      unfold PresetDateRange.span
      dsimp only
      omega

theorem isDate_of_between {offset first last days : Int} (hfirst : IsDate (midnight offset first))
    (hlast : IsDate (midnight offset last)) (hle : first ≤ days) (hle' : days ≤ last) :
    IsDate (midnight offset days) := by
  unfold IsDate midnight maxTime msPerDay at *
  omega

theorem isDate_today {first : Int} (hfirst : IsDate (midnight host.offset first))
    (hle : first ≤ host.localDay now) : IsDate (today host.zone now.time) := by
  have hnow := now.isDate
  rw [Host.zone, today_fixedOffset]
  unfold Host.localDay at hle
  unfold IsDate midnight maxTime day msPerDay at *
  omega

/-- The bounds of a preset are the first and the last of the days that it names exactly when
host, instant and preset are in step. -/
theorem namesLocalDays_iff : NamesLocalDays host now preset ↔ InStep host now preset := by
  constructor
  · intro ⟨first, last, _, hleast, hgreatest, hresult⟩
    obtain ⟨hle, hfirst, hlast⟩ := bounds_names_iff.1 ⟨hleast, hgreatest⟩
    subst hfirst
    subst hlast
    obtain ⟨⟨_, hfirstDate, hlastDate⟩, _, hlast⟩ := resolvePresetDates_eq_some_iff.1 hresult
    obtain ⟨hnonpos, hkeeps⟩ := (lastDay_iff host now preset).1 hlast
    have hbegin := (firstDay host now preset hnonpos).2.1 hfirstDate
    rw [span_of_keepsYear hkeeps] at hbegin
    have hend : IsDate (midnight host.offset (preset.span id (host.localDay now)).2) := by
      rw [← span_of_keepsYear hkeeps]
      exact presetMoments_snd host.offset now.time preset ▸ hlastDate
    refine ⟨hnonpos, hkeeps, ⟨_, hleast.1⟩, ?_⟩
    intro days hdays
    obtain ⟨hafter, hbefore⟩ := (names_iff preset (host.localDay now) days).1 hdays
    exact isDate_of_between hbegin hend hafter hbefore
  · intro hstep
    obtain ⟨hnonpos, hkeeps, ⟨days, hdays⟩, hdates⟩ := hstep
    obtain ⟨hafter, hbefore⟩ := (names_iff preset (host.localDay now) days).1 hdays
    have hle := Int.le_trans hafter hbefore
    obtain ⟨hleast, hgreatest⟩ := bounds_names_iff.2 ⟨hle, rfl, rfl⟩
    have hbegin := hdates _ hleast.1
    have hend := hdates _ hgreatest.1
    obtain ⟨hday, hdate⟩ := firstDay host now preset hnonpos
    rw [span_of_keepsYear hkeeps] at hday hdate
    have hlastDate : IsDate (presetMoments host.zone now.time preset).2 := by
      rw [Host.zone, presetMoments_snd]
      exact span_of_keepsYear hkeeps ▸ hend
    refine ⟨_, _, hle, hleast, hgreatest, resolvePresetDates_eq_some_iff.2 ⟨⟨?_, ?_, ?_⟩, ?_, ?_⟩⟩
    · exact isDate_today host now hbegin (span_fst_le hle)
    · exact hdate.2 hbegin
    · exact hlastDate
    · exact hday
    · exact (lastDay_iff host now preset).2 ⟨hnonpos, hkeeps⟩

end Resolving

def twoHoursAhead : Host := ⟨2 * msPerHour, by decide⟩

/-- Noon of 15 May 2024 in universal time. -/
def noon : Instant := ⟨1715774400000, by decide⟩

/-- There, today is written down as the day before. -/
theorem today_is_yesterday :
    resolvePresetDates twoHoursAhead.zone noon.time .today = some ⟨"2024-05-14", "2024-05-14"⟩ ∧
      dateText (twoHoursAhead.localDay noon) = "2024-05-15" ∧
      ¬ NamesLocalDays twoHoursAhead noon .today := by
  have hresult : resolvePresetDates twoHoursAhead.zone noon.time .today =
      some ⟨"2024-05-14", "2024-05-14"⟩ := by decide
  have hday : dateText (twoHoursAhead.localDay noon) = "2024-05-15" := by decide
  refine ⟨hresult, hday, ?_⟩
  intro ⟨first, last, _, hleast, _, hbounds⟩
  have hfirst : first = twoHoursAhead.localDay noon := hleast.1
  rw [hresult, hfirst, hday] at hbounds
  have htexts := (DateBounds.mk.inj (Option.some.inj hbounds)).1
  exact absurd htexts (by decide)

end QueryEngine

end Zentra
