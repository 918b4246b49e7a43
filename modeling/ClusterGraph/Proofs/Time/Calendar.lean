import ClusterGraph.Time.Calendar
import Mathlib.Order.Monotone.Basic

/-!
# ClusterGraph.Proofs.Time.Calendar

**Dates come in the order of their days.**

The date of a day is found by divisions, and that they find the right year is not plain from
their form. So the calendar is first said the other way round: a cycle of four hundred years is
taken apart into centuries, spans of four years and years (`Date.CycleParts`), and a month starts
where the one before it ends (`Date.monthStart_le_succ`). The date that is found then names the
month in which the day lies and the place of the day in it (`Date.isOf_ofDay`), so that the later
of two days lies in a later month, or later in the same one (`Date.IsOf.lt_iff`).
-/

namespace ClusterGraph
namespace Date

/-! ## Years of a cycle -/

/-- The first day of a year that begins with March, counted from that of the year 0. -/
def yearStart (year : Int) : Int :=
  365 * year + year / 4 - year / 100 + year / 400

/-- Where a `day` of the cycle of 400 years lies: its `century`, the `span` of four years in the
century, the `year` in the span, and the days of that year before it. Only the last year of a span
has a day 365, and at the end of a century only in the last one. -/
structure CycleParts (day century span year rest : Int) : Prop where
  sum : day = 36524 * century + 1461 * span + 365 * year + rest
  century_mem : 0 ≤ century ∧ century ≤ 3
  span_mem : 0 ≤ span ∧ span ≤ 24
  year_mem : 0 ≤ year ∧ year ≤ 3
  rest_mem : 0 ≤ rest ∧ rest ≤ 365
  leap : rest = 365 → year = 3 ∧ (span = 24 → century = 3)

theorem exists_cycleParts {day : Int} (hfirst : 0 ≤ day) (hlast : day < 146097) :
    ∃ century span year rest, CycleParts day century span year rest := by
  obtain ⟨century, hcentury⟩ : ∃ c, c = min (day / 36524) 3 := ⟨_, rfl⟩
  obtain ⟨inSpan, hinSpan⟩ : ∃ s, s = (day - 36524 * century) % 1461 := ⟨_, rfl⟩
  have hinside : 0 ≤ day - 36524 * century ∧ day - 36524 * century ≤ 36524
      ∧ (day - 36524 * century = 36524 → century = 3) := by
    omega
  refine ⟨century, (day - 36524 * century) / 1461, min (inSpan / 365) 3,
    inSpan - 365 * min (inSpan / 365) 3, ?_⟩
  constructor <;> omega

namespace CycleParts

variable {day century span year rest : Int}

theorem div_century (h : CycleParts day century span year rest) :
    day / 36524 - day / 146096 = century := by
  obtain ⟨hsum, hcentury, hspan, hyear, hrest, hleap⟩ := h
  have hcases : day = 146096 ∧ century = 3 ∨ day < 36524 * (century + 1) := by
    by_cases hlast : rest = 365
    · obtain ⟨rfl, hend⟩ := hleap hlast
      by_cases hspan' : span = 24
      · have := hend hspan'
        omega
      · omega
    · omega
  rcases hcases with ⟨rfl, rfl⟩ | hbefore
  · rfl
  · have hcycle : day / 146096 = 0 := by omega
    omega

/-- The quotient finds the year of a day whose `CycleParts` are given: what it takes off for leap
days is never so much that it falls into the year before, nor so little that it reaches the next. -/
theorem yearOfCycle (h : CycleParts day century span year rest) :
    (day - day / 1460 + day / 36524 - day / 146096) / 365 = 100 * century + 4 * span + year := by
  have hcentury := h.div_century
  obtain ⟨hsum, hcenturies, hspan, hyear, hrest, hleap⟩ := h
  obtain ⟨spare, hspare⟩ : ∃ o, o = (24 * century + span + 365 * year + rest) / 1460 := ⟨_, rfl⟩
  have hspans : day / 1460 = 25 * century + span + spare := by omega
  have hspare' : 0 ≤ rest - spare ∧ rest - spare ≤ 364 := by omega
  have hdays : day - day / 1460 + day / 36524 - day / 146096
      = 365 * (100 * century + 4 * span + year) + (rest - spare) := by
    omega
  rw [hdays]
  omega

theorem yearStart_year (h : CycleParts day century span year rest) :
    yearStart (100 * century + 4 * span + year) = day - rest := by
  obtain ⟨hsum, hcentury, hspan, hyear, hrest, hleap⟩ := h
  unfold yearStart
  omega

theorem lt_yearStart_succ (h : CycleParts day century span year rest) :
    day < yearStart (100 * century + 4 * span + year + 1) := by
  obtain ⟨hsum, hcentury, hspan, hyear, hrest, hleap⟩ := h
  unfold yearStart
  omega

end CycleParts

/-! ## Months -/

/-- The first day of a month, counted from 1970-01-01. Months are numbered from March of the year 0,
as in `monthNumber`. -/
def monthStart (month : Int) : Int :=
  yearStart (month / 12) + (153 * (month % 12) + 2) / 5 - 719468

/-- The number of the month of `d`, from March of the year 0. -/
def monthNumber (d : Date) : Int :=
  12 * d.year + d.month - 3

theorem monthStart_le_succ (month : Int) : monthStart month ≤ monthStart (month + 1) := by
  have hnext : (month + 1) / 12 = month / 12 ∧ (month + 1) % 12 = month % 12 + 1
      ∨ month % 12 = 11 ∧ (month + 1) / 12 = month / 12 + 1 ∧ (month + 1) % 12 = 0 := by
    omega
  unfold monthStart yearStart
  rcases hnext with ⟨hyear, hmonth⟩ | ⟨hlast, hyear, hmonth⟩
  · rw [hyear, hmonth]
    omega
  · rw [hyear, hmonth, hlast]
    omega

theorem monthStart_mono {a b : Int} (h : a ≤ b) : monthStart a ≤ monthStart b :=
  monotone_int_of_le_succ monthStart_le_succ h

/-! ## The date of a day -/

/-- The date `d` is that of `day`: its month and day are possible, `day` is `d.day - 1` days after
`monthStart`, and before the start of the next month. -/
structure IsOf (d : Date) (day : Int) : Prop where
  month_pos : 1 ≤ d.month
  month_le : d.month ≤ 12
  day_pos : 1 ≤ d.day
  day_le : d.day ≤ 31
  start : monthStart d.monthNumber + d.day = day + 1
  within : day < monthStart (d.monthNumber + 1)

theorem yearStart_add_cycle (year cycle : Int) :
    yearStart (year + 400 * cycle) = yearStart year + 146097 * cycle := by
  unfold yearStart
  omega

/-- Case analysis of `ofDay`: the year that begins with March, its month from 0 to 11, and the
`rest` of the days in that year. -/
theorem exists_ofDay (day : Int) : ∃ year month rest : Int,
    (0 ≤ month ∧ month ≤ 11) ∧ 0 ≤ rest ∧ (153 * month + 2) / 5 ≤ rest
      ∧ rest < (153 * (month + 1) + 2) / 5
      ∧ yearStart year + rest = day + 719468 ∧ day + 719468 < yearStart (year + 1)
      ∧ ofDay day = ⟨if month < 10 then year else year + 1,
          (if month < 10 then month + 3 else month - 9).toNat,
          (rest - (153 * month + 2) / 5 + 1).toNat⟩ := by
  obtain ⟨century, span, year, rest, hparts⟩ :=
    exists_cycleParts (Int.emod_nonneg (day + 719468) (by omega : (146097 : Int) ≠ 0))
      (Int.emod_lt_of_pos (day + 719468) (by omega : (0 : Int) < 146097))
  have hfound := hparts.yearOfCycle
  have hstart := hparts.yearStart_year
  have hend := hparts.lt_yearStart_succ
  obtain ⟨-, hcentury, hspan, hyear, hrest, -⟩ := hparts
  obtain ⟨y, hy⟩ : ∃ y, y = 100 * century + 4 * span + year := ⟨_, rfl⟩
  rw [← hy] at hfound hstart hend
  have hsplit := Int.mul_ediv_add_emod (day + 719468) 146097
  refine ⟨y + 400 * ((day + 719468) / 146097), (5 * rest + 2) / 153, rest, by omega, by omega,
    by omega, by omega, ?_, ?_, ?_⟩
  · rw [yearStart_add_cycle]
    omega
  · rw [Int.add_right_comm, yearStart_add_cycle]
    omega
  · have hrest' : (day + 719468) % 146097 - (365 * y + y / 4 - y / 100) = rest := by
      unfold yearStart at hstart
      omega
    unfold ofDay
    simp only [hfound, hrest', Date.mk.injEq, and_true]
    omega

theorem isOf_ofDay (day : Int) : (ofDay day).IsOf day := by
  obtain ⟨year, month, rest, hmonth, hrest, hfrom, hto, hstart, hend, hdate⟩ := exists_ofDay day
  have hnumber : (ofDay day).monthNumber = 12 * year + month := by
    rw [hdate]
    unfold monthNumber
    simp only
    omega
  have hyear : (12 * year + month) / 12 = year := by omega
  have hinYear : (12 * year + month) % 12 = month := by omega
  constructor
  case start =>
    rw [hnumber, monthStart, hyear, hinYear, hdate]
    simp only
    omega
  case within =>
    rw [hnumber, monthStart]
    by_cases hlast : month = 11
    -- After the last month comes the first one of the next year.
    · have hnext : (12 * year + month + 1) / 12 = year + 1 := by omega
      have hmarch : (12 * year + month + 1) % 12 = 0 := by omega
      rw [hnext, hmarch]
      omega
    · have hsame : (12 * year + month + 1) / 12 = year := by omega
      have hnext : (12 * year + month + 1) % 12 = month + 1 := by omega
      rw [hsame, hnext]
      omega
  all_goals
    rw [hdate]
    simp only
    omega

/-- Equation of `toDay` by `monthStart` and `monthNumber`. -/
theorem toDay_eq {d : Date} (hpos : 1 ≤ d.month) (hle : d.month ≤ 12) :
    d.toDay = monthStart d.monthNumber + d.day - 1 := by
  obtain ⟨year, hyear⟩ : ∃ y, y = if d.month ≤ 2 then d.year - 1 else d.year := ⟨_, rfl⟩
  have hquotient : (12 * d.year + d.month - 3) / 12 = year := by
    split at hyear <;> omega
  have hmonth : (12 * d.year + d.month - 3) % 12 = ((d.month : Int) + 9) % 12 := by omega
  unfold toDay monthStart monthNumber yearStart
  simp only [hquotient, hmonth, ← hyear]
  omega

/-- Round trip: `toDay` is a left inverse of `ofDay`. -/
theorem toDay_ofDay (day : Int) : (ofDay day).toDay = day := by
  have h := isOf_ofDay day
  rw [toDay_eq h.month_pos h.month_le, h.start]
  omega

/-! ## The order of dates -/

namespace IsOf

variable {a b : Date} {day day' : Int}

theorem monthNumber_le (ha : a.IsOf day) (hb : b.IsOf day') (h : day ≤ day') :
    a.monthNumber ≤ b.monthNumber := by
  by_contra hlater
  have hmonths := monthStart_mono (show b.monthNumber + 1 ≤ a.monthNumber by omega)
  have hstart := ha.start
  have hpos := ha.day_pos
  have hend := hb.within
  omega

/-- Of two days with their dates, the first is earlier just if its `monthNumber` is smaller, or is
the same and its day of the month is smaller. -/
theorem lt_iff (ha : a.IsOf day) (hb : b.IsOf day') :
    day < day' ↔ a.monthNumber < b.monthNumber
      ∨ a.monthNumber = b.monthNumber ∧ a.day < b.day := by
  have hstart := ha.start
  have hstart' := hb.start
  constructor
  · intro h
    rcases Int.lt_or_eq_of_le (ha.monthNumber_le hb (Int.le_of_lt h)) with hmonth | hmonth
    · exact .inl hmonth
    · rw [hmonth] at hstart
      exact .inr ⟨hmonth, by omega⟩
  · rintro (hmonth | ⟨hmonth, hday⟩)
    · by_contra hlater
      have := hb.monthNumber_le ha (Int.not_lt.mp hlater)
      omega
    · rw [hmonth] at hstart
      omega

end IsOf

end Date
end ClusterGraph
