import ClusterGraph.Proofs.Time.Calendar
import ClusterGraph.Time.Instant
import Mathlib.Data.List.Lex
import Mathlib.Data.Prod.Lex
import Mathlib.Data.String.Basic

/-!
# ClusterGraph.Proofs.Time.Timestamps

**The stored text of an instant sorts where the instant does.**

Two texts of this form are compared number by number, since every number fills its column with
digits and every column ends with the same sign (`Time.columns_lt_iff`). What remains is that the
numbers of an instant, from the year to the second, come in the order of the seconds as which
instants are printed (`Instant.fields_lt_iff`), which is the order of time without the fractions
(`Instant.printedSecond_lt_iff_lt`). Before the year 0 a text starts with a sign that sorts below
all digits (`Instant.format_lt_of_neg`).
-/

namespace ClusterGraph

/-! ## Numbers in columns -/

namespace Time

/-- The last `width` decimal digits of a number, with zeros in front. -/
def decimals : Nat → Nat → List Char
  | 0, _ => []
  | width + 1, n => decimals width (n / 10) ++ [Nat.digitChar (n % 10)]

/-- The numbers as `decimals`, each in the width that the layout gives it, with its mark after
it. -/
def columns : List (Nat × Char) → List Nat → List Char
  | (width, mark) :: rest, n :: ns => decimals width n ++ mark :: columns rest ns
  | _, _ => []

theorem length_decimals (width n : Nat) : (decimals width n).length = width := by
  induction width generalizing n with
  | zero => rfl
  | succ width ih => rw [decimals, List.length_append, ih, List.length_singleton]

theorem decimals_zero (width : Nat) : decimals width 0 = List.replicate width '0' := by
  induction width with
  | zero => rfl
  | succ width ih =>
      rw [decimals, Nat.zero_div, ih, List.replicate_succ']
      rfl

/-- Where a number fits its width, `decimals` are `Nat.toDigits 10` with zeros in front. -/
theorem decimals_of_lt {width n : Nat} (h : n < 10 ^ (width + 1)) :
    decimals (width + 1) n
      = List.replicate (width + 1 - (Nat.toDigits 10 n).length) '0' ++ Nat.toDigits 10 n := by
  by_cases hn : n < 10
  · rw [Nat.toDigits_of_lt_base hn, decimals, Nat.div_eq_of_lt hn, Nat.mod_eq_of_lt hn,
      decimals_zero]
    rfl
  · have hn : 10 ≤ n := Nat.not_lt.mp hn
    cases width with
    | zero => omega
    | succ width =>
        have hdiv : n / 10 < 10 ^ (width + 1) := by
          rw [Nat.pow_succ] at h
          omega
        have ih := decimals_of_lt hdiv
        rw [Nat.toDigits_of_base_le (by decide) hn, decimals, ih, List.length_append,
          List.length_singleton, Nat.add_sub_add_right, List.append_assoc]

theorem exists_decimals (width n : Nat) :
    ∃ digit < 10, ∃ rest, decimals (width + 1) n = Nat.digitChar digit :: rest := by
  induction width generalizing n with
  | zero => exact ⟨n % 10, Nat.mod_lt n (by decide), [], rfl⟩
  | succ width ih =>
      obtain ⟨digit, hdigit, rest, h⟩ := ih (n / 10)
      exact ⟨digit, hdigit, rest ++ [Nat.digitChar (n % 10)], by rw [decimals, h]; rfl⟩

theorem append_lt_append_iff {as bs cs ds : List Char} (h : as.length = bs.length) :
    as ++ cs < bs ++ ds ↔ as < bs ∨ as = bs ∧ cs < ds := by
  induction as generalizing bs with
  | nil =>
      cases List.length_eq_zero_iff.mp h.symm
      simp
  | cons a as ih =>
      cases bs with
      | nil => cases h
      | cons b bs =>
          rw [List.cons_append, List.cons_append, List.cons_lt_cons_iff, List.cons_lt_cons_iff,
            ih (Nat.succ.inj h), List.cons.injEq]
          tauto

/-- Below 10, `Nat.digitChar` is strictly monotone. -/
theorem digitChar_lt_iff {a b : Nat} (ha : a < 10) (hb : b < 10) :
    Nat.digitChar a < Nat.digitChar b ↔ a < b := by
  have h : ∀ i < 10, ∀ j < 10, Nat.digitChar i < Nat.digitChar j ↔ i < j := by decide
  exact h a ha b hb

/-- If two texts are ordered in the way of two numbers, in both directions, they are equal for equal
numbers only. -/
theorem eq_of_lt_iff {as bs : List Char} {a b : Nat} (hlt : as < bs ↔ a < b)
    (hgt : bs < as ↔ b < a) (h : as = bs) : a = b := by
  subst h
  have hirrefl := List.lt_irrefl as
  exact Nat.le_antisymm (Nat.not_lt.mp (hirrefl ∘ hgt.mpr)) (Nat.not_lt.mp (hirrefl ∘ hlt.mpr))

theorem decimals_lt_iff {width a b : Nat} (ha : a < 10 ^ width) (hb : b < 10 ^ width) :
    decimals width a < decimals width b ↔ a < b := by
  induction width generalizing a b with
  | zero => simp_all [decimals]
  | succ width ih =>
      rw [Nat.pow_succ] at ha hb
      have ha' : a / 10 < 10 ^ width := by omega
      have hb' : b / 10 < 10 ^ width := by omega
      have hsame : decimals width (a / 10) = decimals width (b / 10) ↔ a / 10 = b / 10 :=
        ⟨eq_of_lt_iff (ih ha' hb') (ih hb' ha'), congrArg _⟩
      rw [decimals, decimals, append_lt_append_iff (by rw [length_decimals, length_decimals]),
        ih ha' hb', hsame, List.cons_lt_cons_iff,
        digitChar_lt_iff (Nat.mod_lt a (by decide)) (Nat.mod_lt b (by decide))]
      have hirrefl := List.lt_irrefl ([] : List Char)
      constructor
      · rintro (h | ⟨h, h' | ⟨-, h'⟩⟩)
        · omega
        · omega
        · exact absurd h' hirrefl
      · omega

theorem decimals_inj {width a b : Nat} (ha : a < 10 ^ width) (hb : b < 10 ^ width) :
    decimals width a = decimals width b ↔ a = b :=
  ⟨eq_of_lt_iff (decimals_lt_iff ha hb) (decimals_lt_iff hb ha), congrArg _⟩

/-- If all numbers fit their columns, `columns` are ordered as the lists of numbers. -/
theorem columns_lt_iff {layout : List (Nat × Char)} {ms ns : List Nat}
    (hm : List.Forall₂ (fun column m => m < 10 ^ column.1) layout ms)
    (hn : List.Forall₂ (fun column n => n < 10 ^ column.1) layout ns) :
    columns layout ms < columns layout ns ↔ ms < ns := by
  induction hm generalizing ns with
  | nil =>
      cases hn
      simp [columns]
  | @cons column m layout ms hfits _ ih =>
      obtain ⟨width, mark⟩ := column
      cases hn with
      | @cons _ n _ ns hfits' hrest =>
          rw [columns, columns, append_lt_append_iff (by rw [length_decimals, length_decimals]),
            decimals_lt_iff hfits hfits', decimals_inj hfits hfits', List.cons_lt_cons_iff,
            List.cons_lt_cons_iff, ih hrest]
          simp

end Time

/-! ## The numbers of an instant -/

namespace Instant

/-- The six numbers that `format` writes of an instant, from the year to the second. -/
def fields (t : Instant) : List Nat :=
  [t.date.year.toNat, t.date.month, t.date.day, t.secondOfDay / 3600, t.secondOfDay / 60 % 60,
    t.writtenSecond]

/-- The widths and the marks of the `columns` that `format` writes: `YYYY-MM-DDThh:mm:ssZ`. -/
def layout : List (Nat × Char) :=
  [(4, '-'), (2, '-'), (2, 'T'), (2, ':'), (2, ':'), (2, 'Z')]

/-- If the instant is `inLeapSecond`, its second is the last one of a minute. -/
def EndsMinute (t : Instant) : Prop :=
  t.inLeapSecond = true → t.second % 60 = 59

/-- The second that `format` writes, as a pair in lexicographic order: the minute since 1970 and the
second of the minute. A leap second is one more than the second that it follows, in the same
minute. -/
def printedSecond (t : Instant) : Int ×ₗ Int :=
  toLex (t.second / 60, t.second % 60 + if t.inLeapSecond then 1 else 0)

theorem toList_fourDigits {n : Nat} (h : n < 10000) :
    (fourDigits n).toList = Time.decimals 4 n := by
  rw [Time.decimals_of_lt h, fourDigits, String.toList_append, String.toList_ofList,
    Nat.toString_eq_repr, Nat.toList_repr, ← String.length_toList, Nat.toList_repr]

theorem toList_twoDigits {n : Nat} (h : n < 100) : (twoDigits n).toList = Time.decimals 2 n := by
  rw [Time.decimals_of_lt h, twoDigits]
  split
  · rename_i hn
    rw [String.toList_append, Nat.toString_eq_repr, Nat.toList_repr, Nat.toDigits_of_lt_base hn]
    rfl
  · rename_i hn
    have hlength : (Nat.toDigits 10 n).length = 2 := by
      rw [Nat.toDigits_of_base_le (by decide) (Nat.not_lt.mp hn),
        Nat.toDigits_of_lt_base (by omega)]
      rfl
    rw [Nat.toString_eq_repr, Nat.toList_repr, hlength]
    rfl

/-- The year is one that `format` writes as four digits without a sign: 0 to 9999. -/
def InFourDigits (t : Instant) : Prop :=
  0 ≤ t.date.year ∧ t.date.year ≤ 9999

instance (t : Instant) : Decidable t.InFourDigits :=
  inferInstanceAs (Decidable (_ ∧ _))

theorem secondOfDay_lt (t : Instant) : t.secondOfDay < 86400 := by
  unfold secondOfDay daySeconds
  omega

theorem writtenSecond_le (t : Instant) : t.writtenSecond ≤ 60 := by
  unfold writtenSecond
  split <;> omega

/-- Every number of the instant but the year has at most two digits. -/
structure FitsPairs (t : Instant) : Prop where
  month : t.date.month < 100
  day : t.date.day < 100
  hour : t.secondOfDay / 3600 < 100
  minute : t.secondOfDay / 60 % 60 < 100
  second : t.writtenSecond < 100

theorem fitsPairs (t : Instant) : t.FitsPairs := by
  have hdate := Date.isOf_ofDay t.dayNumber
  have hsecond := t.secondOfDay_lt
  exact {
    month := Nat.lt_of_le_of_lt hdate.month_le (by decide)
    day := Nat.lt_of_le_of_lt hdate.day_le (by decide)
    hour := by omega
    minute := by omega
    second := Nat.lt_of_le_of_lt t.writtenSecond_le (by decide) }

/-- Every number of the instant fits its column in `layout`. -/
structure FitsColumns (t : Instant) : Prop where
  year : t.date.year.toNat < 10000
  month : t.date.month < 100
  day : t.date.day < 100
  hour : t.secondOfDay / 3600 < 100
  minute : t.secondOfDay / 60 % 60 < 100
  second : t.writtenSecond < 100

variable {s t : Instant}

theorem InFourDigits.fits (h : t.InFourDigits) : t.FitsColumns :=
  have hlast := h.2
  { t.fitsPairs with year := by omega }

theorem FitsColumns.forall₂ (h : t.FitsColumns) :
    List.Forall₂ (fun column n => n < 10 ^ column.1) layout t.fields :=
  .cons h.year (.cons h.month (.cons h.day (.cons h.hour (.cons h.minute (.cons h.second .nil)))))

theorem toList_format (h : t.InFourDigits) :
    t.format.toList = Time.columns layout t.fields := by
  obtain ⟨hyear, hmonth, hday, hhour, hminute, hsecond⟩ := h.fits
  have htext : yearText t.date.year = fourDigits t.date.year.toNat := if_pos h
  simp only [format, htext, fields, layout, String.toList_append, toList_fourDigits hyear,
    toList_twoDigits hmonth, toList_twoDigits hday, toList_twoDigits hhour,
    toList_twoDigits hminute, toList_twoDigits hsecond, Time.columns, List.append_assoc]
  rfl

/-! ## The order of instants -/

/-- From the year 0 on, `dayNumber` is ordered as year, month and day. -/
theorem dayNumber_lt_iff (hs : 0 ≤ s.date.year) (ht : 0 ≤ t.date.year) :
    s.dayNumber < t.dayNumber ↔ s.date.year.toNat < t.date.year.toNat
      ∨ s.date.year.toNat = t.date.year.toNat ∧ (s.date.month < t.date.month
        ∨ s.date.month = t.date.month ∧ s.date.day < t.date.day) := by
  have hs' : s.date.IsOf s.dayNumber := Date.isOf_ofDay _
  have ht' : t.date.IsOf t.dayNumber := Date.isOf_ofDay _
  rw [hs'.lt_iff ht']
  unfold Date.monthNumber
  have := hs'.month_pos
  have := hs'.month_le
  have := ht'.month_pos
  have := ht'.month_le
  omega

theorem dayNumber_eq_iff (hs : 0 ≤ s.date.year) (ht : 0 ≤ t.date.year) :
    s.dayNumber = t.dayNumber ↔ s.date.year.toNat = t.date.year.toNat
      ∧ s.date.month = t.date.month ∧ s.date.day = t.date.day := by
  have hlt := dayNumber_lt_iff hs ht
  have hgt := dayNumber_lt_iff ht hs
  omega

theorem printedSecond_lt_iff : s.printedSecond < t.printedSecond ↔ s.second / 60 < t.second / 60
    ∨ s.second / 60 = t.second / 60 ∧ s.second % 60 + (if s.inLeapSecond then 1 else 0)
      < t.second % 60 + if t.inLeapSecond then 1 else 0 :=
  Prod.Lex.toLex_lt_toLex

theorem minute_eq (t : Instant) : t.second / 60
    = 1440 * t.dayNumber + 60 * (t.secondOfDay / 3600 : Nat) + (t.secondOfDay / 60 % 60 : Nat) := by
  unfold dayNumber secondOfDay daySeconds
  omega

theorem writtenSecond_eq (t : Instant) :
    (t.writtenSecond : Int) = t.second % 60 + if t.inLeapSecond then 1 else 0 := by
  unfold writtenSecond secondOfDay daySeconds
  split <;> omega

/-- The `fields` of two instants are ordered as their `printedSecond`s. -/
theorem fields_lt_iff (hs : 0 ≤ s.date.year) (ht : 0 ≤ t.date.year) :
    s.fields < t.fields ↔ s.printedSecond < t.printedSecond := by
  have hlast := s.secondOfDay_lt
  have hlast' := t.secondOfDay_lt
  rw [printedSecond_lt_iff, ← writtenSecond_eq, ← writtenSecond_eq]
  have hminutes : s.second / 60 < t.second / 60 ↔ s.dayNumber < t.dayNumber
      ∨ s.dayNumber = t.dayNumber ∧ (s.secondOfDay / 3600 < t.secondOfDay / 3600
        ∨ s.secondOfDay / 3600 = t.secondOfDay / 3600
          ∧ s.secondOfDay / 60 % 60 < t.secondOfDay / 60 % 60) := by
    rw [minute_eq, minute_eq]
    omega
  have hminute : s.second / 60 = t.second / 60 ↔ s.dayNumber = t.dayNumber
      ∧ s.secondOfDay / 3600 = t.secondOfDay / 3600
      ∧ s.secondOfDay / 60 % 60 = t.secondOfDay / 60 % 60 := by
    rw [minute_eq, minute_eq]
    omega
  rw [hminutes, hminute, dayNumber_lt_iff hs ht, dayNumber_eq_iff hs ht]
  simp only [fields, List.cons_lt_cons_iff, List.lt_irrefl, and_false, or_false, Int.ofNat_lt,
    and_or_left, and_assoc, or_assoc]

theorem toList_format_of_neg (h : t.date.year < 0) : ∃ rest, t.format.toList = '-' :: rest := by
  have htext : yearText t.date.year = "-" ++ fourDigits t.date.year.natAbs := by
    unfold yearText
    rw [if_neg (by omega), if_pos h]
  simp only [format, htext, String.toList_append, List.append_assoc]
  exact ⟨_, rfl⟩

/-- The text of an instant before the year 0 begins with a sign, and sorts below that of every
instant `InFourDigits`. -/
theorem format_lt_of_neg (ht : t.date.year < 0) (hs : s.InFourDigits) : t.format < s.format := by
  obtain ⟨rest, hneg⟩ := toList_format_of_neg ht
  obtain ⟨digit, hdigit, rest', hpos⟩ := Time.exists_decimals 3 s.date.year.toNat
  have hsign : ∀ i < 10, '-' < Nat.digitChar i := by decide
  rw [String.lt_iff_toList_lt, hneg, toList_format hs, layout, fields, Time.columns, hpos]
  exact List.cons_lt_cons_iff.mpr (.inl (hsign digit hdigit))

/-- Monotonicity of the year in `dayNumber`. -/
theorem year_le_of_dayNumber_le (h : s.dayNumber ≤ t.dayNumber) : s.date.year ≤ t.date.year := by
  have hs : s.date.IsOf s.dayNumber := Date.isOf_ofDay _
  have ht : t.date.IsOf t.dayNumber := Date.isOf_ofDay _
  have hmonths := hs.monthNumber_le ht h
  have := hs.month_pos
  have := ht.month_le
  unfold Date.monthNumber at hmonths
  omega

theorem minute_lt_of_year (h : t.date.year < s.date.year) : t.second / 60 < s.second / 60 := by
  have hday : t.dayNumber < s.dayNumber := by
    by_contra hlater
    exact absurd (year_le_of_dayNumber_le (Int.not_lt.mp hlater)) (Int.not_le.mpr h)
  unfold dayNumber daySeconds at hday
  omega

/-- The texts of two instants are ordered as their `printedSecond`s, if the first is `InFourDigits`
and the second not after the year 9999. -/
theorem format_lt_iff (hs : s.InFourDigits) (ht : t.date.year ≤ 9999) :
    s.format < t.format ↔ s.printedSecond < t.printedSecond := by
  by_cases hyear : 0 ≤ t.date.year
  · have ht : t.InFourDigits := ⟨hyear, ht⟩
    rw [String.lt_iff_toList_lt, toList_format hs, toList_format ht,
      Time.columns_lt_iff hs.fits.forall₂ ht.fits.forall₂, fields_lt_iff hs.1 ht.1]
  · have hneg : t.date.year < 0 := Int.not_le.mp hyear
    have htext := format_lt_of_neg hneg hs
    have hminute := minute_lt_of_year (Int.lt_of_lt_of_le hneg hs.1)
    exact iff_of_false (String.lt_asymm htext) (lt_asymm (printedSecond_lt_iff.mpr (.inl hminute)))

/-- Corollary of `format_lt_iff` for instants that are not `inLeapSecond`: the texts are ordered as
the seconds. -/
theorem format_lt_iff_second (hs : s.InFourDigits) (ht : t.date.year ≤ 9999)
    (hs' : s.inLeapSecond = false) (ht' : t.inLeapSecond = false) :
    s.format < t.format ↔ s.second < t.second := by
  rw [format_lt_iff hs ht, printedSecond_lt_iff, hs', ht']
  simp only [Bool.false_eq_true, if_false]
  omega

/-! ## Texts and time -/

/-- The order of time: by `second`, and then by `nano`. A leap second belongs to the second that it
follows. -/
instance : LT Instant :=
  ⟨fun s t => s.second < t.second ∨ s.second = t.second ∧ s.nano < t.nano⟩

theorem lt_def : s < t ↔ s.second < t.second ∨ s.second = t.second ∧ s.nano < t.nano :=
  Iff.rfl

/-- An instant with a smaller `printedSecond` is earlier. -/
theorem lt_of_printedSecond_lt (h : s.printedSecond < t.printedSecond) : s < t := by
  have hleap : ∀ u : Instant, u.inLeapSecond = true ↔ secondNanos ≤ u.nano := by
    intro u
    simp [inLeapSecond]
  simp only [printedSecond_lt_iff, hleap] at h
  rw [lt_def]
  split at h <;> split at h <;> omega

/-- The `printedSecond` is smaller just if the instant is earlier and the two are not in the same
printed second. -/
theorem printedSecond_lt_iff_lt :
    s.printedSecond < t.printedSecond ↔ s < t ∧ s.printedSecond ≠ t.printedSecond := by
  constructor
  · intro h
    exact ⟨lt_of_printedSecond_lt h, ne_of_lt h⟩
  · rintro ⟨hlt, hne⟩
    rcases lt_or_gt_of_ne hne with h | h
    · exact h
    · have hback := lt_of_printedSecond_lt h
      rw [lt_def] at hlt hback
      omega

/-- The texts of instants are in the order of time, up to the second. For two instants
`InFourDigits`, one `format` is below the other just if it is earlier and of another
`printedSecond`, and they are the same text just if that is the same. The text of an instant before
the year 0 is below all of these. -/
theorem format_keeps_order (hs : s.InFourDigits) :
    (t.InFourDigits →
      (s.format < t.format ↔ s < t ∧ s.printedSecond ≠ t.printedSecond)
      ∧ (s.format = t.format ↔ s.printedSecond = t.printedSecond)
      ∧ (t.format < s.format ↔ t < s ∧ s.printedSecond ≠ t.printedSecond))
    ∧ (t.date.year < 0 → t.format < s.format) := by
  refine ⟨?_, fun ht => format_lt_of_neg ht hs⟩
  intro ht
  have hlt := format_lt_iff hs ht.2
  have hgt := format_lt_iff ht hs.2
  refine ⟨hlt.trans printedSecond_lt_iff_lt, ?_, ?_⟩
  · -- Neither text sorts below the other just if neither second is before the other.
    rw [eq_iff_le_not_lt, eq_iff_le_not_lt, ← not_lt, ← not_lt, hlt, hgt]
  · rw [hgt, printedSecond_lt_iff_lt, ne_comm]

/-- Instance of `format_keeps_order` at a leap second that ends a year, the start of the next year,
and the end of the year -1. -/
theorem format_keeps_order_leapSecond :
    let leap : Instant := ⟨1483228799, 1500000000⟩
    let newYear : Instant := ⟨1483228800, 0⟩
    let early : Instant := ⟨-62167219201, 999999999⟩
    leap.InFourDigits ∧ newYear.InFourDigits ∧ early.date.year < 0
      ∧ leap.format < newYear.format ∧ leap.format ≠ newYear.format ∧ early.format < leap.format := by
  intro leap newYear early
  have hleap : leap.InFourDigits := by decide +kernel
  have hnewYear : newYear.InFourDigits := by decide +kernel
  have hearly : early.date.year < 0 := by decide +kernel
  have hapart : leap.printedSecond ≠ newYear.printedSecond := by decide
  obtain ⟨hlt, heq, -⟩ := (format_keeps_order hleap).1 hnewYear
  have hbefore : leap < newYear := .inl (by decide)
  exact ⟨hleap, hnewYear, hearly, hlt.mpr ⟨hbefore, hapart⟩, mt heq.mp hapart,
    (format_keeps_order hleap).2 hearly⟩

end Instant
end ClusterGraph
