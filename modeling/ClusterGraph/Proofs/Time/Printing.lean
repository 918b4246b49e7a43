import ClusterGraph.Proofs.Time.Timestamps
import ClusterGraph.Time.Rfc3339
import Mathlib.Data.List.TakeWhile

/-!
# ClusterGraph.Proofs.Time.Printing

**A point in time that is printed and read again is the second in which it lies.**

What is printed is read column by column: digits up to the mark that ends them, whatever comes
after (`Time.readNumber_decimals`). A year may have a sign and any number of digits. The reader
refuses dates that do not exist, so it has to be known that the date of a day does
(`Date.isValid_ofDay`), and takes second 60 for a leap second in every minute. All that was read
itself is in range and has its leap seconds at the ends of minutes (`Time.isReadable_of_read?`), so
nothing is lost by printing it but the fraction of a second (`Time.read?_format`).
-/

namespace ClusterGraph

/-! ## Dates that exist -/

namespace Date

theorem isLeapYear_iff {year : Int} :
    isLeapYear year = true ↔ year % 4 = 0 ∧ (year % 100 ≠ 0 ∨ year % 400 = 0) := by
  unfold isLeapYear
  rw [Bool.and_eq_true, Bool.or_eq_true, decide_eq_true_eq, decide_eq_true_eq, decide_eq_true_eq]

/-- Case analysis of `daysInMonth` at February: 29 in a leap year, 28 otherwise. -/
theorem daysInMonth_february (year : Int) :
    daysInMonth year 2 = 29 ∧ year % 4 = 0 ∧ (year % 100 ≠ 0 ∨ year % 400 = 0)
      ∨ daysInMonth year 2 = 28 ∧ ¬(year % 4 = 0 ∧ (year % 100 ≠ 0 ∨ year % 400 = 0)) := by
  by_cases hleap : isLeapYear year = true
  · exact .inl ⟨if_pos hleap, isLeapYear_iff.mp hleap⟩
  · exact .inr ⟨if_neg hleap, mt isLeapYear_iff.mpr hleap⟩

/-- Case analysis of `daysInMonth` at the other months: 30 or 31. -/
theorem daysInMonth_cases {month : Nat} (hpos : 1 ≤ month) (hle : month ≤ 12) (year : Int) :
    month = 2
      ∨ (month = 4 ∨ month = 6 ∨ month = 9 ∨ month = 11) ∧ daysInMonth year month = 30
      ∨ (month = 1 ∨ month = 3 ∨ month = 5 ∨ month = 7 ∨ month = 8 ∨ month = 10 ∨ month = 12)
        ∧ daysInMonth year month = 31 := by
  by_cases hfebruary : month = 2
  · exact .inl hfebruary
  · by_cases hshort : month = 4 ∨ month = 6 ∨ month = 9 ∨ month = 11
    · exact .inr (.inl ⟨hshort, (if_neg hfebruary).trans (if_pos hshort)⟩)
    · exact .inr (.inr ⟨by omega, (if_neg hfebruary).trans (if_neg hshort)⟩)

/-- The `yearStart` of a year is that of the year before, 337 days from March to January, and the
days of February. -/
theorem yearStart_eq (year : Int) :
    yearStart year = yearStart (year - 1) + 337 + daysInMonth year 2 := by
  have hfour : year / 4 = (year - 1) / 4 + if year % 4 = 0 then 1 else 0 := by omega
  have hhundred : year / 100 = (year - 1) / 100 + if year % 100 = 0 then 1 else 0 := by omega
  have hcycle : year / 400 = (year - 1) / 400 + if year % 400 = 0 then 1 else 0 := by omega
  have hfours : year % 400 = 0 → year % 4 = 0 := by omega
  have hhundreds : year % 400 = 0 → year % 100 = 0 := by omega
  have hdays := daysInMonth_february year
  unfold yearStart
  rw [hfour, hhundred, hcycle]
  grind

/-- The `monthStart` of the month after a month is `daysInMonth` later. -/
theorem monthStart_succ {year : Int} {month : Nat} (hpos : 1 ≤ month) (hle : month ≤ 12) :
    monthStart (12 * year + month - 3 + 1)
      = monthStart (12 * year + month - 3) + daysInMonth year month := by
  unfold monthStart yearStart
  rcases daysInMonth_cases hpos hle year with rfl | ⟨hmonth, hdays⟩ | ⟨hmonth, hdays⟩
  · have hyear := yearStart_eq year
    unfold yearStart at hyear
    omega
  · rw [hdays]
    rcases hmonth with rfl | rfl | rfl | rfl
    all_goals omega
  · rw [hdays]
    rcases hmonth with rfl | rfl | rfl | rfl | rfl | rfl | rfl
    all_goals omega

/-- Every date that `ofDay` makes satisfies `isValid`. -/
theorem isValid_ofDay (day : Int) : (ofDay day).isValid = true := by
  have h := isOf_ofDay day
  have hstart := h.start
  have hwithin := h.within
  unfold monthNumber at hstart hwithin
  rw [monthStart_succ h.month_pos h.month_le] at hwithin
  have hday : (ofDay day).day ≤ daysInMonth (ofDay day).year (ofDay day).month := by omega
  simp [isValid, h.month_pos, h.month_le, h.day_pos, hday]

end Date

/-! ## Reading columns -/

namespace Time

theorem isDigit_digitChar {d : Nat} (h : d < 10) : isDigit (Nat.digitChar d) = true := by
  have hall : ∀ d < 10, isDigit (Nat.digitChar d) = true := by decide
  exact hall d h

theorem isDigit_of_mem_decimals {width n : Nat} {c : Char} (h : c ∈ decimals width n) :
    isDigit c = true := by
  induction width generalizing n with
  | zero => cases h
  | succ width ih =>
      rw [decimals, List.mem_append, List.mem_singleton] at h
      rcases h with h | rfl
      · exact ih h
      · exact isDigit_digitChar (Nat.mod_lt n (by decide))

/-- Round trip: `digitsValue` of `decimals width n` is `n`, if `n` has at most `width` digits. -/
theorem digitsValue_decimals {width n : Nat} (h : n < 10 ^ width) :
    digitsValue (decimals width n) = n := by
  induction width generalizing n with
  | zero =>
      have hzero : n = 0 := by simpa using h
      rw [hzero]
      rfl
  | succ width ih =>
      have hrest : n / 10 < 10 ^ width := by
        rw [Nat.pow_succ] at h
        omega
      have hdigit : ∀ d < 10, (Nat.digitChar d).toNat - '0'.toNat = d := by decide
      have hfold : digitsValue (decimals (width + 1) n)
          = digitsValue (decimals width (n / 10)) * 10
            + ((Nat.digitChar (n % 10)).toNat - '0'.toNat) :=
        List.foldl_append
      rw [hfold, ih hrest, hdigit _ (Nat.mod_lt n (by decide))]
      omega

/-- Reading with `readNumber` what `decimals` wrote, up to the `mark` that ends it. -/
theorem readNumber_decimals {width limit n : Nat} {mark : Char} (hpos : 0 < width)
    (hlimit : width ≤ limit) (hn : n < 10 ^ width) (hmark : isDigit mark = false)
    (rest : List Char) :
    readNumber limit (decimals width n ++ mark :: rest) = some (n, mark :: rest) := by
  have hend : ((mark :: rest).take (limit - width)).takeWhile isDigit = [] := by
    cases limit - width with
    | zero => rfl
    | succ more => rw [List.take_succ_cons, List.takeWhile_cons_of_neg (by simp [hmark])]
  have hdigits : ((decimals width n ++ mark :: rest).take limit).takeWhile isDigit
      = decimals width n := by
    rw [List.take_append, length_decimals, List.take_of_length_le (by rw [length_decimals]; omega),
      List.takeWhile_append_of_pos fun _ => isDigit_of_mem_decimals, hend, List.append_nil]
  have hsome : ¬(decimals width n).isEmpty = true := by
    intro hempty
    have hlength := length_decimals width n
    rw [List.isEmpty_iff.mp hempty] at hlength
    exact Nat.ne_of_gt hpos hlength.symm
  unfold readNumber
  dsimp only
  rw [hdigits, if_neg hsome, digitsValue_decimals hn, List.drop_left]

theorem skipBlanks_decimals {width n : Nat} (hpos : 0 < width) (rest : List Char) :
    Text.skipBlanks (decimals width n ++ rest) = decimals width n ++ rest := by
  obtain ⟨width, rfl⟩ := Nat.exists_eq_succ_of_ne_zero (Nat.ne_of_gt hpos)
  obtain ⟨digit, hdigit, others, hdecimals⟩ := exists_decimals width n
  have hblank : ∀ d < 10, Text.isBlank (Nat.digitChar d) = false := by decide
  rw [hdecimals, List.cons_append]
  exact List.dropWhile_cons_of_neg (by simp [hblank digit hdigit])

theorem readPart_decimals {n : Nat} {mark : Char} (hn : n < 100) (hmark : isDigit mark = false)
    (rest : List Char) : readPart (decimals 2 n ++ mark :: rest) = some (n, mark :: rest) := by
  unfold readPart
  rw [skipBlanks_decimals (by decide)]
  exact readNumber_decimals (by decide) (by decide) hn hmark rest

/-- The text `fourDigits` of a number is `decimals` of some width, which is 4 or more. -/
theorem exists_decimals_fourDigits (n : Nat) : ∃ width, 4 ≤ width ∧ n < 10 ^ width
    ∧ (Instant.fourDigits n).toList = decimals width n := by
  by_cases hn : n < 10000
  · exact ⟨4, Nat.le_refl 4, hn, Instant.toList_fourDigits hn⟩
  · have hlong : 4 < (Nat.toDigits 10 n).length :=
      Nat.not_le.mp (hn ∘ (Nat.length_toDigits_le_iff (by decide) (by decide)).mp)
    have hfits : n < 10 ^ (Nat.toDigits 10 n).length :=
      (Nat.length_toDigits_le_iff (by decide) (by omega)).mp (Nat.le_refl _)
    refine ⟨_, Nat.le_of_lt hlong, hfits, ?_⟩
    obtain ⟨width, hwidth⟩ : ∃ width : Nat, (Nat.toDigits 10 n).length = width + 1 :=
      Nat.exists_eq_succ_of_ne_zero (by omega)
    rw [hwidth, decimals_of_lt (hwidth ▸ hfits), ← hwidth, Nat.sub_self,
      Instant.fourDigits, String.toList_append, String.toList_ofList, Nat.toString_eq_repr,
      Nat.toList_repr, ← String.length_toList, Nat.toList_repr,
      Nat.sub_eq_zero_of_le (Nat.le_of_lt hlong)]

theorem readYear_decimals {n : Nat} (hn : n < 10000) (rest : List Char) :
    readYear (decimals 4 n ++ '-' :: rest) = some ((n : Int), '-' :: rest) := by
  obtain ⟨digit, hdigit, others, hdecimals⟩ := exists_decimals 3 n
  have hnumber : readNumber 4 (decimals 4 n ++ '-' :: rest) = some (n, '-' :: rest) :=
    readNumber_decimals (by decide) (Nat.le_refl 4) hn (by decide) rest
  have hskip : Text.skipBlanks (decimals 4 n ++ '-' :: rest) = decimals 4 n ++ '-' :: rest :=
    skipBlanks_decimals (by decide) _
  have hunsigned : ∀ d < 10, Nat.digitChar d ≠ '-' ∧ Nat.digitChar d ≠ '+' := by decide
  unfold readYear
  rw [hskip]
  split
  · rename_i heq
    rw [hdecimals] at heq
    exact absurd (List.cons.inj heq).1 (hunsigned digit hdigit).1
  · rename_i heq
    rw [hdecimals] at heq
    exact absurd (List.cons.inj heq).1 (hunsigned digit hdigit).2
  · rw [hnumber]
    rfl

theorem readYear_minus (cs : List Char) :
    readYear ('-' :: cs) = (readNumber cs.length cs).map fun (n, rest) => (-(n : Int), rest) :=
  rfl

theorem readYear_plus (cs : List Char) :
    readYear ('+' :: cs) = (readNumber cs.length cs).map fun (n, rest) => ((n : Int), rest) :=
  rfl

theorem readYear_yearText (year : Int) (rest : List Char) :
    readYear ((Instant.yearText year).toList ++ '-' :: rest) = some (year, '-' :: rest) := by
  unfold Instant.yearText
  split
  · rename_i hplain
    have hfits : year.toNat < 10000 := by omega
    rw [Instant.toList_fourDigits hfits, readYear_decimals hfits,
      Int.toNat_of_nonneg hplain.1]
  · obtain ⟨width, hwidth, hfits, htext⟩ := exists_decimals_fourDigits year.natAbs
    have hnumber : readNumber (decimals width year.natAbs ++ '-' :: rest).length
        (decimals width year.natAbs ++ '-' :: rest) = some (year.natAbs, '-' :: rest) :=
      readNumber_decimals (by omega) (by simp [length_decimals]) hfits (by decide) rest
    rw [String.toList_append, htext, List.append_assoc]
    split
    · rename_i hneg
      have hyear : -(year.natAbs : Int) = year := by omega
      show readYear ('-' :: (decimals width year.natAbs ++ '-' :: rest)) = _
      rw [readYear_minus, hnumber]
      exact congrArg (fun y => some (y, '-' :: rest)) hyear
    · rename_i hpos
      have hyear : (year.natAbs : Int) = year := by omega
      show readYear ('+' :: (decimals width year.natAbs ++ '-' :: rest)) = _
      rw [readYear_plus, hnumber]
      exact congrArg (fun y => some (y, '-' :: rest)) hyear

end Time

namespace Instant

/-- The start of the second in which `t` lies. In a leap second `nano` is kept at `secondNanos`. -/
def whole (t : Instant) : Instant :=
  ⟨t.second, if t.inLeapSecond then secondNanos else 0⟩

theorem inLeapSecond_whole (t : Instant) : t.whole.inLeapSecond = t.inLeapSecond := by
  unfold whole
  cases h : t.inLeapSecond <;> rfl

/-- An instant and its `whole` second have the same `format`. -/
theorem format_whole (t : Instant) : t.whole.format = t.format := by
  unfold format writtenSecond
  rw [inLeapSecond_whole]
  rfl

/-- The instant can be read back: `isDayInRange` holds of its day, and a leap second
`EndsMinute`. -/
structure IsReadable (t : Instant) : Prop where
  inRange : isDayInRange t.dayNumber = true
  endsMinute : t.EndsMinute

end Instant

namespace Time

/-- Making an instant with `instantOf?` of the date and the time of day that `format` writes gives
the `whole` second. -/
theorem instantOf?_written {t : Instant} (h : t.IsReadable) :
    instantOf? t.date (t.secondOfDay / 3600) (t.secondOfDay / 60 % 60) t.writtenSecond 0 0
      = some t.whole := by
  have hlast := t.secondOfDay_lt
  have hhour : t.secondOfDay / 3600 < 24 := by omega
  have hminute : t.secondOfDay / 60 % 60 < 60 := by omega
  have hday : t.date.toDay = t.dayNumber := Date.toDay_ofDay _
  have hinDay : t.secondOfDay / 3600 * 3600 + t.secondOfDay / 60 % 60 * 60
      + (if t.writtenSecond = 60 then 59 else t.writtenSecond) = t.secondOfDay
      ∧ (t.writtenSecond = 60 ↔ t.inLeapSecond = true) := by
    unfold Instant.writtenSecond
    cases hleap : t.inLeapSecond with
    | true =>
        have hend := h.endsMinute hleap
        have hsecond : t.secondOfDay % 60 = 59 := by
          unfold Instant.secondOfDay Instant.daySeconds
          omega
        simp [hsecond]
        omega
    | false =>
        have hshort : ¬t.secondOfDay % 60 = 60 := by omega
        simp [hshort]
        omega
  have hsecond : t.dayNumber * Instant.daySeconds + (t.secondOfDay : Int) - 0 = t.second := by
    unfold Instant.dayNumber Instant.secondOfDay Instant.daySeconds
    omega
  have hvalid : (t.date.isValid && decide (t.secondOfDay / 3600 < 24)
      && decide (t.secondOfDay / 60 % 60 < 60) && decide (t.writtenSecond ≤ 60)
      && Instant.isDayInRange t.date.toDay) = true := by
    rw [hday, h.inRange, show t.date.isValid = true from Date.isValid_ofDay _]
    simp [hhour, hminute, t.writtenSecond_le]
  have hwhole : (⟨t.second, if t.writtenSecond = 60 then 0 + Instant.secondNanos else 0⟩ : Instant)
      = t.whole := by
    simp [Instant.whole, hinDay.2]
  unfold instantOf?
  rw [if_pos hvalid]
  dsimp only
  rw [hinDay.1, hday, hsecond, hwhole]
  exact if_pos h.inRange

theorem toList_format_eq_append {t : Instant} : t.format.toList
    = (Instant.yearText t.date.year).toList ++ '-' :: (decimals 2 t.date.month
      ++ '-' :: (decimals 2 t.date.day ++ 'T' :: (decimals 2 (t.secondOfDay / 3600)
      ++ ':' :: (decimals 2 (t.secondOfDay / 60 % 60)
      ++ ':' :: (decimals 2 t.writtenSecond ++ ['Z']))))) := by
  obtain ⟨hmonth, hday, hhour, hminute, hwritten⟩ := t.fitsPairs
  simp only [Instant.format, String.toList_append, Instant.toList_twoDigits hmonth,
    Instant.toList_twoDigits hday, Instant.toList_twoDigits hhour,
    Instant.toList_twoDigits hminute, Instant.toList_twoDigits hwritten, List.append_assoc]
  rfl

theorem read?_format {t : Instant} (h : t.IsReadable) : read? t.format = some t.whole := by
  obtain ⟨hmonth, hday, hhour, hminute, hwritten⟩ := t.fitsPairs
  have hdash : ∀ cs, readSeparator '-' ('-' :: cs) = some cs := fun _ => rfl
  have hcolon : ∀ cs, readSeparator ':' (':' :: cs) = some cs := fun _ => rfl
  have hend : readFraction ['Z'] = some (0, ['Z']) := rfl
  have hzone : readOffset (Text.skipBlanks ['Z']) = some (0, []) := rfl
  unfold read?
  rw [toList_format_eq_append, readYear_yearText]
  simp only [bind, Option.bind_some, hdash, hcolon, hend, hzone,
    readPart_decimals hmonth (by decide : isDigit '-' = false),
    readPart_decimals hday (by decide : isDigit 'T' = false),
    readPart_decimals hhour (by decide : isDigit ':' = false),
    readPart_decimals hminute (by decide : isDigit ':' = false),
    readPart_decimals hwritten (by decide : isDigit 'Z' = false)]
  exact instantOf?_written h

/-! ## What is read -/

theorem foldl_digits_lt {cs : List Char} (h : ∀ c ∈ cs, isDigit c = true) (n : Nat) :
    cs.foldl (fun n c => n * 10 + (c.toNat - '0'.toNat)) n < (n + 1) * 10 ^ cs.length := by
  induction cs generalizing n with
  | nil => simp
  | cons c rest ih =>
      have hdigit : c.toNat - '0'.toNat ≤ 9 := by
        have hc := h c List.mem_cons_self
        simp only [isDigit, Bool.and_eq_true, decide_eq_true_eq, Char.le_def,
          UInt32.le_iff_toNat_le] at hc
        have hnine : '9'.val.toNat = 57 := rfl
        have hzero : '0'.toNat = 48 := rfl
        have hval : c.val.toNat = c.toNat := rfl
        omega
      have hrest := ih (fun d hd => h d (List.mem_cons_of_mem c hd))
        (n * 10 + (c.toNat - '0'.toNat))
      rw [List.foldl_cons, List.length_cons, Nat.pow_succ]
      refine Nat.lt_of_lt_of_le hrest ?_
      calc (n * 10 + (c.toNat - '0'.toNat) + 1) * 10 ^ rest.length
        _ ≤ ((n + 1) * 10) * 10 ^ rest.length := Nat.mul_le_mul_right _ (by omega)
        _ = (n + 1) * (10 ^ rest.length * 10) := by rw [Nat.mul_assoc, Nat.mul_comm 10]

/-- A fraction that `readFraction` reads is less than a second. -/
theorem readFraction_lt {cs rest : List Char} {nano : Nat}
    (h : readFraction cs = some (nano, rest)) : nano < Instant.secondNanos := by
  unfold readFraction at h
  split at h
  · rename_i more
    dsimp only at h
    split at h
    · cases h
    · obtain ⟨rfl, -⟩ := Prod.mk.inj (Option.some.inj h)
      have hdigits : ∀ c ∈ (more.take 9).takeWhile isDigit, isDigit c = true :=
        fun c hc => List.mem_takeWhile_imp hc
      have hlength : ((more.take 9).takeWhile isDigit).length ≤ 9 :=
        (List.takeWhile_prefix isDigit).length_le.trans (List.length_take_le 9 more)
      have hvalue : digitsValue _ < _ := foldl_digits_lt hdigits 0
      rw [Nat.zero_add, Nat.one_mul] at hvalue
      generalize (more.take 9).takeWhile isDigit = digits at hvalue hlength
      calc digitsValue digits * 10 ^ (9 - digits.length)
        _ < 10 ^ digits.length * 10 ^ (9 - digits.length) :=
            Nat.mul_lt_mul_of_pos_right hvalue (Nat.pow_pos (by decide))
        _ = Instant.secondNanos := by
            rw [← Nat.pow_add, Nat.add_sub_cancel' hlength]
            rfl
  · obtain ⟨rfl, -⟩ := Prod.mk.inj (Option.some.inj h)
    decide

/-- An offset that `readOffset` reads is a number of whole minutes. -/
theorem readOffset_mod {cs rest : List Char} {offset : Int}
    (h : readOffset cs = some (offset, rest)) : offset % 60 = 0 := by
  unfold readOffset at h
  split at h
  · cases h
    rfl
  · cases h
    rfl
  · split at h
    · cases h
      rfl
    · simp only [bind, Option.bind_eq_some_iff] at h
      obtain ⟨sign, -, hours, -, minutes, -, h⟩ := h
      split at h
      · obtain ⟨rfl, -⟩ := Prod.mk.inj (Option.some.inj h)
        have hminutes : (60 : Int) ∣ ((hours.1 * 3600 + minutes.1 * 60 : Nat) : Int) :=
          ⟨((hours.1 * 60 + minutes.1 : Nat) : Int), by omega⟩
        exact Int.emod_eq_zero_of_dvd (Int.dvd_mul_of_dvd_right hminutes)
      · cases h
  · cases h

theorem isReadable_of_instantOf? {date : Date} {hour minute second nano : Nat} {offset : Int}
    {t : Instant} (hnano : nano < Instant.secondNanos) (hoffset : offset % 60 = 0)
    (h : instantOf? date hour minute second nano offset = some t) : t.IsReadable := by
  unfold instantOf? at h
  rw [Option.ite_none_right_eq_some] at h
  obtain ⟨hvalid, h⟩ := h
  dsimp only at h
  rw [Option.ite_none_right_eq_some] at h
  obtain ⟨hrange, h⟩ := h
  obtain rfl := Option.some.inj h
  refine ⟨hrange, fun hleap => ?_⟩
  unfold Instant.inLeapSecond at hleap
  by_cases hsecond : second = 60
  · simp [hsecond, Instant.daySeconds]
    omega
  · simp [hsecond] at hleap
    omega

theorem isReadable_of_read? {text : String} {t : Instant} (h : read? text = some t) :
    t.IsReadable := by
  unfold read? at h
  obtain ⟨year, -, h⟩ := Option.bind_eq_some_iff.mp h
  obtain ⟨_, -, h⟩ := Option.bind_eq_some_iff.mp h
  obtain ⟨month, -, h⟩ := Option.bind_eq_some_iff.mp h
  obtain ⟨_, -, h⟩ := Option.bind_eq_some_iff.mp h
  obtain ⟨⟨day, cs⟩, -, h⟩ := Option.bind_eq_some_iff.mp h
  cases cs with
  | nil => cases h
  | cons mark cs =>
      dsimp only at h
      split at h
      · obtain ⟨_, -, h⟩ := Option.bind_eq_some_iff.mp h
        obtain ⟨hour, -, h⟩ := Option.bind_eq_some_iff.mp h
        obtain ⟨_, -, h⟩ := Option.bind_eq_some_iff.mp h
        obtain ⟨minute, -, h⟩ := Option.bind_eq_some_iff.mp h
        obtain ⟨_, -, h⟩ := Option.bind_eq_some_iff.mp h
        obtain ⟨second, -, h⟩ := Option.bind_eq_some_iff.mp h
        obtain ⟨fraction, hfraction, h⟩ := Option.bind_eq_some_iff.mp h
        obtain ⟨offset, hoffset, h⟩ := Option.bind_eq_some_iff.mp h
        obtain ⟨-, h⟩ := Option.ite_none_right_eq_some.mp h
        exact isReadable_of_instantOf? (readFraction_lt hfraction) (readOffset_mod hoffset) h
      · cases h

/-- Round trip of the reader: an instant that `read?` returned has a `format` that `read?` reads,
and the instant that it reads has the same `format`. -/
theorem read?_format_of_read? {text : String} {t : Instant} (h : read? text = some t) :
    ∃ t', read? t.format = some t' ∧ t'.format = t.format :=
  ⟨t.whole, read?_format (isReadable_of_read? h), t.format_whole⟩

/-- A leap second at an offset of `+05:30` is a leap second in the text of `format`, too. -/
example : (read? "2016-12-31T23:59:60.25+05:30").map Instant.format
    = some "2016-12-31T18:29:60Z" := by
  decide +kernel

end Time
end ClusterGraph
