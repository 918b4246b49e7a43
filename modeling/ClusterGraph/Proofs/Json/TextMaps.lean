import ClusterGraph.Proofs.Dict.Bindings
import ClusterGraph.Projection.Selection

/-!
# ClusterGraph.Proofs.Json.TextMaps

**A map of texts is read back as it was written, whatever is in the texts.**

Selectors and labels are compared across the store: one side has a map at hand, the other side
has the text in which it was stored. So reading has to give back every text, with its quotes,
backslashes and controls (`Json.readText_escapeChar`), and every map of them, the empty one
included (`parseTextMap?_storedTextMap`). No two maps have one text then (`storedTextMap_inj`), and
what a selector selects is a matter of the two maps alone (`selects_storedTextMap_iff`).

The readers of nested values count down. A map of texts takes one count for each of its entries,
and there are more characters than entries (`Json.length_le_separated_printFields`).
-/

namespace ClusterGraph
namespace Json

/-! ## Texts -/

theorem hexUnit?_hexDigit {n : Nat} (h : n < 0x20) :
    hexUnit? '0' '0' (hexDigit (n / 16)) (hexDigit (n % 16)) = some n := by
  have hall : ∀ n < 0x20,
      hexUnit? '0' '0' (hexDigit (n / 16)) (hexDigit (n % 16)) = some n := by
    decide
  exact hall n h

/-- An escape `\u` that is no surrogate is read by `readText` as the character that it names. -/
theorem readText_unit {a b c d : Char} {n : Nat} (hunit : hexUnit? a b c d = some n)
    (hsmall : n < 0xd800) (rest : List Char) :
    readText ('\\' :: 'u' :: a :: b :: c :: d :: rest)
      = prepend (Char.ofNat n) (readText rest) := by
  have hleading : isLeading n = false := by simp [isLeading]; omega
  have htrailing : isTrailing n = false := by simp [isTrailing]; omega
  rw [readText.eq_def]
  split
  case h_3 heq =>
    simp only [List.cons.injEq, true_and] at heq
    obtain ⟨rfl, rfl, rfl, rfl, rfl⟩ := heq
    simp [hunit, hleading, htrailing]
  case h_4 heq =>
    simp only [List.cons.injEq, true_and] at heq
    obtain ⟨rfl, rfl, rfl, rfl, rfl⟩ := heq
    simp [hunit, hleading, htrailing]
  -- The other shapes are not those of an escape by four digits.
  case h_5 hne heq =>
    cases heq
    exact absurd rfl (hne a b c d rest)
  all_goals grind

/-- Reading with `readText` what `escapeChar` wrote of a character gives that character first. -/
theorem readText_escapeChar (c : Char) (rest : List Char) :
    readText (escapeChar c ++ rest) = prepend c (readText rest) := by
  have hofNat : ∀ n, c.toNat = n → c = Char.ofNat n := by
    rintro _ rfl
    exact (Char.ofNat_toNat c).symm
  unfold escapeChar
  split
  · subst_vars
    simp [readText, letterEscape?]
  split
  · subst_vars
    simp [readText, letterEscape?]
  split
  · rename_i h
    rw [hofNat _ h]
    simp [readText, letterEscape?]
  split
  · rename_i h
    rw [hofNat _ h]
    simp [readText, letterEscape?]
  split
  · subst_vars
    simp [readText, letterEscape?]
  split
  · subst_vars
    simp [readText, letterEscape?]
  split
  · subst_vars
    simp [readText, letterEscape?]
  split
  · rename_i hcontrol
    simp only [List.cons_append, List.nil_append]
    rw [readText_unit (hexUnit?_hexDigit hcontrol) (by omega), ← hofNat _ rfl]
  · rename_i hquote hslash _ _ _ _ _ hcontrol
    simp only [List.cons_append, List.nil_append]
    rw [readText.eq_def]
    split
    case h_1 heq => cases heq
    case h_2 heq => exact absurd (List.cons.inj heq).1 hquote
    case h_8 heq =>
      obtain ⟨rfl, rfl⟩ := List.cons.inj heq
      rw [if_neg hcontrol]
    -- The other shapes start with a backslash.
    all_goals
      rename_i heq
      exact absurd (List.cons.inj heq).1 hslash

/-- Reading with `readText` what `escapeChar` wrote of all characters of a text gives the text, up
to the closing quote. -/
theorem readText_flatMap_escapeChar (s rest : List Char) :
    readText (s.flatMap escapeChar ++ '"' :: rest) = .ok (s, rest) := by
  induction s with
  | nil => simp [readText]
  | cons c s ih =>
      rw [List.flatMap_cons, List.append_assoc, readText_escapeChar, ih]
      rfl

theorem skipSpace_cons {c : Char} (h : isSpace c = false) (cs : List Char) :
    skipSpace (c :: cs) = c :: cs := by
  simp [skipSpace, h]

theorem printText_append (s rest : List Char) :
    printText s ++ rest = '"' :: (s.flatMap escapeChar ++ '"' :: rest) := by
  simp [printText]

theorem readValue_printText (fuel : Nat) (s rest : List Char) :
    readValue (fuel + 1) (printText s ++ rest) = .ok (.text (String.ofList s), rest) := by
  rw [printText_append, readValue, skipSpace_cons (by decide)]
  simp [readText_flatMap_escapeChar, Except.map]

/-! ## Fields -/

section Fields

variable (fuel : Nat) (key value : String) (rest : List Char)

/-- One step of `readFields`: a field whose value is a text, and the closing brace after it. -/
theorem readFields_last :
    readFields (fuel + 2) (printText key.toList ++ ':' :: (printText value.toList ++ '}' :: rest))
      = .ok ([(key, .text value)], rest) := by
  rw [printText_append key.toList, readFields, skipSpace_cons (by decide)]
  simp only [readText_flatMap_escapeChar, bind, Except.bind]
  rw [skipSpace_cons (by decide)]
  simp only [readValue_printText, String.ofList_toList]
  rw [skipSpace_cons (by decide)]
  rfl

/-- One step of `readFields`: a field whose value is a text, and other fields after it. -/
theorem readFields_cons {fields : List (String × Json)} {more : List Char}
    (h : readFields (fuel + 1) more = .ok (fields, rest)) :
    readFields (fuel + 2) (printText key.toList ++ ':' :: (printText value.toList ++ ',' :: more))
      = .ok ((key, .text value) :: fields, rest) := by
  rw [printText_append key.toList, readFields, skipSpace_cons (by decide)]
  simp only [readText_flatMap_escapeChar, bind, Except.bind]
  rw [skipSpace_cons (by decide)]
  simp only [readValue_printText, String.ofList_toList]
  rw [skipSpace_cons (by decide)]
  simp only [h]

end Fields

/-! ## Maps -/

/-- Reading with `readFields` what `printFields` wrote of texts gives their entries in order. -/
theorem readFields_printFields (entries : List (String × String)) (rest : List Char) :
    ∀ {fuel : Nat}, entries.length < fuel → entries ≠ [] →
      readFields fuel
          (separated (print.printFields (entries.map fun e => (e.1, Json.text e.2)))
            ++ '}' :: rest)
        = .ok (entries.map fun e => (e.1, Json.text e.2), rest) := by
  induction entries with
  | nil => exact fun _ h => absurd rfl h
  | cons entry more ih =>
      intro fuel hfuel _
      obtain ⟨key, value⟩ := entry
      rw [List.length_cons] at hfuel
      obtain ⟨fuel, rfl⟩ : ∃ n, fuel = n + 2 := ⟨fuel - 2, by omega⟩
      cases more with
      | nil =>
          simp only [List.map_cons, List.map_nil, print.printFields, separated_singleton, print,
            List.append_assoc, List.cons_append]
          exact readFields_last fuel key value rest
      | cons next more =>
          have hmore := @ih (fuel + 1) (by omega) (by simp)
          simp only [List.map_cons, print.printFields, separated_cons_cons, print,
            List.append_assoc, List.cons_append] at hmore ⊢
          exact readFields_cons fuel key value rest hmore

/-- The text that `printFields` writes has at least as many characters as there are entries, so this
is enough fuel for `readFields`. -/
theorem length_le_separated_printFields (entries : List (String × Json)) :
    entries.length ≤ (separated (print.printFields entries)).length := by
  induction entries with
  | nil => exact Nat.zero_le _
  | cons entry more ih =>
      cases more with
      | nil => simp [print.printFields, printText]
      | cons next more =>
          simp only [print.printFields, separated_cons_cons, List.length_append,
            List.length_cons] at ih ⊢
          omega

/-- Reading with `parseFields?` the text of a map gives the fields that `print` wrote, in their
order. -/
theorem parseFields?_compact_textMap (d : Dict String) :
    parseFields? (textMap d).compact = some (d.entries.map fun e => (e.1, text e.2)) := by
  let fields := d.entries.map fun e => (e.1, text e.2)
  have hprint : (textMap d).print = '{' :: (separated (print.printFields fields) ++ ['}']) := by
    simp [fields, textMap, print, Dict.map]
  have hlength : d.entries.length
      < 2 * ((separated (print.printFields fields) ++ ['}']).length + 1) + 1 := by
    have h := length_le_separated_printFields fields
    rw [List.length_map] at h
    rw [List.length_append]
    omega
  unfold parseFields?
  rw [← String.length_toList, toList_compact, hprint, skipSpace_cons (by decide)]
  cases hentries : d.entries with
  | nil =>
      simp only [fields, hentries]
      rfl
  | cons entry more =>
      have hfields := readFields_printFields d.entries [] hlength (by simp [hentries])
      -- A field starts with the quote of its key, so it is not the end of the object.
      obtain ⟨cs, hcs⟩ : ∃ cs, separated (print.printFields fields) ++ ['}'] = '"' :: cs := by
        simp only [fields, hentries]
        cases more <;> simp [print.printFields, printText]
      rw [hcs] at hfields ⊢
      rw [List.length_cons] at hfields
      simp only [@skipSpace_cons '"' (by decide), ← hentries]
      simp [hfields, skipSpace]

/-- Each field whose value is a text is read by `textField?` as that text. -/
theorem mapM_textField? (entries : List (String × String)) :
    (entries.map fun e => (e.1, text e.2)).mapM textField? = some entries := by
  induction entries with
  | nil => rfl
  | cons entry rest ih =>
      rw [List.map_cons, List.mapM_cons, ih]
      rfl

end Json

/-- Reading with `parseTextMap?` what `storedTextMap` wrote of an ordered map gives the map. -/
theorem parseTextMap?_storedTextMap {d : Dict String} (hd : d.Ordered) :
    Json.parseTextMap? (storedTextMap d) = some d := by
  unfold Json.parseTextMap? storedTextMap
  rw [Json.parseFields?_compact_textMap, Option.bind_some, Json.mapM_textField?, Option.map_some,
    hd.ofList_entries]

/-- On ordered maps `storedTextMap` is injective. -/
theorem storedTextMap_inj {a b : Dict String} (ha : a.Ordered) (hb : b.Ordered)
    (h : storedTextMap a = storedTextMap b) : a = b := by
  have hread := parseTextMap?_storedTextMap ha
  rw [h, parseTextMap?_storedTextMap hb] at hread
  exact (Option.some.inj hread).symm

/-- Where the labels of an object are ordered, `selects` holds of their stored text just if the
selector has entries, and each of them is found in the labels. -/
theorem selects_storedTextMap_iff {selector labels : Dict String} (hlabels : labels.Ordered) :
    selects selector (some (storedTextMap labels)) = true
      ↔ selector.entries ≠ []
        ∧ ∀ entry ∈ selector.entries, labels.find? entry.1 = some entry.2 := by
  simp [selects, parseTextMap?_storedTextMap hlabels, Dict.isEmpty]

/-- The same as `selects_storedTextMap_iff` for labels that may be missing, in which case nothing is
selected. -/
theorem selects_map_storedTextMap_iff {selector : Dict String} {labels? : Option (Dict String)}
    (hordered : ∀ labels, labels? = some labels → labels.Ordered) :
    selects selector (labels?.map storedTextMap) = true
      ↔ ∃ labels, labels? = some labels ∧ selector.entries ≠ []
        ∧ ∀ entry ∈ selector.entries, labels.find? entry.1 = some entry.2 := by
  cases labels? with
  | none => simp
  | some labels => simp [selects_storedTextMap_iff (hordered labels rfl)]

/-- Maps of texts are stored faithfully. The property that `stored?` makes of an ordered map `d` is
a text; `storedSelector?` reads `d` from it; `stored?` makes another property of every other ordered
map; and a selector `selects` it just if the selector has entries, and all of them are entries of
`d`. -/
theorem stored_maps_faithful {d : Dict String} (hd : d.Ordered) :
    ∃ text, (Json.textMap d).stored? = some (.text text)
      ∧ storedSelector? (some (.text text)) = some d
      ∧ (∀ other : Dict String, other.Ordered → other ≠ d →
          (Json.textMap other).stored? ≠ some (.text text))
      ∧ ∀ selector : Dict String, selects selector (some text) = true
          ↔ selector.entries ≠ [] ∧ selector.entries ⊆ d.entries := by
  refine ⟨storedTextMap d, rfl, parseTextMap?_storedTextMap hd, ?_, ?_⟩
  · intro other hother hne hstored
    have htext : storedTextMap other = storedTextMap d := by
      simpa [Json.textMap, Json.stored?, storedTextMap] using hstored
    exact hne (storedTextMap_inj hother hd htext)
  · intro selector
    rw [selects_storedTextMap_iff hd]
    simp only [hd.find?_eq_some_iff, List.subset_def]

/-- A map with an empty key and an empty value, quotes, backslashes, control characters and letters
that are not ASCII. -/
def strangeLabels : Dict String :=
  Dict.ofList [("", "\"\\"), ("app", "\x01\x7f\n"), ("gr\u00f6\u00dfe", ""), ("a\"b", "\u2028")]

theorem stored_maps_faithful_strange :
    strangeLabels.Ordered ∧ ∃ text, (Json.textMap strangeLabels).stored? = some (.text text)
      ∧ storedSelector? (some (.text text)) = some strangeLabels
      ∧ (Json.textMap .empty).stored? ≠ some (.text text)
      ∧ selects ⟨[("", "\"\\")]⟩ (some text) = true
      ∧ selects ⟨[("", "\"")]⟩ (some text) = false
      ∧ selects .empty (some text) = false := by
  have hordered : strangeLabels.Ordered := Dict.ordered_ofList _
  obtain ⟨text, hstored, hread, hapart, hselects⟩ := stored_maps_faithful hordered
  refine ⟨hordered, text, hstored, hread, hapart .empty Dict.ordered_empty (by decide), ?_, ?_, ?_⟩
  · exact (hselects _).mpr (by decide)
  · exact Bool.eq_false_iff.mpr (mt (hselects _).mp (by decide))
  · exact Bool.eq_false_iff.mpr (mt (hselects _).mp (by decide))

end ClusterGraph
