import ClusterGraph.Json.Printer
import ClusterGraph.Json.Parser

/-!
# ClusterGraph.Graph.Property

**The scalar values a node can hold, and how any JSON value is brought into that form.**

A property is a truth value, a signed 64-bit integer, a floating-point number or a text.
Absent values are left out, nested values are stored as their compact JSON text, and an
unsigned integer beyond the signed range is stored as the nearest floating-point number.

Design points:

* a comparison with text holds for text only: the integer `3` does not equal `"3"`;
* two properties are the same scalar when the database would say so, which for
  floating-point numbers means equal as numbers.
-/

namespace ClusterGraph

/-- Scalar that a node can store. -/
inductive PropertyValue where
  | boolean (b : Bool)
  | integer (i : Int)
  | float (x : Binary64)
  | text (s : String)
deriving DecidableEq

/-- The properties of a node by their keys. -/
abbrev Properties := Dict PropertyValue

namespace PropertyValue

/-- The text of a `text`, and `none` for any other value. -/
def text? : PropertyValue → Option String
  | text s => some s
  | _ => none

/-- Whether the value is the text `s`. -/
def matchesText (v : PropertyValue) (s : String) : Bool :=
  v.text? = some s

/-- Equality of scalars, as statements compare them: values of different types are never the same,
and floats are compared as numbers (`Binary64.sameNumber`), not by their bits. -/
def sameScalar : PropertyValue → PropertyValue → Bool
  | boolean a, boolean b => a = b
  | integer a, integer b => a = b
  | float a, float b => a.sameNumber b
  | text a, text b => a = b
  | _, _ => false

/-- The value in words, without quotes around texts. -/
def display : PropertyValue → String
  | boolean b => if b then "true" else "false"
  | integer i => toString i
  | float x => x.plainText
  | text s => s

@[simp] theorem text?_text (s : String) : (text s).text? = some s :=
  rfl

@[simp] theorem matchesText_text (s t : String) : (text s).matchesText t = decide (s = t) := by
  simp [matchesText]

theorem sameScalar_refl (v : PropertyValue) : v.sameScalar v = true := by
  cases v <;> simp [sameScalar, Binary64.sameNumber_refl]

/-- Values that are the same scalar are the same as the same values. -/
theorem sameScalar_congr {v w : PropertyValue} (h : v.sameScalar w = true) (x : PropertyValue) :
    x.sameScalar v = x.sameScalar w := by
  cases v <;> cases w <;> simp only [sameScalar, decide_eq_true_eq, Bool.false_eq_true] at h
  case float a b =>
    cases x with
    | float c => exact Binary64.sameNumber_congr h c
    | _ => rfl
  all_goals rw [h]

theorem sameScalar_comm (v w : PropertyValue) : v.sameScalar w = w.sameScalar v := by
  have hflip : ∀ {a b : PropertyValue}, a.sameScalar b = true → b.sameScalar a = true :=
    fun {a b} h => (sameScalar_congr h b).trans (sameScalar_refl b)
  exact Bool.eq_iff_iff.mpr ⟨hflip, hflip⟩

end PropertyValue

/-! ### The stored form of a JSON value -/

/-- The stored form of a number. An integer that does not fit 64 bits with a sign is stored as a
float. -/
def Number.stored? : Number → Option PropertyValue
  | .integer i =>
      if -0x8000000000000000 ≤ i ∧ i < 0x8000000000000000 then some (.integer i)
      else (Binary64.ofInt i).map PropertyValue.float
  | .float x => some (.float x)

/-- The stored form of a value; `null` has none. -/
def Json.stored? : Json → Option PropertyValue
  | .null => none
  | .bool b => some (.boolean b)
  | .number n => n.stored?
  | .text s => some (.text s)
  | .array items => some (.text (Json.array items).compact)
  | .object fields => some (.text (Json.object fields).compact)

/-- The stored form of properties: entries without a stored form (`Json.stored?`) are left out. -/
def storedProperties (fields : Dict Json) : Properties :=
  fields.filterMap Json.stored?

@[simp] theorem stored?_null : Json.null.stored? = none :=
  rfl

@[simp] theorem stored?_text (s : String) : (Json.text s).stored? = some (.text s) :=
  rfl

end ClusterGraph
