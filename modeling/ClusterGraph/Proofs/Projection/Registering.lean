import ClusterGraph.Projection.Owners
import ClusterGraph.Proofs.Dict.Bindings

/-!
# ClusterGraph.Proofs.Projection.Registering

**What can be registered are names, and what was turned down leaves no trace.**

Requests to register a kind come in any number and order, and with any texts. Whether one is
accepted does not depend on what is registered already (`Registration.request_cases`), so the kinds
in the end are those of the accepted requests (`OwnerKinds.reached_filter`), and all that is found
in them are names (`OwnerKinds.named_reached`).
-/

namespace ClusterGraph

/-! ## Names -/

/-- Letter of ASCII or underscore, as ranges of characters. -/
def IsNameStart (c : Char) : Prop :=
  ('A' ≤ c ∧ c ≤ 'Z') ∨ ('a' ≤ c ∧ c ≤ 'z') ∨ c = '_'

/-- The same, or a digit of ASCII. -/
def IsNamePart (c : Char) : Prop :=
  IsNameStart c ∨ ('0' ≤ c ∧ c ≤ '9')

/-- Name: a text that starts with an `IsNameStart` and goes on with `IsNamePart` characters. -/
def IsName (s : String) : Prop :=
  ∃ first rest, s.toList = first :: rest ∧ IsNameStart first ∧ ∀ c ∈ rest, IsNamePart c

theorem isIdentifierStart_iff {c : Char} : isIdentifierStart c = true ↔ IsNameStart c := by
  show (decide ('A' ≤ c ∧ c ≤ 'Z') || decide ('a' ≤ c) && decide (c ≤ 'z') || decide (c = '_'))
    = true ↔ _
  simp only [IsNameStart, Bool.or_eq_true, Bool.and_eq_true, decide_eq_true_eq, or_assoc]

theorem isIdentifierPart_iff {c : Char} : isIdentifierPart c = true ↔ IsNamePart c := by
  rw [IsNamePart, ← isIdentifierStart_iff]
  show (c.isAlpha || decide ('0' ≤ c) && decide (c ≤ '9') || decide (c = '_')) = true
    ↔ (c.isAlpha || decide (c = '_')) = true ∨ _
  simp only [Bool.or_eq_true, Bool.and_eq_true, decide_eq_true_eq]
  exact or_right_comm

/-- The check `isIdentifier` accepts exactly the texts that satisfy `IsName`. -/
theorem isIdentifier_iff {s : String} : isIdentifier s = true ↔ IsName s := by
  unfold isIdentifier IsName
  cases s.toList with
  | nil => simp
  | cons first rest =>
      simp only [Bool.and_eq_true, List.all_eq_true, isIdentifierStart_iff, isIdentifierPart_iff]
      constructor
      · intro h
        exact ⟨first, rest, rfl, h⟩
      · rintro ⟨_, _, heq, h⟩
        cases heq
        exact h

instance (s : String) : Decidable (IsName s) :=
  decidable_of_iff _ isIdentifier_iff

/-! ## Requests -/

/-- Request to register a kind: with its own name as label (`own`), or with another (`under`). -/
inductive Registration where
  | own (kind : String)
  | under (kind label : String)

namespace Registration

/-- The kind of a request. -/
def kind : Registration → String
  | own kind => kind
  | under kind _ => kind

/-- The label of a request. -/
def label : Registration → String
  | own kind => kind
  | under _ label => label

/-- Make the request: `register` or `registerAs`. -/
def request (r : OwnerKinds) : Registration → Except RegistrationError OwnerKinds
  | own kind => r.register kind
  | under kind label => r.registerAs kind label

/-- Whether kind and label are both identifiers. -/
def isAccepted (x : Registration) : Bool :=
  isIdentifier x.kind && isIdentifier x.label

theorem isAccepted_iff {x : Registration} :
    x.isAccepted = true ↔ IsName x.kind ∧ IsName x.label := by
  rw [isAccepted, Bool.and_eq_true, isIdentifier_iff, isIdentifier_iff]

/-- A request that `isAccepted` binds the kind to the label, replacing an older one; any other is an
error. -/
theorem request_cases (r : OwnerKinds) (x : Registration) :
    (x.isAccepted = true ∧ x.request r = .ok ⟨r.labels.insert x.kind x.label⟩)
      ∨ (x.isAccepted = false ∧ ∃ e, x.request r = .error e) := by
  have hrequest : x.request r = r.registerAs x.kind x.label := by cases x <;> rfl
  rw [hrequest, isAccepted, OwnerKinds.registerAs]
  cases isIdentifier x.kind with
  | false => exact .inr ⟨rfl, _, rfl⟩
  | true =>
      cases isIdentifier x.label with
      | false => exact .inr ⟨rfl, _, rfl⟩
      | true => exact .inl ⟨rfl, rfl⟩

end Registration

/-! ## Registered kinds -/

namespace OwnerKinds

/-- The registered kinds after a request; an error leaves them as they are. -/
def after (r : OwnerKinds) (x : Registration) : OwnerKinds :=
  match x.request r with
  | .ok r' => r'
  | .error _ => r

/-- The registered kinds after `requests`, none being registered before. -/
def reached (requests : List Registration) : OwnerKinds :=
  requests.foldl after empty

theorem reached_concat (requests : List Registration) (x : Registration) :
    reached (requests ++ [x]) = (reached requests).after x := by
  unfold reached
  rw [List.foldl_append]
  rfl

theorem after_of_isAccepted {x : Registration} (h : x.isAccepted = true) (r : OwnerKinds) :
    r.after x = ⟨r.labels.insert x.kind x.label⟩ := by
  rcases x.request_cases r with ⟨-, hrequest⟩ | ⟨hturned, -⟩
  · rw [after, hrequest]
  · rw [h] at hturned
    cases hturned

theorem after_of_not_isAccepted {x : Registration} (h : x.isAccepted = false) (r : OwnerKinds) :
    r.after x = r := by
  rcases x.request_cases r with ⟨haccepted, -⟩ | ⟨-, e, hrequest⟩
  · rw [h] at haccepted
    cases haccepted
  · rw [after, hrequest]

/-- Requests that are refused can be left out. -/
theorem reached_filter (requests : List Registration) :
    reached (requests.filter (·.isAccepted)) = reached requests := by
  unfold reached
  rw [List.foldl_filter]
  congr 1
  funext r x
  cases haccepted : x.isAccepted with
  | true => exact if_pos rfl
  | false => exact (after_of_not_isAccepted haccepted r).symm

/-- All kinds and labels that are registered satisfy `IsName`. -/
def Named (r : OwnerKinds) : Prop :=
  ∀ kind label, r.labelFor? kind = some label → IsName kind ∧ IsName label

theorem named_empty : empty.Named :=
  nofun

/-- Step lemma of `Named`: a request keeps it. -/
theorem Named.after {r : OwnerKinds} (hr : r.Named) (x : Registration) : (r.after x).Named := by
  cases haccepted : x.isAccepted with
  | false =>
      rw [after_of_not_isAccepted haccepted]
      exact hr
  | true =>
      intro kind label hlabel
      rw [after_of_isAccepted haccepted, labelFor?, Dict.find?_insert] at hlabel
      split at hlabel
      · rename_i hkind
        obtain ⟨hnamed, hlabelled⟩ := Registration.isAccepted_iff.mp haccepted
        cases hlabel
        exact ⟨hkind ▸ hnamed, hlabelled⟩
      · exact hr kind label hlabel

theorem Named.foldl_after {r : OwnerKinds} (hr : r.Named) (requests : List Registration) :
    (requests.foldl OwnerKinds.after r).Named := by
  induction requests generalizing r with
  | nil => exact hr
  | cons x rest ih => exact ih (hr.after x)

/-- Run lemma of `Named`: it holds after any requests. -/
theorem named_reached (requests : List Registration) : (reached requests).Named :=
  named_empty.foldl_after requests

end OwnerKinds
end ClusterGraph
