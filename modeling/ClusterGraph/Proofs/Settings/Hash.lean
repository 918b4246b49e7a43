import ClusterGraph.Instance.Commands
import ClusterGraph.Settings.Basic

/-!
# ClusterGraph.Proofs.Settings.Hash

**An instance goes by the hash that it is given, unless an empty variable hides it.**

A hash can be given in two places, and an empty one is none. So there are two orders of doing
things: to take the first place that says anything and then see whether it is empty, or to pass
over empty ones and then take the first. The settings do the former (`Settings.configuredHash?`),
what is given is the latter (`Settings.givenHash?`), and the two part where the variable is empty
and the file is not (`Settings.HidesHash`). There the hash of the file is lost: another one is made
up at each start, and the commands that need a configured instance are refused
(`Settings.hash_followed`).
-/

namespace ClusterGraph
namespace Settings

variable {env : Variables} {f : SettingsFile} {madeUp : String} {s : Settings}

/-! ## What is given -/

/-- The text, if it is there and not empty. -/
def nonEmpty? (text : Option String) : Option String :=
  text.filter fun t => !t.isEmpty

/-- The hash that the user gives: `INSTANCE_HASH` if that is `nonEmpty?`, or else
`cluster.instanceHash` of the file if that is. -/
def givenHash? (env : Variables) (f : SettingsFile) : Option String :=
  (nonEmpty? (env.find? "INSTANCE_HASH")).or (nonEmpty? f.cluster.instanceHash)

/-- The variable `INSTANCE_HASH` is there but empty, and the file has a `cluster.instanceHash` that
is not. -/
def HidesHash (env : Variables) (f : SettingsFile) : Prop :=
  env.find? "INSTANCE_HASH" = some "" ∧ nonEmpty? f.cluster.instanceHash ≠ none

instance (env : Variables) (f : SettingsFile) : Decidable (HidesHash env f) :=
  inferInstanceAs (Decidable (_ ∧ _))

/-- The settings go by the hash `given`, or by `madeUp` if it is `none`. They are `isGenerated` in
the second case only, and `requireConfigured` passes in the first. -/
structure GoesBy (s : Settings) (given : Option String) (madeUp : String) : Prop where
  generated : s.isGenerated = true ↔ given = none
  hash : s.instanceHash = given.getD madeUp
  passes : given ≠ none → Command.requireConfigured s.isGenerated = .ok ()

theorem nonEmpty?_some_of_ne {t : String} (h : t ≠ "") : nonEmpty? (some t) = some t := by
  simp [nonEmpty?, Option.filter, h]

theorem configuredHash?_of_hidesHash (h : HidesHash env f) : configuredHash? env f = none := by
  unfold configuredHash?
  rw [h.1]
  rfl

/-- Unless the variable `HidesHash`, `configuredHash?` and `givenHash?` are the same. -/
theorem configuredHash?_of_not_hidesHash (h : ¬HidesHash env f) :
    configuredHash? env f = givenHash? env f := by
  unfold configuredHash? givenHash?
  cases hvariable : env.find? "INSTANCE_HASH" with
  | none => rfl
  | some t =>
      by_cases ht : t = ""
      · have hfile : nonEmpty? f.cluster.instanceHash = none :=
          Decidable.byContradiction fun hgiven => h ⟨by rw [hvariable, ht], hgiven⟩
        rw [ht, hfile]
        rfl
      · rw [nonEmpty?_some_of_ne ht]
        exact nonEmpty?_some_of_ne ht

theorem givenHash?_of_hidesHash (h : HidesHash env f) : givenHash? env f ≠ none := by
  unfold givenHash?
  rw [h.1]
  exact h.2

/-! ## What is settled -/

/-- If `CLUSTER_NAME`, or else the name in the file, is not blank, `resolve` returns settings. -/
theorem exists_resolve
    (h : Text.isBlankText ((env.find? "CLUSTER_NAME").getD f.cluster.name) = false) :
    ∃ s, resolve env f madeUp = .ok s := by
  unfold resolve
  dsimp only
  rw [h]
  exact ⟨_, rfl⟩

/-- Inversion of `resolve`: the name of the cluster is not blank, and the `identity` consists of it
and of `configuredHash?`, or `madeUp` where that is `none`. -/
theorem identity_of_resolve (h : resolve env f madeUp = .ok s) :
    Text.isBlankText s.cluster = false
      ∧ s.identity = ⟨(env.find? "CLUSTER_NAME").getD f.cluster.name,
        (configuredHash? env f).getD madeUp⟩ := by
  unfold resolve at h
  dsimp only at h
  split at h
  · cases h
  · rename_i hnamed
    cases h
    exact ⟨Bool.eq_false_iff.mpr hnamed, rfl⟩

/-- Settings that `resolve` returns go by the hash that `configuredHash?` finds. -/
theorem goesBy_of_resolve (h : resolve env f madeUp = .ok s) :
    s.GoesBy (configuredHash? env f) madeUp := by
  unfold resolve at h
  dsimp only at h
  split at h
  · cases h
  · cases h
    refine ⟨Option.isNone_iff_eq_none, rfl, fun hgiven => ?_⟩
    have hgenerated : (configuredHash? env f).isNone = false :=
      Bool.eq_false_iff.mpr (hgiven ∘ Option.isNone_iff_eq_none.mp)
    show Command.requireConfigured (configuredHash? env f).isNone = .ok ()
    rw [hgenerated]
    rfl

/-- Inversion of `load`: there is a `file` that was read, and the settings are those that `resolve`
makes of it. -/
theorem exists_file_of_load {path : Option String} {textOf : String → Option String}
    (h : load path textOf env madeUp = .ok s) :
    ∃ f, file path textOf = .ok f ∧ resolve env f madeUp = .ok s := by
  unfold load at h
  cases hfile : file path textOf with
  | error e =>
      rw [hfile] at h
      cases h
  | ok f =>
      rw [hfile] at h
      exact ⟨f, rfl, h⟩

/-- Settings that `load` returns go by `givenHash?` of the variables and the file, unless the
variable `HidesHash`. If it does, they go by `madeUp`, and `requireConfigured` fails with
`.instanceNotConfigured`. -/
theorem hash_followed {path : Option String} {textOf : String → Option String}
    (h : load path textOf env madeUp = .ok s) :
    ∃ f, file path textOf = .ok f
      ∧ (s.GoesBy (givenHash? env f) madeUp ↔ ¬HidesHash env f)
      ∧ (HidesHash env f → s.GoesBy none madeUp
        ∧ Command.requireConfigured s.isGenerated = .error .instanceNotConfigured) := by
  obtain ⟨f, hfile, hresolve⟩ := exists_file_of_load h
  have hsettled := goesBy_of_resolve hresolve
  have hmadeUp : HidesHash env f → s.GoesBy none madeUp := by
    intro hhides
    rwa [configuredHash?_of_hidesHash hhides] at hsettled
  refine ⟨f, hfile, ⟨fun hgiven hhides => ?_, fun hshown => ?_⟩, fun hhides => ?_⟩
  · have hgenerated := (hmadeUp hhides).generated.mpr rfl
    exact givenHash?_of_hidesHash hhides (hgiven.generated.mp hgenerated)
  · rwa [configuredHash?_of_not_hidesHash hshown] at hsettled
  · have hgenerated := (hmadeUp hhides).generated.mpr rfl
    exact ⟨hmadeUp hhides, by rw [hgenerated]; rfl⟩

/-- A settings file that has the name `shop` and the hash `blue`. -/
def blueShop : SettingsFile :=
  { cluster := ⟨"shop", some "blue"⟩ }

/-- The text of `blueShop`, under every path. -/
def textOfBlueShop (_path : String) : Option String :=
  some "cluster:\n  name: shop\n  instance_hash: blue\n"

theorem file_blueShop (path : Option String) : file path textOfBlueShop = .ok blueShop := by
  have hparsed : SettingsFile.parse? "cluster:\n  name: shop\n  instance_hash: blue\n"
      = some blueShop := by
    decide +kernel
  show Except.ok (Option.getD (SettingsFile.parse? _) {}) = _
  rw [hparsed]
  rfl

/-- An environment in which `INSTANCE_HASH` is `hash`, and nothing else is set. -/
def environmentWithHash (hash : String) : Variables :=
  Dict.ofList [("INSTANCE_HASH", hash)]

theorem load_blueShop (path : Option String) (hash : String) :
    ∃ s, load path textOfBlueShop (environmentWithHash hash) "red" = .ok s := by
  have hunnamed : (environmentWithHash hash).find? "CLUSTER_NAME" = none := by
    simp [environmentWithHash, Dict.ofList, Dict.insert, Dict.insertEntry, Dict.find?, Dict.empty]
  have hname : Text.isBlankText (((environmentWithHash hash).find? "CLUSTER_NAME").getD
      blueShop.cluster.name) = false := by
    rw [hunnamed]
    decide
  obtain ⟨s, hresolve⟩ : ∃ s, resolve (environmentWithHash hash) blueShop "red" = .ok s :=
    exists_resolve hname
  refine ⟨s, ?_⟩
  unfold load
  rw [file_blueShop]
  exact hresolve

/-- Instance of `hash_followed`: with `INSTANCE_HASH` set to `green`, the settings go by `green`. -/
theorem hash_followed_green :
    ∃ s, load none textOfBlueShop (environmentWithHash "green") "red" = .ok s
      ∧ givenHash? (environmentWithHash "green") blueShop = some "green"
      ∧ s.GoesBy (some "green") "red" := by
  obtain ⟨s, hload⟩ := load_blueShop none "green"
  obtain ⟨f, hfile, hgoes, -⟩ := hash_followed hload
  cases (file_blueShop none).symm.trans hfile
  have hshown : ¬HidesHash (environmentWithHash "green") blueShop := by decide
  exact ⟨s, hload, rfl, hgoes.mpr hshown⟩

/-- Counterexample: with `INSTANCE_HASH` set to the empty text, the settings go by the hash that was
made up, and not by `blue`, the `givenHash?`. -/
theorem not_hash_followed :
    ¬∀ (path : Option String) (textOf : String → Option String) (env : Variables)
      (madeUp : String) (s : Settings) (f : SettingsFile),
      load path textOf env madeUp = .ok s → file path textOf = .ok f →
        s.GoesBy (givenHash? env f) madeUp := by
  intro h
  obtain ⟨s, hload⟩ := load_blueShop none ""
  obtain ⟨f, hfile, hresolve⟩ := exists_file_of_load hload
  cases (file_blueShop none).symm.trans hfile
  have hhides : HidesHash (environmentWithHash "") blueShop := by decide
  have hmadeUp := goesBy_of_resolve hresolve
  rw [configuredHash?_of_hidesHash hhides] at hmadeUp
  have hgoes := h none textOfBlueShop (environmentWithHash "") "red" s blueShop hload hfile
  exact givenHash?_of_hidesHash hhides (hgoes.generated.mp (hmadeUp.generated.mpr rfl))

end Settings
end ClusterGraph
