import LibCommon.Webhook.Contributions
import Mathlib.Data.List.OfFn
/-!
# The validators as an admission policy

An operator calls `ValidateDeprecatedFieldsCreate` when an object is created and
`ValidateDeprecatedFieldsUpdate` on every later update; an update goes through when its
error list is empty. This file looks at the two as one policy over an object's life.

CREATE reports no errors at all: it discards the conflict check's error, which
`ValidateDeprecatedFieldConflict` is documented to return for creation too, and which UPDATE
reports. So a spec whose deprecated and new values differ is created, and then the UPDATE
that changes nothing is rejected (`validateDeprecatedFieldsCreate_vs_noopUpdate`); only an
update that clears the deprecated field or resolves the conflict goes through. Along a run of admitted updates a
deprecated field is only ever kept or cleared, never set again
(`admitted_run_keeps_deprecated`).
-/

namespace LibCommon

namespace Webhook

open Field

variable (basePath : Path)

/-! ## CREATE against the update that changes nothing -/

/-- A mapping whose deprecated and new values are different non-empty strings. -/
def DeprecatedField.Conflicting (df : DeprecatedField) : Prop :=
  df.deprecatedValue.getD "" ≠ "" ∧ df.newValue.getD "" ≠ "" ∧ df.deprecatedValue.getD "" ≠ df.newValue.getD ""

instance (df : DeprecatedField) : Decidable df.Conflicting :=
  inferInstanceAs (Decidable (_ ∧ _ ∧ _))

theorem updateStep_noopUpdate_kindAt (df : DeprecatedField) :
    (updateStep basePath ([], []) (noopUpdate df)).2.map Error.kindAt =
      if df.Conflicting then [(.invalid, (basePath.child df.deprecatedFieldName).toString)]
      else [] := by
  rw [updateStep_nil_kindAt]
  simp [noopUpdate, DeprecatedField.Conflicting]

/-- The errors of the unchanged UPDATE of a list: one `Invalid` per conflicting entry. -/
theorem noopUpdate_errors_kindAt (dfs : List DeprecatedField) :
    (validateDeprecatedFieldsUpdate (dfs.map noopUpdate) basePath).2.map Error.kindAt =
      (dfs.filter fun df => decide df.Conflicting).map
        (fun df => (.invalid, (basePath.child df.deprecatedFieldName).toString)) := by
  simp only [validateDeprecatedFieldsUpdate, foldl_updateStep, List.nil_append, List.flatMap_map]
  induction dfs with
  | nil => rfl
  | cons df dfs ih =>
    rw [List.flatMap_cons, List.map_append, updateStep_noopUpdate_kindAt, ih, List.filter_cons]
    split_ifs <;> simp_all

/-- **CREATE and the unchanged UPDATE agree on warnings, and part on conflicts.** The
UPDATE of a spec to itself warns as CREATE does, and reports one `Invalid` error per
conflicting entry, which CREATE discards: the two paths admit the same specs exactly
when no entry conflicts. -/
theorem validateDeprecatedFieldsCreate_vs_noopUpdate (dfs : List DeprecatedField) :
    (validateDeprecatedFieldsUpdate (dfs.map noopUpdate) basePath).1 =
        validateDeprecatedFieldsCreate dfs basePath ∧
      (validateDeprecatedFieldsUpdate (dfs.map noopUpdate) basePath).2.map Error.kindAt =
        (dfs.filter fun df => decide df.Conflicting).map
          (fun df => (.invalid, (basePath.child df.deprecatedFieldName).toString)) ∧
      ((validateDeprecatedFieldsUpdate (dfs.map noopUpdate) basePath).2 = [] ↔
        ∀ df ∈ dfs, ¬ df.Conflicting) := by
  refine ⟨?_, noopUpdate_errors_kindAt basePath dfs, ?_⟩
  · simp only [validateDeprecatedFieldsUpdate, validateDeprecatedFieldsCreate, foldl_updateStep,
      foldl_createStep, List.nil_append, List.flatMap_map]
    rfl
  · rw [← List.map_eq_nil_iff, noopUpdate_errors_kindAt, List.map_eq_nil_iff, List.filter_eq_nil_iff]
    simp

/-- The failing input: a spec whose deprecated and new cluster names differ. CREATE lets it
through without a warning, and its unchanged UPDATE is rejected. -/
theorem noopUpdate_rejects_created_spec :
    validateDeprecatedFieldsCreate
        [⟨"rabbitMqClusterName", ["messagingBus", "cluster"], some "cluster-1", some "cluster-2"⟩]
        (newPath "spec" []) = [] ∧
      (validateDeprecatedFieldsUpdate
        [noopUpdate ⟨"rabbitMqClusterName", ["messagingBus", "cluster"], some "cluster-1",
          some "cluster-2"⟩] (newPath "spec" [])).2 ≠ [] :=
  ⟨by decide, fun h => (validateDeprecatedFieldsCreate_vs_noopUpdate (newPath "spec" [])
    [⟨"rabbitMqClusterName", ["messagingBus", "cluster"], some "cluster-1", some "cluster-2"⟩]).2.2.1
      h _ (List.mem_singleton_self _) (by decide)⟩

/-! ## Runs of admitted updates -/

/-- The mapping of one deprecated field, without its values. -/
structure FieldMapping where
  deprecatedFieldName : String
  newFieldPath : List String
  deriving DecidableEq, Repr

/-- A spec, as the values at `K` mapped fields: the deprecated value, then the new one. -/
abbrev SpecValues (K : ℕ) := Fin K → Option String × Option String

variable {K : ℕ} (ms : Fin K → FieldMapping)

/-- The UPDATE request an operator builds from an old and a new spec. -/
def updateOf (old new : SpecValues K) : List DeprecatedFieldUpdate :=
  List.ofFn fun i => ⟨(ms i).deprecatedFieldName, (ms i).newFieldPath, (old i).1, (new i).1, (new i).2⟩

/-- An update from `old` to `new` goes through: its error list is empty. -/
def Admits (old new : SpecValues K) : Prop :=
  (validateDeprecatedFieldsUpdate (updateOf ms old new) basePath).2 = []

instance (old new : SpecValues K) : Decidable (Admits basePath ms old new) :=
  inferInstanceAs (Decidable (_ = _))

/-- Two optional strings that read alike, not as `""`, are the same pointer value. -/
theorem eq_of_getD_eq {a b : Option String} (h : a.getD "" = b.getD "") (ha : a.getD "" ≠ "") :
    a = b := by
  cases a <;> cases b <;> simp_all

/-- **One admitted update.** Every deprecated value is cleared or kept, and one still set
agrees with a set new value. -/
theorem admits_step {old new : SpecValues K} (h : Admits basePath ms old new) (i : Fin K) :
    ((new i).1.getD "" = "" ∨ (new i).1 = (old i).1) ∧
      ((new i).1.getD "" ≠ "" → (new i).2.getD "" ≠ "" → (new i).1 = (new i).2) := by
  have hi := (validateDeprecatedFieldsUpdate_errors_eq_nil basePath _).1 h _
    ((List.mem_ofFn _ _).2 ⟨i, rfl⟩)
  obtain ⟨hkeep | hclear, hconf⟩ := hi
  · by_cases hd : (new i).1.getD "" = ""
    · exact ⟨.inl hd, fun h => absurd hd h⟩
    · exact ⟨.inr (eq_of_getD_eq hkeep hd), fun hd hn =>
        eq_of_getD_eq (by_contra fun hne => hconf ⟨hd, hn, hne⟩) hd⟩
  · exact ⟨.inl hclear, fun h => absurd hclear h⟩

section Run

variable {basePath ms}
variable {s : ℕ → SpecValues K} {k : ℕ} (hrun : ∀ j < k, Admits basePath ms (s j) (s (j + 1)))
include hrun

/-- Along an admitted run, a deprecated value is cleared or still the first one. -/
theorem run_kept_or_cleared (i : Fin K) :
    ∀ j ≤ k, (s j i).1.getD "" = "" ∨ (s j i).1 = (s 0 i).1 := by
  intro j
  induction j with
  | zero => exact fun _ => .inr rfl
  | succ j ih =>
    intro hj
    rcases (admits_step basePath ms (hrun j (by omega)) i).1 with h | h
    · exact .inl h
    · rw [h]
      exact ih (by omega)

/-- Along an admitted run, a cleared deprecated value stays cleared. -/
theorem run_cleared_stays (i : Fin K) {j : ℕ} (hj : (s j i).1.getD "" = "") :
    ∀ l, j ≤ l → l ≤ k → (s l i).1.getD "" = "" := by
  intro l hjl
  induction l, hjl using Nat.le_induction with
  | base => exact fun _ => hj
  | succ l _ ih =>
    intro hl
    rcases (admits_step basePath ms (hrun l (by omega)) i).1 with h | h
    · exact h
    · rw [h]
      exact ih (by omega)

/-- **A deprecated field can only be kept or cleared.** Along any run of updates that
`ValidateDeprecatedFieldsUpdate` admits, from the first update on, each deprecated value is
cleared or still the initial one, stays cleared once cleared, and, when set beside a set
new value, equals it. -/
theorem admitted_run_keeps_deprecated (i : Fin K) (j : ℕ) (hj : 1 ≤ j) (hjk : j ≤ k) :
    ((s j i).1.getD "" = "" ∨ (s j i).1 = (s 0 i).1) ∧
      ((s j i).1.getD "" = "" → ∀ l, j ≤ l → l ≤ k → (s l i).1.getD "" = "") ∧
      ((s j i).1.getD "" ≠ "" → (s j i).2.getD "" ≠ "" → (s j i).1 = (s j i).2) := by
  obtain ⟨j, rfl⟩ : ∃ j', j = j' + 1 := ⟨j - 1, by omega⟩
  exact ⟨run_kept_or_cleared hrun i _ hjk, fun h => run_cleared_stays hrun i h,
    (admits_step basePath ms (hrun j (by omega)) i).2⟩

end Run

/-- One mapping: the RabbitMQ cluster name, moved to `messagingBus.cluster`. -/
def clusterNameMapping : Fin 1 → FieldMapping :=
  fun _ => ⟨"rabbitMqClusterName", ["messagingBus", "cluster"]⟩

/-- A migration: the deprecated cluster name is copied to the new field, then cleared. -/
def migrationRun : ℕ → SpecValues 1 := fun j _ =>
  if j = 0 then (some "cluster-1", none)
  else if j = 1 then (some "cluster-1", some "cluster-1") else (none, some "cluster-1")

theorem admitted_run_keeps_deprecated_migration :
    (∀ j < 2, Admits (newPath "spec" []) clusterNameMapping (migrationRun j) (migrationRun (j + 1))) ∧
      1 ≤ 1 ∧ 1 ≤ 2 ∧
      (((migrationRun 1 0).1.getD "" = "" ∨ (migrationRun 1 0).1 = (migrationRun 0 0).1) ∧
        ((migrationRun 1 0).1.getD "" = "" → ∀ l, 1 ≤ l → l ≤ 2 → (migrationRun l 0).1.getD "" = "") ∧
        ((migrationRun 1 0).1.getD "" ≠ "" → (migrationRun 1 0).2.getD "" ≠ "" →
          (migrationRun 1 0).1 = (migrationRun 1 0).2)) := by
  have hrun : ∀ j < 2, Admits (newPath "spec" []) clusterNameMapping (migrationRun j)
      (migrationRun (j + 1)) := by decide
  exact ⟨hrun, le_rfl, by decide, admitted_run_keeps_deprecated hrun 0 1 le_rfl (by decide)⟩

end Webhook

end LibCommon
