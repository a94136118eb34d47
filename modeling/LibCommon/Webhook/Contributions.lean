import LibCommon.Webhook.Deprecated
/-!
# The list validators, entry by entry

`ValidateDeprecatedFieldsCreate` and `ValidateDeprecatedFieldsUpdate` only ever append to
their accumulators, so each returns the in-order concatenation of what every entry
contributes alone (`foldl_createStep`, `foldl_updateStep`). What one entry contributes is
read off the pairwise validators (`updateStep_nil_length`, `updateStep_nil_kindAt`), CREATE's
being UPDATE's warning half on the update that changes nothing (`createStep_eq_noopUpdate`).
An UPDATE passes exactly when every entry is `Admissible`.
-/

namespace LibCommon

namespace Webhook

open Field

variable (basePath : Path)

/-! ## The loops only append -/

theorem createStep_eq_append (acc : List String) (df : DeprecatedField) :
    createStep basePath acc df = acc ++ createStep basePath [] df := by
  dsimp only [createStep]
  split_ifs <;> simp

theorem updateStep_eq_append (acc : List String × ErrorList) (df : DeprecatedFieldUpdate) :
    updateStep basePath acc df =
      (acc.1 ++ (updateStep basePath ([], []) df).1, acc.2 ++ (updateStep basePath ([], []) df).2) := by
  dsimp only [updateStep]
  split_ifs <;> simp

theorem foldl_createStep (acc : List String) (dfs : List DeprecatedField) :
    dfs.foldl (createStep basePath) acc = acc ++ dfs.flatMap (createStep basePath []) := by
  induction dfs generalizing acc with
  | nil => simp
  | cons df dfs ih =>
    rw [List.foldl_cons, ih, createStep_eq_append, List.flatMap_cons, List.append_assoc]

theorem foldl_updateStep (acc : List String × ErrorList) (dfs : List DeprecatedFieldUpdate) :
    dfs.foldl (updateStep basePath) acc =
      (acc.1 ++ dfs.flatMap fun df => (updateStep basePath ([], []) df).1,
        acc.2 ++ dfs.flatMap fun df => (updateStep basePath ([], []) df).2) := by
  induction dfs generalizing acc with
  | nil => simp
  | cons df dfs ih =>
    rw [List.foldl_cons, ih, updateStep_eq_append]
    simp

@[simp] theorem validateDeprecatedFieldsCreate_singleton (df : DeprecatedField) :
    validateDeprecatedFieldsCreate [df] basePath = createStep basePath [] df := rfl

@[simp] theorem validateDeprecatedFieldsUpdate_singleton (df : DeprecatedFieldUpdate) :
    validateDeprecatedFieldsUpdate [df] basePath = updateStep basePath ([], []) df := rfl

/-! ## What one entry contributes -/

theorem option_toList_map {α β : Type} (f : α → β) (o : Option α) :
    o.toList.map f = (o.map f).toList := by
  cases o <;> rfl

/-- The warning of one UPDATE entry, from the conflict check on the new values. -/
theorem updateStep_nil_length (df : DeprecatedFieldUpdate) :
    (updateStep basePath ([], []) df).1.length =
      if df.newDeprecatedValue.getD "" ≠ "" ∧
        (df.newValue.getD "" = "" ∨ df.newValue.getD "" = df.newDeprecatedValue.getD "") then 1 else 0 := by
  have h := validateDeprecatedFieldConflict_warning (df.newDeprecatedValue.getD "")
    (df.newValue.getD "") (basePath.child df.deprecatedFieldName)
    (newFieldPathOf basePath df.newFieldPath) true
  simp only [and_true] at h
  unfold updateStep validateDeprecatedFieldConflictPtr deref
  split_ifs <;> simp_all

theorem updateStep_nil_ne_empty (df : DeprecatedFieldUpdate) :
    ∀ w ∈ (updateStep basePath ([], []) df).1, w ≠ "" := by
  dsimp only [updateStep]
  split_ifs <;> simp_all

/-- The UPDATE of a spec to itself: old and new deprecated value are the spec's one. -/
def noopUpdate (df : DeprecatedField) : DeprecatedFieldUpdate :=
  ⟨df.deprecatedFieldName, df.newFieldPath, df.deprecatedValue, df.deprecatedValue, df.newValue⟩

/-- CREATE's loop body is the warning half of UPDATE's, on the update that changes nothing. -/
theorem createStep_eq_noopUpdate (df : DeprecatedField) :
    createStep basePath [] df = (updateStep basePath ([], []) (noopUpdate df)).1 := rfl

/-- The warning of one CREATE entry: one exactly when the deprecated value is set and the
new one is empty or equal to it. -/
theorem createStep_nil_length (df : DeprecatedField) :
    (createStep basePath [] df).length =
      if df.deprecatedValue.getD "" ≠ "" ∧
        (df.newValue.getD "" = "" ∨ df.newValue.getD "" = df.deprecatedValue.getD "") then 1 else 0 :=
  updateStep_nil_length basePath (noopUpdate df)

/-- The errors of one UPDATE entry, in order: `Invalid` when the new values conflict, then
`Forbidden` when the deprecated value changes to a non-empty one; both at
`basePath.Child(DeprecatedFieldName)`. -/
theorem updateStep_nil_kindAt (df : DeprecatedFieldUpdate) :
    (updateStep basePath ([], []) df).2.map Error.kindAt =
      (if df.newDeprecatedValue.getD "" ≠ "" ∧ df.newValue.getD "" ≠ "" ∧
          df.newDeprecatedValue.getD "" ≠ df.newValue.getD "" then
        [(.invalid, (basePath.child df.deprecatedFieldName).toString)] else []) ++
      (if df.newDeprecatedValue.getD "" ≠ df.oldDeprecatedValue.getD "" ∧
          df.newDeprecatedValue.getD "" ≠ "" then
        [(.forbidden, (basePath.child df.deprecatedFieldName).toString)] else []) := by
  have hc := validateDeprecatedFieldConflict_error (df.newDeprecatedValue.getD "")
    (df.newValue.getD "") (basePath.child df.deprecatedFieldName)
    (newFieldPathOf basePath df.newFieldPath) true
  have hx := validateDeprecatedFieldChange_kindAt (df.oldDeprecatedValue.getD "")
    (df.newDeprecatedValue.getD "") (basePath.child df.deprecatedFieldName)
    (newFieldPathOf basePath df.newFieldPath)
  simp only [Bool.true_eq_false, or_false] at hc
  simp only [updateStep, validateDeprecatedFieldConflictPtr, validateDeprecatedFieldChangePtr, deref,
    List.nil_append, List.map_append, option_toList_map, hc, hx]
  split_ifs <;> rfl

/-! ## When an UPDATE passes -/

/-- An UPDATE entry the validator lets through: the deprecated value is kept or cleared,
and it does not conflict with the new field. -/
def DeprecatedFieldUpdate.Admissible (df : DeprecatedFieldUpdate) : Prop :=
  (df.newDeprecatedValue.getD "" = df.oldDeprecatedValue.getD "" ∨ df.newDeprecatedValue.getD "" = "") ∧
    ¬ (df.newDeprecatedValue.getD "" ≠ "" ∧ df.newValue.getD "" ≠ "" ∧
      df.newDeprecatedValue.getD "" ≠ df.newValue.getD "")

theorem updateStep_nil_errors_eq_nil (df : DeprecatedFieldUpdate) :
    (updateStep basePath ([], []) df).2 = [] ↔ df.Admissible := by
  rw [← List.map_eq_nil_iff, updateStep_nil_kindAt, DeprecatedFieldUpdate.Admissible]
  simp only [List.append_eq_nil, ite_eq_right_iff, List.cons_ne_nil, imp_false, not_and_or, not_not]
  exact and_comm

/-- **An UPDATE passes exactly when every entry is admissible.** -/
theorem validateDeprecatedFieldsUpdate_errors_eq_nil (dfs : List DeprecatedFieldUpdate) :
    (validateDeprecatedFieldsUpdate dfs basePath).2 = [] ↔ ∀ df ∈ dfs, df.Admissible := by
  simp only [validateDeprecatedFieldsUpdate, foldl_updateStep, List.nil_append,
    List.flatMap_eq_nil_iff, updateStep_nil_errors_eq_nil]

/-! ## The validators, entry by entry -/

/-- What one CREATE entry contributes: non-empty warnings, one exactly when the deprecated
value is set and the new value is empty or equal to it. -/
structure CreateContribution (df : DeprecatedField) (ws : List String) : Prop where
  ne_empty : ∀ w ∈ ws, w ≠ ""
  length_eq : ws.length =
    if df.deprecatedValue.getD "" ≠ "" ∧
      (df.newValue.getD "" = "" ∨ df.newValue.getD "" = df.deprecatedValue.getD "") then 1 else 0

/-- What one UPDATE entry contributes: the warning of the conflict check on the new values,
then an `Invalid` error for conflicting new values and a `Forbidden` one for a changed
deprecated value, both at `basePath.Child(DeprecatedFieldName)`. -/
structure UpdateContribution (df : DeprecatedFieldUpdate) (r : List String × ErrorList) :
    Prop where
  ne_empty : ∀ w ∈ r.1, w ≠ ""
  length_eq : r.1.length =
    if df.newDeprecatedValue.getD "" ≠ "" ∧
      (df.newValue.getD "" = "" ∨ df.newValue.getD "" = df.newDeprecatedValue.getD "") then 1 else 0
  kindAt_eq : r.2.map Error.kindAt =
    (if df.newDeprecatedValue.getD "" ≠ "" ∧ df.newValue.getD "" ≠ "" ∧
        df.newDeprecatedValue.getD "" ≠ df.newValue.getD "" then
      [(.invalid, (basePath.child df.deprecatedFieldName).toString)] else []) ++
    (if df.newDeprecatedValue.getD "" ≠ df.oldDeprecatedValue.getD "" ∧
        df.newDeprecatedValue.getD "" ≠ "" then
      [(.forbidden, (basePath.child df.deprecatedFieldName).toString)] else [])

/-- **Both list validators are their entries, in order.** Each returns the concatenation
of what the validator returns on every entry alone, and that contribution is as
`CreateContribution` and `UpdateContribution` say; an UPDATE passes exactly when every
entry is admissible. -/
theorem validateDeprecatedFields_entrywise (creates : List DeprecatedField)
    (updates : List DeprecatedFieldUpdate) :
    (validateDeprecatedFieldsCreate creates basePath =
        creates.flatMap (fun df => validateDeprecatedFieldsCreate [df] basePath) ∧
      ∀ df, CreateContribution df (validateDeprecatedFieldsCreate [df] basePath)) ∧
    (validateDeprecatedFieldsUpdate updates basePath =
        (updates.flatMap fun df => (validateDeprecatedFieldsUpdate [df] basePath).1,
          updates.flatMap fun df => (validateDeprecatedFieldsUpdate [df] basePath).2) ∧
      ∀ df, UpdateContribution basePath df (validateDeprecatedFieldsUpdate [df] basePath)) ∧
    ((validateDeprecatedFieldsUpdate updates basePath).2 = [] ↔
      ∀ df ∈ updates, df.Admissible) :=
  ⟨⟨by simp [validateDeprecatedFieldsCreate, foldl_createStep], fun df =>
      ⟨updateStep_nil_ne_empty basePath (noopUpdate df), createStep_nil_length basePath df⟩⟩,
    ⟨by simp [validateDeprecatedFieldsUpdate, foldl_updateStep], fun df =>
      ⟨updateStep_nil_ne_empty basePath df, updateStep_nil_length basePath df,
        updateStep_nil_kindAt basePath df⟩⟩,
    validateDeprecatedFieldsUpdate_errors_eq_nil basePath updates⟩

end Webhook

end LibCommon
