import LibCommon.Field
/-!
# Deprecated-field validators

The functions of `webhook/deprecated.go`, as they compute. `validateDeprecatedFieldConflict`
compares a deprecated field with its replacement, `validateDeprecatedFieldChange` an old
deprecated value with a new one; the `…Ptr` variants dereference first, reading nil as
`""`. The list validators run one of them (CREATE) or both (UPDATE) over a list of
mappings, with the loop body (`createStep`, `updateStep`) appending to accumulators.

Each pairwise function gets its outcome lemma here (`validateDeprecatedFieldConflict_warning`,
`…_error`, `validateDeprecatedFieldChange_kindAt`); the list validators are read off them
in `Webhook.Contributions`.
-/

namespace LibCommon

namespace Webhook

open Field

/-! ## The pairwise validators -/

/-- `ValidateDeprecatedFieldConflict`: a warning when only the deprecated field is set, or
both are set to one value and `allowBothIfSame` holds; an `Invalid` error when both are set
to different values, or to one value and `allowBothIfSame` does not hold. -/
def validateDeprecatedFieldConflict (deprecatedValue newValue : String)
    (deprecatedFieldPath newFieldPath : Path) (allowBothIfSame : Bool) :
    String × Option Field.Error :=
  let dp := quote deprecatedFieldPath.toString
  let np := quote newFieldPath.toString
  if deprecatedValue = "" ∧ newValue = "" then ("", none)
  else if deprecatedValue ≠ "" ∧ newValue = "" then
    ("field " ++ dp ++ " is deprecated, please use " ++ np ++ " instead", none)
  else if deprecatedValue = "" ∧ newValue ≠ "" then ("", none)
  else if deprecatedValue = newValue then
    if allowBothIfSame then
      ("both " ++ dp ++ " and " ++ np ++ " are set with the same value. Please migrate to using only "
        ++ np ++ " and clear " ++ dp, none)
    else
      ("", some (invalid deprecatedFieldPath deprecatedValue
        ("cannot set both deprecated field " ++ dp ++ " and new field " ++ np ++ ". Use " ++ np
          ++ " only")))
  else
    ("", some (invalid deprecatedFieldPath deprecatedValue
      ("cannot set both deprecated field " ++ dp ++ " and new field " ++ np
        ++ " with different values (deprecated: " ++ quote deprecatedValue ++ ", new: "
        ++ quote newValue ++ "). Use " ++ np ++ " only")))

/-- `ValidateDeprecatedFieldChange`: `Forbidden` when the deprecated field changes to a
non-empty value. -/
def validateDeprecatedFieldChange (oldValue newValue : String)
    (deprecatedFieldPath newFieldPath : Path) : Option Field.Error :=
  if oldValue = newValue then none
  else if newValue = "" then none
  else
    let dp := quote deprecatedFieldPath.toString
    let np := quote newFieldPath.toString
    some (forbidden deprecatedFieldPath
      ("field " ++ dp ++ " is deprecated, use " ++ np ++ " instead. To migrate, first set " ++ np
        ++ ", then clear this field"))

/-- Dereference a `*string`, treating nil as the empty string. -/
def deref (v : Option String) : String := v.getD ""

@[simp] theorem deref_none : deref none = "" := rfl

@[simp] theorem deref_some (s : String) : deref (some s) = s := rfl

/-- `ValidateDeprecatedFieldConflictPtr`. -/
def validateDeprecatedFieldConflictPtr (deprecatedValue newValue : Option String)
    (deprecatedFieldPath newFieldPath : Path) (allowBothIfSame : Bool) :
    String × Option Field.Error :=
  validateDeprecatedFieldConflict (deref deprecatedValue) (deref newValue) deprecatedFieldPath
    newFieldPath allowBothIfSame

/-- `ValidateDeprecatedFieldChangePtr`. -/
def validateDeprecatedFieldChangePtr (oldValue newValue : Option String)
    (deprecatedFieldPath newFieldPath : Path) : Option Field.Error :=
  validateDeprecatedFieldChange (deref oldValue) (deref newValue) deprecatedFieldPath newFieldPath

/-! ## The list validators -/

/-- A `DeprecatedField`: a mapping from a deprecated field to its replacement, with the
two current values. -/
structure DeprecatedField where
  deprecatedFieldName : String
  newFieldPath : List String
  deprecatedValue : Option String
  newValue : Option String
  deriving DecidableEq, Repr

/-- A `DeprecatedFieldUpdate`: the mapping, with the old and new deprecated value and the
new field's value. -/
structure DeprecatedFieldUpdate where
  deprecatedFieldName : String
  newFieldPath : List String
  oldDeprecatedValue : Option String
  newDeprecatedValue : Option String
  newValue : Option String
  deriving DecidableEq, Repr

/-- The path of the new field: `basePath`, with `Child` applied per segment. -/
def newFieldPathOf (basePath : Path) (segments : List String) : Path :=
  segments.foldl Path.child basePath

/-- The body of `ValidateDeprecatedFieldsCreate`'s loop, on its accumulator. The error
of the conflict check is discarded. -/
def createStep (basePath : Path) (allWarnings : List String) (df : DeprecatedField) :
    List String :=
  let deprecatedPath := basePath.child df.deprecatedFieldName
  let newPath := newFieldPathOf basePath df.newFieldPath
  let warning := (validateDeprecatedFieldConflictPtr df.deprecatedValue df.newValue
    deprecatedPath newPath true).1
  if warning ≠ "" then allWarnings ++ [warning] else allWarnings

/-- `ValidateDeprecatedFieldsCreate`. -/
def validateDeprecatedFieldsCreate (deprecatedFields : List DeprecatedField)
    (basePath : Path) : List String :=
  deprecatedFields.foldl (createStep basePath) []

/-- The body of `ValidateDeprecatedFieldsUpdate`'s loop, on its two accumulators: the
conflict check on the new values, then the change check from the old deprecated value. -/
def updateStep (basePath : Path) (acc : List String × ErrorList) (df : DeprecatedFieldUpdate) :
    List String × ErrorList :=
  let deprecatedPath := basePath.child df.deprecatedFieldName
  let newPath := newFieldPathOf basePath df.newFieldPath
  let conflict := validateDeprecatedFieldConflictPtr df.newDeprecatedValue df.newValue
    deprecatedPath newPath true
  let allWarnings := if conflict.1 ≠ "" then acc.1 ++ [conflict.1] else acc.1
  let allErrors := acc.2 ++ conflict.2.toList
  let change := validateDeprecatedFieldChangePtr df.oldDeprecatedValue df.newDeprecatedValue
    deprecatedPath newPath
  (allWarnings, allErrors ++ change.toList)

/-- `ValidateDeprecatedFieldsUpdate`. -/
def validateDeprecatedFieldsUpdate (deprecatedFields : List DeprecatedFieldUpdate)
    (basePath : Path) : List String × ErrorList :=
  deprecatedFields.foldl (updateStep basePath) ([], [])

/-! ## What the pairwise validators decide -/

@[simp] theorem string_append_eq_empty {s t : String} : s ++ t = "" ↔ s = "" ∧ t = "" := by
  simp only [String.ext_iff, String.data_append]
  exact List.append_eq_nil

/-- **The conflict check warns** exactly when the deprecated field is set and the new one
is empty, or equal to it with `allowBothIfSame`. -/
theorem validateDeprecatedFieldConflict_warning (d n : String) (dp np : Path) (allow : Bool) :
    (validateDeprecatedFieldConflict d n dp np allow).1 ≠ "" ↔
      d ≠ "" ∧ (n = "" ∨ n = d ∧ allow = true) := by
  dsimp only [validateDeprecatedFieldConflict]
  split_ifs <;> simp_all
  exact fun h => (‹¬d = n› h.symm).elim

/-- **The conflict check rejects** exactly when both fields are set, to different values
or to one value without `allowBothIfSame`: an `Invalid` error, at the deprecated field. -/
theorem validateDeprecatedFieldConflict_error (d n : String) (dp np : Path) (allow : Bool) :
    (validateDeprecatedFieldConflict d n dp np allow).2.map Field.Error.kindAt =
      if d ≠ "" ∧ n ≠ "" ∧ (d ≠ n ∨ allow = false) then some (.invalid, dp.toString)
      else none := by
  dsimp only [validateDeprecatedFieldConflict]
  split_ifs <;> simp_all

/-- **The change check forbids** a change to a non-empty value: a `Forbidden` error, at the
deprecated field. Clearing, and keeping the value, pass. -/
theorem validateDeprecatedFieldChange_kindAt (o d : String) (dp np : Path) :
    (validateDeprecatedFieldChange o d dp np).map Field.Error.kindAt =
      if d ≠ o ∧ d ≠ "" then some (.forbidden, dp.toString) else none := by
  dsimp only [validateDeprecatedFieldChange]
  split_ifs <;> simp_all

end Webhook

end LibCommon
