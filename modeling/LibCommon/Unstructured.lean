import LibCommon.Meta
/-!
# Unstructured objects and their nested accessors

An owner of any kind is fetched as an `unstructured.Unstructured`: a
`map[string]interface{}` tree with the leaf types JSON decodes into (integral numbers as
`int64`). The readiness check reads it through `NestedFieldNoCopy` and the typed accessors
built on it, which return a value, whether it was found, and an error.

Against them stands `Value.get?`, the plain reading of a path through maps. Every accessor
finds exactly what `get?` finds, at the type it asserts (`nestedFieldNoCopy_found`,
`nestedTyped_found`); a JSON `null` on the way, a missing key, a value that is not a map
and a value of the wrong type are all "not found" for `get?`.
-/

namespace LibCommon

namespace Unstructured

/-- A value of an unstructured object. A `map[string]interface{}` is an association list
whose first entry for a key is the key's value. -/
inductive Value where
  | null
  | bool (b : Bool)
  | int64 (i : BitVec 64)
  | float64 (bits : BitVec 64)
  | string (s : String)
  | slice (items : List Value)
  | object (fields : List (String × Value))
  deriving Repr

/-- A `map[string]interface{}`. -/
abbrev Object := List (String × Value)

/-- The value at a path, through maps only. -/
def Value.get? : Value → List String → Option Value
  | v, [] => some v
  | .object m, f :: fs => (m.lookup f).bind fun v => v.get? fs
  | _, _ :: _ => none

/-- The outcome of a nested accessor. Go returns a `(value, found, err)` triple, and only
three shapes of it occur: a value that was found, nothing found, and an error. -/
inductive Lookup (α : Type) where
  | found (a : α)
  | notFound
  | error (err : GoError)

/-- The value a Go caller reads out of the triple when it ignores `found` and `err`: the
zero value `d` unless something was found. -/
def Lookup.getD {α : Type} (l : Lookup α) (d : α) : α :=
  match l with
  | .found a => a
  | _ => d

/-- A check that stops with `false` unless the accessor found something: Go's
`if err != nil || !found { return false, nil }`, then the rest `k` of the check. -/
def Lookup.andThen {α : Type} (l : Lookup α) (k : α → Bool) : Bool :=
  match l with
  | .found a => k a
  | _ => false

@[simp] theorem Lookup.andThen_eq_true {α : Type} (l : Lookup α) (k : α → Bool) :
    l.andThen k = true ↔ ∃ a, l = .found a ∧ k a = true := by
  cases l <;> simp [Lookup.andThen]

/-- `jsonPath`: the fields, each after a dot. -/
def jsonPath (fields : List String) : String := String.join (fields.map ("." ++ ·))

/-- The accessor error at a path. The message also prints the offending value with `%v`
and `%T`; that part is not modelled. -/
def accessorError (fields : List String) (expected : String) : GoError :=
  errorf (jsonPath fields ++ " accessor error: expected " ++ expected)

/-- The loop of `NestedFieldNoCopy` from a value `val`, with `visited` the fields already
walked: a `nil` ends it with nothing found, a map steps into the field, anything else is
an error. -/
def nestedFieldAux (val : Value) (visited : List String) : List String → Lookup Value
  | [] => .found val
  | field :: fields =>
    match val with
    | .null => .notFound
    | .object m =>
      match m.lookup field with
      | some v => nestedFieldAux v (visited ++ [field]) fields
      | none => .notFound
    | _ => .error (accessorError (visited ++ [field]) "map[string]interface\x7b\x7d")

/-- `unstructured.NestedFieldNoCopy`. -/
def nestedFieldNoCopy (obj : Object) (fields : List String) : Lookup Value :=
  nestedFieldAux (.object obj) [] fields

/-- What `NestedSlice`, `NestedString` and `NestedInt64` share: the nested field, then the
type assertion `cast`, whose failure is an error. -/
def nestedTyped {α : Type} (cast : Value → Option α) (expected : String) (obj : Object)
    (fields : List String) : Lookup α :=
  match nestedFieldNoCopy obj fields with
  | .found v =>
    match cast v with
    | some a => .found a
    | none => .error (accessorError fields expected)
  | .notFound => .notFound
  | .error err => .error err

/-- The type assertion `val.([]interface{})`. -/
def Value.asSlice : Value → Option (List Value)
  | .slice items => some items
  | _ => none

/-- The type assertion `val.(string)`. -/
def Value.asString : Value → Option String
  | .string s => some s
  | _ => none

/-- The type assertion `val.(int64)`. -/
def Value.asInt64 : Value → Option (BitVec 64)
  | .int64 i => some i
  | _ => none

/-- `unstructured.NestedSlice`. -/
def nestedSlice (obj : Object) (fields : List String) : Lookup (List Value) :=
  nestedTyped Value.asSlice "[]interface\x7b\x7d" obj fields

/-- `unstructured.NestedString`. -/
def nestedString (obj : Object) (fields : List String) : Lookup String :=
  nestedTyped Value.asString "string" obj fields

/-- `unstructured.NestedInt64`. -/
def nestedInt64 (obj : Object) (fields : List String) : Lookup (BitVec 64) :=
  nestedTyped Value.asInt64 "int64" obj fields

/-! ## What the accessors find -/

theorem nestedFieldAux_found (val : Value) (visited fields : List String) (w : Value) :
    nestedFieldAux val visited fields = .found w ↔ val.get? fields = some w := by
  induction fields generalizing val visited with
  | nil => simp [nestedFieldAux, Value.get?]
  | cons f fs ih =>
    cases val with
    | object m =>
      simp only [nestedFieldAux, Value.get?]
      cases m.lookup f <;> simp [ih]
    | _ => simp [nestedFieldAux, Value.get?]

/-- **`NestedFieldNoCopy` finds what `get?` finds.** -/
theorem nestedFieldNoCopy_found (obj : Object) (fields : List String) (w : Value) :
    nestedFieldNoCopy obj fields = .found w ↔ (Value.object obj).get? fields = some w :=
  nestedFieldAux_found _ _ _ _

/-- **A typed accessor finds what `get?` finds, where the assertion holds.** -/
theorem nestedTyped_found {α : Type} (cast : Value → Option α) (expected : String)
    (obj : Object) (fields : List String) (a : α) :
    nestedTyped cast expected obj fields = .found a ↔
      ∃ v, (Value.object obj).get? fields = some v ∧ cast v = some a := by
  unfold nestedTyped
  split
  · rename_i v hv
    rw [nestedFieldNoCopy_found] at hv
    cases h : cast v <;> simp [hv, h]
  all_goals
    rename_i hv
    refine ⟨(fun h => nomatch h), fun ⟨v, hget, _⟩ => ?_⟩
    rw [← nestedFieldNoCopy_found, hv] at hget
    exact nomatch hget

@[simp] theorem Value.asSlice_eq_some (v : Value) (items : List Value) :
    v.asSlice = some items ↔ v = .slice items := by
  cases v <;> simp [Value.asSlice]

@[simp] theorem Value.asString_eq_some (v : Value) (s : String) :
    v.asString = some s ↔ v = .string s := by
  cases v <;> simp [Value.asString]

@[simp] theorem Value.asInt64_eq_some (v : Value) (i : BitVec 64) :
    v.asInt64 = some i ↔ v = .int64 i := by
  cases v <;> simp [Value.asInt64]

/-- An assertion that picks out one constructor: the accessor finds that constructor's
values, and nothing else. -/
theorem nestedTyped_found_ctor {α : Type} {cast : Value → Option α} {ctor : α → Value}
    (hcast : ∀ v a, cast v = some a ↔ v = ctor a) (expected : String) (obj : Object)
    (fields : List String) (a : α) :
    nestedTyped cast expected obj fields = .found a ↔
      (Value.object obj).get? fields = some (ctor a) := by
  simp [nestedTyped_found, hcast]

theorem nestedSlice_found (obj : Object) (fields : List String) (items : List Value) :
    nestedSlice obj fields = .found items ↔
      (Value.object obj).get? fields = some (.slice items) :=
  nestedTyped_found_ctor Value.asSlice_eq_some _ _ _ _

theorem nestedString_found (obj : Object) (fields : List String) (s : String) :
    nestedString obj fields = .found s ↔ (Value.object obj).get? fields = some (.string s) :=
  nestedTyped_found_ctor Value.asString_eq_some _ _ _ _

theorem nestedInt64_found (obj : Object) (fields : List String) (i : BitVec 64) :
    nestedInt64 obj fields = .found i ↔ (Value.object obj).get? fields = some (.int64 i) :=
  nestedTyped_found_ctor Value.asInt64_eq_some _ _ _ _

end Unstructured

end LibCommon
