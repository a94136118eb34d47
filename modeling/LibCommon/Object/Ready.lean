import LibCommon.Unstructured
import Mathlib.Data.List.Basic
/-!
# Is the owner ready?

`IsOwnerServiceReady` lets a dependent controller proceed once its controlling owner is
ready. The first owner reference with `Controller` set names the owner; it is fetched by
group, version and kind, in the child's namespace. A child without a controller, or whose
controller is gone, may proceed; a malformed `apiVersion` and a failed fetch other than
not-found are errors. A fetched owner is ready when it carries a `Ready` condition with
status `True` and has observed its current generation, and never an error.

`OwnerReady` states that last condition on `Value.get?`, and `isOwnerServiceReady_spec` is
the whole decision, for every child and every outcome of the fetch.
-/

namespace LibCommon

namespace Object

open Unstructured

/-- The client's `Get` of an unstructured object: the object, or the API error. -/
abbrev Getter := GroupVersionKind → NamespacedName → Except GoError Unstructured.Object

/-- The loop over `status.conditions`: a map whose `type` is `"Ready"` and whose `status` is
`"True"` ends it. Other elements are skipped; a `type` or `status` that `NestedString` does
not find reads as `""`. -/
def hasReadyCondition : List Value → Bool
  | [] => false
  | c :: conditions =>
    match c with
    | .object condition =>
      if (nestedString condition ["type"]).getD "" = "Ready" ∧
          (nestedString condition ["status"]).getD "" = "True" then true
      else hasReadyCondition conditions
    | _ => hasReadyCondition conditions

/-- `IsOwnerServiceReady` from the fetched owner on, where every return has a nil error:
the conditions, the `Ready` condition, `generation`, `observedGeneration`, and whether the
last two agree. -/
def ownerServiceReady (owner : Unstructured.Object) : Bool :=
  (nestedSlice owner ["status", "conditions"]).andThen fun conditions =>
    hasReadyCondition conditions &&
      (nestedInt64 owner ["metadata", "generation"]).andThen fun generation =>
        (nestedInt64 owner ["status", "observedGeneration"]).andThen fun observedGeneration =>
          observedGeneration == generation

/-- `IsOwnerServiceReady`, with the client's `Get` as `get`. The logging is left out. -/
def isOwnerServiceReady (get : Getter) (obj : ObjectMeta) : Bool × Option GoError :=
  match controllerOf obj.ownerReferences with
  | none => (true, none)
  | some ownerRef =>
    match parseGroupVersion ownerRef.apiVersion with
    | .error err => (false, some err)
    | .ok gv =>
      match get ⟨gv.group, gv.version, ownerRef.kind⟩ ⟨obj.«namespace», ownerRef.name⟩ with
      | .error err => if isNotFound err then (true, none) else (false, some err)
      | .ok owner => (ownerServiceReady owner, none)

/-! ## Readiness on the owner document -/

/-- A ready owner: a map among its `status.conditions` has `type` `"Ready"` and `status`
`"True"`, and `metadata.generation` and `status.observedGeneration` are one `int64`. -/
def OwnerReady (owner : Unstructured.Object) : Prop :=
  (∃ conditions, (Value.object owner).get? ["status", "conditions"] = some (.slice conditions) ∧
    ∃ c ∈ conditions, c.get? ["type"] = some (.string "Ready") ∧
      c.get? ["status"] = some (.string "True")) ∧
  ∃ g, (Value.object owner).get? ["metadata", "generation"] = some (.int64 g) ∧
    (Value.object owner).get? ["status", "observedGeneration"] = some (.int64 g)

/-- A string field `NestedString` reads as a non-empty `s` holds the string `s`. -/
theorem getD_nestedString_eq (m : Unstructured.Object) (f s : String) (hs : s ≠ "") :
    (nestedString m [f]).getD "" = s ↔ (Value.object m).get? [f] = some (.string s) := by
  rw [← nestedString_found]
  cases h : nestedString m [f] <;> simp [Lookup.getD, Ne.symm hs]

/-- **The conditions loop finds a `Ready` condition wherever it stands.** -/
theorem hasReadyCondition_iff (conditions : List Value) :
    hasReadyCondition conditions = true ↔
      ∃ c ∈ conditions, c.get? ["type"] = some (.string "Ready") ∧
        c.get? ["status"] = some (.string "True") := by
  induction conditions with
  | nil => exact ⟨nofun, fun ⟨_, h, _⟩ => nomatch h⟩
  | cons c cs ih =>
    rw [List.exists_mem_cons_iff, ← ih]
    cases c with
    | object m =>
      rw [← getD_nestedString_eq m "type" "Ready" (by decide),
        ← getD_nestedString_eq m "status" "True" (by decide)]
      simp only [hasReadyCondition]
      split_ifs with h <;> simp [h]
    | _ => simp only [hasReadyCondition, Value.get?, reduceCtorEq, false_and, false_or]

/-- **A fetched owner is ready exactly when `OwnerReady` says so.** -/
theorem ownerServiceReady_iff (owner : Unstructured.Object) :
    ownerServiceReady owner = true ↔ OwnerReady owner := by
  simp only [ownerServiceReady, OwnerReady, Lookup.andThen_eq_true, nestedSlice_found,
    nestedInt64_found, Bool.and_eq_true, hasReadyCondition_iff, beq_iff_eq]
  constructor
  · rintro ⟨cs, hcs, hready, g, hg, o, ho, rfl⟩
    exact ⟨⟨cs, hcs, hready⟩, _, hg, ho⟩
  · rintro ⟨⟨cs, hcs, hready⟩, g, hg, ho⟩
    exact ⟨cs, hcs, hready, g, hg, g, ho, rfl⟩

/-- **What `IsOwnerServiceReady` returns**, for every child and every outcome of the fetch.
No controller reference: ready. A controller reference whose `apiVersion` does not parse:
not ready, with the parse error. Otherwise the owner is fetched by its group, version and
kind and by its name in the child's namespace; not found: ready; any other error: not
ready, with that error; an owner: ready exactly when `OwnerReady`, without an error. -/
theorem isOwnerServiceReady_spec (get : Getter) (obj : ObjectMeta) :
    match obj.ownerReferences.find? fun r => r.controller == some true with
    | none => isOwnerServiceReady get obj = (true, none)
    | some c =>
      match parseGroupVersion c.apiVersion with
      | .error err => isOwnerServiceReady get obj = (false, some err)
      | .ok gv =>
        match get ⟨gv.group, gv.version, c.kind⟩ ⟨obj.«namespace», c.name⟩ with
        | .error err =>
          isOwnerServiceReady get obj = if isNotFound err then (true, none) else (false, some err)
        | .ok owner =>
          (isOwnerServiceReady get obj).2 = none ∧
            ((isOwnerServiceReady get obj).1 = true ↔ OwnerReady owner) := by
  rw [← controllerOf_eq_find]
  rcases hc : controllerOf obj.ownerReferences with _ | c
  · simp [isOwnerServiceReady, hc]
  · rcases hp : parseGroupVersion c.apiVersion with err | gv
    · simp [isOwnerServiceReady, hc, hp]
    · rcases hg : get ⟨gv.group, gv.version, c.kind⟩ ⟨obj.«namespace», c.name⟩ with err | owner
      · simp [isOwnerServiceReady, hc, hp, hg]
      · simp [isOwnerServiceReady, hc, hp, hg, ownerServiceReady_iff]

end Object

end LibCommon
