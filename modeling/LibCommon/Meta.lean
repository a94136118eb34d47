import Mathlib.Data.List.Count
/-!
# Object metadata, API errors and group versions

The part of `apimachinery` the `object` and `clusterrole` packages read: a Go `error` as
`k8s_errors.IsNotFound` and `IsConflict` classify it, `metav1.OwnerReference` and the
metadata of a `client.Object`, `GetControllerOf`, and `schema.ParseGroupVersion` with
the `GroupVersion.String` it inverts (`parseGroupVersion_toString`).
-/

namespace LibCommon

/-! ## Errors -/

/-- A Go `error`, as the callers here inspect it: its API status reason (`""` for an error
that is not an API status) and its message. Wrapping with `%w` keeps the reason. -/
structure GoError where
  reason : String
  message : String
  deriving DecidableEq, Repr

/-- `fmt.Errorf` with no wrapped error. -/
def errorf (message : String) : GoError := ⟨"", message⟩

/-- `fmt.Errorf(context + "%w", err)`. -/
def GoError.wrap (context : String) (err : GoError) : GoError :=
  ⟨err.reason, context ++ err.message⟩

/-- `k8s_errors.IsNotFound`. -/
def isNotFound (err : GoError) : Bool := err.reason = "NotFound"

/-- `k8s_errors.IsConflict`. -/
def isConflict (err : GoError) : Bool := err.reason = "Conflict"

@[simp] theorem isNotFound_wrap (context : String) (err : GoError) :
    isNotFound (err.wrap context) = isNotFound err := rfl

@[simp] theorem isConflict_wrap (context : String) (err : GoError) :
    isConflict (err.wrap context) = isConflict err := rfl

/-! ## Owner references -/

/-- A `metav1.OwnerReference`. `Controller` and `BlockOwnerDeletion` are `*bool`. -/
structure OwnerReference where
  apiVersion : String
  kind : String
  name : String
  uid : String
  controller : Option Bool
  blockOwnerDeletion : Option Bool
  deriving DecidableEq, Repr

/-- A `map[string]string`, as an association list. -/
abbrev StringMap := List (String × String)

/-- The keys of a `map[string]string`. -/
def StringMap.keys (m : StringMap) : List String := m.map Prod.fst

/-- The `metav1.ObjectMeta` fields the `object` and `clusterrole` packages read and write. -/
structure ObjectMeta where
  name : String
  «namespace» : String
  uid : String
  labels : StringMap
  annotations : StringMap
  ownerReferences : List OwnerReference
  deriving DecidableEq, Repr

/-- A `types.NamespacedName`. -/
structure NamespacedName where
  «namespace» : String
  name : String
  deriving DecidableEq, Repr

/-- The first owner reference whose `Controller` is set and true: `metav1.GetControllerOf`,
and the loop `IsOwnerServiceReady` opens with. -/
def controllerOf : List OwnerReference → Option OwnerReference
  | [] => none
  | owner :: owners => if owner.controller = some true then some owner else controllerOf owners

theorem controllerOf_eq_find (refs : List OwnerReference) :
    controllerOf refs = refs.find? fun r => r.controller == some true := by
  induction refs with
  | nil => rfl
  | cons r rs ih => by_cases h : r.controller = some true <;> simp [controllerOf, h, ih]

/-! ## Group versions -/

/-- A `schema.GroupVersion`. -/
structure GroupVersion where
  group : String
  version : String
  deriving DecidableEq, Repr

/-- A `schema.GroupVersionKind`. -/
structure GroupVersionKind where
  group : String
  version : String
  kind : String
  deriving DecidableEq, Repr

/-- `schema.ParseGroupVersion`: `""` and `"/"` are the empty group version; otherwise the
string holds at most one `/`, before which stands the group. -/
def parseGroupVersion (gv : String) : Except GoError GroupVersion :=
  if gv = "" ∨ gv = "/" then .ok ⟨"", ""⟩
  else match gv.toList.count '/' with
    | 0 => .ok ⟨"", gv⟩
    | 1 => .ok ⟨⟨gv.toList.takeWhile (· ≠ '/')⟩, ⟨(gv.toList.dropWhile (· ≠ '/')).drop 1⟩⟩
    | _ => .error (errorf ("unexpected GroupVersion string: " ++ gv))

/-- `(GroupVersion).String`. -/
def GroupVersion.toString (gv : GroupVersion) : String :=
  if gv.group ≠ "" then gv.group ++ "/" ++ gv.version else gv.version

/-- `(GroupVersionKind).GroupVersion`. -/
def GroupVersionKind.groupVersion (gvk : GroupVersionKind) : GroupVersion :=
  ⟨gvk.group, gvk.version⟩

theorem toList_slash (g v : String) : (g ++ "/" ++ v).toList = g.toList ++ '/' :: v.toList := by
  simp [String.toList, String.data_append]

/-- **Parsing inverts printing**, for a group and a version without a `/`. -/
theorem parseGroupVersion_toString (gv : GroupVersion) (hg : '/' ∉ gv.group.toList)
    (hv : '/' ∉ gv.version.toList) : parseGroupVersion gv.toString = .ok gv := by
  obtain ⟨g, v⟩ := gv
  have hcv : v.toList.count '/' = 0 := List.count_eq_zero.mpr hv
  unfold GroupVersion.toString parseGroupVersion
  by_cases he : g = ""
  · subst he
    have hslash : v ≠ "/" := fun h => hv (by simp [h])
    by_cases hve : v = ""
    · simp [hve]
    · simp only [ne_eq, not_true_eq_false, ↓reduceIte, hve, hslash, or_self, hcv]
  · have hne : ¬ (g ++ "/" ++ v = "" ∨ g ++ "/" ++ v = "/") := by
      rintro (h | h) <;> have hl := congrArg String.toList h <;>
        simp [toList_slash, List.append_eq_cons_iff] at hl
      exact he (String.ext hl.1)
    have hp : ∀ c ∈ g.toList, decide (c ≠ '/') = true := fun c hc =>
      decide_eq_true fun h : c = '/' => hg (h ▸ hc)
    have hc : (g ++ "/" ++ v).toList.count '/' = 1 := by
      rw [toList_slash, List.count_append, List.count_cons_self, List.count_eq_zero.mpr hg, hcv]
    rw [if_pos he, if_neg hne, hc, toList_slash, List.takeWhile_append_of_pos hp,
      List.dropWhile_append_of_pos hp]
    simp

example : parseGroupVersion (GroupVersion.toString ⟨"apps", "v1"⟩) = .ok ⟨"apps", "v1"⟩ :=
  parseGroupVersion_toString _ (by decide) (by decide)

end LibCommon
