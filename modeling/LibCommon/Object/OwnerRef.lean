import LibCommon.Meta
/-!
# Owner references

`CheckOwnerRefExist` scans an owner-reference list for a UID. `EnsureOwnerRef` adds an
owner reference through `controllerutil.SetOwnerReference` and patches the object only
when that changed its metadata. `SetOwnerReference` and `SetControllerReference` (which
the `clusterrole` package calls) upsert a reference, matched by group, kind and name.

The results are what the `object` package promises: after the reference is set the owner's
UID is in the list (`checkOwnerRefExist_setOwnerReference`), and a second
`EnsureOwnerRef` for the same owner changes nothing and patches nothing
(`ensureOwnerRef_idempotent`).
-/

namespace LibCommon

namespace Object

/-! ## Finding an owner -/

/-- `CheckOwnerRefExist`: `slices.IndexFunc` for the UID, and whether it found one. -/
def checkOwnerRefExist (uid : String) (ownerRefs : List OwnerReference) : Bool :=
  match ownerRefs.findIdx? (·.uid == uid) with
  | some _ => true
  | none => false

/-- **`CheckOwnerRefExist` holds exactly when a reference carries the UID.** -/
theorem checkOwnerRefExist_iff (uid : String) (ownerRefs : List OwnerReference) :
    checkOwnerRefExist uid ownerRefs = true ↔ ∃ r ∈ ownerRefs, r.uid = uid := by
  have h : checkOwnerRefExist uid ownerRefs = (ownerRefs.findIdx? (·.uid == uid)).isSome := by
    unfold checkOwnerRefExist
    split <;> simp_all
  simp [h, List.findIdx?_isSome]

/-! ## Setting an owner reference

`controllerutil.SetOwnerReference` and `SetControllerReference`, which the `object` and
`clusterrole` packages call. -/

/-- An owner as `SetOwnerReference` reads it: its metadata, and its group, version and kind
as the scheme resolves them (`apiutil.GVKForObject`), or the error that fails with. -/
structure Owner where
  meta : ObjectMeta
  gvk : Except GoError GroupVersionKind

/-- `validateOwner`: a namespaced owner must sit in the object's namespace. -/
def validateOwner (owner object : ObjectMeta) : Option GoError :=
  if owner.«namespace» ≠ "" then
    if object.«namespace» = "" then
      some (errorf ("cluster-scoped resource must not have a namespace-scoped owner, owner\x27s namespace "
        ++ owner.«namespace»))
    else if owner.«namespace» ≠ object.«namespace» then
      some (errorf ("cross-namespace owner references are disallowed, owner\x27s namespace "
        ++ owner.«namespace» ++ ", obj\x27s namespace " ++ object.«namespace»))
    else none
  else none

/-- `referSameObject`: two references name one object when their groups, kinds and names
agree. A reference whose `apiVersion` does not parse names nothing. -/
def referSameObject (a b : OwnerReference) : Bool :=
  match parseGroupVersion a.apiVersion, parseGroupVersion b.apiVersion with
  | .ok aGV, .ok bGV => aGV.group == bGV.group && a.kind == b.kind && a.name == b.name
  | _, _ => false

/-- `upsertOwnerRef`: the reference replaces the first one naming the same object
(`indexOwnerRef`), or is appended. -/
def upsertOwnerRef (ref : OwnerReference) (owners : List OwnerReference) : List OwnerReference :=
  match owners.findIdx? (referSameObject · ref) with
  | none => owners ++ [ref]
  | some idx => owners.set idx ref

/-- The reference `SetOwnerReference` (`controller = false`) and `SetControllerReference`
(`controller = true`) build for an owner; the latter also sets `BlockOwnerDeletion`. -/
def ownerRefFor (owner : ObjectMeta) (gvk : GroupVersionKind) (controller : Bool) :
    OwnerReference :=
  { apiVersion := gvk.groupVersion.toString, kind := gvk.kind, name := owner.name,
    uid := owner.uid, controller := if controller then some true else none,
    blockOwnerDeletion := if controller then some true else none }

/-- `controllerutil.SetOwnerReference`. -/
def setOwnerReference (owner : Owner) (object : ObjectMeta) : Except GoError ObjectMeta :=
  match validateOwner owner.meta object with
  | some err => .error err
  | none =>
    match owner.gvk with
    | .error err => .error err
    | .ok gvk =>
      .ok { object with
        ownerReferences := upsertOwnerRef (ownerRefFor owner.meta gvk false) object.ownerReferences }

/-- `AlreadyOwnedError`. -/
def alreadyOwnedError (object : ObjectMeta) (existing : OwnerReference) : GoError :=
  errorf ("Object " ++ object.«namespace» ++ "/" ++ object.name ++ " is already owned by another "
    ++ existing.kind ++ " controller " ++ existing.name)

/-- `controllerutil.SetControllerReference`: as `SetOwnerReference`, with the controller
flag set, and refused when another object already controls this one. -/
def setControllerReference (owner : Owner) (controlled : ObjectMeta) :
    Except GoError ObjectMeta :=
  match validateOwner owner.meta controlled with
  | some err => .error err
  | none =>
    match owner.gvk with
    | .error err => .error err
    | .ok gvk =>
      let ref := ownerRefFor owner.meta gvk true
      match controllerOf controlled.ownerReferences with
      | some existing =>
        if !referSameObject existing ref then .error (alreadyOwnedError controlled existing)
        else .ok { controlled with ownerReferences := upsertOwnerRef ref controlled.ownerReferences }
      | none => .ok { controlled with ownerReferences := upsertOwnerRef ref controlled.ownerReferences }

/-! ## Patching the owner in -/

/-- `PatchOwnerRef`: the object with the owner reference set, and the `metadata` entry of
the merge patch from the old object to it. The owner references are the only metadata
`SetOwnerReference` touches, so the entry is there exactly when they changed. -/
def patchOwnerRef (owner : Owner) (object : ObjectMeta) :
    Except GoError (Option (List OwnerReference) × ObjectMeta) :=
  match setOwnerReference owner object with
  | .error err => .error err
  | .ok after =>
    .ok (if after.ownerReferences = object.ownerReferences then none else some after.ownerReferences,
      after)

/-- What `EnsureOwnerRef` leaves behind: the object in memory, the object it sent to the
client's `Patch`, if it called it, and the error it returns. -/
structure EnsureResult where
  object : ObjectMeta
  patched : Option ObjectMeta
  err : Option GoError
  deriving DecidableEq, Repr

/-- `EnsureOwnerRef`, with the client's `Patch` as `patch`: not-found is swallowed, a
conflict and any other failure are wrapped. The logging is left out. -/
def ensureOwnerRef (patch : ObjectMeta → Option GoError) (owner : Owner) (object : ObjectMeta) :
    EnsureResult :=
  match patchOwnerRef owner object with
  | .error err => ⟨object, none, some err⟩
  | .ok (patchDiff, after) =>
    match patchDiff with
    | none => ⟨after, none, none⟩
    | some _ =>
      let err := match patch after with
        | some err =>
          if isConflict err then some (err.wrap "error metadata update conflict: ")
          else if !isNotFound err then some (err.wrap "error metadata update failed: ")
          else none
        | none => none
      ⟨after, some after, err⟩

/-! ## The upsert -/

variable {ref : OwnerReference}

@[simp] theorem upsertOwnerRef_nil : upsertOwnerRef ref [] = [ref] := rfl

theorem upsertOwnerRef_cons (r : OwnerReference) (rs : List OwnerReference) :
    upsertOwnerRef ref (r :: rs) =
      if referSameObject r ref then ref :: rs else r :: upsertOwnerRef ref rs := by
  unfold upsertOwnerRef
  rw [List.findIdx?_cons]
  split_ifs with h
  · rfl
  · rw [List.findIdx?_succ]
    cases rs.findIdx? (referSameObject · ref) <;> rfl

theorem mem_upsertOwnerRef (refs : List OwnerReference) : ref ∈ upsertOwnerRef ref refs := by
  induction refs with
  | nil => simp
  | cons r rs ih => rw [upsertOwnerRef_cons]; split_ifs <;> simp [ih]

/-- **Upserting twice is upserting once**, for a reference that names itself. -/
theorem upsertOwnerRef_idem (h : referSameObject ref ref = true) (refs : List OwnerReference) :
    upsertOwnerRef ref (upsertOwnerRef ref refs) = upsertOwnerRef ref refs := by
  induction refs with
  | nil => simp [upsertOwnerRef_cons, h]
  | cons r rs ih =>
    rw [upsertOwnerRef_cons]
    split_ifs with hr
    · rw [upsertOwnerRef_cons, if_pos h]
    · rw [upsertOwnerRef_cons, if_neg hr, ih]

/-- The reference built for a kind the scheme knows names itself: its `apiVersion` parses
back, when neither group nor version holds a `/`. -/
theorem referSameObject_ownerRefFor (owner : ObjectMeta) (gvk : GroupVersionKind) (c : Bool)
    (hg : '/' ∉ gvk.group.toList) (hv : '/' ∉ gvk.version.toList) :
    referSameObject (ownerRefFor owner gvk c) (ownerRefFor owner gvk c) = true := by
  simp [referSameObject, ownerRefFor,
    parseGroupVersion_toString gvk.groupVersion hg hv]

/-- An upserted controller reference is the controller, where the list's controller, if any,
already names the same object. -/
theorem controllerOf_upsertOwnerRef (hc : ref.controller = some true) (refs : List OwnerReference)
    (h : ∀ e, controllerOf refs = some e → referSameObject e ref = true) :
    controllerOf (upsertOwnerRef ref refs) = some ref := by
  induction refs with
  | nil => simp [controllerOf, hc]
  | cons r rs ih =>
    rw [upsertOwnerRef_cons]
    split_ifs with hr
    · simp [controllerOf, hc]
    · have hnc : r.controller ≠ some true := fun hrc => hr (h r (by simp [controllerOf, hrc]))
      simp only [controllerOf, if_neg hnc] at h ⊢
      exact ih h

/-- What a successful `SetControllerReference` did, guards included: the owner was valid for
the object, its kind known, and any controller already there named it; then it upserted the
owner's controller reference and touched nothing else. -/
theorem setControllerReference_eq_ok {owner : Owner} {m m' : ObjectMeta}
    (h : setControllerReference owner m = .ok m') :
    ∃ gvk, owner.gvk = .ok gvk ∧ validateOwner owner.meta m = none ∧
      (∀ e, controllerOf m.ownerReferences = some e →
        referSameObject e (ownerRefFor owner.meta gvk true) = true) ∧
      m' = { m with ownerReferences := upsertOwnerRef (ownerRefFor owner.meta gvk true) m.ownerReferences } := by
  unfold setControllerReference at h
  split at h
  · cases h
  · rename_i hvalid
    split at h
    · cases h
    · rename_i gvk hgvk
      refine ⟨gvk, hgvk, hvalid, ?_⟩
      dsimp only at h
      split at h
      · rename_i e he
        split_ifs at h with hs
        cases h
        refine ⟨fun e' he' => ?_, rfl⟩
        rw [he] at he'
        cases he'
        simpa using hs
      · rename_i hnone
        exact ⟨fun e he => by simp [hnone] at he, (Except.ok.inj h).symm⟩

/-- `SetControllerReference` succeeds where its guards hold. -/
theorem setControllerReference_of_guards {owner : Owner} {m : ObjectMeta} {gvk : GroupVersionKind}
    (hgvk : owner.gvk = .ok gvk) (hvalid : validateOwner owner.meta m = none)
    (hc : ∀ e, controllerOf m.ownerReferences = some e →
      referSameObject e (ownerRefFor owner.meta gvk true) = true) :
    setControllerReference owner m =
      .ok { m with ownerReferences := upsertOwnerRef (ownerRefFor owner.meta gvk true) m.ownerReferences } := by
  unfold setControllerReference
  simp only [hvalid, hgvk]
  split
  · rename_i e he
    simp [hc e he]
  · rfl

/-- What a failed `SetControllerReference` met: an owner the object may not have, a kind the
scheme does not know, or another controller, which the error names. -/
theorem setControllerReference_eq_error {owner : Owner} {m : ObjectMeta} {err : GoError}
    (h : setControllerReference owner m = .error err) :
    validateOwner owner.meta m = some err ∨ owner.gvk = .error err ∨
      ∃ gvk existing, owner.gvk = .ok gvk ∧ controllerOf m.ownerReferences = some existing ∧
        referSameObject existing (ownerRefFor owner.meta gvk true) = false ∧
        err = alreadyOwnedError m existing := by
  unfold setControllerReference at h
  split at h
  · cases h
    exact .inl ‹_›
  · split at h
    · cases h
      exact .inr (.inl ‹_›)
    · rename_i gvk hgvk
      dsimp only at h
      split at h
      · rename_i existing he
        split_ifs at h with hs
        cases h
        exact .inr (.inr ⟨gvk, existing, hgvk, he, by simpa using hs, rfl⟩)
      · cases h

/-- Every error `validateOwner` returns is a plain `fmt.Errorf`. -/
theorem validateOwner_reason {o m : ObjectMeta} {err : GoError} (h : validateOwner o m = some err) :
    err.reason = "" := by
  unfold validateOwner at h
  split_ifs at h <;> cases h <;> rfl

/-- **Setting the controller twice is setting it once**, for an owner whose kind has a group
and a version without a `/`. -/
theorem setControllerReference_idem {owner : Owner} {m m' : ObjectMeta}
    (hself : ∀ gvk, owner.gvk = .ok gvk → '/' ∉ gvk.group.toList ∧ '/' ∉ gvk.version.toList)
    (h : setControllerReference owner m = .ok m') :
    setControllerReference owner m' = .ok m' := by
  obtain ⟨gvk, hgvk, hvalid, hc, rfl⟩ := setControllerReference_eq_ok h
  have hs := referSameObject_ownerRefFor owner.meta gvk true (hself gvk hgvk).1 (hself gvk hgvk).2
  refine Eq.trans (setControllerReference_of_guards hgvk hvalid fun e he => ?_) ?_
  · rw [controllerOf_upsertOwnerRef rfl _ hc] at he
    cases he
    exact hs
  · rw [upsertOwnerRef_idem hs]

/-! ## What `EnsureOwnerRef` guarantees -/

variable {owner : Owner} {object after : ObjectMeta}

theorem setOwnerReference_eq_ok {gvk : GroupVersionKind} (hvalid : validateOwner owner.meta object = none)
    (hgvk : owner.gvk = .ok gvk) :
    setOwnerReference owner object = .ok { object with
      ownerReferences := upsertOwnerRef (ownerRefFor owner.meta gvk false) object.ownerReferences } := by
  simp [setOwnerReference, hvalid, hgvk]

/-- **The owner is in the list once its reference is set.** -/
theorem checkOwnerRefExist_setOwnerReference (h : setOwnerReference owner object = .ok after) :
    checkOwnerRefExist owner.meta.uid after.ownerReferences = true := by
  unfold setOwnerReference at h
  split at h
  · cases h
  · split at h
    · cases h
    · cases h
      exact (checkOwnerRefExist_iff _ _).2 ⟨_, mem_upsertOwnerRef _, rfl⟩

/-- The object `EnsureOwnerRef` leaves in memory is the one with the reference set,
whatever the client answers. -/
theorem ensureOwnerRef_object (patch : ObjectMeta → Option GoError)
    (h : setOwnerReference owner object = .ok after) :
    (ensureOwnerRef patch owner object).object = after := by
  simp only [ensureOwnerRef, patchOwnerRef, h]
  split_ifs <;> rfl

/-- **`EnsureOwnerRef` adds the owner.** For an owner of a kind the scheme knows and allowed
to own the object, `CheckOwnerRefExist` holds of the owner's UID on the object it leaves,
whatever the client answers. -/
theorem ensureOwnerRef_adds_owner (patch : ObjectMeta → Option GoError) (gvk : GroupVersionKind)
    (hgvk : owner.gvk = .ok gvk) (hvalid : validateOwner owner.meta object = none) :
    checkOwnerRefExist owner.meta.uid (ensureOwnerRef patch owner object).object.ownerReferences =
      true := by
  rw [ensureOwnerRef_object patch (setOwnerReference_eq_ok hvalid hgvk)]
  exact checkOwnerRefExist_setOwnerReference (setOwnerReference_eq_ok hvalid hgvk)

/-- Where setting the reference changes nothing, `EnsureOwnerRef` patches nothing. -/
theorem ensureOwnerRef_of_unchanged (patch : ObjectMeta → Option GoError)
    (h : setOwnerReference owner object = .ok object) :
    ensureOwnerRef patch owner object = ⟨object, none, none⟩ := by
  simp [ensureOwnerRef, patchOwnerRef, h]

/-- **`EnsureOwnerRef` is idempotent.** Once it has set an owner's reference, a second call
for the same owner leaves the object as it is, calls no `Patch` and returns no error,
whatever the client answered the first time. The owner's kind must be one the scheme
knows, with no `/` in its group or version, and the owner must be allowed to own the
object. -/
theorem ensureOwnerRef_idempotent (patch₁ patch₂ : ObjectMeta → Option GoError)
    (gvk : GroupVersionKind) (hgvk : owner.gvk = .ok gvk) (hg : '/' ∉ gvk.group.toList)
    (hv : '/' ∉ gvk.version.toList) (hvalid : validateOwner owner.meta object = none) :
    ensureOwnerRef patch₂ owner (ensureOwnerRef patch₁ owner object).object =
      ⟨(ensureOwnerRef patch₁ owner object).object, none, none⟩ := by
  rw [ensureOwnerRef_object patch₁ (setOwnerReference_eq_ok hvalid hgvk)]
  apply ensureOwnerRef_of_unchanged
  have hvalid' : validateOwner owner.meta { object with
      ownerReferences := upsertOwnerRef (ownerRefFor owner.meta gvk false) object.ownerReferences } =
      none := hvalid
  rw [setOwnerReference_eq_ok hvalid' hgvk]
  simp [upsertOwnerRef_idem (referSameObject_ownerRefFor owner.meta gvk false hg hv)]

/-- A config map owning another in one namespace, as in the functional tests. -/
def ownerConfigMap : Owner := ⟨⟨"test-owner", "test-ns", "uid-owner", [], [], []⟩, .ok ⟨"", "v1", "ConfigMap"⟩⟩

/-- The config map it is added to. -/
def targetConfigMap : ObjectMeta := ⟨"test-cm", "test-ns", "uid-cm", [], [], []⟩

theorem ensureOwnerRef_adds_owner_configMap :
    ownerConfigMap.gvk = .ok ⟨"", "v1", "ConfigMap"⟩ ∧
      validateOwner ownerConfigMap.meta targetConfigMap = none ∧
      checkOwnerRefExist ownerConfigMap.meta.uid
        (ensureOwnerRef (fun _ => none) ownerConfigMap targetConfigMap).object.ownerReferences = true :=
  ⟨rfl, rfl, ensureOwnerRef_adds_owner _ _ (by rfl) (by rfl)⟩

theorem ensureOwnerRef_idempotent_configMap :
    ownerConfigMap.gvk = .ok ⟨"", "v1", "ConfigMap"⟩ ∧ '/' ∉ "".toList ∧ '/' ∉ "v1".toList ∧
      validateOwner ownerConfigMap.meta targetConfigMap = none ∧
      ensureOwnerRef (fun _ => none) ownerConfigMap
          (ensureOwnerRef (fun _ => none) ownerConfigMap targetConfigMap).object =
        ⟨(ensureOwnerRef (fun _ => none) ownerConfigMap targetConfigMap).object, none, none⟩ :=
  ⟨rfl, by decide, by decide, rfl,
    ensureOwnerRef_idempotent _ _ _ (by rfl) (by decide) (by decide) (by rfl)⟩

end Object

end LibCommon
