import LibCommon.Object.Ready
import LibCommon.Object.References
/-!
# Readiness follows the controller reference

`SetControllerReference` writes an owner's reference with its `apiVersion` printed by
`GroupVersion.String`; `IsOwnerServiceReady` reads the first controller reference of an object
and parses that `apiVersion` back. The two meet: after `SetControllerReference`, the readiness
check fetches the owner itself, by its kind and by its name in the object's namespace, and
reports what it finds (`isOwnerServiceReady_of_setControllerReference`).

`EnsureOwnerRef` goes through `SetOwnerReference`, whose reference is not a controller's and
replaces any reference to the same owner. Called for an object's own controller, on a
well-owned list of references, it takes the control away, and `IsOwnerServiceReady` then no
longer waits on that owner (`isOwnerServiceReady_ensureOwnerRef_of_controlled`).
-/

namespace LibCommon

namespace Object

/-- `IsOwnerServiceReady` on an object whose controller is `owner`'s reference, for a kind
whose group and version hold no `/`, is the fetch of that kind under `owner`'s name. -/
theorem isOwnerServiceReady_of_controllerOf {get : Getter} {m owner : ObjectMeta}
    {gvk : GroupVersionKind} (hc : controllerOf m.ownerReferences = some (ownerRefFor owner gvk true))
    (hg : '/' ∉ gvk.group.toList) (hv : '/' ∉ gvk.version.toList) :
    isOwnerServiceReady get m =
      match get gvk ⟨m.«namespace», owner.name⟩ with
      | .error err => if isNotFound err then (true, none) else (false, some err)
      | .ok o => (ownerServiceReady o, none) := by
  have hp : parseGroupVersion (ownerRefFor owner gvk true).apiVersion = .ok gvk.groupVersion :=
    parseGroupVersion_toString gvk.groupVersion hg hv
  simp only [isOwnerServiceReady, hc, hp]
  rfl

/-- **After `SetControllerReference`, readiness is the owner's.** On the object it leaves, for
an owner whose kind has a group and a version without a `/`, `IsOwnerServiceReady` fetches the
owner by that kind and by its name in the object's namespace. Not found: ready; any other
error: not ready, with that error; the owner: ready exactly when `OwnerReady`, without an
error. -/
theorem isOwnerServiceReady_of_setControllerReference {owner : Owner} {m m' : ObjectMeta}
    {gvk : GroupVersionKind} (h : setControllerReference owner m = .ok m')
    (hgvk : owner.gvk = .ok gvk) (hg : '/' ∉ gvk.group.toList) (hv : '/' ∉ gvk.version.toList)
    (get : Getter) :
    match get gvk ⟨m.«namespace», owner.meta.name⟩ with
    | .error err =>
      isOwnerServiceReady get m' = if isNotFound err then (true, none) else (false, some err)
    | .ok o =>
      (isOwnerServiceReady get m').2 = none ∧ ((isOwnerServiceReady get m').1 = true ↔ OwnerReady o) := by
  obtain ⟨gvk', hgvk', -, hc, rfl⟩ := setControllerReference_eq_ok h
  obtain rfl : gvk = gvk' := Except.ok.inj (hgvk.symm.trans hgvk')
  rw [isOwnerServiceReady_of_controllerOf (controllerOf_upsertOwnerRef rfl _ hc) hg hv]
  rcases get gvk ⟨m.«namespace», owner.meta.name⟩ with err | o <;> simp [ownerServiceReady_iff]

/-- A namespaced owner of a kind the scheme knows. -/
def keystoneOwner : Owner :=
  ⟨⟨"keystone", "openstack", "uid-k", [], [], []⟩, .ok ⟨"keystone.openstack.org", "v1beta1", "KeystoneAPI"⟩⟩

/-- An object in the owner's namespace, with no owner yet. -/
def keystoneConfig : ObjectMeta := ⟨"keystone-config", "openstack", "uid-c", [], [], []⟩

/-- `keystoneConfig` under `keystoneOwner`'s control. -/
def keystoneConfigControlled : ObjectMeta :=
  { keystoneConfig with
    ownerReferences := [ownerRefFor keystoneOwner.meta ⟨"keystone.openstack.org", "v1beta1", "KeystoneAPI"⟩ true] }

/-- A client whose `Get` finds nothing. -/
def ownerGone : Getter := fun _ _ => .error ⟨"NotFound", "keystoneapis keystone not found"⟩

theorem isOwnerServiceReady_of_setControllerReference_keystone :
    setControllerReference keystoneOwner keystoneConfig = .ok keystoneConfigControlled ∧
      keystoneOwner.gvk = .ok ⟨"keystone.openstack.org", "v1beta1", "KeystoneAPI"⟩ ∧
      '/' ∉ "keystone.openstack.org".toList ∧ '/' ∉ "v1beta1".toList ∧
      isOwnerServiceReady ownerGone keystoneConfigControlled = (true, none) := by
  have h : setControllerReference keystoneOwner keystoneConfig = .ok keystoneConfigControlled := rfl
  exact ⟨h, rfl, by decide, by decide,
    isOwnerServiceReady_of_setControllerReference h rfl (by decide) (by decide) ownerGone⟩

/-- **`EnsureOwnerRef` by the controller takes its control away.** On an object with
well-owned references whose controller names the owner, by group, kind and name, whatever UID
or version it carries, `EnsureOwnerRef` for that owner replaces the controller with a
reference that is not a controller's. `IsOwnerServiceReady` then reports ready without an
error, whatever the owner's state and whatever the client answers. The owner's kind must be
one the scheme knows, with no `/` in its group or version, and the owner must be allowed to
own the object. -/
theorem isOwnerServiceReady_ensureOwnerRef_of_controlled {owner : Owner} {object : ObjectMeta}
    (patch : ObjectMeta → Option GoError) (get : Getter) {gvk : GroupVersionKind}
    (hgvk : owner.gvk = .ok gvk) (hg : '/' ∉ gvk.group.toList) (hv : '/' ∉ gvk.version.toList)
    (hvalid : validateOwner owner.meta object = none) (hw : WellOwned object.ownerReferences)
    {c : OwnerReference} (hc : controllerOf object.ownerReferences = some c)
    (hnames : c.ident = some (gvk.group, gvk.kind, owner.meta.name)) :
    isOwnerServiceReady get (ensureOwnerRef patch owner object).object = (true, none) := by
  have hall : ∀ c' ∈ controllers object.ownerReferences,
      referSameObject c' (ownerRefFor owner.meta gvk false) = true := by
    simp [hw.controllers_eq hc, referSameObject_iff, hnames, ident_ownerRefFor _ _ hg hv]
  have hdemoted :
      controllerOf (upsertOwnerRef (ownerRefFor owner.meta gvk false) object.ownerReferences) = none := by
    rw [controllerOf_eq_head_controllers, controllers_upsertOwnerRef_of_names hw.distinct hall]
    rfl
  rw [ensureOwnerRef_object patch (setOwnerReference_eq_ok hvalid hgvk)]
  simp only [isOwnerServiceReady, hdemoted]

/-- A client whose `Get` finds an owner with no status, which is never ready. -/
def ownerNotReady : Getter := fun _ _ => .ok []

/-- `keystoneConfigControlled` with a second owner, which does not control it. -/
def keystoneConfigShared : ObjectMeta :=
  { keystoneConfigControlled with
    ownerReferences := ownerRefFor ⟨"memcached", "openstack", "uid-m", [], [], []⟩
      ⟨"memcached.openstack.org", "v1beta1", "Memcached"⟩ false :: keystoneConfigControlled.ownerReferences }

theorem isOwnerServiceReady_ensureOwnerRef_of_controlled_keystone :
    keystoneOwner.gvk = .ok ⟨"keystone.openstack.org", "v1beta1", "KeystoneAPI"⟩ ∧
      '/' ∉ "keystone.openstack.org".toList ∧ '/' ∉ "v1beta1".toList ∧
      validateOwner keystoneOwner.meta keystoneConfigShared = none ∧
      WellOwned keystoneConfigShared.ownerReferences ∧
      controllerOf keystoneConfigShared.ownerReferences =
        some (ownerRefFor keystoneOwner.meta ⟨"keystone.openstack.org", "v1beta1", "KeystoneAPI"⟩ true) ∧
      (ownerRefFor keystoneOwner.meta ⟨"keystone.openstack.org", "v1beta1", "KeystoneAPI"⟩ true).ident =
        some ("keystone.openstack.org", "KeystoneAPI", "keystone") ∧
      isOwnerServiceReady ownerNotReady keystoneConfigShared = (false, none) ∧
      isOwnerServiceReady ownerNotReady
        (ensureOwnerRef (fun _ => none) keystoneOwner keystoneConfigShared).object = (true, none) := by
  have hw : WellOwned keystoneConfigShared.ownerReferences := ⟨by decide, by decide⟩
  have hnames : (ownerRefFor keystoneOwner.meta ⟨"keystone.openstack.org", "v1beta1", "KeystoneAPI"⟩
      true).ident = some ("keystone.openstack.org", "KeystoneAPI", "keystone") := by decide
  exact ⟨rfl, by decide, by decide, rfl, hw, rfl, hnames, by decide,
    isOwnerServiceReady_ensureOwnerRef_of_controlled _ _ rfl (by decide) (by decide) rfl hw rfl hnames⟩

end Object

end LibCommon
