import LibCommon.ClusterRole.Reconcile
import LibCommon.Object.References
/-!
# Reconciles by many owners

Several operators reconcile cluster roles against one API server, each for the objects it
owns, in whatever order their events arrive. `reconcileAll` runs a list of reconciles, each one
`CreateOrPatch` of a role for an owner, against a `Store`.

A reconcile writes at most the desired role, under its key, and never deletes
(`reconcile_roles`). What it writes carries the references `SetControllerReference` leaves on
the stored role's: on owner references a reconcile is `RefOp.control` (`reconcile_refs`), and
what `LibCommon.Object.References` proves of that operation carries over to the store. Every
stored role stays well owned across any interleaving (`reconcileAll_wellOwned`); once a
reconcile of a role reports no error, its owner controls the role from then on, whatever other
owners reconcile it later (`reconcileAll_controller_stable`); and such a later reconcile by
another owner fails with `AlreadyOwnedError` naming the controller, and writes nothing
(`reconcile_of_controlled`).
-/

namespace LibCommon

namespace Clusterrole

open Object

/-! ## `controllerutil.CreateOrPatch` against a store -/

theorem Store.roles_of_get_ok {σ : Store} {key : NamespacedName} {o : RbacClusterRole}
    (h : σ.api.get key = .ok o) : σ.roles key = some o := by
  simp only [Store.api] at h
  split at h <;> cases h
  assumption

theorem Store.roles_of_get_error {σ : Store} {key : NamespacedName} {err : GoError}
    (h : σ.api.get key = .error err) : σ.roles key = none := by
  simp only [Store.api] at h
  split at h <;> cases h
  assumption

variable {σ : Store} {obj out : RbacClusterRole} {f : RbacClusterRole → Except GoError RbacClusterRole}

/-- **A successful `controllerutil.CreateOrPatch` against a store** ran the mutate function on
the role stored under `obj`'s key, or on `obj` where there is none, and leaves what it made
under that key, whether it created, patched or found nothing to do. -/
theorem createOrPatch_store_eq_ok {op : OperationResult} (h : createOrPatch σ.api obj f = .ok (op, out)) :
    f ((σ.roles obj.key).getD obj) = .ok out ∧
      (σ.apply (.ok (op, out))).roles = Function.update σ.roles obj.key (some out) := by
  obtain ⟨base, hf, hkey, ⟨hget, ⟨rfl, rfl⟩ | ⟨rfl, -⟩⟩ | ⟨⟨err, hget, -⟩, rfl, rfl, -⟩⟩ :=
    createOrPatch_eq_ok h
  · have hlive := Store.roles_of_get_ok hget
    exact ⟨by rwa [hlive], by rw [← hlive, Function.update_eq_self]; rfl⟩
  · exact ⟨by rwa [Store.roles_of_get_ok hget], by rw [← hkey]; rfl⟩
  · exact ⟨by rwa [Store.roles_of_get_error hget], by rw [← hkey]; rfl⟩

/-- A failed `controllerutil.CreateOrPatch` against a store failed in `controllerutil`'s
`mutate`, on the stored role or on `obj`: the store answers every `Get` with the role or
not-found, and takes every `Create` and `Patch`. -/
theorem createOrPatch_store_eq_error {err : GoError} (h : createOrPatch σ.api obj f = .error err) :
    mutateChecked f obj.key ((σ.roles obj.key).getD obj) = .error err := by
  unfold createOrPatch at h
  rcases hlive : σ.roles obj.key with _ | live <;>
    simp only [Store.api, hlive, isNotFound_notFoundError, Bool.not_true, Bool.false_eq_true,
      if_false, Option.getD_none, Option.getD_some] at h ⊢ <;>
    rcases hm : mutateChecked f obj.key _ with e | o <;> simp only [hm] at h
  · cases h
    rfl
  · cases h
  · cases h
    rfl
  · split_ifs at h

/-! ## One reconcile -/

section Reconcile

variable {mergeStringMaps : StringMap → StringMap → StringMap} {owner : Owner} {r : ClusterRole}
  {gvk : GroupVersionKind}

/-- On a store, the reconcile of an owner whose kind the scheme knows never fails with
not-found: it fails in `SetControllerReference`, whose errors are plain `fmt.Errorf`s. -/
theorem createOrPatch_store_not_found (hgvk : owner.gvk = .ok gvk) {err : GoError}
    (h : createOrPatch σ.api r.skeleton (mutate mergeStringMaps r owner) = .error err) :
    isNotFound err = false := by
  rcases mutateChecked_eq_error (createOrPatch_store_eq_error h) with hm | rfl
  · rcases setControllerReference_eq_error (mutate_eq_error hm) with hv | hg | ⟨-, -, -, -, -, rfl⟩
    · simp [isNotFound, validateOwner_reason hv]
    · rw [hgvk] at hg
      cases hg
    · rfl
  · rfl

/-- **What one reconcile does to the store.** Under every key but the desired role's, nothing;
under that key, nothing, or the role the mutate function made of the one stored there, or of
the skeleton where there is none. A reconcile never deletes. -/
theorem reconcile_roles (σ : Store) (owner : Owner) (r : ClusterRole) (key : NamespacedName) :
    (reconcile mergeStringMaps σ owner r).1.roles key = σ.roles key ∨
      key = r.skeleton.key ∧ ∃ out, (reconcile mergeStringMaps σ owner r).1.roles key = some out ∧
        mutate mergeStringMaps r owner ((σ.roles key).getD r.skeleton) = .ok out := by
  rcases hc : createOrPatch σ.api r.skeleton (mutate mergeStringMaps r owner) with err | ⟨op, out⟩
  · exact .inl (by simp only [reconcile, hc, Store.apply])
  · obtain ⟨hf, hroles⟩ := createOrPatch_store_eq_ok hc
    simp only [reconcile, hc, hroles]
    by_cases hk : key = r.skeleton.key
    · subst hk
      exact .inr ⟨rfl, out, Function.update_same _ _ _, hf⟩
    · exact .inl (Function.update_noteq hk _ _)

/-- **On owner references, a reconcile is `RefOp.control`.** What it writes carries the
references `SetControllerReference` for the owner leaves on the stored role's, or on the
skeleton's where there is none. -/
theorem reconcile_refs (σ : Store) (owner : Owner) (r : ClusterRole) (key : NamespacedName) :
    (reconcile mergeStringMaps σ owner r).1.roles key = σ.roles key ∨
      ∃ out m, (reconcile mergeStringMaps σ owner r).1.roles key = some out ∧
        m.ownerReferences = ((σ.roles key).getD r.skeleton).metadata.ownerReferences ∧
        out.metadata = (RefOp.control owner).apply m := by
  rcases reconcile_roles σ owner r key with h | ⟨-, out, hout, hmut⟩
  · exact .inl h
  · obtain ⟨m, hm, hs⟩ := mutate_ownerReferences hmut
    exact .inr ⟨out, m, hout, hm, (RefOp.apply_control hs).symm⟩

/-- Every role the store holds has well-owned owner references. -/
def Store.WellOwned (σ : Store) : Prop :=
  ∀ key obj, σ.roles key = some obj → Object.WellOwned obj.metadata.ownerReferences

theorem Store.wellOwned_empty : Store.empty.WellOwned := fun _ _ h => nomatch h

/-- What the mutate function starts from is well owned, in a well-owned store. -/
theorem Store.WellOwned.getD (hw : σ.WellOwned) (key : NamespacedName) (r : ClusterRole) :
    Object.WellOwned ((σ.roles key).getD r.skeleton).metadata.ownerReferences := by
  rcases h : σ.roles key with _ | obj
  · exact WellOwned.nil
  · exact hw key obj h

theorem Store.WellOwned.reconcile (hw : σ.WellOwned) (owner : Owner) (r : ClusterRole) :
    (reconcile mergeStringMaps σ owner r).1.WellOwned := by
  intro key obj h
  rcases reconcile_refs σ owner r key with heq | ⟨out, m, hout, hm, happ⟩
  · exact hw key obj (heq.symm.trans h)
  · obtain rfl := Option.some.inj (h.symm.trans hout)
    rw [happ]
    exact (RefOp.control owner).apply_wellOwned (hm ▸ hw.getD key r)

/-- One reconcile leaves a controlled role stored, with a controller naming the same object. -/
theorem reconcile_keeps_controller (hw : σ.WellOwned) (owner : Owner) (r : ClusterRole)
    {key : NamespacedName} {c : OwnerReference} (h : σ.roles key = some obj)
    (hc : controllerOf obj.metadata.ownerReferences = some c) :
    ∃ obj' c', (reconcile mergeStringMaps σ owner r).1.roles key = some obj' ∧
      controllerOf obj'.metadata.ownerReferences = some c' ∧ c'.ident = c.ident := by
  rcases reconcile_refs σ owner r key with heq | ⟨out, m, hout, hm, happ⟩
  · exact ⟨obj, c, heq.trans h, hc, rfl⟩
  · rw [h, Option.getD_some] at hm
    have hwm : Object.WellOwned m.ownerReferences := hm ▸ hw key obj h
    have hcm : controllerOf m.ownerReferences = some c := hm ▸ hc
    obtain ⟨c', hc', hid⟩ := (RefOp.control owner).apply_keeps_controller hwm hcm nofun
    exact ⟨out, c', hout, happ ▸ hc', hid⟩

/-- A reconcile that reports no error, by an owner of a kind the scheme knows, leaves the role
under that owner's controller reference. -/
theorem reconcile_controls_of_no_error (hgvk : owner.gvk = .ok gvk)
    (hok : (reconcile mergeStringMaps σ owner r).2.2 = none) :
    ∃ obj, (reconcile mergeStringMaps σ owner r).1.roles r.skeleton.key = some obj ∧
      controllerOf obj.metadata.ownerReferences = some (ownerRefFor owner.meta gvk true) := by
  rcases hc : createOrPatch σ.api r.skeleton (mutate mergeStringMaps r owner) with err | ⟨op, out⟩
  · have hnf := createOrPatch_store_not_found hgvk hc
    simp [reconcile, ClusterRole.createOrPatch_eq_skeleton, hc, hnf] at hok
  · obtain ⟨hf, hroles⟩ := createOrPatch_store_eq_ok hc
    refine ⟨out, by simp only [reconcile, hc, hroles, Function.update_same], ?_⟩
    obtain ⟨m, -, hs⟩ := mutate_ownerReferences hf
    obtain ⟨gvk', hgvk', -, hguard, hm⟩ := setControllerReference_eq_ok hs
    obtain rfl : gvk = gvk' := Except.ok.inj (hgvk.symm.trans hgvk')
    rw [hm]
    exact controllerOf_upsertOwnerRef rfl _ hguard

/-- **Another owner's reconcile fails, names the controller, and writes nothing.** On a store
holding the role under the control of an object other than `owner`, a reconcile by a
cluster-scoped `owner` of a kind the scheme knows leaves the store as it is, does not
requeue, and returns `AlreadyOwnedError` for the role, naming the controller's kind and name,
wrapped with the role's name. -/
theorem reconcile_of_controlled (hns : owner.meta.«namespace» = "") (hgvk : owner.gvk = .ok gvk)
    {live : RbacClusterRole} {c : OwnerReference} (hlive : σ.roles r.skeleton.key = some live)
    (hc : controllerOf live.metadata.ownerReferences = some c)
    (hother : referSameObject c (ownerRefFor owner.meta gvk true) = false) :
    reconcile mergeStringMaps σ owner r =
      (σ, (⟨0⟩, some (wrapErrorForObject ("Error creating clusterrole " ++ r.clusterrole.metadata.name)
        r.skeleton (alreadyOwnedError r.skeleton.metadata c)))) := by
  have hkey : live.key = r.skeleton.key := σ.keyed _ _ hlive
  simp only [RbacClusterRole.key, NamespacedName.mk.injEq] at hkey
  have hm : mutate mergeStringMaps r owner live = .error (alreadyOwnedError r.skeleton.metadata c) := by
    simp [mutate, setControllerReference, validateOwner, hns, hgvk, hc, hother, alreadyOwnedError,
      hkey.1, hkey.2, ClusterRole.skeleton]
  have hcp : createOrPatch σ.api r.skeleton (mutate mergeStringMaps r owner) =
      .error (alreadyOwnedError r.skeleton.metadata c) := by
    simp [createOrPatch, Store.api, hlive, mutateChecked, hm]
  rw [reconcile, ClusterRole.createOrPatch_eq_skeleton, hcp]
  rfl

end Reconcile

/-! ## Runs of reconciles -/

section Run

variable (mergeStringMaps : StringMap → StringMap → StringMap)

/-- A run of reconciles against the store, each of a role for an owner, in order. -/
def reconcileAll (σ : Store) (steps : List (Owner × ClusterRole)) : Store :=
  steps.foldl (fun σ step => (reconcile mergeStringMaps σ step.1 step.2).1) σ

theorem reconcileAll_append (σ : Store) (steps₁ steps₂ : List (Owner × ClusterRole)) :
    reconcileAll mergeStringMaps σ (steps₁ ++ steps₂) =
      reconcileAll mergeStringMaps (reconcileAll mergeStringMaps σ steps₁) steps₂ :=
  List.foldl_append _ _ _ _

variable {mergeStringMaps}

/-- **Every stored role stays well owned, across any interleaving of reconciles.** Whatever
roles are reconciled, for whatever owners, in whatever order, a store whose roles are well
owned keeps them so: no two owner references of a role name one object, and no role gets a
second controller. -/
theorem reconcileAll_wellOwned (steps : List (Owner × ClusterRole)) (hw : σ.WellOwned) :
    (reconcileAll mergeStringMaps σ steps).WellOwned := by
  induction steps generalizing σ with
  | nil => exact hw
  | cons step steps ih => exact ih (hw.reconcile step.1 step.2)

/-- Along any run, a controlled role stays stored, with a controller naming the same object. -/
theorem reconcileAll_keeps_controller (steps : List (Owner × ClusterRole)) (hw : σ.WellOwned)
    {key : NamespacedName} {c : OwnerReference} (h : σ.roles key = some obj)
    (hc : controllerOf obj.metadata.ownerReferences = some c) :
    ∃ obj' c', (reconcileAll mergeStringMaps σ steps).roles key = some obj' ∧
      controllerOf obj'.metadata.ownerReferences = some c' ∧ c'.ident = c.ident := by
  induction steps generalizing σ obj c with
  | nil => exact ⟨obj, c, h, hc, rfl⟩
  | cons step steps ih =>
    obtain ⟨obj', c', h', hc', hid⟩ := reconcile_keeps_controller hw step.1 step.2 h hc
    obtain ⟨obj'', c'', h'', hc'', hid'⟩ := ih (hw.reconcile step.1 step.2) h' hc'
    exact ⟨obj'', c'', h'', hc'', hid'.trans hid⟩

/-- **The first owner to reconcile a role without error keeps it.** In any run of reconciles
on a well-owned store, once a reconcile of `r` for an owner of a kind the scheme knows, with no
`/` in its group or version, reports no error, the role stays stored under its key and
controlled by that owner, by group, kind and name, whatever reconciles of whatever roles by
whatever owners follow. -/
theorem reconcileAll_controller_stable (hw : σ.WellOwned) (steps₁ steps₂ : List (Owner × ClusterRole))
    {owner : Owner} {r : ClusterRole} {gvk : GroupVersionKind} (hgvk : owner.gvk = .ok gvk)
    (hg : '/' ∉ gvk.group.toList) (hv : '/' ∉ gvk.version.toList)
    (hok : (reconcile mergeStringMaps (reconcileAll mergeStringMaps σ steps₁) owner r).2.2 = none) :
    ∃ obj c, (reconcileAll mergeStringMaps σ (steps₁ ++ (owner, r) :: steps₂)).roles r.skeleton.key = some obj ∧
      controllerOf obj.metadata.ownerReferences = some c ∧
      c.ident = some (gvk.group, gvk.kind, owner.meta.name) := by
  obtain ⟨obj, hobj, hc⟩ := reconcile_controls_of_no_error hgvk hok
  have hw' : (reconcile mergeStringMaps (reconcileAll mergeStringMaps σ steps₁) owner r).1.WellOwned :=
    (reconcileAll_wellOwned steps₁ hw).reconcile owner r
  obtain ⟨obj', c, h', hc', hid⟩ := reconcileAll_keeps_controller steps₂ hw' hobj hc
  rw [reconcileAll_append]
  exact ⟨obj', c, h', hc', hid.trans (ident_ownerRefFor _ _ hg hv)⟩

end Run

/-- A second cluster-scoped owner of `clusterOwner`'s kind. -/
def rivalOwner : Owner := ⟨⟨"rival", "", "uid-2", [], [], []⟩, .ok ⟨"example.org", "v1", "Owner"⟩⟩

/-- `clusterOwner` and `rivalOwner` reconcile the same role, one after the other. -/
def contestedRun : List (Owner × ClusterRole) :=
  [(clusterOwner, plainRole), (rivalOwner, plainRole), (clusterOwner, plainRole)]

theorem reconcileAll_wellOwned_contested :
    Store.empty.WellOwned ∧ (reconcileAll mergeKeepBase Store.empty contestedRun).WellOwned :=
  ⟨Store.wellOwned_empty, reconcileAll_wellOwned contestedRun Store.wellOwned_empty⟩

theorem reconcileAll_controller_stable_contested :
    Store.empty.WellOwned ∧ clusterOwner.gvk = .ok ⟨"example.org", "v1", "Owner"⟩ ∧
      '/' ∉ "example.org".toList ∧ '/' ∉ "v1".toList ∧
      (reconcile mergeKeepBase (reconcileAll mergeKeepBase Store.empty []) clusterOwner plainRole).2.2 = none ∧
      ∃ obj c, (reconcileAll mergeKeepBase Store.empty ([] ++ (clusterOwner, plainRole) :: contestedRun.tail)).roles
          plainRole.skeleton.key = some obj ∧
        controllerOf obj.metadata.ownerReferences = some c ∧ c.ident = some ("example.org", "Owner", "owner") := by
  have hok : (reconcile mergeKeepBase (reconcileAll mergeKeepBase Store.empty []) clusterOwner plainRole).2.2 = none := rfl
  exact ⟨Store.wellOwned_empty, rfl, by decide, by decide, hok,
    reconcileAll_controller_stable Store.wellOwned_empty [] contestedRun.tail rfl (by decide) (by decide) hok⟩

/-- The store with `createdRole`, which `clusterOwner` controls. -/
def createdStore : Store := Store.empty.write createdRole

theorem reconcile_of_controlled_rival :
    rivalOwner.meta.«namespace» = "" ∧ rivalOwner.gvk = .ok ⟨"example.org", "v1", "Owner"⟩ ∧
      createdStore.roles plainRole.skeleton.key = some createdRole ∧
      controllerOf createdRole.metadata.ownerReferences = some clusterOwnerRef ∧
      referSameObject clusterOwnerRef (ownerRefFor rivalOwner.meta ⟨"example.org", "v1", "Owner"⟩ true) = false ∧
      reconcile mergeKeepBase createdStore rivalOwner plainRole =
        (createdStore, (⟨0⟩, some (wrapErrorForObject "Error creating clusterrole role" plainRole.skeleton
          (alreadyOwnedError plainRole.skeleton.metadata clusterOwnerRef)))) := by
  have hlive : createdStore.roles plainRole.skeleton.key = some createdRole := Store.write_roles_self _ _
  have hother : referSameObject clusterOwnerRef
      (ownerRefFor rivalOwner.meta ⟨"example.org", "v1", "Owner"⟩ true) = false := by decide
  exact ⟨rfl, rfl, hlive, rfl, hother, reconcile_of_controlled rfl rfl hlive rfl hother⟩

end Clusterrole

end LibCommon
