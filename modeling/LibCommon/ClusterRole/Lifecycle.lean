import LibCommon.ClusterRole.Interleaving
/-!
# Reconciles and deletes

An operator reconciles its cluster roles with `CreateOrPatch` and removes them with `Delete`
when their owner goes away. `deleteRole` is one `Delete` as a transition of the store, `Event`
either call, and `runEvents` a run of them in any order.

`Delete` treats not-found as success, so that it can be repeated: against a store it always
returns nil, and leaves no role under the key and every other role in place; a second
`Delete` changes nothing (`deleteRole_spec`, the lemma the runs below build on). Control over
a stored role changes hands only through its deletion: across any run of reconciles and
deletes, by whatever owners, a controlled role stays stored with a controller naming the same
object unless the run deletes a role of its name, which is how the API server deletes one
(`runEvents_keeps_controller`).
-/

namespace LibCommon

namespace Clusterrole

open Object

theorem Store.ext {σ τ : Store} (h : σ.roles = τ.roles) : σ = τ := by
  cases σ
  cases τ
  cases h
  rfl

/-- The store with nothing under `key`, as a successful `Delete` leaves it. -/
def Store.erase (σ : Store) (key : NamespacedName) : Store where
  roles := Function.update σ.roles key none
  keyed k o h := by
    by_cases hk : k = key
    · subst hk
      simp at h
    · rw [Function.update_noteq hk] at h
      exact σ.keyed k o h

/-- The store after the client's `Delete` of `obj`: erased under its key where the delete
went through. -/
def Store.applyDelete (σ : Store) (obj : RbacClusterRole) : Store :=
  match σ.api.delete obj with
  | none => σ.erase obj.key
  | some _ => σ

/-- One `Delete` of `r`: the store it leaves, and what `Delete` returns. -/
def deleteRole (σ : Store) (r : ClusterRole) : Store × Option GoError :=
  (σ.applyDelete r.clusterrole, ClusterRole.delete σ.api r)

/-- A `Delete` against a store returns nil, and erases the key: it deletes the role stored
there, or finds none, which it does not report. -/
theorem deleteRole_eq (σ : Store) (r : ClusterRole) :
    deleteRole σ r = (σ.erase r.clusterrole.key, none) := by
  rcases h : σ.roles r.clusterrole.key with _ | live
  · have herase : σ.erase r.clusterrole.key = σ :=
      Store.ext (Function.update_eq_self_iff.2 h.symm)
    simp [deleteRole, Store.applyDelete, ClusterRole.delete, Store.api, h, herase]
  · simp [deleteRole, Store.applyDelete, ClusterRole.delete, Store.api, h]

/-- **`Delete` against a store succeeds, leaves no role under the key and every other role
in place, and a second `Delete` changes nothing.** -/
theorem deleteRole_spec (σ : Store) (r : ClusterRole) :
    (deleteRole σ r).2 = none ∧ (deleteRole σ r).1.roles r.clusterrole.key = none ∧
      (∀ key, key ≠ r.clusterrole.key → (deleteRole σ r).1.roles key = σ.roles key) ∧
      deleteRole (deleteRole σ r).1 r = deleteRole σ r := by
  have herase : (σ.erase r.clusterrole.key).erase r.clusterrole.key = σ.erase r.clusterrole.key :=
    Store.ext (Function.update_idem _ _ _)
  rw [deleteRole_eq, deleteRole_eq, herase]
  exact ⟨rfl, Function.update_same _ _ _, fun key hk => Function.update_noteq hk _ _, rfl⟩

theorem Store.WellOwned.erase {σ : Store} (hw : σ.WellOwned) (key : NamespacedName) :
    (σ.erase key).WellOwned := by
  intro k obj h
  by_cases hk : k = key
  · subst hk
    simp [Store.erase] at h
  · exact hw k obj ((Function.update_noteq hk _ _).symm.trans h)

theorem Store.WellOwned.write {σ : Store} (hw : σ.WellOwned) {obj : RbacClusterRole}
    (hobj : Object.WellOwned obj.metadata.ownerReferences) : (σ.write obj).WellOwned := by
  intro k o h
  by_cases hk : k = obj.key
  · subst hk
    rw [Store.write_roles_self, Option.some_inj] at h
    exact h ▸ hobj
  · exact hw k o ((Function.update_noteq hk _ _).symm.trans h)

/-! ## Runs of reconciles and deletes -/

/-- A call of the `clusterrole` package against the API server: a `CreateOrPatch` of a role
for an owner, or a `Delete` of a role. -/
inductive Event where
  | reconcile (owner : Owner) (r : ClusterRole)
  | delete (r : ClusterRole)

section Run

variable (mergeStringMaps : StringMap → StringMap → StringMap)

/-- The store after one call. -/
def Event.apply : Event → Store → Store
  | .reconcile owner r, σ => (Clusterrole.reconcile mergeStringMaps σ owner r).1
  | .delete r, σ => (deleteRole σ r).1

/-- The store after a run of calls, in order. -/
def runEvents (σ : Store) (events : List Event) : Store :=
  events.foldl (fun σ e => e.apply mergeStringMaps σ) σ

/-- A `Delete` of a role of `key`'s name: the one call that removes a stored role. The API
server deletes a cluster role by its name, whatever namespace the role value carries. -/
def Event.Deletes : Event → NamespacedName → Prop
  | .reconcile _ _, _ => False
  | .delete r, key => r.clusterrole.metadata.name = key.name

variable {mergeStringMaps} {σ : Store}

theorem Event.apply_wellOwned (e : Event) (hw : σ.WellOwned) :
    (e.apply mergeStringMaps σ).WellOwned := by
  cases e with
  | reconcile owner r => exact hw.reconcile owner r
  | delete r =>
    rw [Event.apply, deleteRole_eq]
    exact hw.erase _

/-- One call that does not delete a controlled role leaves it stored, with a controller naming
the same object. -/
theorem Event.apply_keeps_controller (e : Event) (hw : σ.WellOwned) {key : NamespacedName}
    {obj : RbacClusterRole} {c : OwnerReference} (h : σ.roles key = some obj)
    (hc : controllerOf obj.metadata.ownerReferences = some c) (hd : ¬ e.Deletes key) :
    ∃ obj' c', (e.apply mergeStringMaps σ).roles key = some obj' ∧
      controllerOf obj'.metadata.ownerReferences = some c' ∧ c'.ident = c.ident := by
  cases e with
  | reconcile owner r => exact reconcile_keeps_controller hw owner r h hc
  | delete r =>
    refine ⟨obj, c, ?_, hc, rfl⟩
    have hkey : key ≠ r.clusterrole.key := fun hk => hd (by rw [hk]; rfl)
    rw [Event.apply, (deleteRole_spec σ r).2.2.1 key hkey, h]

/-- **Control changes hands only through deletion.** Along any run of `CreateOrPatch` and
`Delete` calls on a store whose roles are well owned, by whatever owners, for whatever roles
and in whatever order, a stored role with a controller stays stored, with a controller naming
the same object, unless the run deletes a role of its name. -/
theorem runEvents_keeps_controller (events : List Event) (hw : σ.WellOwned)
    {key : NamespacedName} {obj : RbacClusterRole} {c : OwnerReference} (h : σ.roles key = some obj)
    (hc : controllerOf obj.metadata.ownerReferences = some c) (hd : ∀ e ∈ events, ¬ e.Deletes key) :
    ∃ obj' c', (runEvents mergeStringMaps σ events).roles key = some obj' ∧
      controllerOf obj'.metadata.ownerReferences = some c' ∧ c'.ident = c.ident := by
  induction events generalizing σ obj c with
  | nil => exact ⟨obj, c, h, hc, rfl⟩
  | cons e events ih =>
    obtain ⟨obj', c', h', hc', hid⟩ := e.apply_keeps_controller hw h hc (hd e (List.mem_cons_self _ _))
    obtain ⟨obj'', c'', h'', hc'', hid'⟩ :=
      ih (e.apply_wellOwned hw) h' hc' fun e' he' => hd e' (List.mem_cons_of_mem _ he')
    exact ⟨obj'', c'', h'', hc'', hid'.trans hid⟩

end Run

/-- Another role, which the run below deletes. -/
def otherRole : ClusterRole := ⟨⟨⟨"other-role", "", "", [], [], []⟩, []⟩, 0⟩

/-- `rivalOwner` reconciles `clusterOwner`'s role, another role is deleted, and the role is
reconciled again by its controller. -/
def rivalEvents : List Event :=
  [.reconcile rivalOwner plainRole, .delete otherRole, .reconcile clusterOwner plainRole]

theorem runEvents_keeps_controller_rival :
    createdStore.WellOwned ∧ createdStore.roles plainRole.skeleton.key = some createdRole ∧
      controllerOf createdRole.metadata.ownerReferences = some clusterOwnerRef ∧
      (∀ e ∈ rivalEvents, ¬ e.Deletes plainRole.skeleton.key) ∧
      ∃ obj' c', (runEvents mergeKeepBase createdStore rivalEvents).roles plainRole.skeleton.key = some obj' ∧
        controllerOf obj'.metadata.ownerReferences = some c' ∧ c'.ident = clusterOwnerRef.ident := by
  have hw : createdStore.WellOwned := Store.wellOwned_empty.write ⟨by decide, by decide⟩
  have hlive : createdStore.roles plainRole.skeleton.key = some createdRole := Store.write_roles_self _ _
  have hd : ∀ e ∈ rivalEvents, ¬ e.Deletes plainRole.skeleton.key := by
    simp only [rivalEvents, List.mem_cons, List.mem_singleton, List.not_mem_nil, or_false]
    rintro e (rfl | rfl | rfl) <;> simp only [Event.Deletes, not_false_eq_true]
    decide
  exact ⟨hw, hlive, rfl, hd, runEvents_keeps_controller rivalEvents hw hlive rfl hd⟩

end Clusterrole

end LibCommon
