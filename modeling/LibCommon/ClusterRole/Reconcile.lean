import LibCommon.ClusterRole
import LibCommon.Field
/-!
# Reconciling against a cluster

An operator calls `ClusterRole.CreateOrPatch` on every reconcile of the object that owns the
role. Here the API server is a `Store` of cluster roles, each under its own key, which answers
`Get` and `Delete` from what it holds (not-found for a missing key) and accepts every `Create`
and `Patch`; `reconcile` is one `CreateOrPatch` against it, as a transition of the store.

One reconcile of a role without a namespace by a cluster-scoped owner succeeds whatever the
store holds, as long as no other controller has the role, and leaves the desired rules under the owner's controller reference
(`reconcile_stores_desired`). A reconcile is idempotent: the second one finds nothing to
patch, and leaves store and result as the first did (`reconcile_idem`). That needs one law of
`util.MergeStringMaps`, `MergeIdempotent`. The slip on the annotations line, which merges
from the labels, does not break it: the annotations are rebuilt from the labels on every
reconcile, the same way each time.
-/

namespace LibCommon

namespace Clusterrole

open Object

/-! ## The mutate function settles -/

/-- What a reconcile needs of `util.MergeStringMaps` to settle: merging the same entries in
again changes nothing. -/
def MergeIdempotent (merge : StringMap → StringMap → StringMap) : Prop :=
  ∀ a b, merge (merge a b) b = merge a b

section Mutate

variable {mergeStringMaps : StringMap → StringMap → StringMap} {r : ClusterRole} {owner : Owner}
  {live out : RbacClusterRole}

/-- **The mutate function keeps what it made.** -/
theorem mutate_idem (hmerge : MergeIdempotent mergeStringMaps)
    (hself : ∀ gvk, owner.gvk = .ok gvk → '/' ∉ gvk.group.toList ∧ '/' ∉ gvk.version.toList)
    (h : mutate mergeStringMaps r owner live = .ok out) :
    mutate mergeStringMaps r owner out = .ok out := by
  unfold mutate at h ⊢
  dsimp only at h ⊢
  split at h
  · cases h
  · rename_i m hm
    cases h
    obtain ⟨gvk, -, -, -, rfl⟩ := setControllerReference_eq_ok hm
    dsimp only at hm
    simp only [hmerge _ _, setControllerReference_idem hself hm]

/-- The mutate function succeeds where `SetControllerReference` does: for a cluster-scoped
owner of a kind the scheme knows, on an object no other controller holds. -/
theorem mutate_of_guards {gvk : GroupVersionKind} (hns : owner.meta.«namespace» = "")
    (hgvk : owner.gvk = .ok gvk)
    (hc : ∀ e, controllerOf live.metadata.ownerReferences = some e →
      referSameObject e (ownerRefFor owner.meta gvk true) = true) :
    ∃ out, mutate mergeStringMaps r owner live = .ok out := by
  unfold mutate
  dsimp only
  rw [setControllerReference_of_guards hgvk ?_ ?_]
  · exact ⟨_, rfl⟩
  · simp [validateOwner, hns]
  · exact hc

end Mutate

/-- **`controllerutil.CreateOrPatch` leaves a settled object alone.** Where the live object is
one the mutate function keeps as it is, nothing is created or patched. -/
theorem createOrPatch_of_settled {api : Api} {obj live : RbacClusterRole}
    {f : RbacClusterRole → Except GoError RbacClusterRole}
    (hget : api.get obj.key = .ok live) (hf : f live = .ok live) (hkey : live.key = obj.key) :
    createOrPatch api obj f = .ok (.none, live) := by
  simp [createOrPatch, hget, mutateChecked, hf, hkey]

/-- The object `CreateOrPatch` hands to `controllerutil.CreateOrPatch`: the desired name and
namespace, and nothing else. -/
def ClusterRole.skeleton (r : ClusterRole) : RbacClusterRole :=
  ⟨⟨r.clusterrole.metadata.name, r.clusterrole.metadata.«namespace», "", [], [], []⟩, []⟩

/-- `CreateOrPatch`, stated on `ClusterRole.skeleton`. -/
theorem ClusterRole.createOrPatch_eq_skeleton {mergeStringMaps : StringMap → StringMap → StringMap}
    (api : Api) (owner : Owner) (r : ClusterRole) :
    ClusterRole.createOrPatch mergeStringMaps api owner r =
      match Clusterrole.createOrPatch api r.skeleton (mutate mergeStringMaps r owner) with
      | .error err =>
        if isNotFound err then (⟨r.timeout⟩, none)
        else (⟨0⟩, some (wrapErrorForObject ("Error creating clusterrole " ++ r.clusterrole.metadata.name)
          r.skeleton err))
      | .ok _ => (⟨0⟩, none) :=
  rfl

/-- `CreateOrPatch` returns no error and no requeue once `controllerutil.CreateOrPatch`
succeeds. -/
theorem ClusterRole.createOrPatch_of_ok {mergeStringMaps : StringMap → StringMap → StringMap}
    {r : ClusterRole} {owner : Owner} {api : Api} {res : OperationResult × RbacClusterRole}
    (h : Clusterrole.createOrPatch api r.skeleton (mutate mergeStringMaps r owner) = .ok res) :
    ClusterRole.createOrPatch mergeStringMaps api owner r = (⟨0⟩, none) := by
  unfold ClusterRole.skeleton at h
  simp only [ClusterRole.createOrPatch, h]

/-! ## The API server as a store -/

/-- The cluster roles an API server holds, each under its own key, the namespace and name
`client.ObjectKeyFromObject` reads. The server itself addresses a cluster-scoped object by
its name alone. For a role without a namespace, as a cluster role is, the two keyings agree:
`reconcile_idem` and `reconcile_stores_desired` assume such a role, and a run of deletes counts
a `Delete` by the role's name (`Event.Deletes`). -/
structure Store where
  roles : NamespacedName → Option RbacClusterRole
  keyed : ∀ key obj, roles key = some obj → obj.key = key

/-- What a store holds under an object's key, or else the object, has the object's key. -/
theorem Store.key_getD (σ : Store) (obj : RbacClusterRole) :
    ((σ.roles obj.key).getD obj).key = obj.key := by
  rcases h : σ.roles obj.key with _ | live
  · rfl
  · exact σ.keyed _ _ h

/-- The status a `Get` of a missing cluster role fails with. -/
def notFoundError (key : NamespacedName) : GoError :=
  ⟨"NotFound", "clusterroles.rbac.authorization.k8s.io " ++ quote key.name ++ " not found"⟩

@[simp] theorem isNotFound_notFoundError (key : NamespacedName) :
    isNotFound (notFoundError key) = true := rfl

/-- The API server over a store: `Get` reads it, `Create` and `Patch` succeed, and `Delete`
finds the role or answers not-found. -/
def Store.api (σ : Store) : Api where
  get key :=
    match σ.roles key with
    | some obj => .ok obj
    | none => .error (notFoundError key)
  create _ := none
  patch _ := none
  delete obj :=
    match σ.roles obj.key with
    | some _ => none
    | none => some (notFoundError obj.key)

/-- The store with `obj` under its key, as a successful `Create` or `Patch` leaves it. -/
def Store.write (σ : Store) (obj : RbacClusterRole) : Store where
  roles := Function.update σ.roles obj.key (some obj)
  keyed key o h := by
    by_cases hk : key = obj.key
    · subst hk
      rw [Function.update_same, Option.some_inj] at h
      rw [← h]
    · rw [Function.update_noteq hk] at h
      exact σ.keyed key o h

@[simp] theorem Store.write_roles_self (σ : Store) (obj : RbacClusterRole) :
    (σ.write obj).roles obj.key = some obj :=
  Function.update_same _ _ _

/-- The store after a `controllerutil.CreateOrPatch`: what it created or patched is written. -/
def Store.apply (σ : Store) : Except GoError (OperationResult × RbacClusterRole) → Store
  | .ok (.none, _) => σ
  | .ok (.created, obj) => σ.write obj
  | .ok (.updated, obj) => σ.write obj
  | .error _ => σ

/-- **On a store, `controllerutil.CreateOrPatch` succeeds where the mutate function does**,
on the object stored under the key or, where there is none, on `obj`; and what it made is
then stored under the key. -/
theorem createOrPatch_store {σ : Store} {obj out : RbacClusterRole}
    {f : RbacClusterRole → Except GoError RbacClusterRole}
    (hf : f ((σ.roles obj.key).getD obj) = .ok out) (hkey : out.key = obj.key) :
    ∃ op, createOrPatch σ.api obj f = .ok (op, out) ∧
      (σ.apply (.ok (op, out))).roles obj.key = some out := by
  rcases hlive : σ.roles obj.key with _ | live <;>
    simp only [hlive, Option.getD_none, Option.getD_some] at hf
  · refine ⟨.created, ?_, by simp [Store.apply, ← hkey]⟩
    simp [createOrPatch, Store.api, hlive, mutateChecked, hf, hkey]
  · by_cases hsame : live = out
    · subst hsame
      exact ⟨.none, createOrPatch_of_settled (by simp [Store.api, hlive]) hf hkey, hlive⟩
    · refine ⟨.updated, ?_, by simp [Store.apply, ← hkey]⟩
      simp [createOrPatch, Store.api, hlive, mutateChecked, hf, hkey, hsame]

/-! ## Reconciling -/

section Reconcile

variable (mergeStringMaps : StringMap → StringMap → StringMap)

/-- One reconcile of `r` for `owner`: the store the `controllerutil.CreateOrPatch` of
`CreateOrPatch` leaves, and what `CreateOrPatch` returns. -/
def reconcile (σ : Store) (owner : Owner) (r : ClusterRole) : Store × (Result × Option GoError) :=
  (σ.apply (createOrPatch σ.api r.skeleton (mutate mergeStringMaps r owner)),
    ClusterRole.createOrPatch mergeStringMaps σ.api owner r)

variable {mergeStringMaps} {r : ClusterRole} {owner : Owner}

/-- **One reconcile puts the desired role in place.** For a role without a namespace and a
cluster-scoped owner of a kind the scheme knows, on a store where no other controller holds
the role of that name, the reconcile succeeds and leaves under the role's name an object with
the desired rules, controlled by the owner. -/
theorem reconcile_stores_desired (hscoped : r.clusterrole.metadata.«namespace» = "")
    {gvk : GroupVersionKind} (hns : owner.meta.«namespace» = "") (hgvk : owner.gvk = .ok gvk) (σ : Store)
    (hfree : ∀ live, σ.roles ⟨"", r.clusterrole.metadata.name⟩ = some live →
      ∀ e, controllerOf live.metadata.ownerReferences = some e →
        referSameObject e (ownerRefFor owner.meta gvk true) = true) :
    (reconcile mergeStringMaps σ owner r).2 = (⟨0⟩, none) ∧
      ∃ out, (reconcile mergeStringMaps σ owner r).1.roles ⟨"", r.clusterrole.metadata.name⟩ = some out ∧
        out.rules = r.clusterrole.rules ∧
        controllerOf out.metadata.ownerReferences = some (ownerRefFor owner.meta gvk true) := by
  have hname : r.skeleton.key = ⟨"", r.clusterrole.metadata.name⟩ := hscoped ▸ rfl
  rw [← hname] at hfree ⊢
  have hc : ∀ e, controllerOf ((σ.roles r.skeleton.key).getD r.skeleton).metadata.ownerReferences
      = some e → referSameObject e (ownerRefFor owner.meta gvk true) = true := by
    rcases hlive : σ.roles r.skeleton.key with _ | live
    · exact fun e he => nomatch he
    · exact hfree live hlive
  obtain ⟨out, hout⟩ : ∃ out, mutate mergeStringMaps r owner _ = .ok out :=
    mutate_of_guards hns hgvk hc
  obtain ⟨hrules, -, -, hkey, gvk', hgvk', hrefs⟩ := mutate_eq_ok hout
  obtain rfl : gvk = gvk' := Except.ok.inj (hgvk.symm.trans hgvk')
  obtain ⟨op, hcp, hstore⟩ := createOrPatch_store hout (hkey.trans (σ.key_getD _))
  refine ⟨ClusterRole.createOrPatch_of_ok hcp, out, by simpa only [reconcile, hcp] using hstore,
    hrules, ?_⟩
  rw [hrefs]
  exact controllerOf_upsertOwnerRef rfl _ hc

/-- **Reconciling is idempotent.** A second reconcile of a role for the same owner, on the
store the first left, finds nothing to patch: it leaves the store as it is and returns what
the first returned. The proof does not need the role to be without a namespace; the
hypothesis keeps the theorem to roles the store answers for as the API server does, which
finds a cluster role by name alone, so that a second reconcile of a role with a namespace
fails there on `controllerutil`'s key check. -/
theorem reconcile_idem (_hscoped : r.clusterrole.metadata.«namespace» = "")
    (hmerge : MergeIdempotent mergeStringMaps)
    (hself : ∀ gvk, owner.gvk = .ok gvk → '/' ∉ gvk.group.toList ∧ '/' ∉ gvk.version.toList)
    (σ : Store) :
    reconcile mergeStringMaps (reconcile mergeStringMaps σ owner r).1 owner r =
      reconcile mergeStringMaps σ owner r := by
  rcases hc : createOrPatch σ.api r.skeleton (mutate mergeStringMaps r owner) with err | ⟨op, out⟩
  · simp only [reconcile, hc, Store.apply]
  · obtain ⟨base, hbase, hkey, -⟩ := createOrPatch_eq_ok hc
    have hsettled : createOrPatch (σ.write out).api r.skeleton (mutate mergeStringMaps r owner) =
        .ok (.none, out) :=
      createOrPatch_of_settled (by simp [Store.api, ← hkey]) (mutate_idem hmerge hself hbase) hkey
    cases op with
    | none => simp only [reconcile, hc, Store.apply]
    | created | updated =>
      simp only [reconcile, hc, Store.apply, hsettled, ClusterRole.createOrPatch_of_ok hc,
        ClusterRole.createOrPatch_of_ok hsettled]

end Reconcile

/-- A merge that keeps the base map's entries and adds the other map's new keys. -/
def mergeKeepBase (base extra : StringMap) : StringMap :=
  base ++ extra.filter fun p => p.1 ∉ base.keys

theorem mergeKeepBase_idem : MergeIdempotent mergeKeepBase := by
  intro a b
  unfold mergeKeepBase
  rw [List.append_right_eq_self, List.filter_eq_nil_iff]
  intro p hp hnew
  simp only [decide_eq_true_eq, StringMap.keys, List.map_append, List.mem_append, not_or] at hnew
  exact hnew.2 (List.mem_map_of_mem _ (List.mem_filter.2 ⟨hp, decide_eq_true hnew.1⟩))

/-- The store of a cluster without cluster roles. -/
def Store.empty : Store := ⟨fun _ => none, fun _ _ h => nomatch h⟩

theorem reconcile_stores_desired_plainRole :
    plainRole.clusterrole.metadata.«namespace» = "" ∧ clusterOwner.meta.«namespace» = "" ∧
      clusterOwner.gvk = .ok ⟨"example.org", "v1", "Owner"⟩ ∧
      (∀ live, Store.empty.roles ⟨"", plainRole.clusterrole.metadata.name⟩ = some live →
        ∀ e, controllerOf live.metadata.ownerReferences = some e →
          referSameObject e clusterOwnerRef = true) ∧
      (reconcile mergeKeepBase Store.empty clusterOwner plainRole).2 = (⟨0⟩, none) ∧
      ∃ out, (reconcile mergeKeepBase Store.empty clusterOwner plainRole).1.roles
          ⟨"", plainRole.clusterrole.metadata.name⟩ = some out ∧
        out.rules = plainRole.clusterrole.rules ∧
        controllerOf out.metadata.ownerReferences = some clusterOwnerRef := by
  have hfree : ∀ live, Store.empty.roles ⟨"", plainRole.clusterrole.metadata.name⟩ = some live →
      ∀ e, controllerOf live.metadata.ownerReferences = some e →
        referSameObject e clusterOwnerRef = true := fun _ h => nomatch h
  exact ⟨rfl, rfl, rfl, hfree, reconcile_stores_desired rfl rfl rfl Store.empty hfree⟩

theorem reconcile_idem_plainRole :
    plainRole.clusterrole.metadata.«namespace» = "" ∧ MergeIdempotent mergeKeepBase ∧
      (∀ gvk, clusterOwner.gvk = .ok gvk → '/' ∉ gvk.group.toList ∧ '/' ∉ gvk.version.toList) ∧
      reconcile mergeKeepBase (reconcile mergeKeepBase Store.empty clusterOwner plainRole).1
        clusterOwner plainRole = reconcile mergeKeepBase Store.empty clusterOwner plainRole := by
  have hself : ∀ gvk, clusterOwner.gvk = .ok gvk →
      '/' ∉ gvk.group.toList ∧ '/' ∉ gvk.version.toList := by
    rintro gvk ⟨⟩
    decide
  exact ⟨rfl, mergeKeepBase_idem, hself, reconcile_idem rfl mergeKeepBase_idem hself Store.empty⟩

end Clusterrole

end LibCommon
