import LibCommon.Object.OwnerRef
/-!
# ClusterRole reconciliation

`clusterrole.ClusterRole` wraps a desired `rbacv1.ClusterRole` and a requeue timeout.
`CreateOrPatch` hands `controllerutil.CreateOrPatch` a mutate function that writes the
desired labels, annotations and rules onto the live object and makes the caller its
controller; a not-found anywhere in that transaction becomes a requeue after the timeout,
any other failure is wrapped and returned. `Delete` treats not-found as done.

The labels are merged with the live ones and the rules replaced, as intended. The
annotations are merged too, but from the object's *labels*, just merged, instead of its
annotations (`clusterrole.Labels` on the line that sets `clusterrole.Annotations`): a live
annotation survives only when a label or a desired annotation has its key, and every label
key becomes an annotation key (`mutate_annotations_keys`).

`util.MergeStringMaps` is not among the sources; it is the parameter `mergeStringMaps`, and
`MergesKeys` is all that is assumed of it.
-/

namespace LibCommon

namespace Clusterrole

open Object

/-- An `rbacv1.PolicyRule`. -/
structure PolicyRule where
  verbs : List String
  apiGroups : List String
  resources : List String
  resourceNames : List String
  nonResourceURLs : List String
  deriving DecidableEq, Repr

/-- An `rbacv1.ClusterRole`. Its `AggregationRule` is not read here. -/
structure RbacClusterRole where
  metadata : ObjectMeta
  rules : List PolicyRule
  deriving DecidableEq, Repr

/-- A `clusterrole.ClusterRole`: the desired object, and the requeue timeout, a
`time.Duration` in nanoseconds. -/
structure ClusterRole where
  clusterrole : RbacClusterRole
  timeout : Int
  deriving DecidableEq, Repr

/-- `NewClusterRole`. -/
def newClusterRole (clusterrole : RbacClusterRole) (timeout : Int) : ClusterRole :=
  ⟨clusterrole, timeout⟩

/-- What is assumed of `util.MergeStringMaps`: the keys of a merge are the keys of either
map, whichever value it keeps for a shared key. -/
def MergesKeys (merge : StringMap → StringMap → StringMap) : Prop :=
  ∀ a b k, k ∈ (merge a b).keys ↔ k ∈ a.keys ∨ k ∈ b.keys

/-- Modelled from the spec: `util.WrapErrorForObject`, absent from the sources, which wraps
an error with the object's name and type and propagates it (`%w`, so its reason stays). -/
def wrapErrorForObject (msg : String) (object : RbacClusterRole) (err : GoError) : GoError :=
  err.wrap (msg ++ " *v1.ClusterRole " ++ object.metadata.name ++ ": ")

/-- A `ctrl.Result`; only `RequeueAfter` is set here. -/
structure Result where
  requeueAfter : Int
  deriving DecidableEq, Repr

/-- A `controllerutil.OperationResult`. -/
inductive OperationResult where
  | none
  | created
  | updated
  deriving DecidableEq, Repr

/-- The API server as one `CreateOrPatch` or `Delete` meets it: the object under a name, and
the answers to `Create`, `Patch` and `Delete`. -/
structure Api where
  get : NamespacedName → Except GoError RbacClusterRole
  create : RbacClusterRole → Option GoError
  patch : RbacClusterRole → Option GoError
  delete : RbacClusterRole → Option GoError

/-- The key `client.ObjectKeyFromObject` reads. -/
def RbacClusterRole.key (obj : RbacClusterRole) : NamespacedName :=
  ⟨obj.metadata.«namespace», obj.metadata.name⟩

/-- `controllerutil`'s `mutate`: the mutate function, then the check that it kept the key. -/
def mutateChecked (f : RbacClusterRole → Except GoError RbacClusterRole) (key : NamespacedName)
    (obj : RbacClusterRole) : Except GoError RbacClusterRole :=
  match f obj with
  | .error err => .error err
  | .ok obj =>
    if obj.key ≠ key then .error (errorf "MutateFn cannot mutate object name and/or object namespace")
    else .ok obj

/-- `controllerutil.CreateOrPatch` for a cluster role, which has no status: the live object,
or, when there is none, `obj`, is mutated; a new object is created, a changed one patched.
It returns the outcome and the object as it stands in memory. -/
def createOrPatch (api : Api) (obj : RbacClusterRole)
    (f : RbacClusterRole → Except GoError RbacClusterRole) :
    Except GoError (OperationResult × RbacClusterRole) :=
  match api.get obj.key with
  | .error err =>
    if !isNotFound err then .error err
    else
      match mutateChecked f obj.key obj with
      | .error err => .error err
      | .ok obj =>
        match api.create obj with
        | some err => .error err
        | none => .ok (.created, obj)
  | .ok live =>
    match mutateChecked f obj.key live with
    | .error err => .error err
    | .ok after =>
      if live = after then .ok (.none, after)
      else
        match api.patch after with
        | some err => .error err
        | none => .ok (.updated, after)

section Reconcile

variable (mergeStringMaps : StringMap → StringMap → StringMap)

/-- The function `CreateOrPatch` hands to `controllerutil.CreateOrPatch`, on the object as
the latter loaded it: labels merged with the desired ones, annotations merged from the
merged labels and the desired annotations, the desired rules, and `owner`
(`h.GetBeforeObject()`) as controller. -/
def mutate (r : ClusterRole) (owner : Owner) (clusterrole : RbacClusterRole) :
    Except GoError RbacClusterRole :=
  let labels := mergeStringMaps clusterrole.metadata.labels r.clusterrole.metadata.labels
  let annotations := mergeStringMaps labels r.clusterrole.metadata.annotations
  let metadata := { clusterrole.metadata with labels, annotations }
  match setControllerReference owner metadata with
  | .error err => .error err
  | .ok metadata => .ok ⟨metadata, r.clusterrole.rules⟩

/-- `(*ClusterRole).CreateOrPatch`, with the client as `api` and `h.GetBeforeObject()` as
`owner`. The logging is left out. -/
def ClusterRole.createOrPatch (api : Api) (owner : Owner) (r : ClusterRole) :
    Result × Option GoError :=
  let clusterrole : RbacClusterRole :=
    ⟨⟨r.clusterrole.metadata.name, r.clusterrole.metadata.«namespace», "", [], [], []⟩, []⟩
  match Clusterrole.createOrPatch api clusterrole (mutate mergeStringMaps r owner) with
  | .error err =>
    if isNotFound err then (⟨r.timeout⟩, none)
    else (⟨0⟩, some (wrapErrorForObject ("Error creating clusterrole " ++ clusterrole.metadata.name)
      clusterrole err))
  | .ok _ => (⟨0⟩, none)

/-! ## What the mutate function writes -/

variable {mergeStringMaps} {r : ClusterRole} {owner : Owner} {live out : RbacClusterRole}

/-- **The mutate function, where it succeeds.** The desired rules; the merged labels;
annotations merged from those labels and the desired annotations; the same name and
namespace; and the owner's controller reference upserted into the live ones. -/
theorem mutate_eq_ok (h : mutate mergeStringMaps r owner live = .ok out) :
    out.rules = r.clusterrole.rules ∧
      out.metadata.labels = mergeStringMaps live.metadata.labels r.clusterrole.metadata.labels ∧
      out.metadata.annotations = mergeStringMaps
        (mergeStringMaps live.metadata.labels r.clusterrole.metadata.labels)
        r.clusterrole.metadata.annotations ∧
      out.key = live.key ∧
      ∃ gvk, owner.gvk = .ok gvk ∧ out.metadata.ownerReferences =
        upsertOwnerRef (ownerRefFor owner.meta gvk true) live.metadata.ownerReferences := by
  unfold mutate at h
  dsimp only at h
  split at h
  · cases h
  · rename_i m hm
    cases h
    obtain ⟨gvk, hgvk, -, -, rfl⟩ := setControllerReference_eq_ok hm
    exact ⟨rfl, rfl, rfl, rfl, gvk, hgvk, rfl⟩

/-- On owner references, the mutate function is `SetControllerReference` on the live ones. -/
theorem mutate_ownerReferences (h : mutate mergeStringMaps r owner live = .ok out) :
    ∃ m : ObjectMeta, m.ownerReferences = live.metadata.ownerReferences ∧
      setControllerReference owner m = .ok out.metadata := by
  unfold mutate at h
  dsimp only at h
  split at h
  · cases h
  · rename_i hs
    cases h
    exact ⟨_, by rfl, hs⟩

/-- The mutate function fails only where `SetControllerReference` fails, on the live object
with the merged labels and annotations. -/
theorem mutate_eq_error {err : GoError} (h : mutate mergeStringMaps r owner live = .error err) :
    setControllerReference owner { live.metadata with
      labels := mergeStringMaps live.metadata.labels r.clusterrole.metadata.labels,
      annotations := mergeStringMaps (mergeStringMaps live.metadata.labels r.clusterrole.metadata.labels)
        r.clusterrole.metadata.annotations } = .error err := by
  unfold mutate at h
  dsimp only at h
  split at h
  · cases h
    assumption
  · cases h

/-- **The annotations are keyed by the labels.** Under `MergesKeys`, the annotation keys the
mutate function writes are the live labels', the desired labels' and the desired
annotations': the live annotations play no part. -/
theorem mutate_annotations_keys (hm : MergesKeys mergeStringMaps)
    (h : mutate mergeStringMaps r owner live = .ok out) (k : String) :
    k ∈ out.metadata.annotations.keys ↔ k ∈ live.metadata.labels.keys ∨
      k ∈ r.clusterrole.metadata.labels.keys ∨ k ∈ r.clusterrole.metadata.annotations.keys := by
  rw [(mutate_eq_ok h).2.2.1, hm, hm, or_assoc]

/-! ## What a reconcile leaves -/

theorem mutateChecked_eq_ok {f : RbacClusterRole → Except GoError RbacClusterRole}
    {key : NamespacedName} {obj out : RbacClusterRole} (h : mutateChecked f key obj = .ok out) :
    f obj = .ok out ∧ out.key = key := by
  unfold mutateChecked at h
  split at h
  · cases h
  · split_ifs at h with hk
    cases h
    exact ⟨‹_›, not_not.mp hk⟩

theorem mutateChecked_eq_error {f : RbacClusterRole → Except GoError RbacClusterRole}
    {key : NamespacedName} {obj : RbacClusterRole} {err : GoError}
    (h : mutateChecked f key obj = .error err) :
    f obj = .error err ∨ err = errorf "MutateFn cannot mutate object name and/or object namespace" := by
  unfold mutateChecked at h
  split at h
  · cases h
    exact .inl ‹_›
  · split_ifs at h
    cases h
    exact .inr rfl

/-- **What a successful `controllerutil.CreateOrPatch` did.** The object it leaves is what
the mutate function made of the live object, which it then found unchanged or patched, or,
where a `Get` found none, of `obj`, which it then created; either way under `obj`'s key. -/
theorem createOrPatch_eq_ok {api : Api} {obj : RbacClusterRole}
    {f : RbacClusterRole → Except GoError RbacClusterRole} {op : OperationResult}
    (h : createOrPatch api obj f = .ok (op, out)) :
    ∃ base, f base = .ok out ∧ out.key = obj.key ∧
      ((api.get obj.key = .ok base ∧ (op = .none ∧ base = out ∨ op = .updated ∧ api.patch out = none)) ∨
        ((∃ err, api.get obj.key = .error err ∧ isNotFound err = true) ∧ base = obj ∧
          op = .created ∧ api.create out = none)) := by
  unfold createOrPatch at h
  split at h
  · rename_i err hget
    split_ifs at h with hnf
    split at h
    · cases h
    · rename_i base hm
      split at h
      · cases h
      · cases h
        exact ⟨_, (mutateChecked_eq_ok hm).1, (mutateChecked_eq_ok hm).2,
          .inr ⟨⟨err, hget, by simpa using hnf⟩, rfl, rfl, ‹_›⟩⟩
  · rename_i live hget
    split at h
    · cases h
    · rename_i after hm
      obtain ⟨hf, hk⟩ := mutateChecked_eq_ok hm
      split_ifs at h with hsame
      · cases h
        exact ⟨live, hf, hk, .inl ⟨hget, .inl ⟨rfl, hsame⟩⟩⟩
      · split at h
        · cases h
        · cases h
          exact ⟨live, hf, hk, .inl ⟨hget, .inr ⟨rfl, ‹_›⟩⟩⟩

/-- **A successful reconcile leaves the desired rules, under the owner's control.** Whatever
the API answers, when the `controllerutil.CreateOrPatch` of `CreateOrPatch` succeeds, the
object it created, patched or found unchanged has the desired rules and name, and carries
the owner's controller reference. -/
theorem createOrPatch_mutate_eq_ok (api : Api) {op : OperationResult}
    (h : createOrPatch api ⟨⟨r.clusterrole.metadata.name, r.clusterrole.metadata.«namespace»,
      "", [], [], []⟩, []⟩ (mutate mergeStringMaps r owner) = .ok (op, out)) :
    out.rules = r.clusterrole.rules ∧
      out.key = ⟨r.clusterrole.metadata.«namespace», r.clusterrole.metadata.name⟩ ∧
      ∃ gvk, owner.gvk = .ok gvk ∧ ownerRefFor owner.meta gvk true ∈ out.metadata.ownerReferences := by
  obtain ⟨base, hbase, hkey, -⟩ := createOrPatch_eq_ok h
  obtain ⟨hrules, -, -, -, gvk, hgvk, hrefs⟩ := mutate_eq_ok hbase
  exact ⟨hrules, hkey, gvk, hgvk, hrefs ▸ mem_upsertOwnerRef _⟩

/-- **A reconcile never reports not-found.** It requeues after the timeout without an error,
succeeds, or fails with an error whose reason is not not-found. -/
theorem ClusterRole.createOrPatch_result (api : Api) (owner : Owner) (r : ClusterRole) :
    ClusterRole.createOrPatch mergeStringMaps api owner r = (⟨r.timeout⟩, none) ∨
      ClusterRole.createOrPatch mergeStringMaps api owner r = (⟨0⟩, none) ∨
      ∃ err, ClusterRole.createOrPatch mergeStringMaps api owner r = (⟨0⟩, some err) ∧
        isNotFound err = false := by
  unfold ClusterRole.createOrPatch
  dsimp only
  split
  · split_ifs with hnf
    · exact .inl rfl
    · exact .inr (.inr ⟨_, rfl, by simpa [wrapErrorForObject] using hnf⟩)
  · exact .inr (.inl rfl)

end Reconcile

/-- A role that asks for no labels and no annotations. -/
def plainRole : ClusterRole := ⟨⟨⟨"role", "", "", [], [], []⟩, []⟩, 0⟩

/-- Its live object, with the label `app` and the annotation `note`. -/
def annotatedLive : RbacClusterRole := ⟨⟨"role", "", "uid-1", [("app", "x")], [("note", "keep")], []⟩, []⟩

/-- A cluster-scoped owner of a kind the scheme knows. -/
def clusterOwner : Owner := ⟨⟨"owner", "", "uid-0", [], [], []⟩, .ok ⟨"example.org", "v1", "Owner"⟩⟩

/-- On `annotatedLive`, the live annotation `note` is dropped and the label `app` becomes an
annotation, for every `util.MergeStringMaps` that merges keys. -/
theorem mutate_drops_live_annotation (merge : StringMap → StringMap → StringMap)
    (hm : MergesKeys merge) :
    ∃ out, mutate merge plainRole clusterOwner annotatedLive = .ok out ∧
      "app" ∈ out.metadata.annotations.keys ∧ "note" ∉ out.metadata.annotations.keys := by
  have hok : ∃ out, mutate merge plainRole clusterOwner annotatedLive = .ok out :=
    ⟨_, rfl⟩
  obtain ⟨out, hout⟩ := hok
  refine ⟨out, hout, ?_, ?_⟩
  · rw [mutate_annotations_keys hm hout]
    simp [annotatedLive, StringMap.keys]
  · rw [mutate_annotations_keys hm hout]
    simp [annotatedLive, plainRole, StringMap.keys]

/-- Appending is a merge that merges keys. -/
theorem mergesKeys_append : MergesKeys (· ++ ·) := by
  intro a b k
  simp [StringMap.keys]

/-- The controller reference `clusterOwner` sets. -/
def clusterOwnerRef : OwnerReference := ownerRefFor clusterOwner.meta ⟨"example.org", "v1", "Owner"⟩ true

theorem mutate_annotations_keys_append :
    MergesKeys (· ++ ·) ∧
      mutate (· ++ ·) plainRole clusterOwner annotatedLive =
        .ok ⟨⟨"role", "", "uid-1", [("app", "x")], [("app", "x")], [clusterOwnerRef]⟩, []⟩ ∧
      ("app" ∈ StringMap.keys [("app", "x")] ↔ "app" ∈ annotatedLive.metadata.labels.keys ∨
        "app" ∈ plainRole.clusterrole.metadata.labels.keys ∨
        "app" ∈ plainRole.clusterrole.metadata.annotations.keys) := by
  have h : mutate (· ++ ·) plainRole clusterOwner annotatedLive =
      .ok ⟨⟨"role", "", "uid-1", [("app", "x")], [("app", "x")], [clusterOwnerRef]⟩, []⟩ := rfl
  exact ⟨mergesKeys_append, h, mutate_annotations_keys mergesKeys_append h "app"⟩

/-- An API server with no such object yet, which accepts whatever it is sent. -/
def emptyApi : Api :=
  ⟨fun _ => .error ⟨"NotFound", "not found"⟩, fun _ => none, fun _ => none, fun _ => none⟩

/-- What `CreateOrPatch` creates for `plainRole` on `emptyApi`. -/
def createdRole : RbacClusterRole := ⟨⟨"role", "", "", [], [], [clusterOwnerRef]⟩, []⟩

theorem createOrPatch_mutate_eq_ok_created :
    createOrPatch emptyApi ⟨⟨plainRole.clusterrole.metadata.name,
        plainRole.clusterrole.metadata.«namespace», "", [], [], []⟩, []⟩
        (mutate (· ++ ·) plainRole clusterOwner) = .ok (.created, createdRole) ∧
      createdRole.rules = plainRole.clusterrole.rules ∧
      createdRole.key = ⟨plainRole.clusterrole.metadata.«namespace», plainRole.clusterrole.metadata.name⟩ ∧
      ∃ gvk, clusterOwner.gvk = .ok gvk ∧
        ownerRefFor clusterOwner.meta gvk true ∈ createdRole.metadata.ownerReferences := by
  have h : createOrPatch emptyApi ⟨⟨plainRole.clusterrole.metadata.name,
      plainRole.clusterrole.metadata.«namespace», "", [], [], []⟩, []⟩
      (mutate (· ++ ·) plainRole clusterOwner) = .ok (.created, createdRole) := rfl
  exact ⟨h, createOrPatch_mutate_eq_ok emptyApi h⟩

theorem mutate_drops_live_annotation_append :
    MergesKeys (· ++ ·) ∧ ∃ out, mutate (· ++ ·) plainRole clusterOwner annotatedLive = .ok out ∧
      "app" ∈ out.metadata.annotations.keys ∧ "note" ∉ out.metadata.annotations.keys :=
  ⟨mergesKeys_append, mutate_drops_live_annotation _ mergesKeys_append⟩

/-- `(*ClusterRole).Delete`. -/
def ClusterRole.delete (api : Api) (r : ClusterRole) : Option GoError :=
  match api.delete r.clusterrole with
  | some err =>
    if !isNotFound err then
      some (err.wrap ("Error deleting clusterrole " ++ r.clusterrole.metadata.name ++ ": "))
    else none
  | none => none

/-- **Deleting is idempotent.** `Delete` succeeds exactly when the API deleted the object or
found none; its error otherwise is the API's, wrapped, and never not-found. -/
theorem ClusterRole.delete_eq (api : Api) (r : ClusterRole) :
    (ClusterRole.delete api r = none ↔ ∀ err, api.delete r.clusterrole = some err → isNotFound err) ∧
      ∀ err, ClusterRole.delete api r = some err → isNotFound err = false := by
  unfold ClusterRole.delete
  split
  · rename_i err herr
    split_ifs with hnf <;> simp_all
  · simp_all

end Clusterrole

end LibCommon
