import LibCommon.Object.OwnerRef
/-!
# Owner references, as a map and as a state machine

An object's owner references change only through `upsertOwnerRef`: `SetOwnerReference`, which
`EnsureOwnerRef` calls, and `SetControllerReference`, which every `ClusterRole` reconcile
calls, build a reference and upsert it. Read through `OwnerReference.ident`, the group, kind
and name a reference names, the list is a **map**, and the upsert is its insert
(`lookupRef_upsertOwnerRef`): `EnsureOwnerRef` replaces the reference it finds for its owner,
a stale UID included, and keeps every other one (`lookupRef_ensureOwnerRef`).

Two properties make a list **well owned** (`WellOwned`): no two references name one object,
and at most one is a controller's. Every operation keeps them (`RefOp.apply_wellOwned`), and
along any run of operations, by any owners in any order, the controller keeps naming the same
object unless an `EnsureOwnerRef` by that object's owner demotes it
(`RefOp.run_keeps_controller`).
-/

namespace LibCommon

/-! ## The object a reference names -/

/-- The object a reference names, as `referSameObject` compares references: its group, kind
and name, where its `apiVersion` parses. -/
def OwnerReference.ident (r : OwnerReference) : Option (String × String × String) :=
  match parseGroupVersion r.apiVersion with
  | .ok gv => some (gv.group, r.kind, r.name)
  | .error _ => none

namespace Object

/-- `referSameObject` holds exactly when both references name one object. -/
theorem referSameObject_iff (a b : OwnerReference) :
    referSameObject a b = true ↔ a.ident.isSome ∧ a.ident = b.ident := by
  rcases ha : parseGroupVersion a.apiVersion with _ | gva <;>
    rcases hb : parseGroupVersion b.apiVersion with _ | gvb <;>
    simp [referSameObject, OwnerReference.ident, ha, hb, and_assoc]

theorem referSameObject_comm (a b : OwnerReference) : referSameObject a b = referSameObject b a := by
  refine Bool.eq_iff_iff.2 ?_
  simp only [referSameObject_iff]
  exact ⟨fun ⟨h, e⟩ => ⟨e ▸ h, e.symm⟩, fun ⟨h, e⟩ => ⟨e ▸ h, e.symm⟩⟩

theorem referSameObject_trans {a b c : OwnerReference} (hab : referSameObject a b = true)
    (hbc : referSameObject b c = true) : referSameObject a c = true := by
  rw [referSameObject_iff] at *
  exact ⟨hab.1, hab.2.trans hbc.2⟩

variable {ref x : OwnerReference} {refs : List OwnerReference}

theorem mem_upsertOwnerRef_cases (h : x ∈ upsertOwnerRef ref refs) : x = ref ∨ x ∈ refs := by
  unfold upsertOwnerRef at h
  split at h
  · simpa [or_comm] using h
  · exact (List.mem_or_eq_of_mem_set h).symm

/-- A reference the upsert does not replace stays. -/
theorem mem_upsertOwnerRef_of_mem (h : x ∈ refs) (hx : referSameObject x ref = false) :
    x ∈ upsertOwnerRef ref refs := by
  induction refs with
  | nil => cases h
  | cons r rs ih =>
    rw [upsertOwnerRef_cons]
    rcases List.mem_cons.1 h with rfl | h
    · simp [hx]
    · split_ifs
      · exact List.mem_cons_of_mem _ h
      · exact List.mem_cons_of_mem _ (ih h)

/-! ## The references as a map -/

/-- The reference a list holds for the object `k`: the first that names it. -/
def lookupRef (refs : List OwnerReference) (k : String × String × String) :
    Option OwnerReference :=
  refs.find? fun r => r.ident = some k

theorem lookupRef_cons (r : OwnerReference) (rs : List OwnerReference) (k : String × String × String) :
    lookupRef (r :: rs) k = if r.ident = some k then some r else lookupRef rs k := by
  by_cases h : r.ident = some k <;> simp [lookupRef, List.find?_cons, h]

/-- **The upsert is a map insert.** After `upsertOwnerRef ref`, the object `ref` names maps
to `ref`, and every other object to the reference it had. -/
theorem lookupRef_upsertOwnerRef (ref : OwnerReference) (refs : List OwnerReference)
    (k : String × String × String) :
    lookupRef (upsertOwnerRef ref refs) k =
      if ref.ident = some k then some ref else lookupRef refs k := by
  induction refs with
  | nil => simp [lookupRef_cons, lookupRef]
  | cons r rs ih =>
    rw [upsertOwnerRef_cons]
    by_cases hr : referSameObject r ref = true
    · rw [if_pos hr, lookupRef_cons, lookupRef_cons, ((referSameObject_iff r ref).1 hr).2]
      split_ifs <;> rfl
    · rw [if_neg hr, lookupRef_cons, lookupRef_cons, ih]
      by_cases hk : ref.ident = some k
      · have hrk : r.ident ≠ some k := fun hrk =>
          hr ((referSameObject_iff r ref).2 ⟨by simp [hrk], hrk.trans hk.symm⟩)
        simp [hk, hrk]
      · simp [hk]

/-! ## Well-owned reference lists -/

/-- No two references name one object. -/
def Distinct (refs : List OwnerReference) : Prop :=
  refs.Pairwise fun a b => referSameObject a b = false

instance (refs : List OwnerReference) : Decidable (Distinct refs) :=
  inferInstanceAs (Decidable (List.Pairwise _ _))

theorem Distinct.upsertOwnerRef (h : Distinct refs) (ref : OwnerReference) :
    Distinct (upsertOwnerRef ref refs) := by
  induction refs with
  | nil => exact List.pairwise_singleton _ _
  | cons r rs ih =>
    rw [Distinct, List.pairwise_cons] at h
    rw [upsertOwnerRef_cons]
    split_ifs with hr
    · refine List.pairwise_cons.2 ⟨fun x hx => Bool.eq_false_iff.2 fun hrx => ?_, h.2⟩
      simpa [h.1 x hx] using referSameObject_trans hr hrx
    · refine List.pairwise_cons.2 ⟨fun x hx => ?_, ih h.2⟩
      rcases mem_upsertOwnerRef_cases hx with rfl | hx
      · simpa using hr
      · exact h.1 x hx

/-- The controller references of a list. -/
def controllers (refs : List OwnerReference) : List OwnerReference :=
  refs.filter fun r => r.controller = some true

theorem controllerOf_eq_head_controllers (refs : List OwnerReference) :
    controllerOf refs = (controllers refs).head? := by
  induction refs with
  | nil => rfl
  | cons r rs ih =>
    by_cases h : r.controller = some true <;>
      simp [controllerOf, controllers, List.filter_cons, h, ih]

/-- An upsert of a reference that is not a controller's adds no controller. -/
theorem controllers_upsertOwnerRef_sublist (hc : ref.controller ≠ some true)
    (refs : List OwnerReference) :
    (controllers (upsertOwnerRef ref refs)).Sublist (controllers refs) := by
  induction refs with
  | nil => simp [controllers, hc]
  | cons r rs ih =>
    rw [upsertOwnerRef_cons]
    unfold controllers at ih ⊢
    split_ifs
    · rw [List.filter_cons_of_neg (by simpa using hc)]
      exact (List.sublist_cons_self r rs).filter _
    · by_cases hr : r.controller = some true <;> simp [List.filter_cons, hr, ih]

/-- **An upsert over the controller replaces it.** Upserting `ref` into a list of distinct
references whose controllers all name `ref`'s object leaves `ref` as the only controller there
can be: the one reference naming that object is the one replaced. -/
theorem controllers_upsertOwnerRef_of_names (hd : Distinct refs)
    (hall : ∀ c ∈ controllers refs, referSameObject c ref = true) :
    controllers (upsertOwnerRef ref refs) = controllers [ref] := by
  induction refs with
  | nil => rfl
  | cons r rs ih =>
    rw [Distinct, List.pairwise_cons] at hd
    have hall' : ∀ c ∈ controllers rs, referSameObject c ref = true := fun c hc' =>
      hall c (List.Sublist.subset ((List.sublist_cons_self r rs).filter _) hc')
    rw [upsertOwnerRef_cons]
    split_ifs with hr
    · have hnone : controllers rs = [] := List.eq_nil_iff_forall_not_mem.2 fun c hc' => by
        simpa [hd.1 c (List.mem_filter.1 hc').1] using
          referSameObject_trans hr ((referSameObject_comm ref c).trans (hall' c hc'))
      unfold controllers at hnone ⊢
      rw [List.filter_cons, List.filter_cons, hnone, List.filter_nil]
    · have hrc : ¬ r.controller = some true := fun hrc =>
        hr (hall r (List.mem_filter.2 ⟨List.mem_cons_self _ _, by simpa using hrc⟩))
      simp only [controllers, List.filter_cons, hrc, decide_False] at ih ⊢
      exact ih hd.2 hall'

/-- An upsert of a controller reference, into a list of distinct references whose controllers
all name the same object, leaves it the only controller. -/
theorem controllers_upsertOwnerRef_of_controls (hc : ref.controller = some true)
    (hd : Distinct refs) (hall : ∀ c ∈ controllers refs, referSameObject c ref = true) :
    controllers (upsertOwnerRef ref refs) = [ref] := by
  rw [controllers_upsertOwnerRef_of_names hd hall]
  simp [controllers, hc]

/-- **A well-owned list of owner references**: what every operation on an object's owner
references keeps. -/
structure WellOwned (refs : List OwnerReference) : Prop where
  /-- No two references name one object. -/
  distinct : Distinct refs
  /-- At most one reference is a controller's. -/
  oneController : (controllers refs).length ≤ 1

/-- An object with no owner references, as `CreateOrPatch` builds it, is well owned. -/
theorem WellOwned.nil : WellOwned [] := ⟨List.Pairwise.nil, Nat.zero_le 1⟩

/-- In a well-owned list, what holds of the controller `controllerOf` finds holds of every
controller reference. -/
theorem WellOwned.forall_controllers {P : OwnerReference → Prop} (h : WellOwned refs)
    (hp : ∀ e, controllerOf refs = some e → P e) : ∀ c ∈ controllers refs, P c := by
  rw [controllerOf_eq_head_controllers] at hp
  have hlen := h.oneController
  generalize controllers refs = cs at hp hlen
  rcases cs with _ | ⟨c₀, _ | ⟨c₁, cs⟩⟩
  · exact fun c hc => absurd hc (List.not_mem_nil c)
  · intro c hc
    rw [List.mem_singleton.1 hc]
    exact hp c₀ rfl
  · simp at hlen

theorem WellOwned.upsertOwnerRef (h : WellOwned refs) (hc : ref.controller ≠ some true) :
    WellOwned (upsertOwnerRef ref refs) :=
  ⟨h.distinct.upsertOwnerRef ref,
    Nat.le_trans (controllers_upsertOwnerRef_sublist hc refs).length_le h.oneController⟩

/-- The only controller of a well-owned list is the one `controllerOf` finds. -/
theorem WellOwned.controllers_eq (h : WellOwned refs) {c : OwnerReference}
    (hc : controllerOf refs = some c) : controllers refs = [c] := by
  rw [controllerOf_eq_head_controllers] at hc
  have hlen := h.oneController
  rcases hcs : controllers refs with _ | ⟨c₀, _ | ⟨c₁, cs⟩⟩ <;> simp_all

/-! ## The two setters -/

variable {owner : Owner} {m m' : ObjectMeta}

/-- What a successful `SetOwnerReference` did, guards included. -/
theorem setOwnerReference_eq_ok_inv (h : setOwnerReference owner m = .ok m') :
    ∃ gvk, owner.gvk = .ok gvk ∧ validateOwner owner.meta m = none ∧
      m' = { m with ownerReferences :=
        upsertOwnerRef (ownerRefFor owner.meta gvk false) m.ownerReferences } := by
  unfold setOwnerReference at h
  split at h
  · cases h
  · rename_i hvalid
    split at h
    · cases h
    · rename_i gvk hgvk
      exact ⟨gvk, hgvk, hvalid, (Except.ok.inj h).symm⟩

/-- `SetOwnerReference` keeps a list well owned, and adds no controller. -/
theorem setOwnerReference_wellOwned (h : setOwnerReference owner m = .ok m')
    (hw : WellOwned m.ownerReferences) :
    WellOwned m'.ownerReferences ∧
      (controllers m'.ownerReferences).Sublist (controllers m.ownerReferences) := by
  obtain ⟨gvk, -, -, rfl⟩ := setOwnerReference_eq_ok_inv h
  have hc : (ownerRefFor owner.meta gvk false).controller ≠ some true := by simp [ownerRefFor]
  exact ⟨hw.upsertOwnerRef hc, controllers_upsertOwnerRef_sublist hc _⟩

/-- `SetControllerReference` keeps a list well owned, and leaves the owner's reference the
only controller. -/
theorem setControllerReference_wellOwned (h : setControllerReference owner m = .ok m')
    (hw : WellOwned m.ownerReferences) :
    WellOwned m'.ownerReferences ∧ ∃ gvk, owner.gvk = .ok gvk ∧
      (∀ e, controllerOf m.ownerReferences = some e →
        referSameObject e (ownerRefFor owner.meta gvk true) = true) ∧
      controllers m'.ownerReferences = [ownerRefFor owner.meta gvk true] := by
  obtain ⟨gvk, hgvk, -, hguard, rfl⟩ := setControllerReference_eq_ok h
  have hone := controllers_upsertOwnerRef_of_controls rfl hw.distinct
    (hw.forall_controllers hguard)
  exact ⟨⟨hw.distinct.upsertOwnerRef _, by simp [hone]⟩, gvk, hgvk, hguard, hone⟩

/-- The reference the owner's `SetOwnerReference` and `SetControllerReference` build names the
owner's group and kind and the owner's name, for a kind whose group and version hold no `/`. -/
theorem ident_ownerRefFor (o : ObjectMeta) {gvk : GroupVersionKind} (c : Bool)
    (hg : '/' ∉ gvk.group.toList) (hv : '/' ∉ gvk.version.toList) :
    (ownerRefFor o gvk c).ident = some (gvk.group, gvk.kind, o.name) := by
  simp only [OwnerReference.ident, ownerRefFor, parseGroupVersion_toString gvk.groupVersion hg hv]
  rfl

/-! ## `EnsureOwnerRef` on the map -/

/-- The object `EnsureOwnerRef` leaves is the one it was given where `SetOwnerReference`
fails, and the one `SetOwnerReference` returns otherwise, whatever the client answers. -/
theorem ensureOwnerRef_object_cases (patch : ObjectMeta → Option GoError) (owner : Owner)
    (m : ObjectMeta) :
    (ensureOwnerRef patch owner m).object = m ∨
      ∃ m', setOwnerReference owner m = .ok m' ∧ (ensureOwnerRef patch owner m).object = m' := by
  cases hs : setOwnerReference owner m with
  | error err => exact .inl (by simp [ensureOwnerRef, patchOwnerRef, hs])
  | ok m' => exact .inr ⟨m', rfl, ensureOwnerRef_object patch hs⟩

/-- **`EnsureOwnerRef` is a map insert.** For an owner of a kind the scheme knows, with no `/`
in its group or version, and allowed to own the object: after `EnsureOwnerRef`, the owner's
group, kind and name map to the owner's reference, whatever UID an earlier reference to it
carried, and every other object maps to the reference it had, whatever the client answers. -/
theorem lookupRef_ensureOwnerRef (patch : ObjectMeta → Option GoError) {gvk : GroupVersionKind}
    (hgvk : owner.gvk = .ok gvk) (hg : '/' ∉ gvk.group.toList) (hv : '/' ∉ gvk.version.toList)
    (hvalid : validateOwner owner.meta m = none) (k : String × String × String) :
    lookupRef (ensureOwnerRef patch owner m).object.ownerReferences k =
      if k = (gvk.group, gvk.kind, owner.meta.name) then some (ownerRefFor owner.meta gvk false)
      else lookupRef m.ownerReferences k := by
  rw [ensureOwnerRef_object patch (setOwnerReference_eq_ok hvalid hgvk), lookupRef_upsertOwnerRef,
    ident_ownerRefFor _ _ hg hv]
  simp only [Option.some.injEq, eq_comm]

/-- `targetConfigMap` with a reference to an earlier `ownerConfigMap`, of another UID. -/
def staleConfigMap : ObjectMeta :=
  { targetConfigMap with
    ownerReferences := [ownerRefFor { ownerConfigMap.meta with uid := "uid-old" } ⟨"", "v1", "ConfigMap"⟩ false] }

theorem lookupRef_ensureOwnerRef_stale :
    ownerConfigMap.gvk = .ok ⟨"", "v1", "ConfigMap"⟩ ∧ '/' ∉ "".toList ∧ '/' ∉ "v1".toList ∧
      validateOwner ownerConfigMap.meta staleConfigMap = none ∧
      lookupRef (ensureOwnerRef (fun _ => none) ownerConfigMap staleConfigMap).object.ownerReferences
          ("", "ConfigMap", "test-owner") =
        some (ownerRefFor ownerConfigMap.meta ⟨"", "v1", "ConfigMap"⟩ false) := by
  have hgvk : ownerConfigMap.gvk = .ok ⟨"", "v1", "ConfigMap"⟩ := rfl
  exact ⟨hgvk, by decide, by decide, rfl,
    lookupRef_ensureOwnerRef _ hgvk (by decide) (by decide) (by rfl) ("", "ConfigMap", "test-owner")⟩

/-! ## Runs of operations -/

/-- What happens to an object's owner references: an `EnsureOwnerRef` by an owner, with the
client's `Patch` as `patch`; or a `SetControllerReference` by an owner, as a `ClusterRole`
reconcile makes it, whose failure leaves the object as it was. -/
inductive RefOp where
  | ensure (patch : ObjectMeta → Option GoError) (owner : Owner)
  | control (owner : Owner)

/-- The object after one operation. -/
def RefOp.apply : RefOp → ObjectMeta → ObjectMeta
  | .ensure patch owner, m => (ensureOwnerRef patch owner m).object
  | .control owner, m =>
    match setControllerReference owner m with
    | .ok m' => m'
    | .error _ => m

/-- A `SetControllerReference` that succeeds is applied as it returns. -/
theorem RefOp.apply_control {owner : Owner} {m m' : ObjectMeta}
    (h : setControllerReference owner m = .ok m') : (RefOp.control owner).apply m = m' := by
  rw [RefOp.apply, h]

/-- The object after a run of operations, in order. -/
def RefOp.run (ops : List RefOp) (m : ObjectMeta) : ObjectMeta :=
  ops.foldl (fun m op => op.apply m) m

/-- An `EnsureOwnerRef` whose owner's reference names the object `c` names: the one operation
that can take `c`'s control away. -/
def RefOp.Demotes (op : RefOp) (c : OwnerReference) : Prop :=
  match op with
  | .ensure _ owner =>
    ∃ gvk, owner.gvk = .ok gvk ∧ referSameObject c (ownerRefFor owner.meta gvk false) = true
  | .control _ => False

/-- Whether an operation demotes a reference depends only on the object it names. -/
theorem RefOp.demotes_congr (op : RefOp) {c c' : OwnerReference} (hid : c'.ident = c.ident) :
    op.Demotes c' ↔ op.Demotes c := by
  have hsame : ∀ r, referSameObject c' r = referSameObject c r := fun r =>
    Bool.eq_iff_iff.2 (by simp only [referSameObject_iff, hid])
  cases op <;> simp only [RefOp.Demotes, hsame]

theorem RefOp.apply_wellOwned (op : RefOp) (hw : WellOwned m.ownerReferences) :
    WellOwned (op.apply m).ownerReferences := by
  cases op with
  | ensure patch owner =>
    rcases ensureOwnerRef_object_cases patch owner m with h | ⟨m', hs, h⟩ <;> rw [RefOp.apply, h]
    · exact hw
    · exact (setOwnerReference_wellOwned hs hw).1
  | control owner =>
    rw [RefOp.apply]
    split
    · exact (setControllerReference_wellOwned ‹_› hw).1
    · exact hw

/-- One operation that does not demote the controller leaves a controller naming the same
object. -/
theorem RefOp.apply_keeps_controller (op : RefOp) {c : OwnerReference}
    (hw : WellOwned m.ownerReferences) (hc : controllerOf m.ownerReferences = some c)
    (hd : ¬ op.Demotes c) :
    ∃ c', controllerOf (op.apply m).ownerReferences = some c' ∧ c'.ident = c.ident := by
  cases op with
  | ensure patch owner =>
    rcases ensureOwnerRef_object_cases patch owner m with h | ⟨m', hs, h⟩ <;> rw [RefOp.apply, h]
    · exact ⟨c, hc, rfl⟩
    · refine ⟨c, ?_, rfl⟩
      have hcs := hw.controllers_eq hc
      obtain ⟨gvk, hgvk, -, rfl⟩ := setOwnerReference_eq_ok_inv hs
      have hkeep : referSameObject c (ownerRefFor owner.meta gvk false) = false :=
        Bool.eq_false_iff.2 fun h' => hd ⟨gvk, hgvk, h'⟩
      have hmem : c ∈ controllers (upsertOwnerRef (ownerRefFor owner.meta gvk false) m.ownerReferences) := by
        have hc' : c ∈ controllers m.ownerReferences := by rw [hcs]; exact List.mem_singleton_self c
        exact List.mem_filter.2 ⟨mem_upsertOwnerRef_of_mem (List.mem_filter.1 hc').1 hkeep,
          (List.mem_filter.1 hc').2⟩
      have hsub := (setOwnerReference_wellOwned hs hw).2
      rw [hcs] at hsub
      dsimp only at hsub
      rw [controllerOf_eq_head_controllers, hsub.eq_of_length_le (List.length_pos_of_mem hmem)]
      rfl
  | control owner =>
    rw [RefOp.apply]
    split
    · rename_i m' hs
      obtain ⟨-, gvk, -, hguard, hone⟩ := setControllerReference_wellOwned hs hw
      refine ⟨_, by rw [controllerOf_eq_head_controllers, hone]; rfl, ?_⟩
      exact (((referSameObject_iff _ _).1 (hguard c hc)).2).symm
    · exact ⟨c, hc, rfl⟩

/-- **Every run keeps an object's owner references well owned.** Whatever `EnsureOwnerRef` and
`SetControllerReference` calls an object goes through, by whatever owners, in whatever order
and whatever the client answers, no two of its references come to name one object, and it
never gets a second controller. -/
theorem RefOp.run_wellOwned (ops : List RefOp) (hw : WellOwned m.ownerReferences) :
    WellOwned (RefOp.run ops m).ownerReferences := by
  induction ops generalizing m with
  | nil => exact hw
  | cons op ops ih => exact ih (op.apply_wellOwned hw)

/-- **Control is given up, never taken.** Along any run of `EnsureOwnerRef` and
`SetControllerReference` calls on a well-owned object with a controller, by whatever owners,
in whatever order, the object keeps a controller naming the same object, unless an
`EnsureOwnerRef` by that object's owner demotes it: no other owner's `SetControllerReference`
ever succeeds. -/
theorem RefOp.run_keeps_controller (ops : List RefOp) {c : OwnerReference}
    (hw : WellOwned m.ownerReferences) (hc : controllerOf m.ownerReferences = some c)
    (hd : ∀ op ∈ ops, ¬ op.Demotes c) :
    ∃ c', controllerOf (RefOp.run ops m).ownerReferences = some c' ∧ c'.ident = c.ident := by
  induction ops generalizing m c with
  | nil => exact ⟨c, hc, rfl⟩
  | cons op ops ih =>
    obtain ⟨c', hc', hid⟩ := op.apply_keeps_controller hw hc (hd op (List.mem_cons_self _ _))
    obtain ⟨c'', hc'', hid'⟩ := ih (op.apply_wellOwned hw) hc' fun op' hop' =>
      (op'.demotes_congr hid).not.2 (hd op' (List.mem_cons_of_mem _ hop'))
    exact ⟨c'', hc'', hid'.trans hid⟩

/-- A config map that controls `targetConfigMap`. -/
def controllerConfigMap : Owner :=
  ⟨⟨"test-controller", "test-ns", "uid-controller", [], [], []⟩, .ok ⟨"", "v1", "ConfigMap"⟩⟩

/-- `targetConfigMap` under `controllerConfigMap`'s control. -/
def controlledConfigMap : ObjectMeta :=
  { targetConfigMap with
    ownerReferences := [ownerRefFor controllerConfigMap.meta ⟨"", "v1", "ConfigMap"⟩ true] }

/-- `ownerConfigMap` is added as an owner, tries to take control, and is added again. -/
def configMapRun : List RefOp :=
  [.ensure (fun _ => none) ownerConfigMap, .control ownerConfigMap, .ensure (fun _ => none) ownerConfigMap]

theorem controlledConfigMap_wellOwned : WellOwned controlledConfigMap.ownerReferences :=
  ⟨by decide, by decide⟩

theorem RefOp.run_wellOwned_configMap :
    WellOwned controlledConfigMap.ownerReferences ∧
      WellOwned (RefOp.run configMapRun controlledConfigMap).ownerReferences :=
  ⟨controlledConfigMap_wellOwned, RefOp.run_wellOwned configMapRun controlledConfigMap_wellOwned⟩

theorem RefOp.run_keeps_controller_configMap :
    WellOwned controlledConfigMap.ownerReferences ∧
      controllerOf controlledConfigMap.ownerReferences =
        some (ownerRefFor controllerConfigMap.meta ⟨"", "v1", "ConfigMap"⟩ true) ∧
      (∀ op ∈ configMapRun,
        ¬ op.Demotes (ownerRefFor controllerConfigMap.meta ⟨"", "v1", "ConfigMap"⟩ true)) ∧
      ∃ c', controllerOf (RefOp.run configMapRun controlledConfigMap).ownerReferences = some c' ∧
        c'.ident = (ownerRefFor controllerConfigMap.meta ⟨"", "v1", "ConfigMap"⟩ true).ident := by
  have hd : ∀ op ∈ configMapRun,
      ¬ op.Demotes (ownerRefFor controllerConfigMap.meta ⟨"", "v1", "ConfigMap"⟩ true) := by
    simp only [configMapRun, List.mem_cons, List.mem_singleton, List.not_mem_nil, or_false]
    rintro op (rfl | rfl | rfl) <;> rintro ⟨gvk, hgvk, hs⟩
    all_goals
      cases hgvk
      revert hs
      decide
  exact ⟨controlledConfigMap_wellOwned, rfl, hd,
    RefOp.run_keeps_controller configMapRun controlledConfigMap_wellOwned rfl hd⟩

end Object

end LibCommon
