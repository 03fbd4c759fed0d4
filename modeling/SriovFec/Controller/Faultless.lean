import SriovFec.Controller.Pass

/-!
# Passes in which the control plane fails no call

With no failed call each call has its usual effect. Each loop of a sync then makes of the
store what `removedOld` and `upserted` say, and leaves calls that the store alone decides:
`upsertCalls` gets the key, then updates the stored object or creates the missing one.

## Implementation notes

A faultless run is one whose `faults` are `fun _ => none`. Every call keeps the run's
`faults`, so the lemmas are stated on states of the form `⟨cl, fun _ => none, calls⟩`
and rewrite one another without side conditions.
-/

namespace SriovFec.Controller

open SriovFec.Api.V1

/-- The calls a faultless `updateOrCreateNodeConfig nodeCfg` makes on the store `st`. -/
def upsertCalls (st : Store SriovFecNodeConfig) (nodeCfg : SriovFecNodeConfig) : List Record :=
  match st.get? (Object.key nodeCfg) with
  | some prev => [⟨.getNodeConfig (Object.key nodeCfg), none⟩,
      ⟨.updateNodeConfig { prev with spec := nodeCfg.spec }, none⟩]
  | none => [⟨.getNodeConfig (Object.key nodeCfg), some .notFound⟩, ⟨.createNodeConfig nodeCfg, none⟩]

/-- The calls a faultless loop of `updateOrCreateNodeConfig` over `T` makes on `st`. -/
def upsertsCalls : List SriovFecNodeConfig → Store SriovFecNodeConfig → List Record
  | [], _ => []
  | t :: rest, st => upsertCalls st t ++ upsertsCalls rest (upserted st t)

section Calls

variable {cl : Cluster} {calls : List Record}

theorem issue_faultless {β : Type} {c : Call} {act : Cluster → Except ApiError β × Cluster} :
    issue c act ⟨cl, fun _ => none, calls⟩ =
      ((act cl).1, ⟨(act cl).2, fun _ => none, calls ++ [⟨c, errorOf (act cl).1⟩]⟩) := rfl

theorem updateOrCreateNodeConfig_faultless {t : SriovFecNodeConfig} :
    updateOrCreateNodeConfig t ⟨cl, fun _ => none, calls⟩ = (.ok (),
      ⟨{ cl with nodeConfigs := upserted cl.nodeConfigs t }, fun _ => none,
        calls ++ upsertCalls cl.nodeConfigs t⟩) := by
  cases hg : cl.nodeConfigs.get? (Object.key t) with
  | none =>
      simp [updateOrCreateNodeConfig, getNodeConfig, createNodeConfig, issue_faultless, lookup, hg,
        writeNodeConfigs, Store.create_of_get?_none hg, upserted_of_get?_none hg, upsertCalls]
  | some prev =>
      simp [updateOrCreateNodeConfig, getNodeConfig, updateNodeConfig, issue_faultless, lookup, hg,
        writeNodeConfigs, Store.update, Store.key_of_get? hg, upserted_of_get?_some hg, upsertCalls]

theorem updateOrCreateNodeConfigs_faultless (T : List SriovFecNodeConfig) :
    updateOrCreateNodeConfigs T ⟨cl, fun _ => none, calls⟩ = (.ok (),
      ⟨{ cl with nodeConfigs := T.foldl upserted cl.nodeConfigs }, fun _ => none,
        calls ++ upsertsCalls T cl.nodeConfigs⟩) := by
  induction T generalizing cl calls with
  | nil => simp [updateOrCreateNodeConfigs, upsertsCalls]
  | cons t rest ih =>
      rw [updateOrCreateNodeConfigs, updateOrCreateNodeConfig_faultless]
      dsimp only
      rw [ih]
      simp [upsertsCalls]

theorem deleteOldNodeConfigs_of_kept {T items : List SriovFecNodeConfig} {s : ClientState}
    (h : ∀ nc ∈ items, deleteNC T nc = false) : deleteOldNodeConfigs T items s = (.ok (), s) := by
  induction items with
  | nil => rfl
  | cons nc rest ih => simp [deleteOldNodeConfigs, h nc (.head _), ih fun x hx => h x (.tail _ hx)]

/-- A faultless sync over node configs none of which is to be deleted lists them, then gets
and updates or creates every rendered node config in order. -/
theorem syncNodeConfigs_faultless_of_kept {T : List SriovFecNodeConfig}
    (hk : ∀ nc ∈ cl.nodeConfigs.items, deleteNC T nc = false) :
    syncNodeConfigs T ⟨cl, fun _ => none, calls⟩ = (.ok (),
      ⟨{ cl with nodeConfigs := T.foldl upserted cl.nodeConfigs }, fun _ => none,
        calls ++ ⟨.listNodeConfigs, none⟩ :: upsertsCalls T cl.nodeConfigs⟩) := by
  unfold syncNodeConfigs removeOldNodeConfigs listNodeConfigs
  rw [issue_faultless]
  dsimp only
  rw [deleteOldNodeConfigs_of_kept hk]
  dsimp only
  rw [updateOrCreateNodeConfigs_faultless T]
  simp

/-- Over listed node configs with distinct keys, all stored, a faultless delete loop deletes
every one `deleteNC` picks. -/
theorem deleteOldNodeConfigs_faultless {T items : List SriovFecNodeConfig}
    (hnd : (items.map Object.key).Nodup)
    (hp : ∀ nc ∈ items, (cl.nodeConfigs.get? (Object.key nc)).isSome) :
    ∃ calls', deleteOldNodeConfigs T items ⟨cl, fun _ => none, calls⟩ =
      (.ok (), ⟨{ cl with nodeConfigs := removedOld T items cl.nodeConfigs }, fun _ => none, calls'⟩) := by
  induction items generalizing cl calls with
  | nil => exact ⟨calls, rfl⟩
  | cons nc rest ih =>
      rw [List.map_cons, List.nodup_cons] at hnd
      cases hd : deleteNC T nc
      · obtain ⟨calls', h⟩ := @ih cl calls hnd.2 fun x hx => hp x (.tail _ hx)
        refine ⟨calls', ?_⟩
        simp only [deleteOldNodeConfigs, hd, Bool.false_eq_true, ↓reduceIte, h]
        simp [removedOld, hd]
      · have hrest : ∀ x ∈ rest, ((cl.nodeConfigs.erase (Object.key nc)).get? (Object.key x)).isSome :=
          fun x hx => by
            rw [Store.get?_erase, if_neg fun (h : Object.key nc = Object.key x) =>
              hnd.1 (h ▸ List.mem_map_of_mem _ hx)]
            exact hp x (.tail _ hx)
        obtain ⟨calls', h⟩ := @ih { cl with nodeConfigs := cl.nodeConfigs.erase (Object.key nc) }
          (calls ++ [⟨.deleteNodeConfig nc, none⟩]) hnd.2 hrest
        refine ⟨calls', ?_⟩
        have hdel : deleteNodeConfig nc ⟨cl, fun _ => none, calls⟩ = (.ok (),
            ⟨{ cl with nodeConfigs := cl.nodeConfigs.erase (Object.key nc) }, fun _ => none,
              calls ++ [⟨.deleteNodeConfig nc, none⟩]⟩) := by
          simp [deleteNodeConfig, issue_faultless, writeNodeConfigs, Store.delete, hp nc (.head _)]
        simp only [deleteOldNodeConfigs, hd, ↓reduceIte, hdel, h]
        simp [removedOld, hd]

/-- A faultless sync lists every stored node config, deletes those `deleteNC` picks, then
updates or creates every rendered one in order. -/
theorem syncNodeConfigs_faultless (T : List SriovFecNodeConfig) :
    ∃ calls', syncNodeConfigs T ⟨cl, fun _ => none, calls⟩ = (.ok (),
      ⟨{ cl with nodeConfigs := T.foldl upserted (removedOld T cl.nodeConfigs.items cl.nodeConfigs) },
        fun _ => none, calls'⟩) := by
  obtain ⟨calls', hdel⟩ := @deleteOldNodeConfigs_faultless cl
    (calls ++ [⟨.listNodeConfigs, none⟩]) T _ cl.nodeConfigs.nodup
    fun nc hnc => by rw [Store.mem_items.1 hnc]; rfl
  unfold syncNodeConfigs removeOldNodeConfigs listNodeConfigs
  rw [issue_faultless]
  dsimp only
  rw [errorOf_ok, hdel]
  dsimp only
  rw [updateOrCreateNodeConfigs_faultless T]
  exact ⟨_, rfl⟩

/-- Over a store holding every key of `T`, a faultless loop only gets and updates. -/
theorem upsertsCalls_of_present {T : List SriovFecNodeConfig} {st : Store SriovFecNodeConfig}
    (h : ∀ t ∈ T, (st.get? (Object.key t)).isSome) :
    ∀ x ∈ upsertsCalls T st, ∀ nc, x.call ≠ .createNodeConfig nc ∧ x.call ≠ .deleteNodeConfig nc := by
  induction T generalizing st with
  | nil => simp [upsertsCalls]
  | cons t rest ih =>
      obtain ⟨prev, hp⟩ := Option.isSome_iff_exists.1 (h t (.head _))
      have hrest : ∀ x ∈ rest, ((upserted st t).get? (Object.key x)).isSome := fun x hx => by
        rw [get?_upserted]
        split_ifs <;> simp [h x (.tail _ hx)]
      simp only [upsertsCalls, upsertCalls, hp, List.mem_append]
      rintro x (hx | hx) nc
      · simp only [List.mem_cons, List.mem_singleton, List.not_mem_nil, or_false] at hx
        rcases hx with rfl | rfl <;> simp
      · exact ih hrest x hx nc

end Calls

section Pass

variable {NAMESPACE : String} {req : NamespacedName} {cluster : Cluster}
  {cfg : SriovFecClusterConfig} {T : List SriovFecNodeConfig}

/-- With no fault the first call of a pass gets the stored config. -/
theorem getClusterConfig_faultless (hcfg : cluster.clusterConfigs.get? req = some cfg) :
    getClusterConfig req ⟨cluster, fun _ => none, []⟩ =
      (.ok cfg, ⟨cluster, fun _ => none, [⟨.getClusterConfig req, none⟩]⟩) := by
  simp [getClusterConfig, issue_faultless, lookup, hcfg]

theorem getNodesWithIntelAccelerator_faultless {calls : List Record} :
    getNodesWithIntelAccelerator ⟨cluster, fun _ => none, calls⟩ =
      (.ok (cluster.nodes.filter (matchesLabels labelsToMatch)),
        ⟨cluster, fun _ => none, calls ++ [⟨.listNodes labelsToMatch, none⟩]⟩) := rfl

/-- A faultless pass on the singleton request, with a valid stored config, over node configs
none of which is to be deleted, makes the reads, the calls `upsertsCalls` says and a
`NodeConfigsCreated` status write, and leaves the rendering upserted into the store. -/
theorem pass_faultless_of_kept (hreq : req = ⟨NAMESPACE, defaultClusterConfigName⟩)
    (hcfg : cluster.clusterConfigs.get? req = some cfg) (hv : validateClusterConfig cfg.spec = .valid)
    (hrender : renderNodeConfigs cfg (cluster.nodes.filter (matchesLabels labelsToMatch)) = some T)
    (hk : ∀ nc ∈ cluster.nodeConfigs.items, deleteNC T nc = false) :
    ∃ status : Record, (pass NAMESPACE req cluster fun _ => none).2.calls =
        [⟨.getClusterConfig req, none⟩, ⟨.listNodes labelsToMatch, none⟩, ⟨.listNodeConfigs, none⟩] ++
          upsertsCalls T cluster.nodeConfigs ++ [status] ∧
      status.call.writtenStatus? = some "NodeConfigsCreated" ∧
      (pass NAMESPACE req cluster fun _ => none).2.cluster.nodeConfigs =
        T.foldl upserted cluster.nodeConfigs := by
  subst hreq
  unfold pass reconcile reconcileNodes
  simp only [getClusterConfig_faultless hcfg, getNodesWithIntelAccelerator_faultless, hv, hrender,
    syncNodeConfigs_faultless_of_kept hk, ne_eq, not_true_eq_false, or_self, ↓reduceIte]
  exact ⟨_, rfl, rfl, by simp⟩

/-- A faultless pass on the singleton request, with a valid stored config, syncs the
rendering from every stored node config and writes `NodeConfigsCreated`, from any store. -/
theorem pass_faultless_run (hreq : req = ⟨NAMESPACE, defaultClusterConfigName⟩)
    (hcfg : cluster.clusterConfigs.get? req = some cfg) (hv : validateClusterConfig cfg.spec = .valid)
    (hrender : renderNodeConfigs cfg (cluster.nodes.filter (matchesLabels labelsToMatch)) = some T) :
    ∃ s3, syncNodeConfigs T ⟨cluster, fun _ => none,
        [⟨.getClusterConfig req, none⟩, ⟨.listNodes labelsToMatch, none⟩]⟩ = (.ok (), s3) ∧
      s3.cluster.nodeConfigs = T.foldl upserted (removedOld T cluster.nodeConfigs.items cluster.nodeConfigs) ∧
      pass NAMESPACE req cluster (fun _ => none) = (.ok, updateStatus cfg "NodeConfigsCreated" "" s3) := by
  obtain ⟨calls', hsync⟩ := @syncNodeConfigs_faultless cluster
    [⟨.getClusterConfig req, none⟩, ⟨.listNodes labelsToMatch, none⟩] T
  refine ⟨_, hsync, rfl, ?_⟩
  subst hreq
  unfold pass reconcile reconcileNodes
  simp only [getClusterConfig_faultless hcfg, getNodesWithIntelAccelerator_faultless, hv, hrender, hsync,
    ne_eq, not_true_eq_false, or_self, ↓reduceIte, List.nil_append, List.singleton_append]

end Pass

end SriovFec.Controller
