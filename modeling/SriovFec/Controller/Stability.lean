import SriovFec.Controller.Convergence

/-!
# Runs of passes: reaching the rendering and staying there

The controller manager calls `Reconcile` again and again; a run lists what the control
plane fails in each pass. `Synced T` says the stored node configs are those of the
rendering `T`: no other name is stored, and under the key of each element of `T` lies a
node config with its spec.

A pass in which the control plane fails nothing reaches `Synced` from any store, when no
two elements of `T` with one name differ in spec (`SpecsAgree`). A synced store is a
fixpoint of every pass, whatever the control plane fails: the list names nothing to
delete, each get finds the spec the update would write, so the update puts back the stored
object, and a create that a failed get starts finds the key taken. So every run in which
one pass fails nothing ends synced, and the node configs never change after that pass.

## Implementation notes

A run is `passes`, a left fold of `pass` over the faults of its passes. The run lemmas are
inductions over that list from the one-pass lemmas, carrying the stored config and the
labelled nodes, which no pass changes.
-/

namespace SriovFec.Controller

open SriovFec.Api.V1

/-- The stored node configs `st` are those of the rendering `T`. -/
structure Synced (T : List SriovFecNodeConfig) (st : Store SriovFecNodeConfig) : Prop where
  names : ∀ o ∈ st.items, o.name ∈ T.map (·.name)
  specs : ∀ t ∈ T, ∃ o, st.get? (Object.key t) = some o ∧ o.spec = t.spec

/-- No two node configs of `T` with one name differ in spec. -/
def SpecsAgree (T : List SriovFecNodeConfig) : Prop :=
  ∀ t ∈ T, ∀ t' ∈ T, t.name = t'.name → t.spec = t'.spec

/-- A successful sync from every stored node config leaves the rendering, when its specs
agree. -/
theorem synced_foldl_upserted {T : List SriovFecNodeConfig} {st : Store SriovFecNodeConfig}
    (hT : SpecsAgree T) : Synced T (T.foldl upserted (removedOld T st.items st)) where
  names _ ho := name_mem_of_synced ho
  specs t ht := by
    obtain ⟨o, ho, hlast, -⟩ := get?_foldl_upserted_of_mem (S := removedOld T st.items st) ⟨t, ht, rfl⟩
    obtain ⟨x, hx, hxs⟩ := Option.map_eq_some'.1 hlast
    obtain ⟨hxT, hk⟩ := List.mem_filter.1 (List.mem_of_getLast?_eq_some hx)
    have hname : x.name = t.name := congrArg NamespacedName.name (of_decide_eq_true hk)
    exact ⟨o, ho, hxs ▸ hT x hxT t ht hname⟩

/-! ### A synced store under any faults -/

section Calls

variable {T : List SriovFecNodeConfig} {s : ClientState}

/-- A write whose usual effect leaves the stored node configs as they are changes nothing. -/
theorem issue_write_of_fixed {c : Call}
    {w : Store SriovFecNodeConfig → Except ApiError (Store SriovFecNodeConfig)}
    (hw : ∀ st, w s.cluster.nodeConfigs = .ok st → st = s.cluster.nodeConfigs) :
    (issue c (writeNodeConfigs w) s).2.cluster = s.cluster := by
  cases hr : (issue c (writeNodeConfigs w) s).1 with
  | ok u =>
      obtain ⟨st, hst, hc⟩ := issue_write_ok hr
      rw [hc, hw st hst]
  | error e => exact issue_write_error hr

/-- The create-or-update of a node config whose spec is stored under its key changes
nothing, whatever the control plane fails. -/
theorem updateOrCreateNodeConfig_of_stored {t o : SriovFecNodeConfig}
    (ho : s.cluster.nodeConfigs.get? (Object.key t) = some o) (hspec : o.spec = t.spec) :
    (updateOrCreateNodeConfig t s).2.cluster = s.cluster := by
  unfold updateOrCreateNodeConfig
  have hs := getNodeConfig_cluster (k := Object.key t) (s := s)
  split
  · next prev s1 hget =>
      have hs1 : s1.cluster = s.cluster := by rw [hget] at hs; exact hs
      have hpo : prev = o := Option.some.inj ((getNodeConfig_ok (by rw [hget])).symm.trans ho)
      subst hpo
      have hself : { prev with spec := t.spec } = prev := by rw [← hspec]
      rw [hself, ← hs1]
      refine issue_write_of_fixed fun st hst => ?_
      rw [Store.update_ok hst, Store.replace_self]
      rwa [hs1, Store.key_of_get? ho]
  · next e s1 hget =>
      have hs1 : s1.cluster = s.cluster := by rw [hget] at hs; exact hs
      split_ifs
      · rw [← hs1]
        refine issue_write_of_fixed fun st hst => ?_
        obtain ⟨hk, -⟩ := Store.create_ok hst
        rw [hs1, ho] at hk
        cases hk
      · exact hs1

theorem updateOrCreateNodeConfigs_of_synced {T' : List SriovFecNodeConfig} (hT' : ∀ t ∈ T', t ∈ T)
    (hs : Synced T s.cluster.nodeConfigs) : (updateOrCreateNodeConfigs T' s).2.cluster = s.cluster := by
  induction T' generalizing s with
  | nil => rfl
  | cons t rest ih =>
      obtain ⟨o, ho, hspec⟩ := hs.specs t (hT' t (.head _))
      have h1 := updateOrCreateNodeConfig_of_stored (s := s) ho hspec
      unfold updateOrCreateNodeConfigs
      split
      · next s1 hup =>
          have hs1 : s1.cluster = s.cluster := by rw [hup] at h1; exact h1
          rw [ih (fun x hx => hT' x (.tail _ hx)) (by rw [hs1]; exact hs), hs1]
      · next e s1 hup => rw [hup] at h1; exact h1

/-- When every stored node config has a name of `T`, the delete pass of a sync changes
nothing, whatever the control plane fails. -/
theorem removeOldNodeConfigs_of_names (h : ∀ o ∈ s.cluster.nodeConfigs.items, o.name ∈ T.map (·.name)) :
    (removeOldNodeConfigs T s).2.cluster = s.cluster := by
  unfold removeOldNodeConfigs
  have hs := listNodeConfigs_cluster (s := s)
  split
  · next items s1 hlist =>
      have hi := listNodeConfigs_ok (by rw [hlist])
      rw [hlist] at hs
      rw [deleteOldNodeConfigs_of_kept fun nc hnc => deleteNC_eq_false_iff.2 (h nc (hi ▸ hnc))]
      exact hs
  · next e s1 hlist =>
      rw [hlist] at hs
      split_ifs <;> exact hs

/-- A sync of `T` over a store synced with `T` changes nothing, whatever the control plane
fails. -/
theorem syncNodeConfigs_of_synced (hs : Synced T s.cluster.nodeConfigs) :
    (syncNodeConfigs T s).2.cluster = s.cluster := by
  have h1 := removeOldNodeConfigs_of_names (T := T) (s := s) hs.names
  unfold syncNodeConfigs
  split
  · next s1 hrem =>
      have hs1 : s1.cluster = s.cluster := by rw [hrem] at h1; exact h1
      rw [updateOrCreateNodeConfigs_of_synced (fun _ => id) (by rw [hs1]; exact hs), hs1]
  · next e s1 hrem => rw [hrem] at h1; exact h1

end Calls

/-! ### One pass -/

section Pass

variable {NAMESPACE : String} {req : NamespacedName} {cluster : Cluster} {faults : Nat → Option ApiError}
  {cfg : SriovFecClusterConfig} {T : List SriovFecNodeConfig}

/-- A sync that a pass starts over a synced store leaves the node configs as they were. -/
theorem sync_nodeConfigs_of_synced {cfg' : SriovFecClusterConfig} {s1 s2 s3 : ClientState}
    {nodeList : List Node} {T' : List SriovFecNodeConfig} {r : Except ApiError Unit}
    (hcfg : cluster.clusterConfigs.get? req = some cfg)
    (hrender : renderNodeConfigs cfg (cluster.nodes.filter (matchesLabels labelsToMatch)) = some T)
    (hs : Synced T cluster.nodeConfigs)
    (hget : getClusterConfig req ⟨cluster, faults, []⟩ = (.ok cfg', s1))
    (hnodes : getNodesWithIntelAccelerator s1 = (.ok nodeList, s2))
    (hrender' : renderNodeConfigs cfg' nodeList = some T') (hsync : syncNodeConfigs T' s2 = (r, s3)) :
    s3.cluster.nodeConfigs = cluster.nodeConfigs := by
  have hs2 : s2.cluster = cluster :=
    (calls_of_getNodesWithIntelAccelerator hnodes).2.trans (calls_of_getClusterConfig hget).2
  obtain rfl := Option.some.inj ((get?_of_getClusterConfig hget).symm.trans hcfg)
  rw [nodes_of_getNodesWithIntelAccelerator hnodes, (calls_of_getClusterConfig hget).2, hrender,
    Option.some.injEq] at hrender'
  subst hrender'
  have h := syncNodeConfigs_of_synced (T := T) (s := s2) (by rw [hs2]; exact hs)
  rw [hsync] at h
  rw [show s3.cluster = s2.cluster from h, hs2]

/-- A pass over a store synced with the rendering of the stored config leaves the node
configs as they were, whatever the control plane fails. -/
theorem pass_nodeConfigs_of_synced (hcfg : cluster.clusterConfigs.get? req = some cfg)
    (hrender : renderNodeConfigs cfg (cluster.nodes.filter (matchesLabels labelsToMatch)) = some T)
    (hs : Synced T cluster.nodeConfigs) :
    (pass NAMESPACE req cluster faults).2.cluster.nodeConfigs = cluster.nodeConfigs := by
  have hc := pass_cases NAMESPACE req cluster faults
  generalize pass NAMESPACE req cluster faults = run at hc ⊢
  cases hc with
  | getFailed e s1 hget => rw [(calls_of_getClusterConfig hget).2]
  | ignored cfg' s1 hget hreq => rw [updateStatus_nodeConfigs, (calls_of_getClusterConfig hget).2]
  | invalid cfg' s1 hget hreq reason hv => rw [updateStatus_nodeConfigs, (calls_of_getClusterConfig hget).2]
  | nfdFailure cfg' s1 hget hreq hv e s2 hnodes =>
      rw [updateStatus_nodeConfigs, (calls_of_getNodesWithIntelAccelerator hnodes).2,
        (calls_of_getClusterConfig hget).2]
  | syncFailed cfg' s1 hget hreq hv nodeList s2 hnodes T' hrender' e s3 hsync =>
      rw [updateStatus_nodeConfigs, sync_nodeConfigs_of_synced hcfg hrender hs hget hnodes hrender' hsync]
  | created cfg' s1 hget hreq hv nodeList s2 hnodes T' hrender' s3 hsync =>
      rw [updateStatus_nodeConfigs, sync_nodeConfigs_of_synced hcfg hrender hs hget hnodes hrender' hsync]

/-- A faultless pass on the singleton request with a structurally valid config leaves the
node configs synced with the rendering, from any store, when the rendering's specs agree. -/
theorem synced_after_faultless_pass (hreq : req = ⟨NAMESPACE, defaultClusterConfigName⟩)
    (hcfg : cluster.clusterConfigs.get? req = some cfg) (hv : StructurallyValid cfg.spec)
    (hrender : renderNodeConfigs cfg (cluster.nodes.filter (matchesLabels labelsToMatch)) = some T)
    (hT : SpecsAgree T) : Synced T (pass NAMESPACE req cluster fun _ => none).2.cluster.nodeConfigs := by
  obtain ⟨s3, -, hF, hpass⟩ :=
    pass_faultless_run hreq hcfg ((validateClusterConfig_eq_valid_iff _).2 hv) hrender
  rw [hpass, updateStatus_nodeConfigs, hF]
  exact synced_foldl_upserted hT

/-- A pass in which the control plane fails nothing, on the singleton request with a
structurally valid config, returns `nil`, writes `NodeConfigsCreated` and leaves the node
configs synced with the rendering, from any store, when the rendering's specs agree. -/
theorem pass_faultless_syncs (hreq : req = ⟨NAMESPACE, defaultClusterConfigName⟩)
    (hcfg : cluster.clusterConfigs.get? req = some cfg) (hv : StructurallyValid cfg.spec)
    (hrender : renderNodeConfigs cfg (cluster.nodes.filter (matchesLabels labelsToMatch)) = some T)
    (hT : SpecsAgree T) :
    (pass NAMESPACE req cluster fun _ => none).1 = .ok ∧
      writtenStatus (pass NAMESPACE req cluster fun _ => none).2.calls = some "NodeConfigsCreated" ∧
      Synced T (pass NAMESPACE req cluster fun _ => none).2.cluster.nodeConfigs := by
  obtain ⟨s3, hsync, -, hpass⟩ :=
    pass_faultless_run hreq hcfg ((validateClusterConfig_eq_valid_iff _).2 hv) hrender
  have hnodes := @getNodesWithIntelAccelerator_faultless cluster [⟨.getClusterConfig req, none⟩]
  refine ⟨by rw [hpass], ?_, synced_after_faultless_pass hreq hcfg hv hrender hT⟩
  rw [hpass]
  exact writtenStatus_updateStatus (noStatus_before_sync req cluster _ (getClusterConfig_faultless hcfg) hnodes hsync)

end Pass

/-! ### Runs -/

/-- The passes of a run on `req`, each from what the previous one left; `faults` lists
what the control plane fails in each. -/
def passes (NAMESPACE : String) (req : NamespacedName) :
    List (Nat → Option ApiError) → Cluster → Cluster
  | [], cluster => cluster
  | faults :: rest, cluster => passes NAMESPACE req rest (pass NAMESPACE req cluster faults).2.cluster

section Runs

variable {NAMESPACE : String} {req : NamespacedName} {cluster : Cluster}
  {cfg : SriovFecClusterConfig} {T : List SriovFecNodeConfig}

theorem passes_append (run run' : List (Nat → Option ApiError)) (cluster : Cluster) :
    passes NAMESPACE req (run ++ run') cluster = passes NAMESPACE req run' (passes NAMESPACE req run cluster) := by
  induction run generalizing cluster with
  | nil => rfl
  | cons faults rest ih => exact ih _

/-- A run changes no node and the spec of no cluster config, so the config it finds under
`req` renders the labelled nodes as the first one does. -/
theorem render_after_passes (run : List (Nat → Option ApiError))
    (hcfg : cluster.clusterConfigs.get? req = some cfg)
    (hrender : renderNodeConfigs cfg (cluster.nodes.filter (matchesLabels labelsToMatch)) = some T) :
    ∃ cfg', (passes NAMESPACE req run cluster).clusterConfigs.get? req = some cfg' ∧ cfg'.spec = cfg.spec ∧
      renderNodeConfigs cfg' ((passes NAMESPACE req run cluster).nodes.filter (matchesLabels labelsToMatch)) =
        some T := by
  induction run generalizing cluster cfg with
  | nil => exact ⟨cfg, hcfg, rfl, hrender⟩
  | cons faults rest ih =>
      obtain ⟨cfg1, hcfg1, hs1, hrender1⟩ := render_after_pass NAMESPACE faults hcfg hrender
      obtain ⟨cfg', hcfg', hs', hrender'⟩ := ih hcfg1 hrender1
      exact ⟨cfg', hcfg', hs'.trans hs1, hrender'⟩

/-- From a store synced with the rendering of the stored config, no run changes the node
configs, whatever the control plane fails. -/
theorem passes_nodeConfigs_of_synced (run : List (Nat → Option ApiError))
    (hcfg : cluster.clusterConfigs.get? req = some cfg)
    (hrender : renderNodeConfigs cfg (cluster.nodes.filter (matchesLabels labelsToMatch)) = some T)
    (hs : Synced T cluster.nodeConfigs) :
    (passes NAMESPACE req run cluster).nodeConfigs = cluster.nodeConfigs := by
  induction run generalizing cluster cfg with
  | nil => rfl
  | cons faults rest ih =>
      have h1 : (pass NAMESPACE req cluster faults).2.cluster.nodeConfigs = cluster.nodeConfigs :=
        pass_nodeConfigs_of_synced hcfg hrender hs
      obtain ⟨cfg1, hcfg1, -, hrender1⟩ := render_after_pass NAMESPACE faults hcfg hrender
      exact (ih hcfg1 hrender1 (h1 ▸ hs)).trans h1

section Faultless

variable (hreq : req = ⟨NAMESPACE, defaultClusterConfigName⟩)
  (hcfg : cluster.clusterConfigs.get? req = some cfg) (hv : StructurallyValid cfg.spec)
  (hrender : renderNodeConfigs cfg (cluster.nodes.filter (matchesLabels labelsToMatch)) = some T)
  (hT : SpecsAgree T)
include hreq hcfg hv hrender hT

/-- A run on the singleton request is synced with the rendering right after a faultless pass. -/
theorem synced_after_passes_faultless (before : List (Nat → Option ApiError)) :
    Synced T (passes NAMESPACE req (before ++ [fun _ => none]) cluster).nodeConfigs := by
  obtain ⟨cfg1, hcfg1, hs1, hrender1⟩ := @render_after_passes NAMESPACE req cluster cfg T before hcfg hrender
  rw [passes_append]
  exact synced_after_faultless_pass hreq hcfg1 (hs1 ▸ hv) hrender1 hT

/-- After a faultless pass on the singleton request no pass changes the node configs. -/
theorem passes_stay_after_faultless (before after : List (Nat → Option ApiError)) :
    (passes NAMESPACE req (before ++ (fun _ => none) :: after) cluster).nodeConfigs =
      (passes NAMESPACE req (before ++ [fun _ => none]) cluster).nodeConfigs := by
  obtain ⟨cfg2, hcfg2, -, hrender2⟩ := @render_after_passes NAMESPACE req cluster cfg T (before ++ [fun _ => none])
    hcfg hrender
  rw [show before ++ (fun _ => none) :: after = (before ++ [fun _ => none]) ++ after by simp, passes_append]
  exact passes_nodeConfigs_of_synced after hcfg2 hrender2 (synced_after_passes_faultless hreq hcfg hv hrender hT before)

end Faultless

/-- Every run on the singleton request with a structurally valid config reaches the
rendering at a pass in which the control plane fails nothing, and the node configs never
change after it, whatever the other passes fail, when the rendering's specs agree. -/
theorem passes_converge_after_faultless_pass (hreq : req = ⟨NAMESPACE, defaultClusterConfigName⟩)
    (hcfg : cluster.clusterConfigs.get? req = some cfg) (hv : StructurallyValid cfg.spec)
    (hrender : renderNodeConfigs cfg (cluster.nodes.filter (matchesLabels labelsToMatch)) = some T)
    (hT : SpecsAgree T) (before after : List (Nat → Option ApiError)) :
    Synced T (passes NAMESPACE req (before ++ [fun _ => none]) cluster).nodeConfigs ∧
      (passes NAMESPACE req (before ++ (fun _ => none) :: after) cluster).nodeConfigs =
        (passes NAMESPACE req (before ++ [fun _ => none]) cluster).nodeConfigs :=
  ⟨synced_after_passes_faultless hreq hcfg hv hrender hT before,
    passes_stay_after_faultless hreq hcfg hv hrender hT before after⟩

end Runs

section Demo

/-- The rendering of `demoConfig` on `staleCluster`: the node config of `node1`. -/
def demoRendering : List SriovFecNodeConfig := [newNodeConfig "node1" false []]

theorem demoRendering_specsAgree : SpecsAgree demoRendering := by
  simp [SpecsAgree, demoRendering]

theorem faultless_pass_syncs_staleCluster :
    (demoReq = ⟨"ns", defaultClusterConfigName⟩ ∧ staleCluster.clusterConfigs.get? demoReq = some demoConfig ∧
      StructurallyValid demoConfig.spec ∧
      renderNodeConfigs demoConfig (staleCluster.nodes.filter (matchesLabels labelsToMatch)) = some demoRendering ∧
      SpecsAgree demoRendering) ∧
    (pass "ns" demoReq staleCluster fun _ => none).1 = .ok ∧
      writtenStatus (pass "ns" demoReq staleCluster fun _ => none).2.calls = some "NodeConfigsCreated" ∧
      Synced demoRendering (pass "ns" demoReq staleCluster fun _ => none).2.cluster.nodeConfigs :=
  have hreq : demoReq = ⟨"ns", defaultClusterConfigName⟩ := rfl
  have hcfg : staleCluster.clusterConfigs.get? demoReq = some demoConfig := by decide
  have hv : StructurallyValid demoConfig.spec := (validateClusterConfig_eq_valid_iff _).1 (by decide)
  have hrender : renderNodeConfigs demoConfig (staleCluster.nodes.filter (matchesLabels labelsToMatch)) =
      some demoRendering := by decide
  ⟨⟨hreq, hcfg, hv, hrender, demoRendering_specsAgree⟩,
    pass_faultless_syncs hreq hcfg hv hrender demoRendering_specsAgree⟩

/-- A run on `staleCluster` whose first pass reads the list of node configs as `NotFound`,
then a faultless pass, then a pass whose create fails. -/
theorem staleCluster_run_converges :
    (demoReq = ⟨"ns", defaultClusterConfigName⟩ ∧ staleCluster.clusterConfigs.get? demoReq = some demoConfig ∧
      StructurallyValid demoConfig.spec ∧
      renderNodeConfigs demoConfig (staleCluster.nodes.filter (matchesLabels labelsToMatch)) = some demoRendering ∧
      SpecsAgree demoRendering) ∧
    Synced demoRendering (passes "ns" demoReq ([listNotFound] ++ [fun _ => none]) staleCluster).nodeConfigs ∧
      (passes "ns" demoReq ([listNotFound] ++ (fun _ => none) :: [createFails]) staleCluster).nodeConfigs =
        (passes "ns" demoReq ([listNotFound] ++ [fun _ => none]) staleCluster).nodeConfigs :=
  have hreq : demoReq = ⟨"ns", defaultClusterConfigName⟩ := rfl
  have hcfg : staleCluster.clusterConfigs.get? demoReq = some demoConfig := by decide
  have hv : StructurallyValid demoConfig.spec := (validateClusterConfig_eq_valid_iff _).1 (by decide)
  have hrender : renderNodeConfigs demoConfig (staleCluster.nodes.filter (matchesLabels labelsToMatch)) =
      some demoRendering := by decide
  ⟨⟨hreq, hcfg, hv, hrender, demoRendering_specsAgree⟩,
    passes_converge_after_faultless_pass hreq hcfg hv hrender demoRendering_specsAgree [listNotFound] [createFails]⟩

end Demo

end SriovFec.Controller
