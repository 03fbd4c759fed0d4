import SriovFec.Controller.Pass

/-!
# The node configs a pass leaves when it creates them

A pass that writes `NodeConfigsCreated` leaves what a successful sync makes of the node
configs its list returned. `SyncedFrom T S F` says what that is for a rendering `T`, a
store `S` before the pass and a store `F` after it:
- every name of `T` is stored;
- under `("default", n)` lies the spec of the last element of `T` named `n`, on the
  object that was stored there before, if there was one;
- a key in another namespace with a name of `T` keeps its object.

No other name is left when the list returned the stored node configs. A list that fails
with `NotFound` is read as an empty one, and then stale node configs stay.
-/

namespace SriovFec.Controller

open SriovFec.Api.V1

/-- The node configs `F` a sync of the rendering `T` leaves from `S`, name by name. -/
structure SyncedFrom (T : List SriovFecNodeConfig) (S F : Store SriovFecNodeConfig) : Prop where
  names_stored : ∀ n ∈ T.map (·.name), ∃ o ∈ F.items, o.name = n
  last_spec : ∀ n ∈ T.map (·.name), ∃ o, F.get? ⟨"default", n⟩ = some o ∧
    (T.filter fun t => t.name = n).getLast?.map (·.spec) = some o.spec ∧
    ∀ p, S.get? ⟨"default", n⟩ = some p → o = { p with spec := o.spec }
  other_namespaces : ∀ k : NamespacedName, k.«namespace» ≠ "default" → k.name ∈ T.map (·.name) →
    F.get? k = S.get? k

section Synced

variable {T items : List SriovFecNodeConfig} {st : Store SriovFecNodeConfig}

theorem filter_key_eq_filter_name (hT : ∀ t ∈ T, t.objectMeta.«namespace» = "default") (n : String) :
    (T.filter fun x => Object.key x = ⟨"default", n⟩) = T.filter fun x => x.name = n :=
  List.filter_congr fun x hx => by simp [key_of_namespace_default (hT x hx)]

/-- A successful sync of a rendering in `default` leaves `SyncedFrom`, whatever the list
returned. -/
theorem syncedFrom_of_rendering (hT : ∀ t ∈ T, t.objectMeta.«namespace» = "default") :
    SyncedFrom T st (T.foldl upserted (removedOld T items st)) := by
  have last_spec : ∀ n ∈ T.map (·.name), ∃ o, (T.foldl upserted (removedOld T items st)).get? ⟨"default", n⟩ = some o ∧
      (T.filter fun t => t.name = n).getLast?.map (·.spec) = some o.spec ∧
      ∀ p, st.get? ⟨"default", n⟩ = some p → o = { p with spec := o.spec } := by
    intro n hn
    obtain ⟨t, ht, rfl⟩ := List.mem_map.1 hn
    obtain ⟨o, ho, hlast, hprev⟩ := get?_foldl_upserted_of_mem (S := removedOld T items st)
      ⟨t, ht, key_of_namespace_default (hT t ht)⟩
    rw [filter_key_eq_filter_name hT] at hlast
    exact ⟨o, ho, hlast, fun p hp => hprev p (by rwa [get?_removedOld_of_name_mem hn])⟩
  refine ⟨fun n hn => ?_, last_spec, fun k hk hn => ?_⟩
  · obtain ⟨o, ho, -, -⟩ := last_spec n hn
    exact ⟨o, (Store.get?_eq_some.1 ho).1, congrArg NamespacedName.name (Store.get?_eq_some.1 ho).2⟩
  · rw [get?_foldl_upserted_of_not_mem fun t ht h => hk (by rw [← h]; exact hT t ht),
      get?_removedOld_of_name_mem hn]

/-- A sync from the full list of the stored node configs leaves no name outside `T`. -/
theorem name_mem_of_synced {o : SriovFecNodeConfig}
    (ho : o ∈ (T.foldl upserted (removedOld T st.items st)).items) : o.name ∈ T.map (·.name) := by
  by_contra hn
  have hnot : ∀ t ∈ T, Object.key t ≠ Object.key o := fun t ht h => by
    have h' : t.name = o.name := congrArg NamespacedName.name h
    exact hn (h' ▸ List.mem_map_of_mem _ ht)
  have hget := Store.mem_items.1 ho
  rw [get?_foldl_upserted_of_not_mem hnot, get?_removedOld_items_of_name_not_mem hn] at hget
  cases hget

end Synced

section Pass

variable (NAMESPACE : String) (req : NamespacedName) (cluster : Cluster)
  (faults : Nat → Option ApiError)

/-- A pass that writes `NodeConfigsCreated` leaves a successful sync of its rendering from
what its list returned, which is every stored node config when the list returned no error. -/
theorem pass_created_nodeConfigs
    (h : writtenStatus (pass NAMESPACE req cluster faults).2.calls = some "NodeConfigsCreated") :
    ∃ cfg T items, req = ⟨NAMESPACE, defaultClusterConfigName⟩ ∧
      cluster.clusterConfigs.get? req = some cfg ∧ validateClusterConfig cfg.spec = .valid ∧
      renderNodeConfigs cfg (cluster.nodes.filter (matchesLabels labelsToMatch)) = some T ∧
      (⟨.listNodeConfigs, none⟩ ∈ (pass NAMESPACE req cluster faults).2.calls →
        items = cluster.nodeConfigs.items) ∧
      (pass NAMESPACE req cluster faults).2.cluster.nodeConfigs =
        T.foldl upserted (removedOld T items cluster.nodeConfigs) := by
  obtain ⟨cfg, s1, nodeList, s2, T, s3, hget, hreq, hv, hnodes, hrender, hsync, hpass⟩ :=
    pass_created NAMESPACE req cluster faults h
  obtain ⟨hc1, hcl1⟩ := calls_of_getClusterConfig hget
  obtain ⟨hc2, hcl2⟩ := calls_of_getNodesWithIntelAccelerator hnodes
  have hS : s2.cluster = cluster := hcl2.trans hcl1
  obtain ⟨items, hl, -, hs⟩ := syncNodeConfigs_ok (T := T) (s := s2) (by rw [hsync])
  obtain ⟨new, hc3, hnew⟩ := calls_of_syncNodeConfigs hsync
  rw [hsync] at hs
  refine ⟨cfg, T, items, hreq, get?_of_getClusterConfig hget, hv, ?_, fun hmem => ?_, ?_⟩
  · rwa [nodes_of_getNodesWithIntelAccelerator hnodes, hcl1] at hrender
  · have hL : errorOf (listNodeConfigs s2).1 = none := by
      rw [hpass, updateStatus_calls, hc3, hc2, hc1] at hmem
      simp only [List.nil_append, List.singleton_append, List.cons_append, List.mem_cons,
        List.mem_append, Record.mk.injEq, reduceCtorEq, false_and, false_or, List.mem_singleton,
        List.not_mem_nil, or_false, true_and] at hmem
      rcases hmem with hmem | hmem
      · exact hmem.symm
      · exact absurd (hnew.isSyncCall _ hmem) (by decide)
    rcases hl with hl | ⟨hl, -⟩
    · rw [listNodeConfigs_ok hl, hS]
    · rw [hl] at hL
      cases hL
  · rw [hpass, updateStatus_nodeConfigs, show s3.cluster = _ from hs, hS]

/-- After a pass that writes `NodeConfigsCreated`, with `T` its rendering of the stored
config and the labelled nodes, the node configs are `SyncedFrom T` the ones before, and
when the pass's list returned no error no name outside `T` is left. -/
theorem nodeConfigs_after_created_pass
    (h : writtenStatus (pass NAMESPACE req cluster faults).2.calls = some "NodeConfigsCreated") :
    ∃ cfg T, cluster.clusterConfigs.get? req = some cfg ∧
      renderNodeConfigs cfg (cluster.nodes.filter (matchesLabels labelsToMatch)) = some T ∧
      SyncedFrom T cluster.nodeConfigs (pass NAMESPACE req cluster faults).2.cluster.nodeConfigs ∧
      (⟨.listNodeConfigs, none⟩ ∈ (pass NAMESPACE req cluster faults).2.calls →
        ∀ o ∈ (pass NAMESPACE req cluster faults).2.cluster.nodeConfigs.items, o.name ∈ T.map (·.name)) := by
  obtain ⟨cfg, T, items, -, hcfg, -, hrender, hlist, hF⟩ :=
    pass_created_nodeConfigs NAMESPACE req cluster faults h
  rw [hF]
  refine ⟨cfg, T, hcfg, hrender, syncedFrom_of_rendering fun t ht => (renderNodeConfigs_named hrender t ht).1,
    fun hl o ho => ?_⟩
  rw [hlist hl] at ho
  exact name_mem_of_synced ho

end Pass

section Demo

theorem nodeConfigs_after_created_pass_on_staleCluster :
    writtenStatus (pass "ns" demoReq staleCluster fun _ => none).2.calls =
        some "NodeConfigsCreated" ∧
      ∃ cfg T, staleCluster.clusterConfigs.get? demoReq = some cfg ∧
        renderNodeConfigs cfg (staleCluster.nodes.filter (matchesLabels labelsToMatch)) = some T ∧
        SyncedFrom T staleCluster.nodeConfigs
          (pass "ns" demoReq staleCluster fun _ => none).2.cluster.nodeConfigs ∧
        (⟨.listNodeConfigs, none⟩ ∈ (pass "ns" demoReq staleCluster fun _ => none).2.calls →
          ∀ o ∈ (pass "ns" demoReq staleCluster fun _ => none).2.cluster.nodeConfigs.items,
            o.name ∈ T.map (·.name)) :=
  have h : writtenStatus (pass "ns" demoReq staleCluster fun _ => none).2.calls =
      some "NodeConfigsCreated" := by decide
  ⟨h, nodeConfigs_after_created_pass _ _ _ _ h⟩

/-- With its list of node configs failed with `NotFound`, a pass writes `NodeConfigsCreated`
and leaves the stale node config, whose name its rendering does not have. -/
theorem stale_nodeConfig_survives_notFound_list :
    writtenStatus (pass "ns" demoReq staleCluster listNotFound).2.calls =
        some "NodeConfigsCreated" ∧
      renderNodeConfigs demoConfig (staleCluster.nodes.filter (matchesLabels labelsToMatch)) =
        some [newNodeConfig "node1" false []] ∧
      staleNodeConfig ∈ (pass "ns" demoReq staleCluster listNotFound).2.cluster.nodeConfigs.items ∧
      staleNodeConfig.name ∉ [newNodeConfig "node1" false []].map (·.name) := by
  decide

end Demo

end SriovFec.Controller
