import SriovFec.Controller.Created
import SriovFec.Controller.Faultless

/-!
# A pass after a pass

The controller is rerun on the same inputs until a pass succeeds. Two passes whose lists
of node configs return no error leave the same `(namespace, name, spec)` triples:
- a pass after one that created the node configs changes no triple, and when the control
  plane fails none of its calls it creates and deletes nothing;
- a pass after one whose sync failed partway leaves the triples a single pass leaves.

The second rests on `SyncFrame`: a failed sync wrote only keys that a later successful
sync writes over or deletes.
-/

namespace SriovFec.Controller

open SriovFec.Api.V1

/-- The `(namespace, name, spec)` triples of the stored node configs. -/
def triples (st : Store SriovFecNodeConfig) : List (String × String × SriovFecNodeConfigSpec) :=
  st.items.map fun o => (o.objectMeta.«namespace», o.name, o.spec)

theorem mem_triples {st : Store SriovFecNodeConfig} {x : String × String × SriovFecNodeConfigSpec} :
    x ∈ triples st ↔ (st.get? ⟨x.1, x.2.1⟩).map (·.spec) = some x.2.2 := by
  obtain ⟨ns, n, sp⟩ := x
  simp only [triples, List.mem_map, Prod.mk.injEq, Option.map_eq_some', Store.get?_eq_some]
  constructor
  · rintro ⟨o, ho, rfl, rfl, rfl⟩
    exact ⟨o, ⟨ho, rfl⟩, rfl⟩
  · rintro ⟨o, ⟨ho, hk⟩, rfl⟩
    exact ⟨o, ho, congrArg NamespacedName.namespace hk, congrArg NamespacedName.name hk, rfl⟩

/-- Stores with the same spec under every key have the same triples. -/
theorem triples_congr {F G : Store SriovFecNodeConfig}
    (h : ∀ k, (F.get? k).map (·.spec) = (G.get? k).map (·.spec)) (x : String × String × SriovFecNodeConfigSpec) :
    x ∈ triples F ↔ x ∈ triples G := by
  rw [mem_triples, mem_triples, h]

section Specs

variable {T : List SriovFecNodeConfig} {k : NamespacedName}

/-- Under a key of `T` the create-or-update loop leaves the same spec from every store. -/
theorem spec_foldl_upserted_of_mem (h : ∃ t ∈ T, Object.key t = k) (A B : Store SriovFecNodeConfig) :
    ((T.foldl upserted A).get? k).map (·.spec) = ((T.foldl upserted B).get? k).map (·.spec) := by
  obtain ⟨o, ho, hlast, -⟩ := get?_foldl_upserted_of_mem (S := A) h
  obtain ⟨o', ho', hlast', -⟩ := get?_foldl_upserted_of_mem (S := B) h
  rw [ho, ho', Option.map_some', Option.map_some', ← hlast, ← hlast']

/-- Successful syncs of one rendering from the full lists of two stores leave the same spec
under every key, when the stores agree on the keys no sync of it writes. -/
theorem spec_synced_congr {S S' : Store SriovFecNodeConfig}
    (h : ∀ k, Untouched T k → S'.get? k = S.get? k) (k : NamespacedName) :
    ((T.foldl upserted (removedOld T S'.items S')).get? k).map (·.spec) =
      ((T.foldl upserted (removedOld T S.items S)).get? k).map (·.spec) := by
  by_cases hk : ∃ t ∈ T, Object.key t = k
  · exact spec_foldl_upserted_of_mem hk _ _
  · have hne : ∀ t ∈ T, Object.key t ≠ k := fun t ht h => hk ⟨t, ht, h⟩
    rw [get?_foldl_upserted_of_not_mem hne, get?_foldl_upserted_of_not_mem hne]
    by_cases hn : k.name ∈ T.map (·.name)
    · rw [get?_removedOld_of_name_mem hn, get?_removedOld_of_name_mem hn, h k ⟨hn, hne⟩]
    · rw [get?_removedOld_items_of_name_not_mem hn, get?_removedOld_items_of_name_not_mem hn]

end Specs

section Passes

variable {req : NamespacedName} {cluster : Cluster}

/-- The config a pass finds under `req` in what an earlier pass left has the spec of the one
the earlier pass found, so it renders the labelled nodes the same way. -/
theorem render_after_pass (NAMESPACE : String) (faults : Nat → Option ApiError)
    {cfg : SriovFecClusterConfig} {T : List SriovFecNodeConfig} (hcfg : cluster.clusterConfigs.get? req = some cfg)
    (hrender : renderNodeConfigs cfg (cluster.nodes.filter (matchesLabels labelsToMatch)) = some T) :
    ∃ cfg', (pass NAMESPACE req cluster faults).2.cluster.clusterConfigs.get? req = some cfg' ∧
      cfg'.spec = cfg.spec ∧
      renderNodeConfigs cfg' ((pass NAMESPACE req cluster faults).2.cluster.nodes.filter
        (matchesLabels labelsToMatch)) = some T := by
  obtain ⟨hnodes, hspec⟩ := passCase_keeps_inputs NAMESPACE req cluster faults (pass_cases NAMESPACE req cluster faults)
  have h := hspec req
  rw [hcfg, Option.map_some', Option.map_eq_some'] at h
  obtain ⟨cfg', hcfg', hs⟩ := h
  exact ⟨cfg', hcfg', hs, by rw [renderNodeConfigs_congr_spec _ hs, hnodes, hrender]⟩

/-- A pass in which the control plane fails nothing, after one that wrote
`NodeConfigsCreated` with a list that returned no error, creates and deletes nothing and
keeps the triples. -/
theorem pass_after_created_pass (NAMESPACE : String) (faults : Nat → Option ApiError)
    (h1 : writtenStatus (pass NAMESPACE req cluster faults).2.calls = some "NodeConfigsCreated")
    (hl : ⟨.listNodeConfigs, none⟩ ∈ (pass NAMESPACE req cluster faults).2.calls) :
    (∀ x ∈ (pass NAMESPACE req (pass NAMESPACE req cluster faults).2.cluster fun _ => none).2.calls,
        ∀ nc, x.call ≠ .createNodeConfig nc ∧ x.call ≠ .deleteNodeConfig nc) ∧
      ∀ x, x ∈ triples (pass NAMESPACE req (pass NAMESPACE req cluster faults).2.cluster
          fun _ => none).2.cluster.nodeConfigs ↔
        x ∈ triples (pass NAMESPACE req cluster faults).2.cluster.nodeConfigs := by
  obtain ⟨cfg, T, items, hreq, hcfg, hv, hrender, hlist, hF⟩ :=
    pass_created_nodeConfigs NAMESPACE req cluster faults h1
  have hT := fun t ht => (renderNodeConfigs_named hrender t ht).1
  have hsynced : SyncedFrom T cluster.nodeConfigs
      (T.foldl upserted (removedOld T items cluster.nodeConfigs)) := syncedFrom_of_rendering hT
  rw [hlist hl] at hF hsynced
  obtain ⟨cfg', hcfg', hs, hrender'⟩ := render_after_pass NAMESPACE faults hcfg hrender
  have hkept : ∀ nc ∈ (pass NAMESPACE req cluster faults).2.cluster.nodeConfigs.items, deleteNC T nc = false :=
    fun nc hnc => deleteNC_eq_false_iff.2 (name_mem_of_synced (hF ▸ hnc))
  obtain ⟨status, hcalls, hst, hF2⟩ := pass_faultless_of_kept hreq hcfg' (hs ▸ hv) hrender' hkept
  refine ⟨fun x hx nc => ?_, triples_congr fun k => ?_⟩
  · rw [hcalls] at hx
    simp only [List.mem_append, List.mem_cons, List.mem_singleton, List.not_mem_nil, or_false] at hx
    rcases hx with ((rfl | rfl | rfl) | hx) | rfl
    · simp
    · simp
    · simp
    · refine upsertsCalls_of_present (fun t ht => ?_) x hx nc
      obtain ⟨o, ho, -⟩ := hsynced.last_spec t.name (List.mem_map_of_mem _ ht)
      rw [hF, key_of_namespace_default (hT t ht), ho]
      rfl
    · constructor <;> intro hc <;> simp [hc, Call.writtenStatus?] at hst
  · rw [hF2]
    by_cases hk : ∃ t ∈ T, Object.key t = k
    · rw [spec_foldl_upserted_of_mem hk _ (removedOld T cluster.nodeConfigs.items cluster.nodeConfigs), hF]
    · rw [get?_foldl_upserted_of_not_mem fun t ht h => hk ⟨t, ht, h⟩]

/-- A pass after one whose sync failed leaves, when it writes `NodeConfigsCreated` with a list
that returned no error, the triples of a single such pass. -/
theorem pass_after_failed_sync (NAMESPACE : String) (faults1 faults2 faults3 : Nat → Option ApiError)
    (h1 : writtenStatus (pass NAMESPACE req cluster faults1).2.calls = some "NodeConfigsCreationFailed")
    (h2 : writtenStatus (pass NAMESPACE req (pass NAMESPACE req cluster faults1).2.cluster faults2).2.calls =
      some "NodeConfigsCreated")
    (hl2 : ⟨.listNodeConfigs, none⟩ ∈
      (pass NAMESPACE req (pass NAMESPACE req cluster faults1).2.cluster faults2).2.calls)
    (h3 : writtenStatus (pass NAMESPACE req cluster faults3).2.calls = some "NodeConfigsCreated")
    (hl3 : ⟨.listNodeConfigs, none⟩ ∈ (pass NAMESPACE req cluster faults3).2.calls) :
    ∀ x, x ∈ triples (pass NAMESPACE req (pass NAMESPACE req cluster faults1).2.cluster
        faults2).2.cluster.nodeConfigs ↔
      x ∈ triples (pass NAMESPACE req cluster faults3).2.cluster.nodeConfigs := by
  obtain ⟨cfg, s1, nodeList, s2, T, e, s3, hget, -, -, hnodes, hrender, hsync, hpass⟩ :=
    pass_creationFailed NAMESPACE req cluster faults1 h1
  have hcl2 : s2.cluster = cluster :=
    (calls_of_getNodesWithIntelAccelerator hnodes).2.trans (calls_of_getClusterConfig hget).2
  have hframe := syncFrame_of_syncNodeConfigs hsync
  rw [hcl2] at hframe
  have hS1 : ∀ k, Untouched T k →
      (pass NAMESPACE req cluster faults1).2.cluster.nodeConfigs.get? k = cluster.nodeConfigs.get? k :=
    fun k hk => by rw [hpass, updateStatus_nodeConfigs]; exact hframe.2.2 k hk
  have hcfg := get?_of_getClusterConfig hget
  rw [nodes_of_getNodesWithIntelAccelerator hnodes, (calls_of_getClusterConfig hget).2] at hrender
  obtain ⟨cfg2, T2, items2, -, hcfg2, -, hrender2, hlist2, hF2⟩ :=
    pass_created_nodeConfigs NAMESPACE req _ faults2 h2
  obtain ⟨cfg2', hcfg2', -, hrender2'⟩ := render_after_pass NAMESPACE faults1 hcfg hrender
  obtain rfl := Option.some.inj (hcfg2'.symm.trans hcfg2)
  obtain rfl := Option.some.inj (hrender2'.symm.trans hrender2)
  obtain ⟨cfg3, T3, items3, -, hcfg3, -, hrender3, hlist3, hF3⟩ :=
    pass_created_nodeConfigs NAMESPACE req cluster faults3 h3
  obtain rfl := Option.some.inj (hcfg.symm.trans hcfg3)
  obtain rfl := Option.some.inj (hrender.symm.trans hrender3)
  rw [hF2, hF3, hlist2 hl2, hlist3 hl3]
  exact triples_congr (spec_synced_congr hS1)

/-- With the inputs unchanged, passes whose lists return no error converge: a faultless pass
after one that wrote `NodeConfigsCreated` creates and deletes nothing and keeps the triples,
and a pass after one whose sync failed leaves the triples of a single pass. -/
theorem passes_converge (NAMESPACE : String) (req : NamespacedName) (cluster : Cluster) :
    (∀ faults,
      writtenStatus (pass NAMESPACE req cluster faults).2.calls = some "NodeConfigsCreated" →
      ⟨.listNodeConfigs, none⟩ ∈ (pass NAMESPACE req cluster faults).2.calls →
      (∀ x ∈ (pass NAMESPACE req (pass NAMESPACE req cluster faults).2.cluster fun _ => none).2.calls,
          ∀ nc, x.call ≠ .createNodeConfig nc ∧ x.call ≠ .deleteNodeConfig nc) ∧
        ∀ x, x ∈ triples (pass NAMESPACE req (pass NAMESPACE req cluster faults).2.cluster
            fun _ => none).2.cluster.nodeConfigs ↔
          x ∈ triples (pass NAMESPACE req cluster faults).2.cluster.nodeConfigs) ∧
    (∀ faults1 faults2 faults3,
      writtenStatus (pass NAMESPACE req cluster faults1).2.calls = some "NodeConfigsCreationFailed" →
      writtenStatus (pass NAMESPACE req (pass NAMESPACE req cluster faults1).2.cluster faults2).2.calls =
        some "NodeConfigsCreated" →
      ⟨.listNodeConfigs, none⟩ ∈
        (pass NAMESPACE req (pass NAMESPACE req cluster faults1).2.cluster faults2).2.calls →
      writtenStatus (pass NAMESPACE req cluster faults3).2.calls = some "NodeConfigsCreated" →
      ⟨.listNodeConfigs, none⟩ ∈ (pass NAMESPACE req cluster faults3).2.calls →
      ∀ x, x ∈ triples (pass NAMESPACE req (pass NAMESPACE req cluster faults1).2.cluster
          faults2).2.cluster.nodeConfigs ↔
        x ∈ triples (pass NAMESPACE req cluster faults3).2.cluster.nodeConfigs) :=
  ⟨fun faults => pass_after_created_pass NAMESPACE faults,
    fun faults1 faults2 faults3 => pass_after_failed_sync NAMESPACE faults1 faults2 faults3⟩

end Passes

section Demo

/-- The control plane fails the sixth call of a pass on `staleCluster`: the create of the
node config of `node1`, after the delete of the stale one. -/
def createFails (n : Nat) : Option ApiError := if n = 5 then some .other else none

theorem passes_converge_on_staleCluster :
    (writtenStatus (pass "ns" demoReq staleCluster fun _ => none).2.calls = some "NodeConfigsCreated" ∧
      ∀ x, x ∈ triples (pass "ns" demoReq (pass "ns" demoReq staleCluster fun _ => none).2.cluster
          fun _ => none).2.cluster.nodeConfigs ↔
        x ∈ triples (pass "ns" demoReq staleCluster fun _ => none).2.cluster.nodeConfigs) ∧
    (writtenStatus (pass "ns" demoReq staleCluster createFails).2.calls =
        some "NodeConfigsCreationFailed" ∧
      ∀ x, x ∈ triples (pass "ns" demoReq (pass "ns" demoReq staleCluster createFails).2.cluster
          fun _ => none).2.cluster.nodeConfigs ↔
        x ∈ triples (pass "ns" demoReq staleCluster fun _ => none).2.cluster.nodeConfigs) := by
  have h1 : writtenStatus (pass "ns" demoReq staleCluster fun _ => none).2.calls =
      some "NodeConfigsCreated" := by decide
  have hf : writtenStatus (pass "ns" demoReq staleCluster createFails).2.calls =
      some "NodeConfigsCreationFailed" := by decide
  exact ⟨⟨h1, ((passes_converge "ns" demoReq staleCluster).1 _ h1 (by decide)).2⟩,
    hf, (passes_converge "ns" demoReq staleCluster).2 _ _ _ hf (by decide) (by decide) h1 (by decide)⟩

/-- After a pass whose list failed with `NotFound` wrote `NodeConfigsCreated`, a pass in
which no call fails deletes the stale node config the first one left. -/
theorem second_pass_deletes_after_notFound_list :
    writtenStatus (pass "ns" demoReq staleCluster listNotFound).2.calls = some "NodeConfigsCreated" ∧
      ⟨.deleteNodeConfig staleNodeConfig, none⟩ ∈
        (pass "ns" demoReq (pass "ns" demoReq staleCluster listNotFound).2.cluster fun _ => none).2.calls := by
  decide

end Demo

end SriovFec.Controller
