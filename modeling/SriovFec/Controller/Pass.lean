import SriovFec.Controller.Reconcile
import SriovFec.Controller.Trace
import SriovFec.Controller.Frame

/-!
# What a pass reads and which status it writes

The reads of a pass change nothing, the cluster config it gets is the stored one and
the nodes it lists are the labelled ones. Every call of a sync is a node-config call, so
the only status write of a pass is its last call.
-/

namespace SriovFec.Controller

open SriovFec.Api.V1

/-- A write of the cluster config's status. -/
def Call.isStatusWrite : Call → Bool
  | .updateClusterConfigStatus _ => true
  | _ => false

/-- The sync status a call writes, if it is a status write. -/
def Call.writtenStatus? : Call → Option String
  | .updateClusterConfigStatus c => some c.status.syncStatus
  | _ => none

/-- The sync status of the first status write among `calls`. -/
def writtenStatus (calls : List Record) : Option String :=
  calls.findSome? fun x => x.call.writtenStatus?

theorem writtenStatus?_eq_none {c : Call} (h : c.isStatusWrite = false) : c.writtenStatus? = none := by
  cases c <;> first | rfl | cases h

theorem writtenStatus_append {l l' : List Record} (h : ∀ x ∈ l, x.call.isStatusWrite = false) :
    writtenStatus (l ++ l') = writtenStatus l' := by
  induction l with
  | nil => rfl
  | cons x rest ih =>
      simp only [writtenStatus, List.cons_append, List.findSome?_cons,
        writtenStatus?_eq_none (h x (.head _))] at ih ⊢
      exact ih fun y hy => h y (.tail _ hy)

@[simp] theorem writtenStatus_nil : writtenStatus [] = none := rfl

@[simp] theorem writtenStatus_status (c : SriovFecClusterConfig) (r : Option ApiError) (l : List Record) :
    writtenStatus (⟨.updateClusterConfigStatus c, r⟩ :: l) = some c.status.syncStatus := rfl

section Reads

variable {s s1 : ClientState} {req : NamespacedName} {cfg : SriovFecClusterConfig} {nodeList : List Node}

/-- The cluster config a pass gets is the stored one. -/
theorem get?_of_getClusterConfig (h : getClusterConfig req s = (.ok cfg, s1)) :
    s.cluster.clusterConfigs.get? req = some cfg := by
  unfold getClusterConfig issue at h
  split at h
  · cases h
  · simp only [lookup] at h
    split at h
    · next hg => exact hg ▸ congrArg some (Except.ok.inj (Prod.mk.inj h).1)
    · cases h

/-- The get of a stored config fails only where the control plane fails it. -/
theorem getClusterConfig_of_stored (h0 : s.faults s.calls.length = none)
    (hg : s.cluster.clusterConfigs.get? req = some cfg) : (getClusterConfig req s).1 = .ok cfg := by
  simp [getClusterConfig, issue_of_no_fault h0, lookup, hg]

/-- The nodes a pass lists are the stored nodes carrying the selected labels. -/
theorem nodes_of_getNodesWithIntelAccelerator
    (h : getNodesWithIntelAccelerator s = (.ok nodeList, s1)) :
    nodeList = s.cluster.nodes.filter (matchesLabels labelsToMatch) := by
  unfold getNodesWithIntelAccelerator listNodes issue at h
  split at h
  · cases h
  · exact (Except.ok.inj (Prod.mk.inj h).1).symm

end Reads

section SyncCallsKind

theorem DeletesFrom.isSyncCall {T items new : List _} {r : Except ApiError Unit}
    (h : DeletesFrom T items new r) : ∀ x ∈ new, x.call.isSyncCall := by
  induction items generalizing new with
  | nil => simp [DeletesFrom, h.1]
  | cons nc rest ih =>
      simp only [DeletesFrom] at h
      split_ifs at h
      · rcases h with ⟨e, rfl, -⟩ | ⟨new', rfl, h'⟩
        · simp [Call.isSyncCall]
        · simpa [Call.isSyncCall] using ih h'
      · exact ih h

theorem UpsertCalls.isSyncCall {t : SriovFecNodeConfig} {b : List Record} {r : Except ApiError Unit}
    (h : UpsertCalls t b r) : ∀ x ∈ b, x.call.isSyncCall := by
  cases h <;> simp [Call.isSyncCall]

theorem UpsertsFrom.isSyncCall {T : List SriovFecNodeConfig} {new : List Record}
    {r : Except ApiError Unit} (h : UpsertsFrom T new r) : ∀ x ∈ new, x.call.isSyncCall := by
  induction T generalizing new with
  | nil => simp [UpsertsFrom, h.1]
  | cons t rest ih =>
      obtain ⟨b, rb, hb, ⟨e, -, rfl, -⟩ | ⟨-, new', rfl, h'⟩⟩ := h
      · exact hb.isSyncCall
      · simpa only [List.mem_append] using fun x hx => hx.elim (hb.isSyncCall x) (ih h' x)

theorem SyncCalls.isSyncCall {T : List SriovFecNodeConfig} {L : Except ApiError (List SriovFecNodeConfig)}
    {new : List Record} {r : Except ApiError Unit} (h : SyncCalls T L new r) :
    ∀ x ∈ new, x.call.isSyncCall := by
  rcases h with ⟨e, -, -, rfl, -⟩ | ⟨items, dels, rd, ups, -, hd, rfl, hu⟩
  · simp
  · intro x hx
    rcases List.mem_append.1 hx with hx | hx
    · exact hd.isSyncCall x hx
    · rcases hu with ⟨e, -, rfl, -⟩ | ⟨-, hu⟩
      · cases hx
      · exact hu.isSyncCall x hx

end SyncCallsKind

theorem isStatusWrite_of_isSyncCall {c : Call} (h : c.isSyncCall) : c.isStatusWrite = false := by
  cases c <;> first | rfl | cases h

section Steps

variable {s s1 : ClientState} {req : NamespacedName} {cfg : SriovFecClusterConfig}

theorem calls_of_getClusterConfig {r : Except ApiError SriovFecClusterConfig}
    (h : getClusterConfig req s = (r, s1)) :
    s1.calls = s.calls ++ [⟨.getClusterConfig req, errorOf r⟩] ∧ s1.cluster = s.cluster :=
  ⟨calls_of_issue h, cluster_of_read (fun _ => rfl) h⟩

theorem calls_of_getNodesWithIntelAccelerator {r : Except ApiError (List Node)}
    (h : getNodesWithIntelAccelerator s = (r, s1)) :
    s1.calls = s.calls ++ [⟨.listNodes labelsToMatch, errorOf r⟩] ∧ s1.cluster = s.cluster :=
  ⟨calls_of_issue h, cluster_of_read (fun _ => rfl) h⟩

theorem calls_of_syncNodeConfigs {T : List SriovFecNodeConfig} {r : Except ApiError Unit}
    (h : syncNodeConfigs T s = (r, s1)) :
    ∃ new, s1.calls = s.calls ++ ⟨.listNodeConfigs, errorOf (listNodeConfigs s).1⟩ :: new ∧
      SyncCalls T (listNodeConfigs s).1 new r := by
  have := syncNodeConfigs_calls (T := T) (s := s)
  rwa [h] at this

theorem writtenStatus_updateStatus {status reason : String}
    (h : ∀ x ∈ s.calls, x.call.isStatusWrite = false) :
    writtenStatus (updateStatus cfg status reason s).calls = some status := by
  rw [updateStatus_calls, writtenStatus_append h, writtenStatus_status]

theorem updateStatus_keeps_inputs' {status reason : String} {cl : Cluster}
    (hn : s.cluster.nodes = cl.nodes) (hc : s.cluster.clusterConfigs = cl.clusterConfigs) :
    (updateStatus cfg status reason s).cluster.nodes = cl.nodes ∧
      ∀ k, ((updateStatus cfg status reason s).cluster.clusterConfigs.get? k).map (·.spec) =
        (cl.clusterConfigs.get? k).map (·.spec) :=
  ⟨by rw [updateStatus_nodes, hn], fun k => by rw [updateStatus_spec, hc]⟩

theorem updateStatus_keeps_inputs {status reason : String} {cl : Cluster} (h : s.cluster = cl) :
    (updateStatus cfg status reason s).cluster.nodes = cl.nodes ∧
      ∀ k, ((updateStatus cfg status reason s).cluster.clusterConfigs.get? k).map (·.spec) =
        (cl.clusterConfigs.get? k).map (·.spec) :=
  updateStatus_keeps_inputs' (by rw [h]) (by rw [h])

/-- A status write of the config stored under `req`, made when the cluster configs are those
of `cl` and no status was written yet: it is the last call, its status is the written one,
and it changes the config under `req` alone, and that one only when the write succeeds. -/
theorem updateStatus_lands {cl : Cluster} {status reason : String}
    (hcc : s.cluster.clusterConfigs = cl.clusterConfigs) (hcfg : cl.clusterConfigs.get? req = some cfg)
    (hno : ∀ x ∈ s.calls, x.call.isStatusWrite = false) :
    ∃ r, (updateStatus cfg status reason s).calls.getLast? =
        some ⟨.updateClusterConfigStatus { cfg with status := ⟨status, reason⟩ }, r⟩ ∧
      writtenStatus (updateStatus cfg status reason s).calls = some status ∧
      ∀ k, (updateStatus cfg status reason s).cluster.clusterConfigs.get? k =
        if k = req ∧ r = none then some { cfg with status := ⟨status, reason⟩ }
        else cl.clusterConfigs.get? k := by
  have hk : Object.key cfg = req := Store.key_of_get? hcfg
  have hcfg' : cl.clusterConfigs.get? (Object.key cfg) = some cfg := by rw [hk]; exact hcfg
  obtain ⟨herr, hst⟩ := @updateStatus_of_get? cfg status reason s cfg (by rw [hcc, hcfg'])
  refine ⟨s.faults s.calls.length, by simp [herr], writtenStatus_updateStatus hno, fun k => ?_⟩
  by_cases hkr : k = req
  · rw [hkr, ← hk, hst, hcfg']
    cases s.faults s.calls.length <;> simp
  · rw [if_neg fun h => hkr h.1, updateStatus_get?_of_ne fun h => hkr (h.symm.trans hk), hcc]

end Steps

section PassStatus

variable (NAMESPACE : String) (req : NamespacedName) (cluster : Cluster)
  (faults : Nat → Option ApiError)

theorem pass_cases :
    PassCase NAMESPACE req ⟨cluster, faults, []⟩ (pass NAMESPACE req cluster faults) :=
  reconcile_cases NAMESPACE req _

/-- The calls of a pass up to its sync carry no status write. -/
theorem noStatus_before_sync {s2 s3 : ClientState} {cfg : SriovFecClusterConfig} {s1 : ClientState}
    {nodeList : List Node} {T : List SriovFecNodeConfig} {r : Except ApiError Unit}
    (hget : getClusterConfig req ⟨cluster, faults, []⟩ = (.ok cfg, s1))
    (hnodes : getNodesWithIntelAccelerator s1 = (.ok nodeList, s2))
    (hsync : syncNodeConfigs T s2 = (r, s3)) : ∀ x ∈ s3.calls, x.call.isStatusWrite = false := by
  obtain ⟨new, hc3, hnew⟩ := calls_of_syncNodeConfigs hsync
  rw [hc3, (calls_of_getNodesWithIntelAccelerator hnodes).1, (calls_of_getClusterConfig hget).1]
  intro x hx
  simp only [List.nil_append, List.cons_append, List.singleton_append, List.mem_cons] at hx
  rcases hx with rfl | rfl | rfl | hx
  · rfl
  · rfl
  · rfl
  · exact isStatusWrite_of_isSyncCall (hnew.isSyncCall x hx)

/-- A pass that writes `NodeConfigsCreated` got the stored config, listed the labelled
nodes, rendered them and synced the rendering without an error. -/
theorem pass_created
    (h : writtenStatus (pass NAMESPACE req cluster faults).2.calls = some "NodeConfigsCreated") :
    ∃ cfg s1 nodeList s2 T s3, getClusterConfig req ⟨cluster, faults, []⟩ = (.ok cfg, s1) ∧
      req = ⟨NAMESPACE, defaultClusterConfigName⟩ ∧ validateClusterConfig cfg.spec = .valid ∧
      getNodesWithIntelAccelerator s1 = (.ok nodeList, s2) ∧
      renderNodeConfigs cfg nodeList = some T ∧ syncNodeConfigs T s2 = (.ok (), s3) ∧
      pass NAMESPACE req cluster faults = (.ok, updateStatus cfg "NodeConfigsCreated" "" s3) := by
  have hc := pass_cases NAMESPACE req cluster faults
  generalize pass NAMESPACE req cluster faults = run at hc h ⊢
  cases hc with
  | getFailed e s1 hget =>
      simp [(calls_of_getClusterConfig hget).1, writtenStatus, Call.writtenStatus?] at h
  | ignored cfg s1 hget hreq =>
      rw [writtenStatus_updateStatus (by simp [(calls_of_getClusterConfig hget).1]; rfl)] at h
      exact absurd h (by decide)
  | invalid cfg s1 hget hreq reason hv =>
      rw [writtenStatus_updateStatus (by simp [(calls_of_getClusterConfig hget).1]; rfl)] at h
      exact absurd h (by decide)
  | nfdFailure cfg s1 hget hreq hv e s2 hnodes =>
      rw [writtenStatus_updateStatus (by
        simp [(calls_of_getNodesWithIntelAccelerator hnodes).1, (calls_of_getClusterConfig hget).1]
        exact ⟨rfl, rfl⟩)] at h
      exact absurd h (by decide)
  | syncFailed cfg s1 hget hreq hv nodeList s2 hnodes T hrender e s3 hsync =>
      rw [writtenStatus_updateStatus (noStatus_before_sync _ _ _ hget hnodes hsync)] at h
      exact absurd h (by decide)
  | created cfg s1 hget hreq hv nodeList s2 hnodes T hrender s3 hsync =>
      exact ⟨cfg, s1, nodeList, s2, T, s3, hget, hreq, hv, hnodes, hrender, hsync, rfl⟩

/-- A pass that writes `NodeConfigsCreationFailed` got the stored config, listed the
labelled nodes, rendered them and its sync of the rendering returned an error. -/
theorem pass_creationFailed
    (h : writtenStatus (pass NAMESPACE req cluster faults).2.calls = some "NodeConfigsCreationFailed") :
    ∃ cfg s1 nodeList s2 T e s3, getClusterConfig req ⟨cluster, faults, []⟩ = (.ok cfg, s1) ∧
      req = ⟨NAMESPACE, defaultClusterConfigName⟩ ∧ validateClusterConfig cfg.spec = .valid ∧
      getNodesWithIntelAccelerator s1 = (.ok nodeList, s2) ∧
      renderNodeConfigs cfg nodeList = some T ∧ syncNodeConfigs T s2 = (.error e, s3) ∧
      pass NAMESPACE req cluster faults =
        (.err e, updateStatus cfg "NodeConfigsCreationFailed" "failed to create NodeConfigs - check logs" s3) := by
  have hc := pass_cases NAMESPACE req cluster faults
  generalize pass NAMESPACE req cluster faults = run at hc h ⊢
  cases hc with
  | getFailed e s1 hget =>
      simp [(calls_of_getClusterConfig hget).1, writtenStatus, Call.writtenStatus?] at h
  | ignored cfg s1 hget hreq =>
      rw [writtenStatus_updateStatus (by simp [(calls_of_getClusterConfig hget).1]; rfl)] at h
      exact absurd h (by decide)
  | invalid cfg s1 hget hreq reason hv =>
      rw [writtenStatus_updateStatus (by simp [(calls_of_getClusterConfig hget).1]; rfl)] at h
      exact absurd h (by decide)
  | nfdFailure cfg s1 hget hreq hv e s2 hnodes =>
      rw [writtenStatus_updateStatus (by
        simp [(calls_of_getNodesWithIntelAccelerator hnodes).1, (calls_of_getClusterConfig hget).1]
        exact ⟨rfl, rfl⟩)] at h
      exact absurd h (by decide)
  | syncFailed cfg s1 hget hreq hv nodeList s2 hnodes T hrender e s3 hsync =>
      exact ⟨cfg, s1, nodeList, s2, T, e, s3, hget, hreq, hv, hnodes, hrender, hsync, rfl⟩
  | created cfg s1 hget hreq hv nodeList s2 hnodes T hrender s3 hsync =>
      rw [writtenStatus_updateStatus (noStatus_before_sync _ _ _ hget hnodes hsync)] at h
      exact absurd h (by decide)

/-- Every way a pass can go changes no node and the spec of no cluster config. -/
theorem passCase_keeps_inputs {run : Outcome × ClientState}
    (hc : PassCase NAMESPACE req ⟨cluster, faults, []⟩ run) :
    run.2.cluster.nodes = cluster.nodes ∧
      ∀ k, (run.2.cluster.clusterConfigs.get? k).map (·.spec) = (cluster.clusterConfigs.get? k).map (·.spec) := by
  cases hc with
  | getFailed e s1 hget => rw [(calls_of_getClusterConfig hget).2]; exact ⟨rfl, fun _ => rfl⟩
  | ignored cfg s1 hget hreq => exact updateStatus_keeps_inputs (calls_of_getClusterConfig hget).2
  | invalid cfg s1 hget hreq reason hv =>
      exact updateStatus_keeps_inputs (calls_of_getClusterConfig hget).2
  | nfdFailure cfg s1 hget hreq hv e s2 hnodes =>
      exact updateStatus_keeps_inputs
        ((calls_of_getNodesWithIntelAccelerator hnodes).2.trans (calls_of_getClusterConfig hget).2)
  | syncFailed cfg s1 hget hreq hv nodeList s2 hnodes T hrender e s3 hsync =>
      have hf := syncFrame_of_syncNodeConfigs hsync
      rw [(calls_of_getNodesWithIntelAccelerator hnodes).2, (calls_of_getClusterConfig hget).2] at hf
      exact updateStatus_keeps_inputs' hf.2.1 hf.1
  | created cfg s1 hget hreq hv nodeList s2 hnodes T hrender s3 hsync =>
      have hf := syncFrame_of_syncNodeConfigs hsync
      rw [(calls_of_getNodesWithIntelAccelerator hnodes).2, (calls_of_getClusterConfig hget).2] at hf
      exact updateStatus_keeps_inputs' hf.2.1 hf.1

/-- No way a pass can go reads `Spec.Nodes` out of range. -/
theorem passCase_ne_indexOutOfRange {run : Outcome × ClientState}
    (hc : PassCase NAMESPACE req ⟨cluster, faults, []⟩ run) : run.1 ≠ .indexOutOfRange := by
  cases hc with
  | getFailed e =>
      dsimp only
      split_ifs <;> nofun
  | _ => nofun

/-- A pass that got the config stored under `req` ends with a status write of it, made when
the cluster configs are still the initial ones and no status was written yet. -/
theorem passCase_status_write {run : Outcome × ClientState} {cfg : SriovFecClusterConfig}
    (hc : PassCase NAMESPACE req ⟨cluster, faults, []⟩ run) (h0 : faults 0 = none)
    (hcfg : cluster.clusterConfigs.get? req = some cfg) :
    ∃ status reason s, run.2 = updateStatus cfg status reason s ∧
      s.cluster.clusterConfigs = cluster.clusterConfigs ∧ ∀ x ∈ s.calls, x.call.isStatusWrite = false := by
  have hcfg_of {cfg' : SriovFecClusterConfig} {s1 : ClientState}
      (hget : getClusterConfig req ⟨cluster, faults, []⟩ = (.ok cfg', s1)) : cfg' = cfg :=
    Option.some.inj ((get?_of_getClusterConfig hget).symm.trans hcfg)
  cases hc with
  | getFailed e s1 hget =>
      have h : (getClusterConfig req ⟨cluster, faults, []⟩).1 = .ok cfg := getClusterConfig_of_stored h0 hcfg
      rw [hget] at h
      cases h
  | ignored cfg' s1 hget _ | invalid cfg' s1 hget _ _ _ =>
      obtain rfl := hcfg_of hget
      exact ⟨_, _, s1, rfl, by rw [(calls_of_getClusterConfig hget).2],
        by simp [(calls_of_getClusterConfig hget).1]; rfl⟩
  | nfdFailure cfg' s1 hget hreq hv e s2 hnodes =>
      obtain rfl := hcfg_of hget
      exact ⟨_, _, s2, rfl,
        by rw [(calls_of_getNodesWithIntelAccelerator hnodes).2, (calls_of_getClusterConfig hget).2],
        by simp [(calls_of_getNodesWithIntelAccelerator hnodes).1, (calls_of_getClusterConfig hget).1]
           exact ⟨rfl, rfl⟩⟩
  | syncFailed cfg' s1 hget _ _ _ s2 hnodes _ _ _ s3 hsync | created cfg' s1 hget _ _ _ s2 hnodes _ _ s3 hsync =>
      obtain rfl := hcfg_of hget
      have hf := syncFrame_of_syncNodeConfigs hsync
      rw [(calls_of_getNodesWithIntelAccelerator hnodes).2, (calls_of_getClusterConfig hget).2] at hf
      exact ⟨_, _, s3, rfl, hf.1, noStatus_before_sync _ _ _ hget hnodes hsync⟩

end PassStatus

/-! ### A cluster with a stale node config

The inputs the concrete runs of later modules start from. -/

section Demo

/-- The request for the singleton cluster config of the namespace `ns`. -/
def demoReq : NamespacedName := ⟨"ns", defaultClusterConfigName⟩

/-- A node carrying the labels of an accelerator. -/
def demoNode : Node := ⟨"node1", labelsToMatch⟩

/-- The singleton cluster config of the namespace `ns`: one entry, for `node1`, with no card. -/
def demoConfig : SriovFecClusterConfig :=
  ⟨⟨"sriovfec.intel.com/v1", "SriovFecClusterConfig"⟩, ⟨"config", "ns", [], []⟩,
    ⟨false, [⟨"node1", false, []⟩]⟩, ⟨"", ""⟩⟩

/-- The control plane fails the third call of a pass, its list of node configs, with
`NotFound`. -/
def listNotFound (n : Nat) : Option ApiError := if n = 2 then some .notFound else none

/-- The node config of a node that no longer has an accelerator. -/
def staleNodeConfig : SriovFecNodeConfig := newNodeConfig "node0" false []

/-- `demoConfig`, `demoNode` and the stale node config. -/
def staleCluster : Cluster :=
  ⟨⟨[demoConfig], List.nodup_singleton _⟩, [demoNode], ⟨[staleNodeConfig], List.nodup_singleton _⟩⟩

end Demo

end SriovFec.Controller
