import SriovFec.Controller.Pass

/-!
# The gate before the node inventory

A pass lists the nodes with an accelerator exactly when it got the cluster config of the
singleton request and the config passed its checks. Otherwise it writes no node config:
it writes `Ignored` for another request and `InvalidConfig` for a config that breaks
`StructurallyValid`, returns `nil`, and leaves the node configs as they were. No path reads
`Spec.Nodes` out of range: `validateClusterConfig` makes the read of `Spec.Nodes[0]` in
`renderNodeConfigs` safe.

## Implementation notes

The get of the cluster config is the first call of a pass, so `faults 0` is what the
control plane does to it.
-/

namespace SriovFec.Controller

open SriovFec.Api.V1

section Gate

variable (NAMESPACE : String) (req : NamespacedName) (cluster : Cluster)
  (faults : Nat → Option ApiError)

/-- The first get of a pass returns the stored config unless the control plane fails it. -/
theorem getClusterConfig_eq_ok_iff {cfg : SriovFecClusterConfig} :
    (getClusterConfig req ⟨cluster, faults, []⟩).1 = .ok cfg ↔
      faults 0 = none ∧ cluster.clusterConfigs.get? req = some cfg := by
  unfold getClusterConfig issue
  cases h : faults 0 <;> cases hg : cluster.clusterConfigs.get? req <;> simp [h, hg, lookup]

/-- Whether a pass lists the nodes: some call lists the accelerator labels. -/
def ListsNodes (calls : List Record) : Prop :=
  ∃ r, (⟨.listNodes labelsToMatch, r⟩ : Record) ∈ calls

/-- The gate, of a run of a pass on `req` from `cluster`. -/
@[reducible] def GateHolds (run : Outcome × ClientState) : Prop :=
  (ListsNodes run.2.calls ↔
      req = ⟨NAMESPACE, defaultClusterConfigName⟩ ∧ faults 0 = none ∧
        ∃ cfg, cluster.clusterConfigs.get? req = some cfg ∧ StructurallyValid cfg.spec) ∧
    (∀ x ∈ run.2.calls, x.call.isNodeConfigWrite → ListsNodes run.2.calls) ∧
    (∀ cfg, faults 0 = none → cluster.clusterConfigs.get? req = some cfg →
      req ≠ ⟨NAMESPACE, defaultClusterConfigName⟩ →
      run.1 = .ok ∧
        run.2.calls = [⟨.getClusterConfig req, none⟩,
          ⟨.updateClusterConfigStatus { cfg with status := ⟨"Ignored", ignoredReason NAMESPACE⟩ }, faults 1⟩] ∧
        run.2.cluster.clusterConfigs.get? req =
          some (if faults 1 = none then { cfg with status := ⟨"Ignored", ignoredReason NAMESPACE⟩ } else cfg) ∧
        run.2.cluster.nodeConfigs = cluster.nodeConfigs) ∧
    (∀ cfg, faults 0 = none → cluster.clusterConfigs.get? req = some cfg →
      req = ⟨NAMESPACE, defaultClusterConfigName⟩ → ¬ StructurallyValid cfg.spec →
      ∃ reason, validateClusterConfig cfg.spec = .invalid reason ∧ run.1 = .ok ∧
        run.2.calls = [⟨.getClusterConfig req, none⟩,
          ⟨.updateClusterConfigStatus { cfg with status := ⟨"InvalidConfig", reason⟩ }, faults 1⟩] ∧
        run.2.cluster.clusterConfigs.get? req =
          some (if faults 1 = none then { cfg with status := ⟨"InvalidConfig", reason⟩ } else cfg) ∧
        run.2.cluster.nodeConfigs = cluster.nodeConfigs) ∧
    run.1 ≠ .indexOutOfRange

theorem getClusterConfig_unique {cfg cfg' : SriovFecClusterConfig} {s1 : ClientState}
    (hget : getClusterConfig req ⟨cluster, faults, []⟩ = (.ok cfg, s1)) (h0 : faults 0 = none)
    (hg : cluster.clusterConfigs.get? req = some cfg') : cfg' = cfg := by
  have h := (getClusterConfig_eq_ok_iff req cluster faults).2 ⟨h0, hg⟩
  rw [hget] at h
  exact (Except.ok.inj h).symm

/-- A run that got a valid config of the singleton and listed the nodes keeps the gate. -/
theorem gateHolds_of_listed {cfg : SriovFecClusterConfig} {s1 : ClientState} {run : Outcome × ClientState}
    (hget : getClusterConfig req ⟨cluster, faults, []⟩ = (.ok cfg, s1))
    (hreq : req = ⟨NAMESPACE, defaultClusterConfigName⟩) (hv : validateClusterConfig cfg.spec = .valid)
    (hlists : ListsNodes run.2.calls) (hout : run.1 ≠ .indexOutOfRange) :
    GateHolds NAMESPACE req cluster faults run := by
  have hok := (getClusterConfig_eq_ok_iff req cluster faults).1 (by rw [hget])
  have hval := (validateClusterConfig_eq_valid_iff _).1 hv
  exact ⟨⟨fun _ => ⟨hreq, hok.1, cfg, hok.2, hval⟩, fun _ => hlists⟩, fun _ _ _ => hlists,
    fun _ _ _ h => absurd hreq h,
    fun cfg' h0 hg _ hinv => absurd hval (getClusterConfig_unique req cluster faults hget h0 hg ▸ hinv), hout⟩

/-- A pass that writes a status right after the get makes exactly these two calls, the
second a status write of the config it got, which the config under `req` then carries
unless the control plane failed the write; it lists no nodes and keeps the node configs. -/
theorem stopped_after_get {cfg : SriovFecClusterConfig} {s1 : ClientState} (status reason : String)
    (hget : getClusterConfig req ⟨cluster, faults, []⟩ = (.ok cfg, s1)) :
    ¬ ListsNodes (updateStatus cfg status reason s1).calls ∧
      (∀ x ∈ (updateStatus cfg status reason s1).calls, ¬ x.call.isNodeConfigWrite) ∧
      (updateStatus cfg status reason s1).calls = [⟨.getClusterConfig req, none⟩,
        ⟨.updateClusterConfigStatus { cfg with status := ⟨status, reason⟩ }, faults 1⟩] ∧
      (updateStatus cfg status reason s1).cluster.clusterConfigs.get? req =
        some (if faults 1 = none then { cfg with status := ⟨status, reason⟩ } else cfg) ∧
      (updateStatus cfg status reason s1).cluster.nodeConfigs = cluster.nodeConfigs := by
  obtain ⟨hcalls, hcl⟩ := calls_of_getClusterConfig hget
  have hg := get?_of_getClusterConfig hget
  have hk : Object.key cfg = req := Store.key_of_get? hg
  have hs1 : s1.faults s1.calls.length = faults 1 := by rw [faults_of_issue hget, hcalls]; rfl
  obtain ⟨herr, hst⟩ := @updateStatus_of_get? cfg status reason s1 cfg (by rw [hcl, hk]; exact hg)
  have hc : (updateStatus cfg status reason s1).calls = [⟨.getClusterConfig req, none⟩,
      ⟨.updateClusterConfigStatus { cfg with status := ⟨status, reason⟩ }, faults 1⟩] := by
    rw [updateStatus_calls, herr, hs1, hcalls]
    rfl
  refine ⟨fun ⟨r, hr⟩ => ?_, fun x hx => ?_, hc, by rw [← hk, hst, hs1],
    by rw [updateStatus_nodeConfigs, hcl]⟩
  · rw [hc] at hr
    simp at hr
  · simp only [hc, List.mem_cons, List.mem_singleton, List.not_mem_nil, or_false] at hx
    rcases hx with rfl | rfl <;> nofun

/-- A pass lists the nodes exactly when the singleton's config is got and valid; it writes
no node config without listing them; for another request, and for an invalid config of the
singleton, it returns `nil` after two calls, the get and the write of `Ignored` or
`InvalidConfig` to the config it got, which the config under the request then carries unless
the control plane failed the write, with the node configs unchanged; and it never reads
`Spec.Nodes` out of range. -/
theorem pass_gate :
    (ListsNodes (pass NAMESPACE req cluster faults).2.calls ↔
      req = ⟨NAMESPACE, defaultClusterConfigName⟩ ∧ faults 0 = none ∧
        ∃ cfg, cluster.clusterConfigs.get? req = some cfg ∧ StructurallyValid cfg.spec) ∧
    (∀ x ∈ (pass NAMESPACE req cluster faults).2.calls, x.call.isNodeConfigWrite →
      ListsNodes (pass NAMESPACE req cluster faults).2.calls) ∧
    (∀ cfg, faults 0 = none → cluster.clusterConfigs.get? req = some cfg →
      req ≠ ⟨NAMESPACE, defaultClusterConfigName⟩ →
      (pass NAMESPACE req cluster faults).1 = .ok ∧
        (pass NAMESPACE req cluster faults).2.calls = [⟨.getClusterConfig req, none⟩,
          ⟨.updateClusterConfigStatus { cfg with status := ⟨"Ignored", ignoredReason NAMESPACE⟩ }, faults 1⟩] ∧
        (pass NAMESPACE req cluster faults).2.cluster.clusterConfigs.get? req =
          some (if faults 1 = none then { cfg with status := ⟨"Ignored", ignoredReason NAMESPACE⟩ } else cfg) ∧
        (pass NAMESPACE req cluster faults).2.cluster.nodeConfigs = cluster.nodeConfigs) ∧
    (∀ cfg, faults 0 = none → cluster.clusterConfigs.get? req = some cfg →
      req = ⟨NAMESPACE, defaultClusterConfigName⟩ → ¬ StructurallyValid cfg.spec →
      ∃ reason, validateClusterConfig cfg.spec = .invalid reason ∧
        (pass NAMESPACE req cluster faults).1 = .ok ∧
        (pass NAMESPACE req cluster faults).2.calls = [⟨.getClusterConfig req, none⟩,
          ⟨.updateClusterConfigStatus { cfg with status := ⟨"InvalidConfig", reason⟩ }, faults 1⟩] ∧
        (pass NAMESPACE req cluster faults).2.cluster.clusterConfigs.get? req =
          some (if faults 1 = none then { cfg with status := ⟨"InvalidConfig", reason⟩ } else cfg) ∧
        (pass NAMESPACE req cluster faults).2.cluster.nodeConfigs = cluster.nodeConfigs) ∧
    (pass NAMESPACE req cluster faults).1 ≠ .indexOutOfRange := by
  show GateHolds NAMESPACE req cluster faults (pass NAMESPACE req cluster faults)
  have hc := pass_cases NAMESPACE req cluster faults
  have hout := passCase_ne_indexOutOfRange NAMESPACE req cluster faults hc
  generalize pass NAMESPACE req cluster faults = run at hc hout ⊢
  cases hc with
  | getFailed e s1 hget =>
      have hcalls := (calls_of_getClusterConfig hget).1
      have hno : ∀ cfg, faults 0 = none → cluster.clusterConfigs.get? req = some cfg → False :=
        fun cfg h0 hg => by
          have h := (getClusterConfig_eq_ok_iff req cluster faults).2 ⟨h0, hg⟩
          rw [hget] at h
          cases h
      refine ⟨⟨fun ⟨r, hr⟩ => ?_, fun ⟨_, h0, cfg, hg, _⟩ => (hno cfg h0 hg).elim⟩,
        fun x hx hw => ?_, fun cfg h0 hg _ => (hno cfg h0 hg).elim,
        fun cfg h0 hg _ _ => (hno cfg h0 hg).elim, hout⟩
      · simp [hcalls] at hr
      · simp only [hcalls, List.nil_append, List.mem_singleton] at hx
        subst hx
        cases hw
  | ignored cfg s1 hget hreq =>
      obtain ⟨hno, hw, hcalls, hst, hnc⟩ := stopped_after_get req cluster faults "Ignored" (ignoredReason NAMESPACE) hget
      exact ⟨⟨fun h => absurd h hno, fun h => absurd h.1 hreq⟩, fun x hx h => absurd h (hw x hx),
        fun cfg' h0 hg _ => by
          obtain rfl := getClusterConfig_unique req cluster faults hget h0 hg
          exact ⟨rfl, hcalls, hst, hnc⟩,
        fun _ _ _ h => absurd h hreq, hout⟩
  | invalid cfg s1 hget hreq reason hv =>
      have hinv : ¬ StructurallyValid cfg.spec := by
        rw [← validateClusterConfig_eq_valid_iff, hv]
        simp
      obtain ⟨hno, hw, hcalls, hst, hnc⟩ := stopped_after_get req cluster faults "InvalidConfig" reason hget
      exact ⟨⟨fun h => absurd h hno, fun ⟨_, h0, cfg', hg, hval⟩ =>
          (hinv (getClusterConfig_unique req cluster faults hget h0 hg ▸ hval)).elim⟩,
        fun x hx h => absurd h (hw x hx), fun _ _ _ h => absurd hreq h,
        fun cfg' h0 hg _ _ => by
          obtain rfl := getClusterConfig_unique req cluster faults hget h0 hg
          exact ⟨reason, hv, rfl, hcalls, hst, hnc⟩, hout⟩
  | nfdFailure cfg s1 hget hreq hv e s2 hnodes =>
      exact gateHolds_of_listed NAMESPACE req cluster faults hget hreq hv
        ⟨some e, by simp [(calls_of_getNodesWithIntelAccelerator hnodes).1]⟩ hout
  | syncFailed cfg s1 hget hreq hv _ s2 hnodes _ _ _ s3 hsync
  | created cfg s1 hget hreq hv _ s2 hnodes _ _ s3 hsync =>
      obtain ⟨new, hc3, -⟩ := calls_of_syncNodeConfigs hsync
      exact gateHolds_of_listed NAMESPACE req cluster faults hget hreq hv
        ⟨none, by simp [hc3, (calls_of_getNodesWithIntelAccelerator hnodes).1]⟩ hout

end Gate

/-- `staleCluster` whose config asks for one node config for all nodes and lists no entry. -/
def invalidCluster : Cluster :=
  { staleCluster with
    clusterConfigs := ⟨[{ demoConfig with spec := ⟨true, []⟩ }], List.nodup_singleton _⟩ }

/-- `staleCluster` asked for by another operator namespace is marked `Ignored`, and
`invalidCluster` is marked `InvalidConfig`; the config under the request carries the status. -/
theorem pass_gate_on_staleCluster :
    (pass "ops" demoReq staleCluster fun _ => none).2.cluster.clusterConfigs.get? demoReq =
        some { demoConfig with status := ⟨"Ignored", ignoredReason "ops"⟩ } ∧
      ∃ reason, (pass "ns" demoReq invalidCluster fun _ => none).2.cluster.clusterConfigs.get? demoReq =
        some { demoConfig with spec := ⟨true, []⟩, status := ⟨"InvalidConfig", reason⟩ } :=
  ⟨((pass_gate "ops" demoReq staleCluster fun _ => none).2.2.1 demoConfig rfl (by decide)
      (by decide)).2.2.1,
    let ⟨reason, _, _, _, hst, _⟩ := (pass_gate "ns" demoReq invalidCluster fun _ => none).2.2.2.1
      { demoConfig with spec := ⟨true, []⟩ } rfl (by decide) rfl fun h => absurd (h.1 rfl).1 (by decide)
    ⟨reason, hst⟩⟩

end SriovFec.Controller
