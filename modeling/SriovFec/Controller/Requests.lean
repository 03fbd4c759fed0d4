import SriovFec.Controller.Stability

/-!
# Passes on other requests

The manager calls `Reconcile` for every cluster config, and a pass on any request other than
the singleton `(NAMESPACE, "config")` writes at most the status `Ignored` to that config. A
pass reads the control plane only through the nodes, the node configs and the cluster
config under its request (`Agree`). So passes on other requests, interleaved anywhere in a
run, change nothing the passes on the singleton see or do: a run on mixed requests leaves
the nodes, the node configs and the singleton's config that the run of its singleton passes
alone leaves, and each singleton pass in it returns and calls what it does in that run.

Over mixed runs, whatever the control plane fails: no node config under a key with a name
the singleton's config renders is ever deleted; one with such a name in another namespace
than the rendered one never changes; and while no singleton config is stored, no node
config changes at all.

## Implementation notes

`Sim req` relates client states that agree on what a pass on `req` reads, on their faults
and on their calls. Every call, and so every function of the controller, takes related
states to the same result and related states; the status write needs the key of the config
it writes to be `req`, which holds of the config the pass got. The safety results come from
one run lemma, `runRequests_keeps`, over every relation `KeptBySync` gives.
-/
namespace SriovFec.Controller

open SriovFec.Api.V1

/-- Control planes a pass on `req` cannot tell apart. -/
structure Agree (req : NamespacedName) (cl cl' : Cluster) : Prop where
  nodes : cl.nodes = cl'.nodes
  nodeConfigs : cl.nodeConfigs = cl'.nodeConfigs
  config : cl.clusterConfigs.get? req = cl'.clusterConfigs.get? req

namespace Agree

variable {req : NamespacedName} {cl cl' cl'' : Cluster}

theorem refl (cl : Cluster) : Agree req cl cl := ⟨rfl, rfl, rfl⟩

theorem symm (h : Agree req cl cl') : Agree req cl' cl := ⟨h.nodes.symm, h.nodeConfigs.symm, h.config.symm⟩

theorem trans (h : Agree req cl cl') (h' : Agree req cl' cl'') : Agree req cl cl'' :=
  ⟨h.nodes.trans h'.nodes, h.nodeConfigs.trans h'.nodeConfigs, h.config.trans h'.config⟩

end Agree

/-- Client states a pass on `req` cannot tell apart, with the same faults and calls. -/
structure Sim (req : NamespacedName) (s s' : ClientState) : Prop where
  faults : s.faults = s'.faults
  calls : s.calls = s'.calls
  agree : Agree req s.cluster s'.cluster

/-- `f` takes related states to the same result and related states. -/
def Respects {α : Type} (req : NamespacedName) (f : ClientState → α × ClientState) : Prop :=
  ∀ s s', Sim req s s' → (f s).1 = (f s').1 ∧ Sim req (f s).2 (f s').2

section Calls

variable {req : NamespacedName}

/-- A call whose usual effect gives related control planes the same result and related
control planes respects `Sim`. -/
theorem issue_respects {β : Type} {c : Call} {act : Cluster → Except ApiError β × Cluster}
    (hact : ∀ cl cl', Agree req cl cl' → (act cl).1 = (act cl').1 ∧ Agree req (act cl).2 (act cl').2) :
    Respects req (issue c act) := by
  rintro ⟨cl, f, calls⟩ ⟨cl', f', calls'⟩ ⟨hf, hc, ha⟩
  dsimp only at hf hc ha
  subst hf hc
  dsimp only [issue]
  cases f calls.length with
  | some e => exact ⟨rfl, rfl, rfl, ha⟩
  | none =>
      obtain ⟨h1, h2⟩ := hact cl cl' ha
      exact ⟨h1, rfl, by simp only [h1], h2⟩

theorem getClusterConfig_respects : Respects req (getClusterConfig req) :=
  issue_respects fun _ _ ha => ⟨by simp only [lookup, ha.config], ha⟩

theorem listNodes_respects {labels : List (String × String)} : Respects req (listNodes labels) :=
  issue_respects fun _ _ ha => ⟨by simp only [ha.nodes], ha⟩

theorem listNodeConfigs_respects : Respects req listNodeConfigs :=
  issue_respects fun _ _ ha => ⟨by simp only [ha.nodeConfigs], ha⟩

theorem getNodeConfig_respects {k : NamespacedName} : Respects req (getNodeConfig k) :=
  issue_respects fun _ _ ha => ⟨by simp only [lookup, ha.nodeConfigs], ha⟩

theorem issue_write_respects {c : Call}
    {w : Store SriovFecNodeConfig → Except ApiError (Store SriovFecNodeConfig)} :
    Respects req (issue c (writeNodeConfigs w)) :=
  issue_respects fun cl cl' ha => by
    unfold writeNodeConfigs
    rw [ha.nodeConfigs]
    cases w cl'.nodeConfigs with
    | ok st => exact ⟨rfl, ha.nodes, rfl, ha.config⟩
    | error e => exact ⟨rfl, ha.nodes, ha.nodeConfigs, ha.config⟩

/-- The status write of a config stored under `req` respects `Sim`. -/
theorem updateClusterConfigStatus_respects {c : SriovFecClusterConfig} (hk : Object.key c = req) :
    Respects req (updateClusterConfigStatus c) :=
  issue_respects fun cl cl' ha => by
    rw [hk, ha.config]
    cases cl'.clusterConfigs.get? req with
    | none => exact ⟨rfl, ha⟩
    | some cur =>
        refine ⟨rfl, ha.nodes, ha.nodeConfigs, ?_⟩
        simp only [Store.get?_replace, ha.config]

end Calls

/-! ### The functions of the controller -/

section Functions

variable {req : NamespacedName} {T : List SriovFecNodeConfig}

/-- The results of a step that respects `Sim`, from related states. -/
theorem Respects.pair {α : Type} {f : ClientState → α × ClientState} (hf : Respects req f)
    {s s' : ClientState} (hs : Sim req s s') :
    ∃ r s1 s1', f s = (r, s1) ∧ f s' = (r, s1') ∧ Sim req s1 s1' :=
  ⟨(f s).1, (f s).2, (f s').2, rfl, by rw [(hf s s' hs).1], (hf s s' hs).2⟩

theorem respects_const {β : Type} (b : β) : Respects req fun s => (b, s) := fun _ _ hs => ⟨rfl, hs⟩

theorem Respects.ite {β : Type} {c : Prop} [Decidable c] {f g : ClientState → β × ClientState}
    (hf : Respects req f) (hg : Respects req g) : Respects req fun s => if c then f s else g s := by
  by_cases hc : c
  · simpa only [hc, ↓reduceIte] using hf
  · simpa only [hc, ↓reduceIte] using hg

theorem deleteOldNodeConfigs_respects (items : List SriovFecNodeConfig) :
    Respects req (deleteOldNodeConfigs T items) := by
  induction items with
  | nil => exact respects_const _
  | cons nc rest ih =>
      intro s s' hs
      unfold deleteOldNodeConfigs
      split_ifs
      · obtain ⟨r, s1, s1', e1, e2, h⟩ := issue_write_respects.pair hs
        rw [deleteNodeConfig, e1, e2]
        cases r with
        | ok _ => exact ih s1 s1' h
        | error e => exact ⟨rfl, h⟩
      · exact ih s s' hs

theorem removeOldNodeConfigs_respects : Respects req (removeOldNodeConfigs T) := fun s s' hs => by
  obtain ⟨r, s1, s1', e1, e2, h⟩ := listNodeConfigs_respects.pair hs
  rw [removeOldNodeConfigs, removeOldNodeConfigs, e1, e2]
  cases r with
  | ok items => exact deleteOldNodeConfigs_respects items s1 s1' h
  | error e => exact Respects.ite (deleteOldNodeConfigs_respects []) (respects_const _) s1 s1' h

theorem updateOrCreateNodeConfig_respects (t : SriovFecNodeConfig) :
    Respects req (updateOrCreateNodeConfig t) := fun s s' hs => by
  obtain ⟨r, s1, s1', e1, e2, h⟩ := getNodeConfig_respects.pair hs
  rw [updateOrCreateNodeConfig, updateOrCreateNodeConfig, e1, e2]
  cases r with
  | ok prev => exact issue_write_respects s1 s1' h
  | error e => exact Respects.ite issue_write_respects (respects_const _) s1 s1' h

theorem updateOrCreateNodeConfigs_respects (T' : List SriovFecNodeConfig) :
    Respects req (updateOrCreateNodeConfigs T') := by
  induction T' with
  | nil => exact respects_const _
  | cons t rest ih =>
      intro s s' hs
      obtain ⟨r, s1, s1', e1, e2, h⟩ := (updateOrCreateNodeConfig_respects t).pair hs
      rw [updateOrCreateNodeConfigs, updateOrCreateNodeConfigs, e1, e2]
      cases r with
      | ok _ => exact ih s1 s1' h
      | error e => exact ⟨rfl, h⟩

theorem syncNodeConfigs_respects : Respects req (syncNodeConfigs T) := fun s s' hs => by
  obtain ⟨r, s1, s1', e1, e2, h⟩ := removeOldNodeConfigs_respects.pair hs
  rw [syncNodeConfigs, syncNodeConfigs, e1, e2]
  cases r with
  | ok _ => exact updateOrCreateNodeConfigs_respects T s1 s1' h
  | error e => exact ⟨rfl, h⟩

/-- The status writes of a pass, to the config it got under `req`, respect `Sim`. -/
theorem updateStatus_respects {β : Type} (b : β) {cfg : SriovFecClusterConfig} {status reason : String}
    (hk : Object.key cfg = req) : Respects req fun s => (b, updateStatus cfg status reason s) :=
  fun s s' hs => ⟨rfl, ((updateClusterConfigStatus_respects (by rw [key_with_status, hk])) s s' hs).2⟩

theorem reconcileNodes_respects {cfg : SriovFecClusterConfig} (hk : Object.key cfg = req) :
    Respects req (reconcileNodes cfg) := fun s s' hs => by
  obtain ⟨r, s1, s1', e1, e2, h⟩ := (@listNodes_respects req labelsToMatch).pair hs
  rw [reconcileNodes, reconcileNodes, getNodesWithIntelAccelerator, e1, e2]
  cases r with
  | error e => exact updateStatus_respects _ hk s1 s1' h
  | ok nodeList =>
      dsimp only
      cases renderNodeConfigs cfg nodeList with
      | none => exact ⟨rfl, h⟩
      | some T' =>
          obtain ⟨r, s2, s2', e1, e2, h⟩ := (syncNodeConfigs_respects (T := T')).pair h
          dsimp only
          rw [e1, e2]
          cases r <;> exact updateStatus_respects _ hk s2 s2' h

theorem reconcile_respects (NAMESPACE : String) : Respects req (reconcile NAMESPACE req) := fun s s' hs => by
  obtain ⟨r, s1, s1', e1, e2, h⟩ := getClusterConfig_respects.pair hs
  rw [reconcile, reconcile, e1, e2]
  cases r with
  | error e => exact ⟨rfl, h⟩
  | ok cfg =>
      have hk : Object.key cfg = req := Store.key_of_get? (get?_of_getClusterConfig e1)
      dsimp only
      split_ifs
      · exact updateStatus_respects _ hk s1 s1' h
      · cases validateClusterConfig cfg.spec with
        | valid => exact reconcileNodes_respects hk s1 s1' h
        | invalid reason => exact updateStatus_respects _ hk s1 s1' h
        | indexOutOfRange => exact ⟨rfl, h⟩

end Functions

/-! ### Runs on mixed requests -/

section Runs

variable {NAMESPACE : String} {req : NamespacedName} {cl cl' : Cluster}

/-- A pass on a request other than the singleton leaves what a pass on the singleton reads. -/
theorem pass_agree_of_ne (faults : Nat → Option ApiError)
    (hne : req ≠ ⟨NAMESPACE, defaultClusterConfigName⟩) :
    Agree ⟨NAMESPACE, defaultClusterConfigName⟩ cl (pass NAMESPACE req cl faults).2.cluster := by
  have hc := pass_cases NAMESPACE req cl faults
  generalize pass NAMESPACE req cl faults = run at hc ⊢
  cases hc with
  | getFailed e s1 hget => exact (calls_of_getClusterConfig hget).2 ▸ Agree.refl cl
  | ignored cfg s1 hget _ =>
      have hcl : s1.cluster = cl := (calls_of_getClusterConfig hget).2
      have hk : Object.key cfg ≠ ⟨NAMESPACE, defaultClusterConfigName⟩ := by
        rw [Store.key_of_get? (get?_of_getClusterConfig hget)]
        exact hne
      exact ⟨by simp [hcl], by simp [hcl], by rw [updateStatus_get?_of_ne hk, hcl]⟩
  | _ => exact absurd ‹req = _› hne

/-- Passes on one request from control planes that agree on what it reads return the same
outcome, make the same calls and leave control planes that agree again. -/
theorem pass_agree (faults : Nat → Option ApiError) (h : Agree req cl cl') :
    (pass NAMESPACE req cl faults).1 = (pass NAMESPACE req cl' faults).1 ∧
      Sim req (pass NAMESPACE req cl faults).2 (pass NAMESPACE req cl' faults).2 :=
  reconcile_respects NAMESPACE _ _ ⟨rfl, rfl, h⟩

/-- A run of the manager on mixed requests: each pass is on its own request, with its own
faults, from the control plane the previous one left. -/
def runRequests (NAMESPACE : String) :
    List (NamespacedName × (Nat → Option ApiError)) → Cluster → Cluster
  | [], cluster => cluster
  | (req, faults) :: rest, cluster => runRequests NAMESPACE rest (pass NAMESPACE req cluster faults).2.cluster

/-- The singleton's passes of a mixed run, with their faults. -/
def singletonPasses (NAMESPACE : String) (run : List (NamespacedName × (Nat → Option ApiError))) :
    List (Nat → Option ApiError) :=
  (run.filter fun x => x.1 = ⟨NAMESPACE, defaultClusterConfigName⟩).map Prod.snd

@[simp] theorem singletonPasses_nil : singletonPasses NAMESPACE [] = [] := rfl

@[simp] theorem singletonPasses_append (run run' : List (NamespacedName × (Nat → Option ApiError))) :
    singletonPasses NAMESPACE (run ++ run') = singletonPasses NAMESPACE run ++ singletonPasses NAMESPACE run' := by
  simp [singletonPasses]

@[simp] theorem singletonPasses_cons_self (faults : Nat → Option ApiError)
    (run : List (NamespacedName × (Nat → Option ApiError))) :
    singletonPasses NAMESPACE ((⟨NAMESPACE, defaultClusterConfigName⟩, faults) :: run) =
      faults :: singletonPasses NAMESPACE run := by
  simp [singletonPasses]

theorem singletonPasses_cons_of_ne (faults : Nat → Option ApiError)
    (run : List (NamespacedName × (Nat → Option ApiError))) (hne : req ≠ ⟨NAMESPACE, defaultClusterConfigName⟩) :
    singletonPasses NAMESPACE ((req, faults) :: run) = singletonPasses NAMESPACE run := by
  simp [singletonPasses, hne]

theorem runRequests_agree (run : List (NamespacedName × (Nat → Option ApiError)))
    (h : Agree ⟨NAMESPACE, defaultClusterConfigName⟩ cl cl') :
    Agree ⟨NAMESPACE, defaultClusterConfigName⟩ (runRequests NAMESPACE run cl)
      (passes NAMESPACE ⟨NAMESPACE, defaultClusterConfigName⟩ (singletonPasses NAMESPACE run) cl') := by
  induction run generalizing cl cl' with
  | nil => exact h
  | cons x rest ih =>
      obtain ⟨req, faults⟩ := x
      by_cases hreq : req = ⟨NAMESPACE, defaultClusterConfigName⟩
      · subst hreq
        rw [singletonPasses_cons_self]
        exact ih (pass_agree faults h).2.agree
      · rw [singletonPasses_cons_of_ne faults rest hreq]
        exact ih ((pass_agree_of_ne faults hreq).symm.trans h)

/-- Passes on other cluster configs, interleaved anywhere in a run, change nothing the
singleton's passes read: after a run on mixed requests, the nodes, the node configs and the
singleton's config are those the singleton's passes alone, with their faults, leave. -/
theorem runRequests_agree_singleton (run : List (NamespacedName × (Nat → Option ApiError)))
    (cluster : Cluster) :
    Agree ⟨NAMESPACE, defaultClusterConfigName⟩ (runRequests NAMESPACE run cluster)
      (passes NAMESPACE ⟨NAMESPACE, defaultClusterConfigName⟩ (singletonPasses NAMESPACE run) cluster) :=
  runRequests_agree run (Agree.refl cluster)

/-- What each pass on the singleton in a mixed run returns, and the calls it makes. -/
def singletonTrace (NAMESPACE : String) :
    List (NamespacedName × (Nat → Option ApiError)) → Cluster → List (Outcome × List Record)
  | [], _ => []
  | (req, faults) :: rest, cluster =>
      (if req = ⟨NAMESPACE, defaultClusterConfigName⟩ then
        [((pass NAMESPACE req cluster faults).1, (pass NAMESPACE req cluster faults).2.calls)] else []) ++
      singletonTrace NAMESPACE rest (pass NAMESPACE req cluster faults).2.cluster

/-- What each pass of a run on `req` returns, and the calls it makes. -/
def passesTrace (NAMESPACE : String) (req : NamespacedName) :
    List (Nat → Option ApiError) → Cluster → List (Outcome × List Record)
  | [], _ => []
  | faults :: rest, cluster =>
      ((pass NAMESPACE req cluster faults).1, (pass NAMESPACE req cluster faults).2.calls) ::
        passesTrace NAMESPACE req rest (pass NAMESPACE req cluster faults).2.cluster

theorem singletonTrace_eq (run : List (NamespacedName × (Nat → Option ApiError)))
    (h : Agree ⟨NAMESPACE, defaultClusterConfigName⟩ cl cl') :
    singletonTrace NAMESPACE run cl =
      passesTrace NAMESPACE ⟨NAMESPACE, defaultClusterConfigName⟩ (singletonPasses NAMESPACE run) cl' := by
  induction run generalizing cl cl' with
  | nil => rfl
  | cons x rest ih =>
      obtain ⟨req, faults⟩ := x
      by_cases hreq : req = ⟨NAMESPACE, defaultClusterConfigName⟩
      · subst hreq
        obtain ⟨hr, hs⟩ := pass_agree faults h
        rw [singletonPasses_cons_self, singletonTrace, passesTrace, if_pos rfl, hr, hs.calls, ih hs.agree]
        rfl
      · rw [singletonPasses_cons_of_ne faults rest hreq, singletonTrace, if_neg hreq, List.nil_append]
        exact ih ((pass_agree_of_ne faults hreq).symm.trans h)

/-- Passes on other cluster configs, interleaved anywhere in a run, change neither what the
singleton's passes return nor the calls they make: each is the pass the run of the
singleton's passes alone, with the same faults, makes. -/
theorem runRequests_singleton_trace (run : List (NamespacedName × (Nat → Option ApiError)))
    (cluster : Cluster) :
    singletonTrace NAMESPACE run cluster =
      passesTrace NAMESPACE ⟨NAMESPACE, defaultClusterConfigName⟩ (singletonPasses NAMESPACE run) cluster :=
  singletonTrace_eq run (Agree.refl cluster)

/-- In a run of the manager on mixed requests, the node configs reach the rendering of the
singleton's structurally valid config at the singleton's first faultless pass and never
change after it, whatever the other passes, on any request, fail, when the rendering's
specs agree. -/
theorem runRequests_converge_after_faultless_pass {cluster : Cluster} {cfg : SriovFecClusterConfig}
    {T : List SriovFecNodeConfig}
    (hcfg : cluster.clusterConfigs.get? ⟨NAMESPACE, defaultClusterConfigName⟩ = some cfg)
    (hv : StructurallyValid cfg.spec)
    (hrender : renderNodeConfigs cfg (cluster.nodes.filter (matchesLabels labelsToMatch)) = some T)
    (hT : SpecsAgree T) (before after : List (NamespacedName × (Nat → Option ApiError))) :
    Synced T (runRequests NAMESPACE (before ++ [(⟨NAMESPACE, defaultClusterConfigName⟩, fun _ => none)])
        cluster).nodeConfigs ∧
      (runRequests NAMESPACE (before ++ (⟨NAMESPACE, defaultClusterConfigName⟩, fun _ => none) :: after)
          cluster).nodeConfigs =
        (runRequests NAMESPACE (before ++ [(⟨NAMESPACE, defaultClusterConfigName⟩, fun _ => none)])
          cluster).nodeConfigs := by
  have hnc : ∀ run, (runRequests NAMESPACE run cluster).nodeConfigs =
      (passes NAMESPACE ⟨NAMESPACE, defaultClusterConfigName⟩ (singletonPasses NAMESPACE run) cluster).nodeConfigs :=
    fun run => (runRequests_agree run (Agree.refl cluster)).nodeConfigs
  simp only [hnc, singletonPasses_append, singletonPasses_cons_self, singletonPasses_nil]
  exact ⟨synced_after_passes_faultless rfl hcfg hv hrender hT _,
    passes_stay_after_faultless rfl hcfg hv hrender hT _ _⟩

/-- A mixed run on `staleCluster`: a pass on another config of `ns` and a singleton pass whose
list of node configs reads `NotFound`, the faultless singleton pass, then a pass on the
`config` of another namespace and a singleton pass whose create fails. -/
theorem staleCluster_mixed_run_converges :
    (staleCluster.clusterConfigs.get? ⟨"ns", defaultClusterConfigName⟩ = some demoConfig ∧
      StructurallyValid demoConfig.spec ∧
      renderNodeConfigs demoConfig (staleCluster.nodes.filter (matchesLabels labelsToMatch)) = some demoRendering ∧
      SpecsAgree demoRendering) ∧
    Synced demoRendering (runRequests "ns" ([(⟨"ns", "other"⟩, fun _ => none), (demoReq, listNotFound)] ++
        [(⟨"ns", defaultClusterConfigName⟩, fun _ => none)]) staleCluster).nodeConfigs ∧
      (runRequests "ns" ([(⟨"ns", "other"⟩, fun _ => none), (demoReq, listNotFound)] ++
          (⟨"ns", defaultClusterConfigName⟩, fun _ => none) ::
            [(⟨"kube-system", defaultClusterConfigName⟩, fun _ => none), (demoReq, createFails)]) staleCluster).nodeConfigs =
        (runRequests "ns" ([(⟨"ns", "other"⟩, fun _ => none), (demoReq, listNotFound)] ++
          [(⟨"ns", defaultClusterConfigName⟩, fun _ => none)]) staleCluster).nodeConfigs :=
  have hcfg : staleCluster.clusterConfigs.get? ⟨"ns", defaultClusterConfigName⟩ = some demoConfig := by decide
  have hv : StructurallyValid demoConfig.spec := (validateClusterConfig_eq_valid_iff _).1 (by decide)
  have hrender : renderNodeConfigs demoConfig (staleCluster.nodes.filter (matchesLabels labelsToMatch)) =
      some demoRendering := by decide
  ⟨⟨hcfg, hv, hrender, demoRendering_specsAgree⟩,
    runRequests_converge_after_faultless_pass hcfg hv hrender demoRendering_specsAgree _ _⟩

/-! ### Node configs a run never deletes -/

section Wanted

variable {cluster : Cluster} {faults : Nat → Option ApiError} {cfg : SriovFecClusterConfig}
  {T : List SriovFecNodeConfig}

/-- A pass that reaches its sync renders, from the control plane it started from, the
rendering of the stored config. -/
theorem rendering_of_pass {cfg' : SriovFecClusterConfig} {s1 s2 : ClientState} {nodeList : List Node}
    {T' : List SriovFecNodeConfig} (hcfg : cluster.clusterConfigs.get? req = some cfg)
    (hrender : renderNodeConfigs cfg (cluster.nodes.filter (matchesLabels labelsToMatch)) = some T)
    (hget : getClusterConfig req ⟨cluster, faults, []⟩ = (.ok cfg', s1))
    (hnodes : getNodesWithIntelAccelerator s1 = (.ok nodeList, s2))
    (hrender' : renderNodeConfigs cfg' nodeList = some T') : s2.cluster = cluster ∧ T' = T := by
  obtain rfl := Option.some.inj ((get?_of_getClusterConfig hget).symm.trans hcfg)
  rw [nodes_of_getNodesWithIntelAccelerator hnodes, (calls_of_getClusterConfig hget).2, hrender,
    Option.some.injEq] at hrender'
  exact ⟨(calls_of_getNodesWithIntelAccelerator hnodes).2.trans (calls_of_getClusterConfig hget).2, hrender'.symm⟩

/-- A pass on the request of a stored config changes the node configs only by a sync of the
rendering of that config, run from the control plane the pass started from. -/
theorem pass_nodeConfigs_cases (hcfg : cluster.clusterConfigs.get? req = some cfg)
    (hrender : renderNodeConfigs cfg (cluster.nodes.filter (matchesLabels labelsToMatch)) = some T) :
    (pass NAMESPACE req cluster faults).2.cluster.nodeConfigs = cluster.nodeConfigs ∨
      ∃ s2 r s3, s2.cluster = cluster ∧ syncNodeConfigs T s2 = (r, s3) ∧
        (pass NAMESPACE req cluster faults).2.cluster.nodeConfigs = s3.cluster.nodeConfigs := by
  have hc := pass_cases NAMESPACE req cluster faults
  generalize pass NAMESPACE req cluster faults = run at hc ⊢
  cases hc with
  | getFailed e s1 hget => exact .inl (by rw [(calls_of_getClusterConfig hget).2])
  | ignored cfg' s1 hget _ => exact .inl (by rw [updateStatus_nodeConfigs, (calls_of_getClusterConfig hget).2])
  | invalid cfg' s1 hget _ _ _ => exact .inl (by rw [updateStatus_nodeConfigs, (calls_of_getClusterConfig hget).2])
  | nfdFailure cfg' s1 hget _ _ e s2 hnodes =>
      exact .inl (by rw [updateStatus_nodeConfigs, (calls_of_getNodesWithIntelAccelerator hnodes).2,
        (calls_of_getClusterConfig hget).2])
  | syncFailed cfg' s1 hget _ _ nodeList s2 hnodes T' hrender' e s3 hsync =>
      obtain ⟨hs2, rfl⟩ := rendering_of_pass hcfg hrender hget hnodes hrender'
      exact .inr ⟨s2, _, s3, hs2, hsync, updateStatus_nodeConfigs⟩
  | created cfg' s1 hget _ _ nodeList s2 hnodes T' hrender' s3 hsync =>
      obtain ⟨hs2, rfl⟩ := rendering_of_pass hcfg hrender hget hnodes hrender'
      exact .inr ⟨s2, _, s3, hs2, hsync, updateStatus_nodeConfigs⟩

/-- A relation that every sync of the singleton's rendering keeps, and that reads the node
configs alone, is kept by a pass on any request, whatever the control plane fails. -/
theorem pass_keeps {R : Cluster → Cluster → Prop} (hR : KeptBySync T R)
    (hdep : ∀ {cl cl1 cl1' : Cluster}, cl1'.nodeConfigs = cl1.nodeConfigs → R cl cl1 → R cl cl1')
    (req : NamespacedName)
    (hcfg : cluster.clusterConfigs.get? ⟨NAMESPACE, defaultClusterConfigName⟩ = some cfg)
    (hrender : renderNodeConfigs cfg (cluster.nodes.filter (matchesLabels labelsToMatch)) = some T) :
    R cluster (pass NAMESPACE req cluster faults).2.cluster := by
  by_cases hreq : req = ⟨NAMESPACE, defaultClusterConfigName⟩
  · subst hreq
    rcases pass_nodeConfigs_cases hcfg hrender with h | ⟨s2, r, s3, hs2, hsync, h⟩
    · exact hdep h (hR.refl _)
    · exact hdep h (hs2 ▸ hR.of_syncNodeConfigs hsync)
  · exact hdep (pass_agree_of_ne faults hreq).nodeConfigs.symm (hR.refl _)

/-- After a pass on any request the singleton's config still renders the labelled nodes
as before. -/
theorem render_after_any_pass (req : NamespacedName)
    (hcfg : cluster.clusterConfigs.get? ⟨NAMESPACE, defaultClusterConfigName⟩ = some cfg)
    (hrender : renderNodeConfigs cfg (cluster.nodes.filter (matchesLabels labelsToMatch)) = some T) :
    ∃ cfg', (pass NAMESPACE req cluster faults).2.cluster.clusterConfigs.get? ⟨NAMESPACE, defaultClusterConfigName⟩ =
        some cfg' ∧
      renderNodeConfigs cfg' ((pass NAMESPACE req cluster faults).2.cluster.nodes.filter
        (matchesLabels labelsToMatch)) = some T := by
  by_cases hreq : req = ⟨NAMESPACE, defaultClusterConfigName⟩
  · subst hreq
    obtain ⟨cfg', hcfg', -, hrender'⟩ := render_after_pass NAMESPACE faults hcfg hrender
    exact ⟨cfg', hcfg', hrender'⟩
  · have h : Agree _ cluster (pass NAMESPACE req cluster faults).2.cluster := pass_agree_of_ne faults hreq
    exact ⟨cfg, h.config.symm.trans hcfg, by rw [← h.nodes]; exact hrender⟩

/-- Every run on mixed requests keeps a relation that every sync of the singleton's rendering
keeps and that reads the node configs alone. -/
theorem runRequests_keeps {R : Cluster → Cluster → Prop} (hR : KeptBySync T R)
    (hdep : ∀ {cl cl1 cl1' : Cluster}, cl1'.nodeConfigs = cl1.nodeConfigs → R cl cl1 → R cl cl1')
    (hcfg : cluster.clusterConfigs.get? ⟨NAMESPACE, defaultClusterConfigName⟩ = some cfg)
    (hrender : renderNodeConfigs cfg (cluster.nodes.filter (matchesLabels labelsToMatch)) = some T)
    (run : List (NamespacedName × (Nat → Option ApiError))) : R cluster (runRequests NAMESPACE run cluster) := by
  induction run generalizing cluster cfg with
  | nil => exact hR.refl _
  | cons x rest ih =>
      obtain ⟨req, faults⟩ := x
      obtain ⟨cfg', hcfg', hrender'⟩ := @render_after_any_pass NAMESPACE cluster faults cfg T req hcfg hrender
      exact hR.trans (pass_keeps hR hdep req hcfg hrender) (ih hcfg' hrender')

/-- Whatever the control plane fails and whichever requests the manager interleaves, no
run deletes a node config stored under a key whose name the singleton's config renders. -/
theorem runRequests_keeps_wanted
    (hcfg : cluster.clusterConfigs.get? ⟨NAMESPACE, defaultClusterConfigName⟩ = some cfg)
    (hrender : renderNodeConfigs cfg (cluster.nodes.filter (matchesLabels labelsToMatch)) = some T)
    (run : List (NamespacedName × (Nat → Option ApiError))) :
    KeepsWanted T cluster (runRequests NAMESPACE run cluster) :=
  runRequests_keeps keepsWanted_keptBySync KeepsWanted.of_nodeConfigs_eq hcfg hrender run

/-- A mixed run on `staleCluster` whose passes read `NotFound` for the list of node configs
and fail a create. -/
theorem staleCluster_mixed_run_keeps_wanted :
    (staleCluster.clusterConfigs.get? ⟨"ns", defaultClusterConfigName⟩ = some demoConfig ∧
      renderNodeConfigs demoConfig (staleCluster.nodes.filter (matchesLabels labelsToMatch)) = some demoRendering) ∧
    KeepsWanted demoRendering staleCluster (runRequests "ns"
      [(demoReq, listNotFound), (⟨"ns", "other"⟩, fun _ => none), (demoReq, createFails)] staleCluster) :=
  have hcfg : staleCluster.clusterConfigs.get? ⟨"ns", defaultClusterConfigName⟩ = some demoConfig := by decide
  have hrender : renderNodeConfigs demoConfig (staleCluster.nodes.filter (matchesLabels labelsToMatch)) =
      some demoRendering := by decide
  ⟨⟨hcfg, hrender⟩, runRequests_keeps_wanted hcfg hrender _⟩

/-- No run on mixed requests, whatever the control plane fails, changes the node config
under a key with a name the singleton's config renders but in another namespace than the
rendered one: `removeOldNodeConfigs` compares names alone, and the sync writes only under
the rendered keys. -/
theorem runRequests_keeps_untouched
    (hcfg : cluster.clusterConfigs.get? ⟨NAMESPACE, defaultClusterConfigName⟩ = some cfg)
    (hrender : renderNodeConfigs cfg (cluster.nodes.filter (matchesLabels labelsToMatch)) = some T)
    (run : List (NamespacedName × (Nat → Option ApiError))) :
    KeepsUntouched T cluster (runRequests NAMESPACE run cluster) :=
  runRequests_keeps keepsUntouched_keptBySync KeepsUntouched.of_nodeConfigs_eq hcfg hrender run

/-- A mixed run on `staleCluster` whose passes read `NotFound` for the list of node configs
and fail a create. -/
theorem staleCluster_mixed_run_keeps_untouched :
    (staleCluster.clusterConfigs.get? ⟨"ns", defaultClusterConfigName⟩ = some demoConfig ∧
      renderNodeConfigs demoConfig (staleCluster.nodes.filter (matchesLabels labelsToMatch)) = some demoRendering) ∧
    KeepsUntouched demoRendering staleCluster (runRequests "ns"
      [(demoReq, listNotFound), (⟨"ns", "other"⟩, fun _ => none), (demoReq, createFails)] staleCluster) :=
  have hcfg : staleCluster.clusterConfigs.get? ⟨"ns", defaultClusterConfigName⟩ = some demoConfig := by decide
  have hrender : renderNodeConfigs demoConfig (staleCluster.nodes.filter (matchesLabels labelsToMatch)) =
      some demoRendering := by decide
  ⟨⟨hcfg, hrender⟩, runRequests_keeps_untouched hcfg hrender _⟩

end Wanted

/-! ### Without the singleton's config -/

section Absent

variable {cluster : Cluster}

/-- While no singleton config is stored, a pass on any request changes no node config and
stores no singleton config. -/
theorem pass_of_absent (req : NamespacedName) (faults : Nat → Option ApiError)
    (h : cluster.clusterConfigs.get? ⟨NAMESPACE, defaultClusterConfigName⟩ = none) :
    (pass NAMESPACE req cluster faults).2.cluster.nodeConfigs = cluster.nodeConfigs ∧
      (pass NAMESPACE req cluster faults).2.cluster.clusterConfigs.get? ⟨NAMESPACE, defaultClusterConfigName⟩ =
        none := by
  by_cases hreq : req = ⟨NAMESPACE, defaultClusterConfigName⟩
  · subst hreq
    have hc := pass_cases NAMESPACE ⟨NAMESPACE, defaultClusterConfigName⟩ cluster faults
    generalize pass NAMESPACE _ cluster faults = run at hc ⊢
    cases hc with
    | getFailed e s1 hget =>
        rw [(calls_of_getClusterConfig hget).2]
        exact ⟨rfl, h⟩
    | _ => exact absurd ((get?_of_getClusterConfig ‹getClusterConfig _ _ = _›).symm.trans h) (Option.some_ne_none _)
  · have ha : Agree _ cluster (pass NAMESPACE req cluster faults).2.cluster := pass_agree_of_ne faults hreq
    exact ⟨ha.nodeConfigs.symm, ha.config.symm.trans h⟩

/-- While no singleton config is stored, no run on any requests changes a node config,
whatever the control plane fails: deleting the singleton config leaves every node config
in place. -/
theorem runRequests_keeps_nodeConfigs_of_absent
    (h : cluster.clusterConfigs.get? ⟨NAMESPACE, defaultClusterConfigName⟩ = none)
    (run : List (NamespacedName × (Nat → Option ApiError))) :
    (runRequests NAMESPACE run cluster).nodeConfigs = cluster.nodeConfigs := by
  induction run generalizing cluster with
  | nil => rfl
  | cons x rest ih =>
      obtain ⟨req, faults⟩ := x
      obtain ⟨hnc, habs⟩ := pass_of_absent req faults h
      exact (ih habs).trans hnc

/-- `staleCluster` seen by an operator in the namespace `other`, which stores no config of
its own: its stale node config survives passes on both singletons. -/
theorem staleCluster_keeps_nodeConfigs_without_config :
    staleCluster.clusterConfigs.get? ⟨"other", defaultClusterConfigName⟩ = none ∧
      (runRequests "other" [(⟨"other", defaultClusterConfigName⟩, listNotFound), (demoReq, fun _ => none)]
        staleCluster).nodeConfigs = staleCluster.nodeConfigs :=
  have h : staleCluster.clusterConfigs.get? ⟨"other", defaultClusterConfigName⟩ = none := by decide
  ⟨h, runRequests_keeps_nodeConfigs_of_absent h _⟩

end Absent

end Runs

end SriovFec.Controller
