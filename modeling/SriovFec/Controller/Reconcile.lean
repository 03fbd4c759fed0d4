import SriovFec.Controller.Render
import SriovFec.Controller.Sync

/-!
# One pass of `Reconcile`

A pass gets the cluster config of the request and ignores every one but the
singleton `(NAMESPACE, "config")`. It checks the spec, lists the nodes with an
accelerator, renders their node configs and syncs them, and last writes the status
that says how far it got. Only a failing get of the cluster config writes no status.

## Implementation notes

`PassCase` lists every way a pass can go, with the states between its steps;
`reconcile_cases` proves that each pass goes one of these ways, so the theorems about
passes case on it and never unfold `reconcile`.
-/

namespace SriovFec.Controller

open SriovFec.Api.V1

/-- `DEFAULT_CLUSTER_CONFIG_NAME`. -/
def defaultClusterConfigName : String := "config"

/-- The labels `getNodesWithIntelAccelerator` selects nodes by. -/
def labelsToMatch : List (String × String) :=
  [("node-role.kubernetes.io/worker", ""), ("beta.kubernetes.io/os", "linux"),
    ("feature.node.kubernetes.io/pci-8086.present", "true")]

/-- `getNodesWithIntelAccelerator`. -/
def getNodesWithIntelAccelerator : ClientState → Except ApiError (List Node) × ClientState :=
  listNodes labelsToMatch

/-- How a `Reconcile` call ends: it returns `nil` or an error, or it panics on an index
out of range. -/
inductive Outcome where
  | ok
  | err (e : ApiError)
  | indexOutOfRange
  deriving DecidableEq, Repr

/-- How the checks of the spec in `Reconcile` end. -/
inductive Validation where
  | valid
  | invalid (reason : String)
  | indexOutOfRange
  deriving DecidableEq, Repr

/-- The per-node check of `Reconcile`: the first entry asking for one card config for
all cards must list exactly one. -/
def validateCards (spec : SriovFecClusterConfigSpec) : Validation :=
  match spec.nodes.findIdx? fun nodeConfig =>
      nodeConfig.oneCardConfigForAll && nodeConfig.cards.length != 1 with
  | some idx => .invalid ("OneCardConfigForAll requested but amount of provided cardConfigs is " ++
      toString spec.nodes.length ++ " (should be 1) for " ++ toString idx ++ " node on the list")
  | none => .valid

/-- The checks of the spec in `Reconcile`, in the order the code makes them. -/
def validateClusterConfig (spec : SriovFecClusterConfigSpec) : Validation :=
  if spec.oneNodeConfigForAll then
    if spec.nodes.length ≠ 1 then
      .invalid ("OneNodeConfigForAll requested but amount of provided nodeConfigs is " ++
        toString spec.nodes.length ++ " (should be 1)")
    else match spec.nodes[0]? with
      | none => .indexOutOfRange
      | some node0 =>
          if !node0.oneCardConfigForAll then
            .invalid "OneNodeConfigForAll requested but OneCardConfigForAll is false. It must be true"
          else validateCards spec
  else validateCards spec

/-- The `updateStatus` closure of `Reconcile`; the write's own error is only logged. -/
def updateStatus (clusterConfig : SriovFecClusterConfig) (status reason : String)
    (s : ClientState) : ClientState :=
  (updateClusterConfigStatus { clusterConfig with status := ⟨status, reason⟩ } s).2

/-- The status text of an ignored cluster config. -/
def ignoredReason (NAMESPACE : String) : String :=
  "Only SriovFecClusterConfig with name \x27" ++ defaultClusterConfigName ++
    "\x27 and namespace \x27" ++ NAMESPACE ++ "\x27 are handled"

/-- `Reconcile` after the checks: inventory, render, sync and the last status write. -/
def reconcileNodes (clusterConfig : SriovFecClusterConfig) (s : ClientState) :
    Outcome × ClientState :=
  match getNodesWithIntelAccelerator s with
  | (.error e, s) => (.err e, updateStatus clusterConfig "NfdFailure"
      "failed to obtain nodes with Intel accelerator - check logs" s)
  | (.ok nodeList, s) =>
      match renderNodeConfigs clusterConfig nodeList with
      | none => (.indexOutOfRange, s)
      | some nodeConfigs =>
          match syncNodeConfigs nodeConfigs s with
          | (.error e, s) => (.err e, updateStatus clusterConfig "NodeConfigsCreationFailed"
              "failed to create NodeConfigs - check logs" s)
          | (.ok _, s) => (.ok, updateStatus clusterConfig "NodeConfigsCreated" "" s)

/-- `Reconcile`; `NAMESPACE` is the operator's namespace, read from its environment. -/
def reconcile (NAMESPACE : String) (req : NamespacedName) (s : ClientState) :
    Outcome × ClientState :=
  match getClusterConfig req s with
  | (.error e, s) => (if e = .notFound then .ok else .err e, s)
  | (.ok clusterConfig, s) =>
      if req.«namespace» ≠ NAMESPACE ∨ req.name ≠ defaultClusterConfigName then
        (.ok, updateStatus clusterConfig "Ignored" (ignoredReason NAMESPACE) s)
      else match validateClusterConfig clusterConfig.spec with
        | .invalid reason => (.ok, updateStatus clusterConfig "InvalidConfig" reason s)
        | .indexOutOfRange => (.indexOutOfRange, s)
        | .valid => reconcileNodes clusterConfig s

/-- The structural invariant of a cluster config spec: one node config for all nodes
means exactly one entry, asking for one card config for all cards; an entry asking for
one card config for all cards lists exactly one. -/
def StructurallyValid (spec : SriovFecClusterConfigSpec) : Prop :=
  (spec.oneNodeConfigForAll = true →
      spec.nodes.length = 1 ∧ ∀ node0 ∈ spec.nodes[0]?, node0.oneCardConfigForAll = true) ∧
    ∀ nodeConfig ∈ spec.nodes, nodeConfig.oneCardConfigForAll = true → nodeConfig.cards.length = 1

theorem validateCards_eq_valid_iff (spec : SriovFecClusterConfigSpec) :
    validateCards spec = .valid ↔
      ∀ nodeConfig ∈ spec.nodes, nodeConfig.oneCardConfigForAll = true → nodeConfig.cards.length = 1 := by
  unfold validateCards
  split
  · next idx h =>
      simp only [reduceCtorEq, false_iff, not_forall]
      obtain ⟨hi, hp, -⟩ := List.findIdx?_eq_some_iff_getElem.1 h
      simp only [Bool.and_eq_true, bne_iff_ne, ne_eq] at hp
      exact ⟨_, List.getElem_mem hi, hp.1, hp.2⟩
  · next h =>
      simp only [List.findIdx?_eq_none_iff, Bool.and_eq_false_iff, bne_eq_false_iff_eq] at h
      simp only [true_iff]
      intro n hn hc
      simpa [hc] using h n hn

theorem validateCards_ne_indexOutOfRange (spec : SriovFecClusterConfigSpec) :
    validateCards spec ≠ .indexOutOfRange := by
  unfold validateCards
  split <;> simp

/-- No check of the spec reads `Spec.Nodes[0]` out of range. -/
theorem validateClusterConfig_ne_indexOutOfRange (spec : SriovFecClusterConfigSpec) :
    validateClusterConfig spec ≠ .indexOutOfRange := by
  unfold validateClusterConfig
  split_ifs with hu hl
  · simp
  · cases hn : spec.nodes with
    | nil => simp [hn] at hl
    | cons node0 rest =>
        simp only [List.getElem?_cons_zero]
        split_ifs
        · simp
        · exact validateCards_ne_indexOutOfRange spec
  · exact validateCards_ne_indexOutOfRange spec

theorem validateClusterConfig_eq_valid_iff (spec : SriovFecClusterConfigSpec) :
    validateClusterConfig spec = .valid ↔ StructurallyValid spec := by
  unfold validateClusterConfig StructurallyValid
  rw [← validateCards_eq_valid_iff]
  split_ifs with hu hl
  · simp [hu, hl]
  · cases hn : spec.nodes with
    | nil => simp [hn] at hl
    | cons node0 rest =>
        simp only [List.getElem?_cons_zero]
        have h1 : (node0 :: rest).length = 1 := hn ▸ not_not.1 hl
        cases h0 : node0.oneCardConfigForAll <;> simp [hu, h0, h1]
  · simp [hu]

theorem renderNodeConfigs_ne_none_of_valid {cfg : SriovFecClusterConfig} (nodeList : List Node)
    (hv : validateClusterConfig cfg.spec = .valid) : renderNodeConfigs cfg nodeList ≠ none := by
  rw [Ne, renderNodeConfigs_eq_none_iff]
  rintro ⟨hu, hn, -⟩
  have := ((validateClusterConfig_eq_valid_iff _).1 hv).1 hu
  simp [hn] at this

section Status

variable {cfg : SriovFecClusterConfig} {status reason : String} {s : ClientState}

@[simp] theorem updateStatus_calls :
    (updateStatus cfg status reason s).calls = s.calls ++
      [⟨.updateClusterConfigStatus { cfg with status := ⟨status, reason⟩ },
        errorOf (updateClusterConfigStatus { cfg with status := ⟨status, reason⟩ } s).1⟩] :=
  issue_calls

@[simp] theorem updateStatus_nodeConfigs :
    (updateStatus cfg status reason s).cluster.nodeConfigs = s.cluster.nodeConfigs := by
  unfold updateStatus updateClusterConfigStatus issue
  split
  · rfl
  · dsimp only
    split <;> rfl

@[simp] theorem updateStatus_nodes :
    (updateStatus cfg status reason s).cluster.nodes = s.cluster.nodes := by
  unfold updateStatus updateClusterConfigStatus issue
  split
  · rfl
  · dsimp only
    split <;> rfl

/-- The status write changes the spec of no cluster config. -/
@[simp] theorem updateStatus_spec (k : NamespacedName) :
    ((updateStatus cfg status reason s).cluster.clusterConfigs.get? k).map (·.spec) =
      (s.cluster.clusterConfigs.get? k).map (·.spec) := by
  unfold updateStatus updateClusterConfigStatus issue
  split
  · rfl
  · dsimp only
    split
    · rfl
    · next cur h =>
        have hk := Store.key_of_get? h
        rw [key_with_status] at hk
        rw [Store.get?_replace, key_with_status]
        split_ifs with hck
        · rw [← hck, Store.mem_items.1 (Store.get?_eq_some.1 h).1]
          rfl
        · rfl

/-- The status write of a stored config: its error is the control plane's fault, and the
config under the key then carries the written status, unless that fault failed the write. -/
theorem updateStatus_of_get? {cur : SriovFecClusterConfig}
    (h : s.cluster.clusterConfigs.get? (Object.key cfg) = some cur) :
    errorOf (updateClusterConfigStatus { cfg with status := ⟨status, reason⟩ } s).1 =
        s.faults s.calls.length ∧
      (updateStatus cfg status reason s).cluster.clusterConfigs.get? (Object.key cfg) =
        some (if s.faults s.calls.length = none then { cur with status := ⟨status, reason⟩ } else cur) := by
  unfold updateStatus updateClusterConfigStatus
  cases hf : s.faults s.calls.length with
  | some e => simp [issue_of_fault hf, h]
  | none => simp [issue_of_no_fault hf, h, Store.key_of_get? h]

/-- The status write changes no cluster config under another key. -/
theorem updateStatus_get?_of_ne {k : NamespacedName} (hne : Object.key cfg ≠ k) :
    (updateStatus cfg status reason s).cluster.clusterConfigs.get? k = s.cluster.clusterConfigs.get? k := by
  unfold updateStatus updateClusterConfigStatus issue
  split
  · rfl
  · dsimp only
    split
    · rfl
    · next cur h =>
        have hk : Object.key cur = Object.key cfg := Store.key_of_get? h
        rw [Store.get?_replace]
        exact if_neg fun h' => hne (hk.symm.trans h')

end Status

section Cases

variable (NAMESPACE : String) (req : NamespacedName) (s : ClientState)

/-- Every way a pass of `Reconcile` goes, with the states between its steps. -/
inductive PassCase : Outcome × ClientState → Prop
  | getFailed (e : ApiError) (s1 : ClientState) (hget : getClusterConfig req s = (.error e, s1)) :
      PassCase (if e = .notFound then .ok else .err e, s1)
  | ignored (cfg : SriovFecClusterConfig) (s1 : ClientState)
      (hget : getClusterConfig req s = (.ok cfg, s1))
      (hreq : req ≠ ⟨NAMESPACE, defaultClusterConfigName⟩) :
      PassCase (.ok, updateStatus cfg "Ignored" (ignoredReason NAMESPACE) s1)
  | invalid (cfg : SriovFecClusterConfig) (s1 : ClientState)
      (hget : getClusterConfig req s = (.ok cfg, s1))
      (hreq : req = ⟨NAMESPACE, defaultClusterConfigName⟩) (reason : String)
      (hv : validateClusterConfig cfg.spec = .invalid reason) :
      PassCase (.ok, updateStatus cfg "InvalidConfig" reason s1)
  | nfdFailure (cfg : SriovFecClusterConfig) (s1 : ClientState)
      (hget : getClusterConfig req s = (.ok cfg, s1))
      (hreq : req = ⟨NAMESPACE, defaultClusterConfigName⟩)
      (hv : validateClusterConfig cfg.spec = .valid) (e : ApiError) (s2 : ClientState)
      (hnodes : getNodesWithIntelAccelerator s1 = (.error e, s2)) :
      PassCase (.err e, updateStatus cfg "NfdFailure"
        "failed to obtain nodes with Intel accelerator - check logs" s2)
  | syncFailed (cfg : SriovFecClusterConfig) (s1 : ClientState)
      (hget : getClusterConfig req s = (.ok cfg, s1))
      (hreq : req = ⟨NAMESPACE, defaultClusterConfigName⟩)
      (hv : validateClusterConfig cfg.spec = .valid) (nodeList : List Node) (s2 : ClientState)
      (hnodes : getNodesWithIntelAccelerator s1 = (.ok nodeList, s2))
      (nodeConfigs : List SriovFecNodeConfig)
      (hrender : renderNodeConfigs cfg nodeList = some nodeConfigs) (e : ApiError) (s3 : ClientState)
      (hsync : syncNodeConfigs nodeConfigs s2 = (.error e, s3)) :
      PassCase (.err e, updateStatus cfg "NodeConfigsCreationFailed"
        "failed to create NodeConfigs - check logs" s3)
  | created (cfg : SriovFecClusterConfig) (s1 : ClientState)
      (hget : getClusterConfig req s = (.ok cfg, s1))
      (hreq : req = ⟨NAMESPACE, defaultClusterConfigName⟩)
      (hv : validateClusterConfig cfg.spec = .valid) (nodeList : List Node) (s2 : ClientState)
      (hnodes : getNodesWithIntelAccelerator s1 = (.ok nodeList, s2))
      (nodeConfigs : List SriovFecNodeConfig)
      (hrender : renderNodeConfigs cfg nodeList = some nodeConfigs) (s3 : ClientState)
      (hsync : syncNodeConfigs nodeConfigs s2 = (.ok (), s3)) :
      PassCase (.ok, updateStatus cfg "NodeConfigsCreated" "" s3)

theorem reconcile_cases : PassCase NAMESPACE req s (reconcile NAMESPACE req s) := by
  unfold reconcile
  split
  · next e s1 hget => exact .getFailed e s1 hget
  · next cfg s1 hget =>
      by_cases hreq : req = ⟨NAMESPACE, defaultClusterConfigName⟩
      · rw [if_neg (by subst hreq; simp)]
        split
        · next reason hv => exact .invalid cfg s1 hget hreq reason hv
        · next hv => exact absurd hv (validateClusterConfig_ne_indexOutOfRange _)
        · next hv =>
            unfold reconcileNodes
            split
            · next e s2 hnodes => exact .nfdFailure cfg s1 hget hreq hv e s2 hnodes
            · next nodeList s2 hnodes =>
                split
                · next hrender => exact absurd hrender (renderNodeConfigs_ne_none_of_valid _ hv)
                · next nodeConfigs hrender =>
                    split
                    · next e s3 hsync =>
                        exact .syncFailed cfg s1 hget hreq hv nodeList s2 hnodes nodeConfigs hrender e s3 hsync
                    · next s3 hsync =>
                        exact .created cfg s1 hget hreq hv nodeList s2 hnodes nodeConfigs hrender s3 hsync
      · rw [if_pos (by cases req; simp only [ne_eq, NamespacedName.mk.injEq, not_and_or] at hreq ⊢; exact hreq)]
        exact .ignored cfg s1 hget hreq

end Cases

/-- One pass of `Reconcile` on `req` from the control plane `cluster`; `faults` names the
calls the control plane fails, by their position in the pass. -/
def pass (NAMESPACE : String) (req : NamespacedName) (cluster : Cluster)
    (faults : Nat → Option ApiError) : Outcome × ClientState :=
  reconcile NAMESPACE req ⟨cluster, faults, []⟩

end SriovFec.Controller
