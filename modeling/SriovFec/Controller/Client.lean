import SriovFec.Controller.Store

/-!
# The controller's client

Every call goes through `issue`. The run's `faults` say which calls the control plane
fails and with which error: a failed call has no effect. Any other call has its usual
effect on the stored objects, which may itself be an error (`NotFound` from a `Get` of a
free key). Each call is recorded with the error it returned, in the order issued.
-/

namespace SriovFec.Controller

open SriovFec.Api.V1

/-- What the controller's client reads and writes. -/
structure Cluster where
  clusterConfigs : Store SriovFecClusterConfig
  nodes : List Node
  nodeConfigs : Store SriovFecNodeConfig

/-- A control-plane call of the cluster controller. -/
inductive Call where
  | getClusterConfig (key : NamespacedName)
  | updateClusterConfigStatus (clusterConfig : SriovFecClusterConfig)
  | listNodes (labels : List (String × String))
  | listNodeConfigs
  | getNodeConfig (key : NamespacedName)
  | createNodeConfig (nodeCfg : SriovFecNodeConfig)
  | updateNodeConfig (nodeCfg : SriovFecNodeConfig)
  | deleteNodeConfig (nodeCfg : SriovFecNodeConfig)
  deriving DecidableEq, Repr

/-- A call with the error it returned, `none` on success. -/
structure Record where
  call : Call
  error : Option ApiError
  deriving DecidableEq, Repr

/-- What a run threads: the control plane, the calls it fails, and the calls so far. -/
structure ClientState where
  cluster : Cluster
  faults : Nat → Option ApiError
  calls : List Record

/-- The error of a result, `none` for a success. -/
def errorOf {ε β : Type} : Except ε β → Option ε
  | .ok _ => none
  | .error e => some e

@[simp] theorem errorOf_ok {ε β : Type} (b : β) : errorOf (.ok b : Except ε β) = none := rfl

@[simp] theorem errorOf_error {ε β : Type} (e : ε) : errorOf (.error e : Except ε β) = some e :=
  rfl

/-- Issue `c`: it fails with no effect when the run's faults say so, else it has its
usual effect `act` on the control plane. -/
def issue {β : Type} (c : Call) (act : Cluster → Except ApiError β × Cluster)
    (s : ClientState) : Except ApiError β × ClientState :=
  match s.faults s.calls.length with
  | some e => (.error e, { s with calls := s.calls ++ [⟨c, some e⟩] })
  | none =>
      let r := act s.cluster
      (r.1, { s with cluster := r.2, calls := s.calls ++ [⟨c, errorOf r.1⟩] })

section Issue

variable {β : Type} {c : Call} {act : Cluster → Except ApiError β × Cluster} {s s1 : ClientState}
  {r : Except ApiError β}

@[simp] theorem issue_calls :
    (issue c act s).2.calls = s.calls ++ [⟨c, errorOf (issue c act s).1⟩] := by
  unfold issue
  split <;> rfl

@[simp] theorem issue_faults : (issue c act s).2.faults = s.faults := by
  unfold issue
  split <;> rfl

theorem issue_of_fault {e : ApiError} (h : s.faults s.calls.length = some e) :
    issue c act s = (.error e, { s with calls := s.calls ++ [⟨c, some e⟩] }) := by
  simp [issue, h]

theorem issue_of_no_fault (h : s.faults s.calls.length = none) :
    issue c act s = ((act s.cluster).1,
      { s with cluster := (act s.cluster).2, calls := s.calls ++ [⟨c, errorOf (act s.cluster).1⟩] }) := by
  simp [issue, h]

/-- A call whose usual effect changes nothing leaves the control plane as it was. -/
theorem issue_cluster_of_read (hr : ∀ cl, (act cl).2 = cl) : (issue c act s).2.cluster = s.cluster := by
  unfold issue
  split
  · rfl
  · exact hr s.cluster

theorem calls_of_issue (h : issue c act s = (r, s1)) : s1.calls = s.calls ++ [⟨c, errorOf r⟩] := by
  have := @issue_calls β c act s
  rwa [h] at this

theorem faults_of_issue (h : issue c act s = (r, s1)) : s1.faults = s.faults := by
  have := @issue_faults β c act s
  rwa [h] at this

theorem cluster_of_read (hr : ∀ cl, (act cl).2 = cl) (h : issue c act s = (r, s1)) :
    s1.cluster = s.cluster := by
  have := @issue_cluster_of_read β c act s hr
  rwa [h] at this

end Issue

/-- The object under `k`, or `NotFound`. -/
def lookup {α : Type} [Object α] (st : Store α) (k : NamespacedName) : Except ApiError α :=
  match st.get? k with
  | some o => .ok o
  | none => .error .notFound

/-- `r.Get` of the cluster config under `key`. -/
def getClusterConfig (key : NamespacedName) :
    ClientState → Except ApiError SriovFecClusterConfig × ClientState :=
  issue (.getClusterConfig key) fun cl => (lookup cl.clusterConfigs key, cl)

/-- `r.Status().Update`: the stored cluster config takes the status of `clusterConfig`. -/
def updateClusterConfigStatus (clusterConfig : SriovFecClusterConfig) :
    ClientState → Except ApiError Unit × ClientState :=
  issue (.updateClusterConfigStatus clusterConfig) fun cl =>
    match cl.clusterConfigs.get? (Object.key clusterConfig) with
    | none => (.error .notFound, cl)
    | some cur =>
        (.ok (), { cl with clusterConfigs :=
          cl.clusterConfigs.replace { cur with status := clusterConfig.status } })

/-- `client.MatchingLabels`: every selected label is present with the selected value. -/
def matchesLabels (labels : List (String × String)) (node : Node) : Bool :=
  labels.all fun l => node.labels.lookup l.1 == some l.2

/-- `r.List` of the nodes carrying `labels`. -/
def listNodes (labels : List (String × String)) :
    ClientState → Except ApiError (List Node) × ClientState :=
  issue (.listNodes labels) fun cl => (.ok (cl.nodes.filter (matchesLabels labels)), cl)

/-- `r.List` of the node configs of every namespace. -/
def listNodeConfigs : ClientState → Except ApiError (List SriovFecNodeConfig) × ClientState :=
  issue .listNodeConfigs fun cl => (.ok cl.nodeConfigs.items, cl)

/-- `r.Get` of the node config under `key`. -/
def getNodeConfig (key : NamespacedName) :
    ClientState → Except ApiError SriovFecNodeConfig × ClientState :=
  issue (.getNodeConfig key) fun cl => (lookup cl.nodeConfigs key, cl)

/-- The usual effect of a write to the stored node configs. -/
def writeNodeConfigs
    (w : Store SriovFecNodeConfig → Except ApiError (Store SriovFecNodeConfig)) (cl : Cluster) :
    Except ApiError Unit × Cluster :=
  match w cl.nodeConfigs with
  | .ok st => (.ok (), { cl with nodeConfigs := st })
  | .error e => (.error e, cl)

/-- `r.Create` of a node config. -/
def createNodeConfig (nodeCfg : SriovFecNodeConfig) : ClientState → Except ApiError Unit × ClientState :=
  issue (.createNodeConfig nodeCfg) (writeNodeConfigs (·.create nodeCfg))

/-- `r.Update` of a node config. -/
def updateNodeConfig (nodeCfg : SriovFecNodeConfig) : ClientState → Except ApiError Unit × ClientState :=
  issue (.updateNodeConfig nodeCfg) (writeNodeConfigs (·.update nodeCfg))

/-- `r.Delete` of a node config. -/
def deleteNodeConfig (nodeCfg : SriovFecNodeConfig) : ClientState → Except ApiError Unit × ClientState :=
  issue (.deleteNodeConfig nodeCfg) (writeNodeConfigs (·.delete (Object.key nodeCfg)))

section Calls

variable {s : ClientState} {k : NamespacedName} {o : SriovFecNodeConfig}

@[simp] theorem getNodeConfig_cluster : (getNodeConfig k s).2.cluster = s.cluster :=
  issue_cluster_of_read fun _ => rfl

@[simp] theorem listNodeConfigs_cluster : (listNodeConfigs s).2.cluster = s.cluster :=
  issue_cluster_of_read fun _ => rfl

@[simp] theorem getClusterConfig_cluster : (getClusterConfig k s).2.cluster = s.cluster :=
  issue_cluster_of_read fun _ => rfl

@[simp] theorem listNodes_cluster {labels : List (String × String)} :
    (listNodes labels s).2.cluster = s.cluster :=
  issue_cluster_of_read fun _ => rfl

theorem getNodeConfig_ok (h : (getNodeConfig k s).1 = .ok o) : s.cluster.nodeConfigs.get? k = some o := by
  unfold getNodeConfig issue at h
  split at h
  · cases h
  · simp only [lookup] at h
    split at h
    · next hg => exact hg ▸ congrArg some (Except.ok.inj h)
    · cases h

theorem listNodeConfigs_ok {items : List SriovFecNodeConfig} (h : (listNodeConfigs s).1 = .ok items) :
    items = s.cluster.nodeConfigs.items := by
  unfold listNodeConfigs issue at h
  split at h
  · cases h
  · exact (Except.ok.inj h).symm

variable {c : Call} {w : Store SriovFecNodeConfig → Except ApiError (Store SriovFecNodeConfig)}

/-- A write that succeeds has its usual effect on the stored node configs and nothing else. -/
theorem issue_write_ok (h : (issue c (writeNodeConfigs w) s).1 = .ok ()) :
    ∃ st, w s.cluster.nodeConfigs = .ok st ∧
      (issue c (writeNodeConfigs w) s).2.cluster = { s.cluster with nodeConfigs := st } := by
  cases hf : s.faults s.calls.length with
  | some e => rw [issue_of_fault hf] at h; cases h
  | none =>
      rw [issue_of_no_fault hf] at h ⊢
      cases hw : w s.cluster.nodeConfigs with
      | ok st => exact ⟨st, rfl, by simp [writeNodeConfigs, hw]⟩
      | error e => simp [writeNodeConfigs, hw] at h

/-- A write that fails leaves the control plane as it was. -/
theorem issue_write_error {e : ApiError} (h : (issue c (writeNodeConfigs w) s).1 = .error e) :
    (issue c (writeNodeConfigs w) s).2.cluster = s.cluster := by
  cases hf : s.faults s.calls.length with
  | some e => rw [issue_of_fault hf]
  | none =>
      rw [issue_of_no_fault hf] at h ⊢
      cases hw : w s.cluster.nodeConfigs with
      | ok st => simp [writeNodeConfigs, hw] at h
      | error e => simp [writeNodeConfigs, hw]

theorem createNodeConfig_ok (h : (createNodeConfig o s).1 = .ok ()) :
    ∃ hk : s.cluster.nodeConfigs.get? (Object.key o) = none,
      (createNodeConfig o s).2.cluster = { s.cluster with nodeConfigs := s.cluster.nodeConfigs.add o hk } := by
  obtain ⟨st, hw, hc⟩ := issue_write_ok h
  obtain ⟨hk, rfl⟩ := Store.create_ok hw
  exact ⟨hk, hc⟩

theorem updateNodeConfig_ok (h : (updateNodeConfig o s).1 = .ok ()) :
    (updateNodeConfig o s).2.cluster = { s.cluster with nodeConfigs := s.cluster.nodeConfigs.replace o } := by
  obtain ⟨st, hw, hc⟩ := issue_write_ok h
  rwa [Store.update_ok hw] at hc

theorem deleteNodeConfig_ok (h : (deleteNodeConfig o s).1 = .ok ()) :
    (deleteNodeConfig o s).2.cluster =
      { s.cluster with nodeConfigs := s.cluster.nodeConfigs.erase (Object.key o) } := by
  obtain ⟨st, hw, hc⟩ := issue_write_ok h
  rwa [Store.delete_ok hw] at hc

end Calls

end SriovFec.Controller
