import SriovFec.Controller.Pass

/-!
# What a pass returns

`Reconcile` returns an error, and so asks to be requeued, exactly when a call it needs
failed: the get of the cluster config with an error other than `NotFound`, after which it
writes no status, the list of the nodes, after which it writes `NfdFailure`, or a call of the
sync, after which it writes `NodeConfigsCreationFailed`. Every other pass returns `nil`. The
error it returns is the error of one of its calls, never of its status write, whose error
`updateStatus` only logs. No pass panics on an index out of range. A pass that got its
config changes no cluster config but that one, and that one only by its status write.

## Implementation notes

The grammar lemmas read the failing call off `DeletesFrom`, `UpsertCalls`, `UpsertsFrom` and
`SyncCalls`: a loop that ends in an error ends with the call that returned it.
-/

namespace SriovFec.Controller

open SriovFec.Api.V1

section Grammar

variable {T : List SriovFecNodeConfig} {e : ApiError}

theorem DeletesFrom.error_mem {items : List SriovFecNodeConfig} {dels : List Record}
    {rd : Except ApiError Unit} (h : DeletesFrom T items dels rd) (he : rd = .error e) :
    ∃ x ∈ dels, x.error = some e := by
  induction items generalizing dels with
  | nil => cases he ▸ h.2
  | cons nc rest ih =>
      simp only [DeletesFrom] at h
      split_ifs at h
      · rcases h with ⟨e', rfl, rfl⟩ | ⟨new', rfl, h'⟩
        · exact ⟨_, .head _, by cases he; rfl⟩
        · obtain ⟨x, hx, hxe⟩ := ih h'
          exact ⟨x, .tail _ hx, hxe⟩
      · exact ih h

theorem UpsertCalls.error_mem {t : SriovFecNodeConfig} {b : List Record} {rb : Except ApiError Unit}
    (h : UpsertCalls t b rb) (he : rb = .error e) : ∃ x ∈ b, x.error = some e := by
  cases h with
  | getFailed e' _ => exact ⟨_, .head _, by cases he; rfl⟩
  | created r =>
      cases r with
      | none => cases he
      | some e' => exact ⟨_, .tail _ (.head _), by cases he; rfl⟩
  | updated prev _ r =>
      cases r with
      | none => cases he
      | some e' => exact ⟨_, .tail _ (.head _), by cases he; rfl⟩

theorem UpsertsFrom.error_mem {ups : List Record} {r : Except ApiError Unit}
    (h : UpsertsFrom T ups r) (he : r = .error e) : ∃ x ∈ ups, x.error = some e := by
  induction T generalizing ups with
  | nil => cases he ▸ h.2
  | cons t rest ih =>
      obtain ⟨b, rb, hb, ⟨e', rfl, rfl, rfl⟩ | ⟨-, new', rfl, h'⟩⟩ := h
      · exact hb.error_mem he
      · obtain ⟨x, hx, hxe⟩ := ih h'
        exact ⟨x, List.mem_append_right _ hx, hxe⟩

/-- A sync that fails got its error from its list or from one of the calls after it. -/
theorem SyncCalls.error_mem {L : Except ApiError (List SriovFecNodeConfig)} {new : List Record}
    {r : Except ApiError Unit} (h : SyncCalls T L new r) (he : r = .error e) :
    L = .error e ∨ ∃ x ∈ new, x.error = some e := by
  rcases h with ⟨e', hL, -, -, rfl⟩ | ⟨items, dels, rd, ups, -, hd, rfl, ⟨e', rfl, rfl, rfl⟩ | ⟨rfl, hu⟩⟩
  · cases he
    exact .inl hL
  · obtain ⟨x, hx, hxe⟩ := hd.error_mem he
    exact .inr ⟨x, List.mem_append_left _ hx, hxe⟩
  · obtain ⟨x, hx, hxe⟩ := hu.error_mem he
    exact .inr ⟨x, List.mem_append_right _ hx, hxe⟩

end Grammar

section Pass

variable (NAMESPACE : String) (req : NamespacedName) (cluster : Cluster)
  (faults : Nat → Option ApiError)

/-- A pass that writes a status did not stop at a failed get. -/
theorem not_getFailed_of_status {calls : List Record} {status : String}
    (h : writtenStatus calls = some status) :
    ¬ ∃ e, e ≠ .notFound ∧ calls = [⟨.getClusterConfig req, some e⟩] := by
  rintro ⟨e, -, rfl⟩
  cases h

/-- A pass that returns `nil` after writing a status other than the two failure statuses
meets the outcome statement below. -/
theorem ok_status_outcome {calls : List Record} {status : String} (hws : writtenStatus calls = some status)
    (h1 : status ≠ "NfdFailure") (h2 : status ≠ "NodeConfigsCreationFailed") :
    ((∃ e, Outcome.ok = .err e) ↔
      (∃ e, e ≠ .notFound ∧ calls = [⟨.getClusterConfig req, some e⟩]) ∨
        writtenStatus calls = some "NfdFailure" ∨ writtenStatus calls = some "NodeConfigsCreationFailed") ∧
    ∀ e, Outcome.ok = .err e → ∃ x ∈ calls, x.call.isStatusWrite = false ∧ x.error = some e := by
  refine ⟨iff_of_false (fun ⟨e, he⟩ => by cases he) ?_, fun e he => by cases he⟩
  rw [hws]
  simp only [Option.some.injEq, not_or]
  exact ⟨not_getFailed_of_status req hws, h1, h2⟩

/-- `Reconcile` returns an error exactly when its get of the cluster config failed with an
error other than `NotFound`, or it wrote `NfdFailure` or `NodeConfigsCreationFailed`; the
error it returns is the error of one of its calls other than a status write. -/
theorem pass_error_iff :
    ((∃ e, (pass NAMESPACE req cluster faults).1 = .err e) ↔
      (∃ e, e ≠ .notFound ∧ (pass NAMESPACE req cluster faults).2.calls = [⟨.getClusterConfig req, some e⟩]) ∨
        writtenStatus (pass NAMESPACE req cluster faults).2.calls = some "NfdFailure" ∨
        writtenStatus (pass NAMESPACE req cluster faults).2.calls = some "NodeConfigsCreationFailed") ∧
    ∀ e, (pass NAMESPACE req cluster faults).1 = .err e →
      ∃ x ∈ (pass NAMESPACE req cluster faults).2.calls, x.call.isStatusWrite = false ∧ x.error = some e := by
  have hc := pass_cases NAMESPACE req cluster faults
  generalize pass NAMESPACE req cluster faults = run at hc ⊢
  cases hc with
  | getFailed e s1 hget =>
      have hcalls : s1.calls = [⟨.getClusterConfig req, some e⟩] := by
        simp [(calls_of_getClusterConfig hget).1]
      rw [hcalls]
      by_cases he : e = .notFound
      · subst he
        simp [writtenStatus, Call.writtenStatus?]
      · simp [he, writtenStatus, Call.writtenStatus?, Call.isStatusWrite]
  | ignored cfg s1 hget hreq =>
      have hws : writtenStatus (updateStatus cfg "Ignored" (ignoredReason NAMESPACE) s1).calls = some "Ignored" :=
        writtenStatus_updateStatus (by simp [(calls_of_getClusterConfig hget).1]; rfl)
      exact ok_status_outcome req hws (by decide) (by decide)
  | invalid cfg s1 hget hreq reason hv =>
      have hws : writtenStatus (updateStatus cfg "InvalidConfig" reason s1).calls = some "InvalidConfig" :=
        writtenStatus_updateStatus (by simp [(calls_of_getClusterConfig hget).1]; rfl)
      exact ok_status_outcome req hws (by decide) (by decide)
  | nfdFailure cfg s1 hget hreq hv e s2 hnodes =>
      have hc2 : s2.calls = [⟨.getClusterConfig req, none⟩, ⟨.listNodes labelsToMatch, some e⟩] := by
        simp [(calls_of_getNodesWithIntelAccelerator hnodes).1, (calls_of_getClusterConfig hget).1]
      have hws : writtenStatus (updateStatus cfg "NfdFailure"
          "failed to obtain nodes with Intel accelerator - check logs" s2).calls = some "NfdFailure" :=
        writtenStatus_updateStatus (by simp [hc2, Call.isStatusWrite])
      refine ⟨iff_of_true ⟨e, rfl⟩ (.inr (.inl hws)), fun e' he' => ⟨⟨.listNodes labelsToMatch, some e⟩, ?_, rfl, ?_⟩⟩
      · simp [hc2]
      · cases he'
        rfl
  | syncFailed cfg s1 hget hreq hv nodeList s2 hnodes T hrender e s3 hsync =>
      have hws : writtenStatus (updateStatus cfg "NodeConfigsCreationFailed"
          "failed to create NodeConfigs - check logs" s3).calls = some "NodeConfigsCreationFailed" :=
        writtenStatus_updateStatus (noStatus_before_sync req cluster faults hget hnodes hsync)
      refine ⟨iff_of_true ⟨e, rfl⟩ (.inr (.inr hws)), fun e' he' => ?_⟩
      cases he'
      obtain ⟨new, hc3, hnew⟩ := calls_of_syncNodeConfigs hsync
      rw [updateStatus_calls, hc3]
      rcases hnew.error_mem rfl with hL | ⟨x, hx, hxe⟩
      · exact ⟨⟨.listNodeConfigs, errorOf (listNodeConfigs s2).1⟩, by simp, rfl, by rw [hL]; rfl⟩
      · exact ⟨x, by simp [hx], isStatusWrite_of_isSyncCall (hnew.isSyncCall x hx), hxe⟩
  | created cfg s1 hget hreq hv nodeList s2 hnodes T hrender s3 hsync =>
      have hws : writtenStatus (updateStatus cfg "NodeConfigsCreated" "" s3).calls = some "NodeConfigsCreated" :=
        writtenStatus_updateStatus (noStatus_before_sync req cluster faults hget hnodes hsync)
      exact ok_status_outcome req hws (by decide) (by decide)

/-- No pass panics: `Reconcile` reads `Spec.Nodes[0]` in its checks only after finding one
entry, and `renderNodeConfigs` reads it only after the checks passed. -/
theorem pass_ne_indexOutOfRange : (pass NAMESPACE req cluster faults).1 ≠ .indexOutOfRange :=
  passCase_ne_indexOutOfRange NAMESPACE req cluster faults (pass_cases NAMESPACE req cluster faults)

/-- A pass that gets the config stored under its request writes one status to it, as its
last call, and makes no other change to the cluster configs: the config under the request
then carries the written status and reason if that write succeeded, and every other config,
and that one after a failed write, is as it was. -/
theorem pass_status_lands {cfg : SriovFecClusterConfig} (h0 : faults 0 = none)
    (hcfg : cluster.clusterConfigs.get? req = some cfg) :
    ∃ status reason r,
      (pass NAMESPACE req cluster faults).2.calls.getLast? =
        some ⟨.updateClusterConfigStatus { cfg with status := ⟨status, reason⟩ }, r⟩ ∧
      writtenStatus (pass NAMESPACE req cluster faults).2.calls = some status ∧
      ∀ k, (pass NAMESPACE req cluster faults).2.cluster.clusterConfigs.get? k =
        if k = req ∧ r = none then some { cfg with status := ⟨status, reason⟩ }
        else cluster.clusterConfigs.get? k := by
  obtain ⟨status, reason, s, hrun, hcc, hno⟩ :=
    passCase_status_write NAMESPACE req cluster faults (pass_cases NAMESPACE req cluster faults) h0 hcfg
  rw [hrun]
  exact ⟨status, reason, updateStatus_lands hcc hcfg hno⟩

end Pass

/-- The pass on `staleCluster` whose list of node configs fails with `NotFound` still gets
its config and writes its status to it. -/
theorem staleCluster_status_lands :
    (listNotFound 0 = none ∧ staleCluster.clusterConfigs.get? demoReq = some demoConfig) ∧
      ∃ status reason r,
        (pass "ns" demoReq staleCluster listNotFound).2.calls.getLast? =
          some ⟨.updateClusterConfigStatus { demoConfig with status := ⟨status, reason⟩ }, r⟩ ∧
        writtenStatus (pass "ns" demoReq staleCluster listNotFound).2.calls = some status ∧
        ∀ k, (pass "ns" demoReq staleCluster listNotFound).2.cluster.clusterConfigs.get? k =
          if k = demoReq ∧ r = none then some { demoConfig with status := ⟨status, reason⟩ }
          else staleCluster.clusterConfigs.get? k :=
  ⟨⟨by decide, rfl⟩, pass_status_lands "ns" demoReq staleCluster listNotFound (by decide) rfl⟩

end SriovFec.Controller
