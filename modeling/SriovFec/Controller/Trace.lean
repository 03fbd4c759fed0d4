import SriovFec.Controller.Sync

/-!
# The calls a sync issues

`DeletesFrom`, `UpsertCalls`, `UpsertsFrom` and `SyncCalls` say which calls each part
of `syncNodeConfigs` may leave, together with its result, whatever the control plane
fails. The `_calls` lemmas prove that every run of a part leaves such calls; what the
calls of a sync have in common is then read off these descriptions alone.
-/

namespace SriovFec.Controller

open SriovFec.Api.V1

/-- `none` as success, an error as failure. -/
def toResult : Option ApiError → Except ApiError Unit
  | none => .ok ()
  | some e => .error e

@[simp] theorem toResult_errorOf (r : Except ApiError Unit) : toResult (errorOf r) = r := by
  cases r <;> rfl

/-- A write to the stored node configs: `Create`, `Update` or `Delete`. -/
def Call.isNodeConfigWrite : Call → Bool
  | .createNodeConfig _ | .updateNodeConfig _ | .deleteNodeConfig _ => true
  | _ => false

/-- A call `syncNodeConfigs` makes after its list. -/
def Call.isSyncCall : Call → Bool
  | .getNodeConfig _ | .createNodeConfig _ | .updateNodeConfig _ | .deleteNodeConfig _ => true
  | _ => false

/-- The calls the delete loop over `items` may leave, with the loop's result. -/
def DeletesFrom (T : List SriovFecNodeConfig) :
    List SriovFecNodeConfig → List Record → Except ApiError Unit → Prop
  | [], new, r => new = [] ∧ r = .ok ()
  | nc :: rest, new, r =>
      if deleteNC T nc then
        (∃ e, new = [⟨.deleteNodeConfig nc, some e⟩] ∧ r = .error e) ∨
          ∃ new', new = ⟨.deleteNodeConfig nc, none⟩ :: new' ∧ DeletesFrom T rest new' r
      else DeletesFrom T rest new r

/-- The calls `updateOrCreateNodeConfig t` may leave, with its result. -/
inductive UpsertCalls (t : SriovFecNodeConfig) : List Record → Except ApiError Unit → Prop
  | getFailed (e : ApiError) (he : e ≠ .notFound) :
      UpsertCalls t [⟨.getNodeConfig (Object.key t), some e⟩] (.error e)
  | created (r : Option ApiError) :
      UpsertCalls t [⟨.getNodeConfig (Object.key t), some .notFound⟩, ⟨.createNodeConfig t, r⟩]
        (toResult r)
  | updated (prev : SriovFecNodeConfig) (hk : Object.key prev = Object.key t) (r : Option ApiError) :
      UpsertCalls t [⟨.getNodeConfig (Object.key t), none⟩,
        ⟨.updateNodeConfig { prev with spec := t.spec }, r⟩] (toResult r)

/-- The calls the create-or-update loop over `T` may leave, with the loop's result. -/
def UpsertsFrom : List SriovFecNodeConfig → List Record → Except ApiError Unit → Prop
  | [], new, r => new = [] ∧ r = .ok ()
  | t :: rest, new, r => ∃ b rb, UpsertCalls t b rb ∧
      ((∃ e, rb = .error e ∧ new = b ∧ r = .error e) ∨
        (rb = .ok () ∧ ∃ new', new = b ++ new' ∧ UpsertsFrom rest new' r))

/-- The calls `syncNodeConfigs T` may leave after its list returned `L`, with its result. -/
def SyncCalls (T : List SriovFecNodeConfig) (L : Except ApiError (List SriovFecNodeConfig))
    (new : List Record) (r : Except ApiError Unit) : Prop :=
  (∃ e, L = .error e ∧ e ≠ .notFound ∧ new = [] ∧ r = .error e) ∨
    ∃ items dels rd ups, (L = .ok items ∨ (L = .error .notFound ∧ items = [])) ∧
      DeletesFrom T items dels rd ∧ new = dels ++ ups ∧
      ((∃ e, rd = .error e ∧ ups = [] ∧ r = .error e) ∨ (rd = .ok () ∧ UpsertsFrom T ups r))

section Calls

variable {T : List SriovFecNodeConfig} {s : ClientState}

theorem deleteOldNodeConfigs_calls (items : List SriovFecNodeConfig) :
    ∃ new, (deleteOldNodeConfigs T items s).2.calls = s.calls ++ new ∧
      DeletesFrom T items new (deleteOldNodeConfigs T items s).1 := by
  induction items generalizing s with
  | nil => exact ⟨[], by simp [deleteOldNodeConfigs], by simp [deleteOldNodeConfigs, DeletesFrom]⟩
  | cons nc rest ih =>
      cases hd : deleteNC T nc
      · simp only [deleteOldNodeConfigs, DeletesFrom, hd, Bool.false_eq_true, ↓reduceIte]
        exact ih
      · simp only [deleteOldNodeConfigs, DeletesFrom, hd, ↓reduceIte]
        split
        · next s1 hdel =>
            obtain ⟨new, hn, hr⟩ := ih (s := s1)
            exact ⟨_, by rw [hn, calls_of_issue hdel]; simp, .inr ⟨new, rfl, hr⟩⟩
        · next e s1 hdel => exact ⟨_, calls_of_issue hdel, .inl ⟨e, rfl, rfl⟩⟩

theorem updateOrCreateNodeConfig_calls (t : SriovFecNodeConfig) :
    ∃ b, (updateOrCreateNodeConfig t s).2.calls = s.calls ++ b ∧
      UpsertCalls t b (updateOrCreateNodeConfig t s).1 := by
  unfold updateOrCreateNodeConfig
  split
  · next prev s1 hget =>
      have hc := calls_of_issue hget
      have hk := Store.key_of_get? (getNodeConfig_ok (by rw [hget]))
      have hu : (updateNodeConfig { prev with spec := t.spec } s1).2.calls = s1.calls ++
          [⟨.updateNodeConfig { prev with spec := t.spec },
            errorOf (updateNodeConfig { prev with spec := t.spec } s1).1⟩] := issue_calls
      have hup := UpsertCalls.updated prev hk
        (errorOf (updateNodeConfig { prev with spec := t.spec } s1).1)
      rw [toResult_errorOf] at hup
      exact ⟨_, by rw [hu, hc]; simp, hup⟩
  · next e s1 hget =>
      have hc := calls_of_issue hget
      by_cases he : e = .notFound
      · subst he
        simp only [↓reduceIte]
        have hcr : (createNodeConfig t s1).2.calls = s1.calls ++
            [⟨.createNodeConfig t, errorOf (createNodeConfig t s1).1⟩] := issue_calls
        have hcreated := UpsertCalls.created (t := t) (errorOf (createNodeConfig t s1).1)
        rw [toResult_errorOf] at hcreated
        exact ⟨_, by rw [hcr, hc]; simp, hcreated⟩
      · simp only [he, ↓reduceIte]
        exact ⟨_, hc, .getFailed e he⟩

theorem updateOrCreateNodeConfigs_calls :
    ∃ new, (updateOrCreateNodeConfigs T s).2.calls = s.calls ++ new ∧
      UpsertsFrom T new (updateOrCreateNodeConfigs T s).1 := by
  induction T generalizing s with
  | nil => exact ⟨[], by simp [updateOrCreateNodeConfigs], by simp [updateOrCreateNodeConfigs, UpsertsFrom]⟩
  | cons t rest ih =>
      obtain ⟨b, hb, hu⟩ := updateOrCreateNodeConfig_calls (s := s) t
      simp only [updateOrCreateNodeConfigs, UpsertsFrom]
      split
      · next s1 hup =>
          rw [hup] at hb hu
          obtain ⟨new, hn, hr⟩ := ih (s := s1)
          exact ⟨b ++ new, by rw [hn, hb, List.append_assoc], b, _, hu, .inr ⟨rfl, new, rfl, hr⟩⟩
      · next e s1 hup =>
          rw [hup] at hb hu
          exact ⟨b, hb, b, _, hu, .inl ⟨e, rfl, rfl, rfl⟩⟩

theorem removeOldNodeConfigs_calls :
    ∃ dels, (removeOldNodeConfigs T s).2.calls =
        s.calls ++ ⟨.listNodeConfigs, errorOf (listNodeConfigs s).1⟩ :: dels ∧
      ((∃ e, (listNodeConfigs s).1 = .error e ∧ e ≠ .notFound ∧ dels = [] ∧
          (removeOldNodeConfigs T s).1 = .error e) ∨
        ∃ items, ((listNodeConfigs s).1 = .ok items ∨
            ((listNodeConfigs s).1 = .error .notFound ∧ items = [])) ∧
          DeletesFrom T items dels (removeOldNodeConfigs T s).1) := by
  unfold removeOldNodeConfigs
  split
  · next items s1 hlist =>
      have hc := calls_of_issue hlist
      rw [hlist]
      obtain ⟨dels, hd, hr⟩ := deleteOldNodeConfigs_calls (T := T) (s := s1) items
      exact ⟨dels, by rw [hd, hc]; simp, .inr ⟨items, .inl rfl, hr⟩⟩
  · next e s1 hlist =>
      have hc := calls_of_issue hlist
      rw [hlist]
      by_cases he : e = .notFound
      · subst he
        exact ⟨[], by simpa [deleteOldNodeConfigs] using hc,
          .inr ⟨[], .inr ⟨rfl, rfl⟩, by simp [deleteOldNodeConfigs, DeletesFrom]⟩⟩
      · simp only [he, ↓reduceIte]
        exact ⟨[], by simpa using hc, .inl ⟨e, rfl, he, rfl, rfl⟩⟩

/-- Every run of `syncNodeConfigs` lists the node configs first and then leaves calls
`SyncCalls` describes. -/
theorem syncNodeConfigs_calls :
    ∃ new, (syncNodeConfigs T s).2.calls =
        s.calls ++ ⟨.listNodeConfigs, errorOf (listNodeConfigs s).1⟩ :: new ∧
      SyncCalls T (listNodeConfigs s).1 new (syncNodeConfigs T s).1 := by
  obtain ⟨dels, hd, hr⟩ := removeOldNodeConfigs_calls (T := T) (s := s)
  unfold syncNodeConfigs
  split
  · next s1 hrem =>
      rw [hrem] at hd hr
      obtain ⟨ups, hu, hup⟩ := updateOrCreateNodeConfigs_calls (T := T) (s := s1)
      refine ⟨dels ++ ups, by rw [hu, hd]; simp, ?_⟩
      rcases hr with ⟨e, -, -, -, h⟩ | ⟨items, hl, hdel⟩
      · cases h
      · exact .inr ⟨items, dels, _, ups, hl, hdel, rfl, .inr ⟨rfl, hup⟩⟩
  · next e s1 hrem =>
      rw [hrem] at hd hr
      refine ⟨dels, hd, ?_⟩
      rcases hr with ⟨e', hl, he, rfl, h⟩ | ⟨items, hl, hdel⟩
      · exact .inl ⟨e', hl, he, rfl, h⟩
      · exact .inr ⟨items, dels, _, [], hl, hdel, by simp, .inl ⟨e, rfl, rfl, rfl⟩⟩

end Calls

end SriovFec.Controller
