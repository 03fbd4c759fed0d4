import SriovFec.Controller.Client

/-!
# Syncing the stored node configs with the rendered ones

`syncNodeConfigs` first deletes every listed node config whose name no rendered one has,
then gets each rendered one by key: it creates it when the get reports `NotFound` and
otherwise replaces the stored spec. The first error ends the sync.

## Implementation notes

`removedOld` and `upserted` say what the two loops make of the store when every call
succeeds; `deleteOldNodeConfigs_ok` and `updateOrCreateNodeConfigs_ok` connect the
loops to them, and the `get?_` lemmas read them back key by key.
-/

namespace SriovFec.Controller

open SriovFec.Api.V1

/-- `deleteNC` of `removeOldNodeConfigs`: no new node config has the name of `nc`. -/
def deleteNC (newNodeCfgs : List SriovFecNodeConfig) (nc : SriovFecNodeConfig) : Bool :=
  !newNodeCfgs.any fun nNC => nc.name == nNC.name

/-- The loop of `removeOldNodeConfigs` over the listed node configs. -/
def deleteOldNodeConfigs (newNodeCfgs : List SriovFecNodeConfig) :
    List SriovFecNodeConfig → ClientState → Except ApiError Unit × ClientState
  | [], s => (.ok (), s)
  | nc :: rest, s =>
      if deleteNC newNodeCfgs nc then
        match deleteNodeConfig nc s with
        | (.ok _, s) => deleteOldNodeConfigs newNodeCfgs rest s
        | (.error e, s) => (.error e, s)
      else deleteOldNodeConfigs newNodeCfgs rest s

/-- `removeOldNodeConfigs`: a `NotFound` from the list leaves an empty list to delete from. -/
def removeOldNodeConfigs (newNodeCfgs : List SriovFecNodeConfig) (s : ClientState) :
    Except ApiError Unit × ClientState :=
  match listNodeConfigs s with
  | (.ok ncList, s) => deleteOldNodeConfigs newNodeCfgs ncList s
  | (.error e, s) => if e = .notFound then deleteOldNodeConfigs newNodeCfgs [] s else (.error e, s)

/-- `updateOrCreateNodeConfig`. -/
def updateOrCreateNodeConfig (nodeCfg : SriovFecNodeConfig) (s : ClientState) :
    Except ApiError Unit × ClientState :=
  match getNodeConfig (Object.key nodeCfg) s with
  | (.ok prev, s) => updateNodeConfig { prev with spec := nodeCfg.spec } s
  | (.error e, s) => if e = .notFound then createNodeConfig nodeCfg s else (.error e, s)

/-- The loop of `syncNodeConfigs` over the rendered node configs. -/
def updateOrCreateNodeConfigs :
    List SriovFecNodeConfig → ClientState → Except ApiError Unit × ClientState
  | [], s => (.ok (), s)
  | nodeCfg :: rest, s =>
      match updateOrCreateNodeConfig nodeCfg s with
      | (.ok _, s) => updateOrCreateNodeConfigs rest s
      | (.error e, s) => (.error e, s)

/-- `syncNodeConfigs`. -/
def syncNodeConfigs (nodeCfgs : List SriovFecNodeConfig) (s : ClientState) :
    Except ApiError Unit × ClientState :=
  match removeOldNodeConfigs nodeCfgs s with
  | (.ok _, s) => updateOrCreateNodeConfigs nodeCfgs s
  | (.error e, s) => (.error e, s)

/-- What a successful delete loop over `items` makes of the stored node configs. -/
def removedOld (newNodeCfgs items : List SriovFecNodeConfig) (st : Store SriovFecNodeConfig) :
    Store SriovFecNodeConfig :=
  items.foldl (fun st nc => if deleteNC newNodeCfgs nc then st.erase (Object.key nc) else st) st

/-- What a successful `updateOrCreateNodeConfig nodeCfg` makes of the stored node configs. -/
def upserted (st : Store SriovFecNodeConfig) (nodeCfg : SriovFecNodeConfig) :
    Store SriovFecNodeConfig :=
  match h : st.get? (Object.key nodeCfg) with
  | none => st.add nodeCfg h
  | some prev => st.replace { prev with spec := nodeCfg.spec }

theorem upserted_of_get?_none {st : Store SriovFecNodeConfig} {t : SriovFecNodeConfig}
    (hg : st.get? (Object.key t) = none) : upserted st t = st.add t hg := by
  unfold upserted
  split
  · rfl
  · next h => exact absurd (hg.symm.trans h) (by simp)

theorem upserted_of_get?_some {st : Store SriovFecNodeConfig} {t prev : SriovFecNodeConfig}
    (hg : st.get? (Object.key t) = some prev) :
    upserted st t = st.replace { prev with spec := t.spec } := by
  unfold upserted
  split
  · next h => exact absurd (hg.symm.trans h) (by simp)
  · next p h => rw [hg] at h; cases h; rfl

section Views

variable {T items : List SriovFecNodeConfig} {S : Store SriovFecNodeConfig} {k : NamespacedName}
  {t : SriovFecNodeConfig}

theorem get?_removedOld :
    (removedOld T items S).get? k =
      if ∃ nc ∈ items, Object.key nc = k ∧ deleteNC T nc then none else S.get? k := by
  induction items generalizing S with
  | nil => simp [removedOld]
  | cons nc rest ih =>
      simp only [removedOld, List.foldl_cons] at ih ⊢
      rw [ih]
      by_cases hd : deleteNC T nc <;> by_cases hk : Object.key nc = k <;> simp [hd, hk]

theorem deleteNC_eq_false_iff : deleteNC T t = false ↔ t.name ∈ T.map (·.name) := by
  simp only [deleteNC, Bool.not_eq_false', List.any_eq_true, beq_iff_eq, List.mem_map]
  exact ⟨fun ⟨x, hx, h⟩ => ⟨x, hx, h.symm⟩, fun ⟨x, hx, h⟩ => ⟨x, hx, h.symm⟩⟩

/-- The delete loop never removes a key whose name a rendered node config has. -/
theorem get?_removedOld_of_name_mem (h : k.name ∈ T.map (·.name)) :
    (removedOld T items S).get? k = S.get? k := by
  rw [get?_removedOld, if_neg]
  rintro ⟨nc, -, rfl, hd⟩
  simp [deleteNC_eq_false_iff.2 h] at hd

/-- The delete loop over every stored node config removes every key whose name no
rendered node config has. -/
theorem get?_removedOld_items_of_name_not_mem (h : k.name ∉ T.map (·.name)) :
    (removedOld T S.items S).get? k = none := by
  rw [get?_removedOld]
  split_ifs with hx
  · rfl
  · cases hg : S.get? k with
    | none => rfl
    | some o =>
        obtain ⟨ho, rfl⟩ := Store.get?_eq_some.1 hg
        exact absurd ⟨o, ho, rfl, by rwa [← Bool.not_eq_false, deleteNC_eq_false_iff]⟩ hx

theorem get?_upserted :
    (upserted S t).get? k =
      if Object.key t = k then some ((S.get? k).elim t fun p => { p with spec := t.spec })
      else S.get? k := by
  unfold upserted
  split
  · next h =>
      rw [Store.get?_add]
      split_ifs with hk
      · subst hk; simp [h]
      · rfl
  · next prev h =>
      have hp := Store.key_of_get? h
      rw [Store.get?_replace, key_with_spec, hp]
      split_ifs with hk
      · subst hk; simp [h]
      · rfl

theorem get?_foldl_upserted_of_not_mem (h : ∀ t ∈ T, Object.key t ≠ k) :
    (T.foldl upserted S).get? k = S.get? k := by
  induction T generalizing S with
  | nil => rfl
  | cons t rest ih =>
      rw [List.foldl_cons, ih (fun x hx => h x (.tail _ hx)), get?_upserted,
        if_neg (h t (.head _))]

/-- Under a key of `T` a successful create-or-update loop leaves the spec of the last
node config of `T` with that key, on the object that was stored there if there was one. -/
theorem get?_foldl_upserted_of_mem (h : ∃ t ∈ T, Object.key t = k) :
    ∃ o, (T.foldl upserted S).get? k = some o ∧
      (T.filter fun t => Object.key t = k).getLast?.map (·.spec) = some o.spec ∧
      ∀ p, S.get? k = some p → o = { p with spec := o.spec } := by
  induction T generalizing S with
  | nil => simp at h
  | cons t rest ih =>
      rw [List.foldl_cons]
      by_cases hr : ∃ x ∈ rest, Object.key x = k
      · obtain ⟨o, ho, hlast, hprev⟩ := @ih (upserted S t) hr
        refine ⟨o, ho, ?_, fun p hp => ?_⟩
        · obtain ⟨x, hx, -⟩ := Option.map_eq_some'.1 hlast
          rw [List.filter_cons]
          split_ifs
          · rw [List.getLast?_cons, ← hlast, hx]
            rfl
          · exact hlast
        · rw [get?_upserted] at hprev
          split_ifs at hprev with hk
          · rw [hprev { p with spec := t.spec } (by simp [hp])]
          · exact hprev p hp
      · have ht : Object.key t = k := by
          obtain ⟨x, hx, hk⟩ := h
          rcases List.mem_cons.1 hx with rfl | hx
          · exact hk
          · exact absurd ⟨x, hx, hk⟩ hr
        rw [get?_foldl_upserted_of_not_mem (fun x hx hk => hr ⟨x, hx, hk⟩), get?_upserted, if_pos ht]
        refine ⟨_, rfl, ?_, fun p hp => by simp [hp]⟩
        have hnil : rest.filter (fun t => Object.key t = k) = [] :=
          List.filter_eq_nil_iff.2 fun x hx hk => hr ⟨x, hx, by simpa using hk⟩
        cases hs : S.get? k <;> simp [List.filter_cons, ht, hnil, hs]

end Views

section Runs

variable {T : List SriovFecNodeConfig} {s : ClientState}

theorem deleteOldNodeConfigs_ok {items : List SriovFecNodeConfig}
    (h : (deleteOldNodeConfigs T items s).1 = .ok ()) :
    (deleteOldNodeConfigs T items s).2.cluster =
      { s.cluster with nodeConfigs := removedOld T items s.cluster.nodeConfigs } := by
  induction items generalizing s with
  | nil => rfl
  | cons nc rest ih =>
      cases hd : deleteNC T nc
      · simp only [deleteOldNodeConfigs, hd, Bool.false_eq_true, ↓reduceIte] at h ⊢
        rw [ih h]
        simp [removedOld, hd]
      · simp only [deleteOldNodeConfigs, hd, ↓reduceIte] at h ⊢
        split at h
        · next s1 hdel =>
            have hc := deleteNodeConfig_ok (o := nc) (s := s) (by rw [hdel])
            rw [hdel] at hc
            rw [ih h, show s1.cluster = _ from hc]
            simp [removedOld, hd]
        · cases h

theorem updateOrCreateNodeConfig_ok {t : SriovFecNodeConfig}
    (h : (updateOrCreateNodeConfig t s).1 = .ok ()) :
    (updateOrCreateNodeConfig t s).2.cluster =
      { s.cluster with nodeConfigs := upserted s.cluster.nodeConfigs t } := by
  unfold updateOrCreateNodeConfig at h ⊢
  have hs := getNodeConfig_cluster (k := Object.key t) (s := s)
  split at h
  · next prev s1 hget =>
      have hg := getNodeConfig_ok (by rw [hget])
      rw [hget] at hs
      rw [updateNodeConfig_ok h, show s1.cluster = s.cluster from hs, upserted_of_get?_some hg]
  · next e s1 hget =>
      rw [hget] at hs
      by_cases he : e = .notFound
      · simp only [he, ↓reduceIte] at h ⊢
        obtain ⟨hk, hc⟩ := createNodeConfig_ok h
        simp only [show s1.cluster = s.cluster from hs] at hk hc ⊢
        rw [hc, upserted_of_get?_none hk]
      · simp [he] at h

theorem updateOrCreateNodeConfigs_ok (h : (updateOrCreateNodeConfigs T s).1 = .ok ()) :
    (updateOrCreateNodeConfigs T s).2.cluster =
      { s.cluster with nodeConfigs := T.foldl upserted s.cluster.nodeConfigs } := by
  induction T generalizing s with
  | nil => rfl
  | cons t rest ih =>
      simp only [updateOrCreateNodeConfigs] at h ⊢
      split at h
      · next s1 hup =>
          have hc := updateOrCreateNodeConfig_ok (t := t) (s := s) (by rw [hup])
          rw [hup] at hc
          rw [ih h, show s1.cluster = _ from hc]
          rfl
      · cases h

theorem removeOldNodeConfigs_ok (h : (removeOldNodeConfigs T s).1 = .ok ()) :
    ((listNodeConfigs s).1 = .ok s.cluster.nodeConfigs.items ∧
      (removeOldNodeConfigs T s).2.cluster =
        { s.cluster with nodeConfigs := removedOld T s.cluster.nodeConfigs.items s.cluster.nodeConfigs }) ∨
    ((listNodeConfigs s).1 = .error .notFound ∧ (removeOldNodeConfigs T s).2.cluster = s.cluster) := by
  unfold removeOldNodeConfigs at h ⊢
  have hs := listNodeConfigs_cluster (s := s)
  split at h
  · next items s1 hlist =>
      have hi := listNodeConfigs_ok (by rw [hlist])
      rw [hlist] at hs
      left
      rw [hlist, deleteOldNodeConfigs_ok h, show s1.cluster = s.cluster from hs, hi]
      exact ⟨rfl, rfl⟩
  · next e s1 hlist =>
      rw [hlist] at hs
      split at h
      · next he =>
          subst he
          right
          exact ⟨by rw [hlist], hs⟩
      · cases h

/-- A successful sync deletes from what the list returned, then updates or creates every
rendered node config in order. -/
theorem syncNodeConfigs_ok (h : (syncNodeConfigs T s).1 = .ok ()) :
    ∃ items, ((listNodeConfigs s).1 = .ok items ∨ ((listNodeConfigs s).1 = .error .notFound ∧ items = [])) ∧
      items ⊆ s.cluster.nodeConfigs.items ∧
      (syncNodeConfigs T s).2.cluster =
        { s.cluster with nodeConfigs := T.foldl upserted (removedOld T items s.cluster.nodeConfigs) } := by
  unfold syncNodeConfigs at h ⊢
  split at h
  · next s1 hrem =>
      have hr := removeOldNodeConfigs_ok (T := T) (s := s) (by rw [hrem])
      rw [hrem] at hr
      rw [updateOrCreateNodeConfigs_ok h]
      rcases hr with ⟨hl, hc⟩ | ⟨hl, hc⟩
      · exact ⟨_, .inl hl, List.Subset.refl _, by rw [show s1.cluster = _ from hc]⟩
      · exact ⟨[], .inr ⟨hl, rfl⟩, List.nil_subset _, by rw [show s1.cluster = _ from hc]; rfl⟩
  · cases h

end Runs

end SriovFec.Controller
