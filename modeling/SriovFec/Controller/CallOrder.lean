import SriovFec.Controller.Pass
import Mathlib.Data.List.Chain

/-!
# The order of the calls of a pass

The calls a pass makes, whatever the control plane fails, keep this order:
- the writes of node configs are deletes, then creates and updates, and a status write
  comes last if there is one;
- each delete is of a listed node config that no rendered one names;
- the creates and updates write the keys of the rendered node configs in order, each right
  after a get of its key: a create after a `NotFound`, an update after a success, and every
  such get is answered so;
- no node config is written after a call that ends the sync;
- the status is written once, unless the get of the cluster config failed.

A list or get of node configs that reports `NotFound` does not end the sync: the code reads
the first as an empty list and answers the second with a create.

## Implementation notes

`Pairwise MayFollow` states the first and fourth points for every two calls of a pass, one
after the other. `Chain' WriteAfterGet` and `Answered` state the pairing of gets and writes
for every two neighbouring calls. All are proved on the grammar of `Trace` and then joined
over a pass.
-/

namespace SriovFec.Controller

open SriovFec.Api.V1

/-- A create or an update of a node config. -/
def Call.isUpsert : Call → Bool
  | .createNodeConfig _ | .updateNodeConfig _ => true
  | _ => false

/-- A delete of a node config. -/
def Call.isDelete : Call → Bool
  | .deleteNodeConfig _ => true
  | _ => false

/-- A call of the sync whose error ends the sync: a failed write, or a failed list or get
other than a `NotFound`. -/
def Record.endsSync : Record → Bool
  | ⟨.listNodeConfigs, some e⟩ => e != .notFound
  | ⟨.getNodeConfig _, some e⟩ => e != .notFound
  | ⟨.createNodeConfig _, some _⟩ | ⟨.updateNodeConfig _, some _⟩ | ⟨.deleteNodeConfig _, some _⟩ => true
  | _ => false

/-- What may come after `x` among the calls of a pass: nothing after a status write, no
delete after a create or an update, and no node-config write after a call that ends the
sync. -/
def MayFollow (x y : Record) : Prop :=
  x.call.isStatusWrite = false ∧ (x.call.isUpsert → y.call.isDelete = false) ∧
    (x.endsSync → y.call.isNodeConfigWrite = false)

/-- A create of `nc` comes right after a get of its key that reported `NotFound`, and an
update right after a get of its key that succeeded. -/
def WriteAfterGet (x y : Record) : Prop :=
  (∀ nc, y.call = .createNodeConfig nc → x = ⟨.getNodeConfig (Object.key nc), some .notFound⟩) ∧
    ∀ nc, y.call = .updateNodeConfig nc → x = ⟨.getNodeConfig (Object.key nc), none⟩

/-- A record a write must answer: a get of a node config that found it or reported
`NotFound`. -/
def Record.awaitsWrite : Record → Bool
  | ⟨.getNodeConfig _, none⟩ | ⟨.getNodeConfig _, some .notFound⟩ => true
  | _ => false

/-- A get of a node config that reported `NotFound` is followed by a create of its key, and
one that found it by an update of its key. -/
def GetAnswered (x y : Record) : Prop :=
  (∀ k, x = ⟨.getNodeConfig k, some .notFound⟩ →
      ∃ nc, y.call = .createNodeConfig nc ∧ Object.key nc = k) ∧
    ∀ k, x = ⟨.getNodeConfig k, none⟩ → ∃ nc, y.call = .updateNodeConfig nc ∧ Object.key nc = k

/-- Every record of `calls` a write must answer is answered right after it. -/
def Answered (calls : List Record) : Prop :=
  calls.Chain' GetAnswered ∧ ∀ x ∈ calls.getLast?, x.awaitsWrite = false

/-- The key a create or an update writes. -/
def Call.upsertKey? : Call → Option NamespacedName
  | .createNodeConfig nc | .updateNodeConfig nc => some (Object.key nc)
  | _ => none

/-- The keys the creates and updates among `calls` write, in order. -/
def upsertKeys (calls : List Record) : List NamespacedName :=
  calls.filterMap fun x => x.call.upsertKey?

/-- The order the calls of a pass on `req` from `cluster` keep. -/
structure CallOrder (req : NamespacedName) (cluster : Cluster) (calls : List Record) : Prop where
  mayFollow : calls.Pairwise MayFollow
  writeAfterGet : calls.Chain' WriteAfterGet
  answered : Answered calls
  first_get : ∀ x ∈ calls.head?, x.call = .getClusterConfig req
  write_rendered : ∀ x ∈ calls, x.call.isNodeConfigWrite →
    ∃ cfg T, cluster.clusterConfigs.get? req = some cfg ∧
      renderNodeConfigs cfg (cluster.nodes.filter (matchesLabels labelsToMatch)) = some T
  deletes : ∀ cfg T, cluster.clusterConfigs.get? req = some cfg →
    renderNodeConfigs cfg (cluster.nodes.filter (matchesLabels labelsToMatch)) = some T →
    ∀ x ∈ calls, ∀ nc, x.call = .deleteNodeConfig nc →
      nc ∈ cluster.nodeConfigs.items ∧ nc.name ∉ T.map (·.name)
  upserts : ∀ cfg T, cluster.clusterConfigs.get? req = some cfg →
    renderNodeConfigs cfg (cluster.nodes.filter (matchesLabels labelsToMatch)) = some T →
    upsertKeys calls <+: T.map (fun t => ⟨"default", t.name⟩) ∧
      (writtenStatus calls = some "NodeConfigsCreated" →
        upsertKeys calls = T.map fun t => ⟨"default", t.name⟩)
  no_status_of_get_failed : ∀ e, ⟨.getClusterConfig req, some e⟩ ∈ calls →
    calls.countP (·.call.isStatusWrite) = 0
  one_status_of_get : ⟨.getClusterConfig req, none⟩ ∈ calls →
    calls.countP (·.call.isStatusWrite) = 1

section Records

variable {x y : Record} {l l' : List Record}

theorem writeAfterGet_of_not_upsert (h : y.call.isUpsert = false) : WriteAfterGet x y :=
  ⟨fun nc hc => by simp [hc, Call.isUpsert] at h, fun nc hc => by simp [hc, Call.isUpsert] at h⟩

theorem chain_writeAfterGet_append (h : l.Chain' WriteAfterGet) (h' : l'.Chain' WriteAfterGet)
    (hh : ∀ y ∈ l'.head?, y.call.isUpsert = false) : (l ++ l').Chain' WriteAfterGet :=
  List.chain'_append.2 ⟨h, h', fun _ _ y hy => writeAfterGet_of_not_upsert (hh y hy)⟩

theorem chain_writeAfterGet_of_not_upsert (h : ∀ y ∈ l, y.call.isUpsert = false) :
    l.Chain' WriteAfterGet :=
  (List.pairwise_of_forall_mem_list fun _ _ y hy => writeAfterGet_of_not_upsert (h y hy)).chain'

theorem Record.endsSync_of_not_sync (h : x.call.isSyncCall = false) (hl : x.call ≠ .listNodeConfigs) :
    x.endsSync = false := by
  obtain ⟨c, e⟩ := x
  cases c <;> cases e <;> simp_all [Record.endsSync, Call.isSyncCall]

/-- A call that is no write and cannot end the sync may come before any call. -/
theorem mayFollow_of_read (h1 : x.call.isStatusWrite = false) (h2 : x.call.isUpsert = false)
    (h3 : x.endsSync = false) : MayFollow x y :=
  ⟨h1, fun h => absurd h (by simp [h2]), fun h => absurd h (by simp [h3])⟩

theorem getAnswered_of_not_awaits (h : x.awaitsWrite = false) : GetAnswered x y :=
  ⟨fun _ hx => (by subst hx; cases h), fun _ hx => (by subst hx; cases h)⟩

theorem Record.awaitsWrite_of_call (h : ∀ k, x.call ≠ .getNodeConfig k) : x.awaitsWrite = false := by
  obtain ⟨c, e⟩ := x
  cases c <;> simp_all [Record.awaitsWrite]

theorem Answered.append (h : Answered l) (h' : Answered l') : Answered (l ++ l') := by
  refine ⟨List.chain'_append.2 ⟨h.1, h'.1, fun x hx _ _ => getAnswered_of_not_awaits (h.2 x hx)⟩,
    fun x hx => ?_⟩
  rw [List.getLast?_append] at hx
  cases hl' : l'.getLast? with
  | none => rw [hl', Option.none_or] at hx; exact h.2 x hx
  | some z => rw [hl'] at hx; exact h'.2 x (by rw [hl']; exact hx)

theorem Answered.of_forall (h : ∀ x ∈ l, x.awaitsWrite = false) : Answered l :=
  ⟨(List.pairwise_of_forall_mem_list fun x hx _ _ => getAnswered_of_not_awaits (h x hx)).chain',
    fun x hx => h x (List.mem_of_getLast?_eq_some hx)⟩

theorem upsertKeys_append : upsertKeys (l ++ l') = upsertKeys l ++ upsertKeys l' :=
  List.filterMap_append _ _ _

theorem upsertKeys_of_not_upsert (h : ∀ y ∈ l, y.call.isUpsert = false) : upsertKeys l = [] := by
  refine List.filterMap_eq_nil_iff.2 fun y hy => ?_
  have := h y hy
  cases hc : y.call <;> simp_all [Call.isUpsert, Call.upsertKey?]

end Records

section Grammar

variable {T items dels : List SriovFecNodeConfig} {t : SriovFecNodeConfig} {b ups new : List Record}
  {rd rb r : Except ApiError Unit}

theorem DeletesFrom.deletes {dels : List Record} (h : DeletesFrom T items dels rd) :
    ∀ x ∈ dels, ∃ nc ∈ items, x.call = .deleteNodeConfig nc ∧ deleteNC T nc := by
  induction items generalizing dels with
  | nil =>
      obtain ⟨rfl, -⟩ := h
      simp
  | cons nc rest ih =>
      have tail : ∀ {d : List Record}, DeletesFrom T rest d rd →
          ∀ x ∈ d, ∃ nc' ∈ nc :: rest, x.call = .deleteNodeConfig nc' ∧ deleteNC T nc' :=
        fun h' x hx => (ih h' x hx).imp fun _ ⟨hm, hc⟩ => ⟨.tail _ hm, hc⟩
      simp only [DeletesFrom] at h
      split_ifs at h with hd
      · rcases h with ⟨e, rfl, -⟩ | ⟨new', rfl, h'⟩
        · exact fun x hx => by rw [List.mem_singleton.1 hx]; exact ⟨nc, .head _, rfl, hd⟩
        · exact List.forall_mem_cons.2 ⟨⟨nc, .head _, rfl, hd⟩, tail h'⟩
      · exact tail h

theorem DeletesFrom.isDelete {dels : List Record} (h : DeletesFrom T items dels rd) :
    ∀ x ∈ dels, x.call.isDelete := fun x hx => by
  obtain ⟨nc, -, hc, -⟩ := h.deletes x hx
  simp [hc, Call.isDelete]

theorem DeletesFrom.no_upsert {dels : List Record} (h : DeletesFrom T items dels rd) :
    ∀ x ∈ dels, x.call.isUpsert = false := fun x hx => by
  obtain ⟨nc, -, hc, -⟩ := h.deletes x hx
  simp [hc, Call.isUpsert]

theorem DeletesFrom.endsSync_of_ok {dels : List Record} (h : DeletesFrom T items dels rd)
    (hr : rd = .ok ()) : ∀ x ∈ dels, x.endsSync = false := by
  induction items generalizing dels with
  | nil =>
      obtain ⟨rfl, -⟩ := h
      simp
  | cons nc rest ih =>
      simp only [DeletesFrom] at h
      split_ifs at h
      · rcases h with ⟨e, -, rfl⟩ | ⟨new', rfl, h'⟩
        · cases hr
        · exact List.forall_mem_cons.2 ⟨rfl, ih h'⟩
      · exact ih h

theorem DeletesFrom.pairwise {dels : List Record} (h : DeletesFrom T items dels rd) :
    dels.Pairwise MayFollow := by
  induction items generalizing dels with
  | nil =>
      obtain ⟨rfl, -⟩ := h
      simp
  | cons nc rest ih =>
      simp only [DeletesFrom] at h
      split_ifs at h
      · rcases h with ⟨e, rfl, -⟩ | ⟨new', rfl, h'⟩
        · exact List.pairwise_singleton _ _
        · exact List.pairwise_cons.2 ⟨fun _ _ => mayFollow_of_read rfl rfl rfl, ih h'⟩
      · exact ih h

theorem DeletesFrom.answered {dels : List Record} (h : DeletesFrom T items dels rd) : Answered dels :=
  .of_forall fun x hx => Record.awaitsWrite_of_call fun k hk => by
    obtain ⟨nc, -, hc, -⟩ := h.deletes x hx
    rw [hc] at hk
    cases hk

theorem UpsertCalls.answered (h : UpsertCalls t b rb) : Answered b := by
  cases h with
  | getFailed e he =>
      exact .of_forall fun x hx => by
        rw [List.mem_singleton.1 hx]
        cases e <;> simp_all [Record.awaitsWrite]
  | created r' => exact ⟨by simp [List.chain'_cons, GetAnswered], by simp [Record.awaitsWrite]⟩
  | updated prev hk r' => exact ⟨by simp [List.chain'_cons, GetAnswered, hk], by simp [Record.awaitsWrite]⟩

theorem UpsertCalls.ne_nil (h : UpsertCalls t b rb) : b ≠ [] := by
  cases h <;> simp

theorem UpsertCalls.no_delete (h : UpsertCalls t b rb) : ∀ x ∈ b, x.call.isDelete = false := by
  cases h <;> simp [Call.isDelete]

theorem UpsertCalls.head_not_upsert (h : UpsertCalls t b rb) :
    ∀ x ∈ b.head?, x.call.isUpsert = false := by
  cases h <;> simp [Call.isUpsert]

theorem UpsertCalls.endsSync_of_ok (h : UpsertCalls t b rb) (hr : rb = .ok ()) :
    ∀ x ∈ b, x.endsSync = false := by
  cases h with
  | getFailed e he => cases hr
  | created r' =>
      cases r' with
      | none => simp [Record.endsSync]
      | some e => cases hr
  | updated prev hk r' =>
      cases r' with
      | none => simp [Record.endsSync]
      | some e => cases hr

theorem UpsertCalls.pairwise (h : UpsertCalls t b rb) : b.Pairwise MayFollow := by
  cases h <;> simp [MayFollow, Record.endsSync, Call.isStatusWrite, Call.isUpsert]

theorem UpsertCalls.chain (h : UpsertCalls t b rb) : b.Chain' WriteAfterGet := by
  cases h with
  | getFailed e he => exact List.chain'_singleton _
  | created r' => simp [List.chain'_cons, WriteAfterGet]
  | updated prev hk r' => simp [List.chain'_cons, WriteAfterGet, hk]

theorem UpsertCalls.upsertKeys (h : UpsertCalls t b rb) :
    upsertKeys b <+: [Object.key t] ∧ (rb = .ok () → upsertKeys b = [Object.key t]) := by
  cases h with
  | getFailed e he => exact ⟨List.nil_prefix, fun h => by cases h⟩
  | created r' => simp [upsertKeys, Call.upsertKey?]
  | updated prev hk r' => simp [upsertKeys, Call.upsertKey?, hk]

theorem UpsertsFrom.no_delete (h : UpsertsFrom T ups r) : ∀ x ∈ ups, x.call.isDelete = false := by
  induction T generalizing ups with
  | nil =>
      obtain ⟨rfl, -⟩ := h
      simp
  | cons t rest ih =>
      obtain ⟨b, rb, hb, ⟨e, -, rfl, -⟩ | ⟨-, new', rfl, h'⟩⟩ := h
      · exact hb.no_delete
      · exact fun x hx => (List.mem_append.1 hx).elim (hb.no_delete x) (ih h' x)

theorem UpsertsFrom.pairwise (h : UpsertsFrom T ups r) : ups.Pairwise MayFollow := by
  induction T generalizing ups with
  | nil =>
      obtain ⟨rfl, -⟩ := h
      simp
  | cons t rest ih =>
      obtain ⟨b, rb, hb, ⟨e, -, rfl, -⟩ | ⟨hrb, new', rfl, h'⟩⟩ := h
      · exact hb.pairwise
      · refine List.pairwise_append.2 ⟨hb.pairwise, ih h', fun x hx y hy => ?_⟩
        exact ⟨isStatusWrite_of_isSyncCall (hb.isSyncCall x hx), fun _ => h'.no_delete y hy,
          fun hx' => absurd hx' (by simp [hb.endsSync_of_ok hrb x hx])⟩

theorem UpsertsFrom.chain (h : UpsertsFrom T ups r) :
    ups.Chain' WriteAfterGet ∧ ∀ y ∈ ups.head?, y.call.isUpsert = false := by
  induction T generalizing ups with
  | nil =>
      obtain ⟨rfl, -⟩ := h
      simp
  | cons t rest ih =>
      obtain ⟨b, rb, hb, ⟨e, -, rfl, -⟩ | ⟨-, new', rfl, h'⟩⟩ := h
      · exact ⟨hb.chain, hb.head_not_upsert⟩
      · rw [List.head?_append_of_ne_nil _ hb.ne_nil]
        exact ⟨chain_writeAfterGet_append hb.chain (ih h').1 (ih h').2, hb.head_not_upsert⟩

theorem UpsertsFrom.upsertKeys (h : UpsertsFrom T ups r) :
    upsertKeys ups <+: T.map Object.key ∧ (r = .ok () → upsertKeys ups = T.map Object.key) := by
  induction T generalizing ups with
  | nil =>
      obtain ⟨rfl, -⟩ := h
      simp [SriovFec.Controller.upsertKeys]
  | cons t rest ih =>
      obtain ⟨b, rb, hb, ⟨e, rfl, rfl, rfl⟩ | ⟨hrb, new', rfl, h'⟩⟩ := h
      · exact ⟨hb.upsertKeys.1.trans (List.prefix_append _ _), fun h => by cases h⟩
      · rw [upsertKeys_append, hb.upsertKeys.2 hrb, List.map_cons, ← List.singleton_append]
        exact ⟨(List.prefix_append_right_inj _).2 (ih h').1, fun hr => by simp [(ih h').2 hr]⟩

theorem UpsertsFrom.answered (h : UpsertsFrom T ups r) : Answered ups := by
  induction T generalizing ups with
  | nil =>
      obtain ⟨rfl, -⟩ := h
      exact .of_forall (by simp)
  | cons t rest ih =>
      obtain ⟨b, rb, hb, ⟨e, -, rfl, -⟩ | ⟨-, new', rfl, h'⟩⟩ := h
      · exact hb.answered
      · exact hb.answered.append (ih h')

variable {L : Except ApiError (List SriovFecNodeConfig)}

theorem SyncCalls.answered (h : SyncCalls T L new r) : Answered new := by
  rcases h with ⟨e, -, -, rfl, -⟩ | ⟨items, dels, rd, ups, -, hd, rfl, ⟨e, -, rfl, -⟩ | ⟨-, hu⟩⟩
  · exact .of_forall (by simp)
  · simpa using hd.answered
  · exact hd.answered.append hu.answered

theorem SyncCalls.pairwise (h : SyncCalls T L new r) : new.Pairwise MayFollow := by
  rcases h with ⟨e, -, -, rfl, -⟩ | ⟨items, dels, rd, ups, -, hd, rfl, ⟨e, -, rfl, -⟩ | ⟨hrd, hu⟩⟩
  · exact List.Pairwise.nil
  · simpa using hd.pairwise
  · refine List.pairwise_append.2 ⟨hd.pairwise, hu.pairwise, fun x hx y hy => ?_⟩
    exact ⟨isStatusWrite_of_isSyncCall (hd.isSyncCall x hx), fun h => by simp [hd.no_upsert x hx] at h,
      fun h => by simp [hd.endsSync_of_ok hrd x hx] at h⟩

theorem head_not_upsert_append {l l' : List Record} (h : ∀ y ∈ l.head?, y.call.isUpsert = false)
    (h' : ∀ y ∈ l'.head?, y.call.isUpsert = false) : ∀ y ∈ (l ++ l').head?, y.call.isUpsert = false := by
  cases l with
  | nil => exact h'
  | cons x rest => simpa using h

theorem SyncCalls.chain (h : SyncCalls T L new r) :
    new.Chain' WriteAfterGet ∧ ∀ y ∈ new.head?, y.call.isUpsert = false := by
  rcases h with ⟨e, -, -, rfl, -⟩ | ⟨items, dels, rd, ups, -, hd, rfl, hu⟩
  · simp
  · have hups : ups.Chain' WriteAfterGet ∧ ∀ y ∈ ups.head?, y.call.isUpsert = false := by
      rcases hu with ⟨e, -, rfl, -⟩ | ⟨-, hu⟩
      · simp
      · exact hu.chain
    exact ⟨chain_writeAfterGet_append (chain_writeAfterGet_of_not_upsert hd.no_upsert) hups.1 hups.2,
      head_not_upsert_append (fun y hy => hd.no_upsert y (List.mem_of_mem_head? hy)) hups.2⟩

theorem SyncCalls.upsertKeys (h : SyncCalls T L new r) :
    upsertKeys new <+: T.map Object.key ∧ (r = .ok () → upsertKeys new = T.map Object.key) := by
  rcases h with ⟨e, -, -, rfl, rfl⟩ | ⟨items, dels, rd, ups, -, hd, rfl, hu⟩
  · exact ⟨List.nil_prefix, fun h => by cases h⟩
  · rw [upsertKeys_append, upsertKeys_of_not_upsert hd.no_upsert, List.nil_append]
    rcases hu with ⟨e, -, rfl, rfl⟩ | ⟨-, hu⟩
    · exact ⟨List.nil_prefix, fun h => by cases h⟩
    · exact hu.upsertKeys

/-- A sync deletes only node configs its list returned, and only those `deleteNC` picks. -/
theorem SyncCalls.deletes (h : SyncCalls T L new r) : ∀ x ∈ new, ∀ nc, x.call = .deleteNodeConfig nc →
    (∃ items, L = .ok items ∧ nc ∈ items) ∧ deleteNC T nc := by
  rcases h with ⟨e, -, -, rfl, -⟩ | ⟨items, dels, rd, ups, hL, hd, rfl, hu⟩
  · simp
  · intro x hx nc hc
    have hups : ∀ y ∈ ups, y.call.isDelete = false := by
      rcases hu with ⟨e, -, rfl, -⟩ | ⟨-, hu⟩
      · simp
      · exact hu.no_delete
    rcases List.mem_append.1 hx with hx | hx
    · obtain ⟨nc', hm, hc', hdel⟩ := hd.deletes x hx
      rw [hc, Call.deleteNodeConfig.injEq] at hc'
      subst hc'
      rcases hL with hL | ⟨-, rfl⟩
      · exact ⟨⟨items, hL, hm⟩, hdel⟩
      · cases hm
    · simpa [hc, Call.isDelete] using hups x hx

theorem SyncCalls.list_ends (h : SyncCalls T L new r)
    (he : (⟨.listNodeConfigs, errorOf L⟩ : Record).endsSync) : new = [] := by
  rcases h with ⟨e, -, -, rfl, -⟩ | ⟨items, dels, rd, ups, hL, -, -, -⟩
  · rfl
  · rcases hL with hL | ⟨hL, -⟩ <;> simp [hL, Record.endsSync] at he

/-- From the list of a sync to the status write after it, the calls keep their order. -/
theorem syncTail_order (h : SyncCalls T L new r) {st : Record} (hst : st.call.isStatusWrite) :
    (⟨.listNodeConfigs, errorOf L⟩ :: (new ++ [st])).Pairwise MayFollow ∧
      (⟨.listNodeConfigs, errorOf L⟩ :: (new ++ [st])).Chain' WriteAfterGet := by
  have hst' : st.call.isUpsert = false ∧ st.call.isNodeConfigWrite = false ∧ st.call.isDelete = false := by
    cases hc : st.call <;> simp_all [Call.isStatusWrite, Call.isUpsert, Call.isNodeConfigWrite, Call.isDelete]
  refine ⟨List.pairwise_cons.2 ⟨fun y hy => ⟨rfl, fun h => by simp [Call.isUpsert] at h, fun he => ?_⟩,
    List.pairwise_append.2 ⟨h.pairwise, List.pairwise_singleton _ _, fun x hx y hy => ?_⟩⟩,
    List.chain'_cons'.2 ⟨fun y hy => writeAfterGet_of_not_upsert ?_,
      chain_writeAfterGet_append h.chain.1 (List.chain'_singleton _) (by simp [hst'.1])⟩⟩
  · rw [h.list_ends he, List.nil_append, List.mem_singleton] at hy
    rw [hy]
    exact hst'.2.1
  · rw [List.mem_singleton.1 hy]
    exact ⟨isStatusWrite_of_isSyncCall (h.isSyncCall x hx), fun _ => hst'.2.2, fun _ => hst'.2.1⟩
  · exact head_not_upsert_append h.chain.2 (by simp [hst'.1]) y hy

end Grammar

section Pass

variable (NAMESPACE : String) (req : NamespacedName) (cluster : Cluster)
  (faults : Nat → Option ApiError)

/-- The order of the calls of a pass whose sync of `T` ran and returned `r`. -/
theorem order_of_sync_pass (status reason : String) {cfg : SriovFecClusterConfig} {s1 s2 s3 : ClientState}
    {nodeList : List Node} {T : List SriovFecNodeConfig} {r : Except ApiError Unit}
    (hget : getClusterConfig req ⟨cluster, faults, []⟩ = (.ok cfg, s1))
    (hnodes : getNodesWithIntelAccelerator s1 = (.ok nodeList, s2))
    (hsync : syncNodeConfigs T s2 = (r, s3)) :
    (updateStatus cfg status reason s3).calls.Pairwise MayFollow ∧
      (updateStatus cfg status reason s3).calls.Chain' WriteAfterGet ∧
      Answered (updateStatus cfg status reason s3).calls ∧
      (∀ x ∈ (updateStatus cfg status reason s3).calls.head?, x.call = .getClusterConfig req) ∧
      (∀ x ∈ (updateStatus cfg status reason s3).calls, ∀ nc, x.call = .deleteNodeConfig nc →
        nc ∈ cluster.nodeConfigs.items ∧ deleteNC T nc) ∧
      upsertKeys (updateStatus cfg status reason s3).calls <+: T.map Object.key ∧
      (r = .ok () → upsertKeys (updateStatus cfg status reason s3).calls = T.map Object.key) ∧
      (∀ e, ⟨.getClusterConfig req, some e⟩ ∉ (updateStatus cfg status reason s3).calls) ∧
      (updateStatus cfg status reason s3).calls.countP (·.call.isStatusWrite) = 1 ∧
      writtenStatus (updateStatus cfg status reason s3).calls = some status := by
  obtain ⟨hc1, hcl1⟩ := calls_of_getClusterConfig hget
  obtain ⟨hc2, hcl2⟩ := calls_of_getNodesWithIntelAccelerator hnodes
  obtain ⟨new, hc3, hnew⟩ := calls_of_syncNodeConfigs hsync
  have hws : writtenStatus (updateStatus cfg status reason s3).calls = some status :=
    writtenStatus_updateStatus (noStatus_before_sync _ _ _ hget hnodes hsync)
  have hcalls : (updateStatus cfg status reason s3).calls =
      ⟨.getClusterConfig req, none⟩ :: ⟨.listNodes labelsToMatch, none⟩ ::
        ⟨.listNodeConfigs, errorOf (listNodeConfigs s2).1⟩ :: (new ++
          [⟨.updateClusterConfigStatus { cfg with status := ⟨status, reason⟩ },
            errorOf (updateClusterConfigStatus { cfg with status := ⟨status, reason⟩ } s3).1⟩]) := by
    simp [hc3, hc2, hc1]
  have hcount : new.countP (fun x => x.call.isStatusWrite) = 0 :=
    List.countP_eq_zero.2 fun x hx => by simp [isStatusWrite_of_isSyncCall (hnew.isSyncCall x hx)]
  rw [hcalls] at hws ⊢
  refine ⟨List.pairwise_cons.2 ⟨fun _ _ => mayFollow_of_read rfl rfl rfl,
      List.pairwise_cons.2 ⟨fun _ _ => mayFollow_of_read rfl rfl rfl, (syncTail_order hnew (by rfl)).1⟩⟩,
    List.chain'_cons.2 ⟨writeAfterGet_of_not_upsert rfl,
      List.chain'_cons.2 ⟨writeAfterGet_of_not_upsert rfl, (syncTail_order hnew (by rfl)).2⟩⟩,
    (Answered.of_forall (l := [_, _, _]) (by simp [Record.awaitsWrite])).append
      (hnew.answered.append (.of_forall (by simp [Record.awaitsWrite]))),
    by simp, fun x hx nc hc => ?_, by simpa [upsertKeys, Call.upsertKey?] using hnew.upsertKeys.1,
    fun hr => by simpa [upsertKeys, Call.upsertKey?] using hnew.upsertKeys.2 hr, fun e he => ?_,
    by simp only [List.countP_cons, List.countP_append, hcount]; rfl, hws⟩
  · simp only [List.mem_cons, List.mem_append, List.mem_singleton, List.not_mem_nil, or_false] at hx
    rcases hx with rfl | rfl | rfl | hx | rfl
    · cases hc
    · cases hc
    · cases hc
    · obtain ⟨⟨items, hL, hm⟩, hd⟩ := hnew.deletes x hx nc hc
      rw [listNodeConfigs_ok hL, hcl2, hcl1] at hm
      exact ⟨hm, hd⟩
    · cases hc
  · simp only [List.mem_cons, List.mem_append, List.mem_singleton, Record.mk.injEq, reduceCtorEq,
      and_false, false_and, false_or, or_false, List.not_mem_nil] at he
    exact absurd (hnew.isSyncCall _ he) (by simp [Call.isSyncCall])

/-- A pass that stops before its sync gets the config, maybe lists the nodes, and writes the
status. -/
theorem callOrder_of_reads {mid : List Record} {st : Record}
    (hmid : ∀ x ∈ mid, x.call = .listNodes labelsToMatch) (hst : st.call.isStatusWrite)
    (hws : writtenStatus (⟨.getClusterConfig req, none⟩ :: (mid ++ [st])) ≠ some "NodeConfigsCreated") :
    CallOrder req cluster (⟨.getClusterConfig req, none⟩ :: (mid ++ [st])) := by
  have hst' : st.call.isUpsert = false ∧ st.call.isNodeConfigWrite = false ∧ st.endsSync = false := by
    obtain ⟨c, err⟩ := st
    cases c <;> cases err <;> simp_all [Call.isStatusWrite, Call.isUpsert, Call.isNodeConfigWrite,
      Record.endsSync]
  have hread : ∀ x ∈ (⟨.getClusterConfig req, none⟩ :: (mid ++ [st]) : List Record),
      x.call.isUpsert = false ∧ x.call.isNodeConfigWrite = false := by
    simp only [List.mem_cons, List.mem_append, List.mem_singleton, List.not_mem_nil, or_false]
    rintro x (rfl | hx | rfl)
    · exact ⟨rfl, rfl⟩
    · simp [hmid x hx, Call.isUpsert, Call.isNodeConfigWrite]
    · exact ⟨hst'.1, hst'.2.1⟩
  have hnomid : ∀ x ∈ mid, x.call.isStatusWrite = false := fun x hx => by
    simp [hmid x hx, Call.isStatusWrite]
  have hfollow : ∀ x ∈ mid, ∀ y, MayFollow x y := fun x hx _ =>
    mayFollow_of_read (hnomid x hx) (by simp [hmid x hx, Call.isUpsert])
      (Record.endsSync_of_not_sync (by simp [hmid x hx, Call.isSyncCall]) (by simp [hmid x hx]))
  refine ⟨List.pairwise_cons.2 ⟨fun _ _ => mayFollow_of_read rfl rfl rfl,
      List.pairwise_append.2 ⟨List.pairwise_of_forall_mem_list fun x hx y _ => hfollow x hx y,
        List.pairwise_singleton _ _, fun x hx y _ => hfollow x hx y⟩⟩,
    chain_writeAfterGet_of_not_upsert fun x hx => (hread x hx).1,
    .of_forall fun x hx => Record.awaitsWrite_of_call fun k hk => ?_, fun x hx => ?_,
    fun x hx hw => absurd hw (by simp [(hread x hx).2]), fun _ _ _ _ x hx nc hc => ?_,
    fun _ _ _ _ => ⟨by rw [upsertKeys_of_not_upsert fun x hx => (hread x hx).1]; exact List.nil_prefix,
      fun h => absurd h hws⟩, fun e he => ?_, fun _ => ?_⟩
  · simp only [List.mem_cons, List.mem_append, List.mem_singleton, List.not_mem_nil, or_false] at hx
    rcases hx with rfl | hx | rfl
    · cases hk
    · rw [hmid x hx] at hk
      cases hk
    · simp [hk, Call.isStatusWrite] at hst
  · simp only [List.head?_cons, Option.mem_def, Option.some.injEq] at hx
    rw [← hx]
  · have := (hread x hx).2
    simp [hc, Call.isNodeConfigWrite] at this
  · simp only [List.mem_cons, List.mem_append, List.mem_singleton, Record.mk.injEq, reduceCtorEq,
      and_false, false_or] at he
    rcases he with he | rfl | he
    · cases hmid _ he
    · simp [Call.isStatusWrite] at hst
    · cases he
  · have hmid0 : mid.countP (fun x => x.call.isStatusWrite) = 0 :=
      List.countP_eq_zero.2 fun x hx => by simp [hnomid x hx]
    simp only [List.countP_cons, List.countP_nil, List.countP_append, hst, hmid0]
    simp [Call.isStatusWrite]

theorem callOrder_after_reads (mid : List Record) {s : ClientState} {cfg : SriovFecClusterConfig}
    {status reason : String} (hs : s.calls = ⟨.getClusterConfig req, none⟩ :: mid)
    (hmid : ∀ x ∈ mid, x.call = .listNodes labelsToMatch) (hstatus : status ≠ "NodeConfigsCreated") :
    CallOrder req cluster (updateStatus cfg status reason s).calls := by
  have hws : writtenStatus (updateStatus cfg status reason s).calls = some status :=
    writtenStatus_updateStatus fun x hx => by
      rw [hs, List.mem_cons] at hx
      rcases hx with rfl | hx
      · rfl
      · simp [hmid x hx, Call.isStatusWrite]
  rw [updateStatus_calls, hs, List.cons_append] at hws ⊢
  exact callOrder_of_reads req cluster hmid rfl fun h => hstatus (Option.some.inj (hws.symm.trans h))

theorem callOrder_of_get_failed {e : ApiError} :
    CallOrder req cluster [⟨.getClusterConfig req, some e⟩] where
  mayFollow := List.pairwise_singleton _ _
  writeAfterGet := List.chain'_singleton _
  answered := .of_forall (by simp [Record.awaitsWrite])
  first_get := by simp
  write_rendered := by simp [Call.isNodeConfigWrite]
  deletes := by simp
  upserts _ _ _ _ := ⟨List.nil_prefix, fun h => by cases h⟩
  no_status_of_get_failed _ _ := rfl
  one_status_of_get h := by simp at h

/-- A pass whose sync of its rendering ran keeps `CallOrder`. -/
theorem callOrder_of_sync_pass (status reason : String) {cfg : SriovFecClusterConfig}
    {s1 s2 s3 : ClientState} {nodeList : List Node} {T : List SriovFecNodeConfig}
    {r : Except ApiError Unit}
    (hget : getClusterConfig req ⟨cluster, faults, []⟩ = (.ok cfg, s1))
    (hnodes : getNodesWithIntelAccelerator s1 = (.ok nodeList, s2))
    (hrender : renderNodeConfigs cfg nodeList = some T) (hsync : syncNodeConfigs T s2 = (r, s3))
    (hr : status = "NodeConfigsCreated" → r = .ok ()) :
    CallOrder req cluster (updateStatus cfg status reason s3).calls := by
  obtain ⟨hpw, hch, hans, hhead, hdel, hpre, heq, hnot, hcount, hws⟩ :=
    order_of_sync_pass req cluster faults status reason hget hnodes hsync
  have hcfg := get?_of_getClusterConfig hget
  rw [nodes_of_getNodesWithIntelAccelerator hnodes, (calls_of_getClusterConfig hget).2] at hrender
  have hkeys : T.map Object.key = T.map fun t => ⟨"default", t.name⟩ :=
    List.map_congr_left fun t ht => key_of_namespace_default (renderNodeConfigs_named hrender t ht).1
  have same : ∀ cfg' T', cluster.clusterConfigs.get? req = some cfg' →
      renderNodeConfigs cfg' (cluster.nodes.filter (matchesLabels labelsToMatch)) = some T' → T' = T :=
    fun cfg' T' h1 h2 => by
      obtain rfl := Option.some.inj (hcfg.symm.trans h1)
      exact Option.some.inj (h2.symm.trans hrender)
  exact {
    mayFollow := hpw
    writeAfterGet := hch
    answered := hans
    first_get := hhead
    write_rendered := fun _ _ _ => ⟨cfg, T, hcfg, hrender⟩
    deletes := fun cfg' T' h1 h2 x hx nc hc => by
      obtain rfl := same cfg' T' h1 h2
      obtain ⟨hm, hd⟩ := hdel x hx nc hc
      exact ⟨hm, fun hn => by simp [deleteNC_eq_false_iff.2 hn] at hd⟩
    upserts := fun cfg' T' h1 h2 => by
      obtain rfl := same cfg' T' h1 h2
      rw [← hkeys]
      exact ⟨hpre, fun h => heq (hr (Option.some.inj (hws.symm.trans h)))⟩
    no_status_of_get_failed := fun e he => absurd he (hnot e)
    one_status_of_get := fun _ => hcount }

/-- The calls of every pass keep `CallOrder`, whatever the control plane fails. -/
theorem pass_call_order : CallOrder req cluster (pass NAMESPACE req cluster faults).2.calls := by
  have hc := pass_cases NAMESPACE req cluster faults
  generalize pass NAMESPACE req cluster faults = run at hc ⊢
  cases hc with
  | getFailed e s1 hget =>
      rw [(calls_of_getClusterConfig hget).1]
      exact callOrder_of_get_failed req cluster
  | ignored cfg s1 hget hreq =>
      exact callOrder_after_reads req cluster [] (by simp [(calls_of_getClusterConfig hget).1])
        (by simp) (by decide)
  | invalid cfg s1 hget hreq reason hv =>
      exact callOrder_after_reads req cluster [] (by simp [(calls_of_getClusterConfig hget).1])
        (by simp) (by decide)
  | nfdFailure cfg s1 hget hreq hv e s2 hnodes =>
      exact callOrder_after_reads req cluster [⟨.listNodes labelsToMatch, some e⟩]
        (by simp [(calls_of_getNodesWithIntelAccelerator hnodes).1, (calls_of_getClusterConfig hget).1])
        (by simp) (by decide)
  | syncFailed cfg s1 hget hreq hv nodeList s2 hnodes T hrender e s3 hsync =>
      exact callOrder_of_sync_pass req cluster faults _ _ hget hnodes hrender hsync
        fun h => absurd h (by decide)
  | created cfg s1 hget hreq hv nodeList s2 hnodes T hrender s3 hsync =>
      exact callOrder_of_sync_pass req cluster faults _ _ hget hnodes hrender hsync fun _ => rfl

end Pass

/-- A list of node configs that fails with `NotFound` does not end the sync: the pass on
`staleCluster` creates the node config of `node1` after it. -/
theorem create_after_notFound_list :
    ((pass "ns" demoReq staleCluster listNotFound).2.calls.drop 2).take 3 =
      [⟨.listNodeConfigs, some .notFound⟩, ⟨.getNodeConfig ⟨"default", "node1"⟩, some .notFound⟩,
        ⟨.createNodeConfig (newNodeConfig "node1" false []), none⟩] := by
  decide

end SriovFec.Controller
