import SriovFec.Controller.Sync

/-!
# What a sync leaves alone

Whatever the control plane fails, a sync of `T` writes no cluster config and no node.
It writes a node config only under the key of an element of `T`, or under the key of a
listed node config whose name no element of `T` has. `SyncFrame T` says what is left, and
it never deletes a node config with a name of `T` (`KeepsWanted T`).

## Implementation notes

`KeptBySync T R` says that each write a sync can make keeps the relation `R`; the loops of
the sync are proved once for every such `R`, and each relation above is one instance.
-/

namespace SriovFec.Controller

open SriovFec.Api.V1

/-- A key a sync of `T` never writes: it has a name of `T`, but no element of `T` has it. -/
def Untouched (T : List SriovFecNodeConfig) (k : NamespacedName) : Prop :=
  k.name ∈ T.map (·.name) ∧ ∀ t ∈ T, Object.key t ≠ k

/-- `cl'` is `cl` up to the node configs a sync of `T` may write. -/
def SyncFrame (T : List SriovFecNodeConfig) (cl cl' : Cluster) : Prop :=
  cl'.clusterConfigs = cl.clusterConfigs ∧ cl'.nodes = cl.nodes ∧
    ∀ k, Untouched T k → cl'.nodeConfigs.get? k = cl.nodeConfigs.get? k

namespace SyncFrame

variable {T : List SriovFecNodeConfig} {cl cl1 cl2 : Cluster}

theorem refl (cl : Cluster) : SyncFrame T cl cl := ⟨rfl, rfl, fun _ _ => rfl⟩

theorem trans (h1 : SyncFrame T cl cl1) (h2 : SyncFrame T cl1 cl2) : SyncFrame T cl cl2 :=
  ⟨h2.1.trans h1.1, h2.2.1.trans h1.2.1, fun k hk => (h2.2.2 k hk).trans (h1.2.2 k hk)⟩

end SyncFrame

section Steps

variable {T : List SriovFecNodeConfig} {s : ClientState}

/-- A write whose usual effect changes the node configs under `k0` alone keeps the frame
of every sync that never writes `k0`. -/
theorem issue_write_syncFrame {c : Call}
    {w : Store SriovFecNodeConfig → Except ApiError (Store SriovFecNodeConfig)} (k0 : NamespacedName)
    (hw : ∀ st st', w st = .ok st' → ∀ k, k ≠ k0 → st'.get? k = st.get? k)
    (hk0 : ¬ Untouched T k0) : SyncFrame T s.cluster (issue c (writeNodeConfigs w) s).2.cluster := by
  cases hr : (issue c (writeNodeConfigs w) s).1 with
  | ok u =>
      obtain ⟨st, hst, hc⟩ := issue_write_ok hr
      rw [hc]
      exact ⟨rfl, rfl, fun k hk => hw _ _ hst k fun h => hk0 (h ▸ hk)⟩
  | error e =>
      rw [issue_write_error hr]
      exact .refl _

theorem deleteNodeConfig_syncFrame {nc : SriovFecNodeConfig} (hd : deleteNC T nc) :
    SyncFrame T s.cluster (deleteNodeConfig nc s).2.cluster :=
  issue_write_syncFrame (Object.key nc)
    (fun st st' h k hk => by rw [Store.delete_ok h, Store.get?_erase, if_neg (Ne.symm hk)])
    fun hu => by simp [(deleteNC_eq_false_iff (t := nc)).2 hu.1] at hd

theorem createNodeConfig_syncFrame {t : SriovFecNodeConfig} (ht : t ∈ T) :
    SyncFrame T s.cluster (createNodeConfig t s).2.cluster :=
  issue_write_syncFrame (Object.key t)
    (fun st st' h k hk => by
      obtain ⟨-, rfl⟩ := Store.create_ok h
      rw [Store.get?_add, if_neg (Ne.symm hk)])
    fun hu => hu.2 t ht rfl

theorem updateNodeConfig_syncFrame {o t : SriovFecNodeConfig} (ht : t ∈ T)
    (hk : Object.key o = Object.key t) : SyncFrame T s.cluster (updateNodeConfig o s).2.cluster :=
  issue_write_syncFrame (Object.key t)
    (fun st st' h k hk' => by rw [Store.update_ok h, Store.get?_replace, hk, if_neg (Ne.symm hk')])
    fun hu => hu.2 t ht rfl

end Steps

/-! ### What a sync never removes -/

/-- Every node config `cl` stores under a key with a name of `T` is still stored in `cl'`:
the daemon of a node that `T` wants never sees its node config deleted. -/
def KeepsWanted (T : List SriovFecNodeConfig) (cl cl' : Cluster) : Prop :=
  ∀ k, k.name ∈ T.map (·.name) → (cl.nodeConfigs.get? k).isSome → (cl'.nodeConfigs.get? k).isSome

namespace KeepsWanted

variable {T : List SriovFecNodeConfig} {cl cl1 cl2 : Cluster} {s : ClientState}

theorem refl (cl : Cluster) : KeepsWanted T cl cl := fun _ _ => id

theorem trans (h1 : KeepsWanted T cl cl1) (h2 : KeepsWanted T cl1 cl2) : KeepsWanted T cl cl2 :=
  fun k hk hp => h2 k hk (h1 k hk hp)

/-- A write whose usual effect keeps every node config under a key with a name of `T`
keeps `KeepsWanted T`. -/
theorem issue_write {c : Call} {w : Store SriovFecNodeConfig → Except ApiError (Store SriovFecNodeConfig)}
    (hw : ∀ st st', w st = .ok st' → ∀ k, k.name ∈ T.map (·.name) → (st.get? k).isSome → (st'.get? k).isSome) :
    KeepsWanted T s.cluster (issue c (writeNodeConfigs w) s).2.cluster := by
  cases hr : (issue c (writeNodeConfigs w) s).1 with
  | ok u =>
      obtain ⟨st, hst, hc⟩ := issue_write_ok hr
      rw [hc]
      exact hw _ _ hst
  | error e =>
      rw [issue_write_error hr]
      exact refl _

/-- `KeepsWanted T` reads the node configs alone. -/
theorem of_nodeConfigs_eq {cl1' : Cluster} (h : cl1'.nodeConfigs = cl1.nodeConfigs)
    (h1 : KeepsWanted T cl cl1) : KeepsWanted T cl cl1' := fun k hk hp => h ▸ h1 k hk hp

end KeepsWanted

/-- The node config under every key a sync of `T` never writes is as `cl` stores it. -/
def KeepsUntouched (T : List SriovFecNodeConfig) (cl cl' : Cluster) : Prop :=
  ∀ k, Untouched T k → cl'.nodeConfigs.get? k = cl.nodeConfigs.get? k

/-- `KeepsUntouched T` reads the node configs alone. -/
theorem KeepsUntouched.of_nodeConfigs_eq {T : List SriovFecNodeConfig} {cl cl1 cl1' : Cluster}
    (h : cl1'.nodeConfigs = cl1.nodeConfigs) (h1 : KeepsUntouched T cl cl1) : KeepsUntouched T cl cl1' :=
  fun k hk => h ▸ h1 k hk

/-! ### Every run of a sync -/

/-- A relation between control planes that each write a sync of `T` can make keeps:
a delete of a listed node config whose name no element of `T` has, and a create or an
update under the key of an element of `T`. Every run of the sync then keeps it. -/
structure KeptBySync (T : List SriovFecNodeConfig) (R : Cluster → Cluster → Prop) : Prop where
  refl : ∀ cl, R cl cl
  trans : ∀ {cl cl1 cl2}, R cl cl1 → R cl1 cl2 → R cl cl2
  delete : ∀ {s nc}, deleteNC T nc → R s.cluster (deleteNodeConfig nc s).2.cluster
  create : ∀ {s t}, t ∈ T → R s.cluster (createNodeConfig t s).2.cluster
  update : ∀ {s o t}, t ∈ T → Object.key o = Object.key t → R s.cluster (updateNodeConfig o s).2.cluster

namespace KeptBySync

variable {T : List SriovFecNodeConfig} {R : Cluster → Cluster → Prop} (hR : KeptBySync T R)
  {s : ClientState}
include hR

theorem deleteOldNodeConfigs (items : List SriovFecNodeConfig) :
    R s.cluster (deleteOldNodeConfigs T items s).2.cluster := by
  induction items generalizing s with
  | nil => exact hR.refl _
  | cons nc rest ih =>
      unfold SriovFec.Controller.deleteOldNodeConfigs
      split_ifs with hd
      · have h1 := hR.delete (s := s) hd
        split
        · next s1 hdel => rw [hdel] at h1; exact hR.trans h1 ih
        · next e s1 hdel => rw [hdel] at h1; exact h1
      · exact ih

theorem updateOrCreateNodeConfig {t : SriovFecNodeConfig} (ht : t ∈ T) :
    R s.cluster (updateOrCreateNodeConfig t s).2.cluster := by
  unfold SriovFec.Controller.updateOrCreateNodeConfig
  have hs := getNodeConfig_cluster (k := Object.key t) (s := s)
  split
  · next prev s1 hget =>
      have hk := Store.key_of_get? (getNodeConfig_ok (by rw [hget]))
      rw [hget] at hs
      rw [← show s1.cluster = s.cluster from hs]
      exact hR.update ht (by rw [key_with_spec, hk])
  · next e s1 hget =>
      rw [hget] at hs
      rw [← show s1.cluster = s.cluster from hs]
      split_ifs
      · exact hR.create ht
      · exact hR.refl _

theorem updateOrCreateNodeConfigs {T' : List SriovFecNodeConfig} (hT : ∀ t ∈ T', t ∈ T) :
    R s.cluster (updateOrCreateNodeConfigs T' s).2.cluster := by
  induction T' generalizing s with
  | nil => exact hR.refl _
  | cons t rest ih =>
      have h1 := hR.updateOrCreateNodeConfig (s := s) (hT t (.head _))
      unfold SriovFec.Controller.updateOrCreateNodeConfigs
      split
      · next s1 hup => rw [hup] at h1; exact hR.trans h1 (ih fun x hx => hT x (.tail _ hx))
      · next e s1 hup => rw [hup] at h1; exact h1

theorem removeOldNodeConfigs : R s.cluster (removeOldNodeConfigs T s).2.cluster := by
  unfold SriovFec.Controller.removeOldNodeConfigs
  have hs := listNodeConfigs_cluster (s := s)
  split
  · next items s1 hlist =>
      rw [hlist] at hs
      rw [← show s1.cluster = s.cluster from hs]
      exact hR.deleteOldNodeConfigs items
  · next e s1 hlist =>
      rw [hlist] at hs
      rw [← show s1.cluster = s.cluster from hs]
      split_ifs
      · exact hR.deleteOldNodeConfigs []
      · exact hR.refl _

/-- A sync of `T` that ends in `s'` keeps `R`. -/
theorem of_syncNodeConfigs {r : Except ApiError Unit} {s' : ClientState}
    (h : syncNodeConfigs T s = (r, s')) : R s.cluster s'.cluster := by
  have h1 := hR.removeOldNodeConfigs (s := s)
  unfold syncNodeConfigs at h
  split at h
  · next s1 hrem =>
      rw [hrem] at h1
      have h2 := hR.updateOrCreateNodeConfigs (s := s1) fun t (ht : t ∈ T) => ht
      rw [h] at h2
      exact hR.trans h1 h2
  · next e s1 hrem =>
      rw [hrem] at h1
      cases h
      exact h1

end KeptBySync

section Runs

variable {T : List SriovFecNodeConfig} {s : ClientState}

theorem syncFrame_keptBySync : KeptBySync T (SyncFrame T) :=
  ⟨.refl, .trans, deleteNodeConfig_syncFrame, createNodeConfig_syncFrame, updateNodeConfig_syncFrame⟩

theorem keepsWanted_keptBySync : KeptBySync T (KeepsWanted T) where
  refl := .refl
  trans := .trans
  delete {_ nc} hd := KeepsWanted.issue_write fun st st' h k hk hp => by
    rw [Store.delete_ok h, Store.get?_erase]
    split_ifs with hkey
    · subst hkey
      simp [(deleteNC_eq_false_iff (t := nc)).2 hk] at hd
    · exact hp
  create _ := KeepsWanted.issue_write fun st st' h k _ hp => by
    obtain ⟨-, rfl⟩ := Store.create_ok h
    rw [Store.get?_add]
    split_ifs
    · rfl
    · exact hp
  update _ _ := KeepsWanted.issue_write fun st st' h k _ hp => by
    rw [Store.update_ok h, Store.get?_replace]
    split_ifs
    · simpa using hp
    · exact hp

theorem keepsUntouched_keptBySync : KeptBySync T (KeepsUntouched T) where
  refl _ _ _ := rfl
  trans h1 h2 k hk := (h2 k hk).trans (h1 k hk)
  delete hd := (deleteNodeConfig_syncFrame hd).2.2
  create ht := (createNodeConfig_syncFrame ht).2.2
  update ht hk := (updateNodeConfig_syncFrame ht hk).2.2

/-- A sync of `T` that ends in `s'` keeps `SyncFrame T`. -/
theorem syncFrame_of_syncNodeConfigs {r : Except ApiError Unit} {s' : ClientState}
    (h : syncNodeConfigs T s = (r, s')) : SyncFrame T s.cluster s'.cluster :=
  syncFrame_keptBySync.of_syncNodeConfigs h

/-- Every run of a sync of `T` keeps `SyncFrame T`, whatever the control plane fails. -/
theorem syncNodeConfigs_syncFrame : SyncFrame T s.cluster (syncNodeConfigs T s).2.cluster :=
  syncFrame_of_syncNodeConfigs rfl

end Runs

end SriovFec.Controller
