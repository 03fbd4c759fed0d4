import SriovFec.Api.V1
import Mathlib.Data.List.Nodup

/-!
# The control plane's store of one object kind

A store is the list of objects of one kind, at most one under each namespaced name. A
`Get` finds the object under a key, `Create` adds one under a free key, `Update`
replaces the object under its key and `Delete` removes the object under a key; each
fails on the wrong key as the API server does (`AlreadyExists`, `NotFound`).

## Implementation notes

The keys are kept distinct by the structure itself, so every lemma reads the store
through `get?` alone; the order of `items` is what a `List` returns and nothing else.
-/

namespace SriovFec.Controller

open SriovFec.Api.V1

/-- The reasons of a failed call the controller tells apart (`errors.IsNotFound`). -/
inductive ApiError where
  | notFound
  | alreadyExists
  | other
  deriving DecidableEq, Repr

/-- An object kind the control plane stores under its metadata's namespace and name. -/
class Object (α : Type) where
  objectMeta : α → ObjectMeta

instance : Object SriovFecNodeConfig := ⟨SriovFecNodeConfig.objectMeta⟩

instance : Object SriovFecClusterConfig := ⟨SriovFecClusterConfig.objectMeta⟩

/-- The key an object is stored under. -/
def Object.key {α : Type} [Object α] (o : α) : NamespacedName :=
  ⟨(Object.objectMeta o).«namespace», (Object.objectMeta o).name⟩

theorem key_nodeConfig (nc : SriovFecNodeConfig) :
    Object.key nc = ⟨nc.objectMeta.«namespace», nc.objectMeta.name⟩ := rfl

theorem key_of_namespace_default {t : SriovFecNodeConfig} (ht : t.objectMeta.«namespace» = "default") :
    Object.key t = ⟨"default", t.name⟩ := by
  rw [key_nodeConfig, ht]
  rfl

theorem key_clusterConfig (c : SriovFecClusterConfig) :
    Object.key c = ⟨c.objectMeta.«namespace», c.objectMeta.name⟩ := rfl

@[simp] theorem key_with_spec (nc : SriovFecNodeConfig) (spec : SriovFecNodeConfigSpec) :
    Object.key { nc with spec := spec } = Object.key nc := rfl

@[simp] theorem key_with_status (c : SriovFecClusterConfig) (status : SriovFecClusterConfigStatus) :
    Object.key { c with status := status } = Object.key c := rfl

/-- The stored objects of one kind; no two share a key. -/
structure Store (α : Type) [Object α] where
  items : List α
  nodup : (items.map Object.key).Nodup

namespace Store

variable {α : Type} [Object α] {s : Store α} {k k' : NamespacedName} {o : α}

/-- The object stored under `k`. -/
def get? (s : Store α) (k : NamespacedName) : Option α :=
  s.items.find? fun x => Object.key x = k

theorem get?_eq_some : s.get? k = some o ↔ o ∈ s.items ∧ Object.key o = k := by
  constructor
  · intro h
    exact ⟨List.mem_of_find?_eq_some h, by simpa using List.find?_some h⟩
  · rintro ⟨ho, rfl⟩
    obtain ⟨o', h'⟩ : ∃ o', s.get? (Object.key o) = some o' :=
      Option.isSome_iff_exists.1 (List.find?_isSome.2 ⟨o, ho, by simp⟩)
    have hk : Object.key o' = Object.key o := by simpa using List.find?_some h'
    rw [h', List.inj_on_of_nodup_map s.nodup (List.mem_of_find?_eq_some h') ho hk]

theorem get?_eq_none : s.get? k = none ↔ ∀ x ∈ s.items, Object.key x ≠ k := by
  simp [get?, List.find?_eq_none]

theorem mem_items : o ∈ s.items ↔ s.get? (Object.key o) = some o := by
  simp [get?_eq_some]

theorem key_of_get? (h : s.get? k = some o) : Object.key o = k := (get?_eq_some.1 h).2

/-- Add `o` under its key, which is free. -/
def add (s : Store α) (o : α) (h : s.get? (Object.key o) = none) : Store α :=
  ⟨s.items ++ [o], by
    rw [List.map_append, List.nodup_append]
    refine ⟨s.nodup, List.nodup_singleton _, ?_⟩
    simp only [List.map_cons, List.map_nil, List.disjoint_singleton, List.mem_map, not_exists,
      not_and]
    exact get?_eq_none.1 h⟩

/-- Put `o` in place of the object stored under its key. -/
def replace (s : Store α) (o : α) : Store α :=
  ⟨s.items.map fun x => if Object.key x = Object.key o then o else x, by
    have hk : (Object.key ∘ fun x => if Object.key x = Object.key o then o else x) = Object.key := by
      funext x
      by_cases h : Object.key x = Object.key o <;> simp [h]
    simpa only [List.map_map, hk] using s.nodup⟩

/-- Remove the object stored under `k`. -/
def erase (s : Store α) (k : NamespacedName) : Store α :=
  ⟨s.items.filter fun x => Object.key x ≠ k,
    ((List.filter_sublist s.items).map Object.key).nodup s.nodup⟩

@[simp] theorem get?_add (h : s.get? (Object.key o) = none) :
    (s.add o h).get? k = if Object.key o = k then some o else s.get? k := by
  have h' : s.items.find? (fun x => Object.key x = Object.key o) = none := h
  simp only [get?, add, List.find?_append]
  split_ifs with hk
  · subst hk
    simp [h']
  · simp [hk]

@[simp] theorem get?_replace :
    (s.replace o).get? k = if Object.key o = k then (s.get? k).map fun _ => o else s.get? k := by
  have hp : ((fun x => decide (Object.key x = k)) ∘
      fun x => if Object.key x = Object.key o then o else x) = fun x => decide (Object.key x = k) := by
    funext x
    by_cases h : Object.key x = Object.key o <;> simp [h]
  have hmap : (s.replace o).get? k =
      (s.get? k).map fun x => if Object.key x = Object.key o then o else x := by
    simp only [get?, replace, List.find?_map, hp]
  rw [hmap]
  cases hg : s.get? k with
  | none => simp
  | some x =>
      rw [← key_of_get? hg]
      by_cases h : Object.key x = Object.key o
      · simp [h]
      · simp [h, Ne.symm h]

@[simp] theorem get?_erase : (s.erase k').get? k = if k' = k then none else s.get? k := by
  simp only [get?, erase, List.find?_filter]
  split_ifs with hk
  · subst hk
    simp [List.find?_eq_none]
  · congr 1
    funext x
    by_cases h : Object.key x = k
    · simp [h, Ne.symm hk]
    · simp [h]

/-- Putting back the object stored under its key changes nothing. -/
theorem replace_self (h : s.get? (Object.key o) = some o) : s.replace o = s := by
  obtain ⟨items, nodup⟩ := s
  have ho := (get?_eq_some.1 h).1
  simp only [replace, mk.injEq]
  conv_rhs => rw [← List.map_id items]
  refine List.map_congr_left fun x hx => ?_
  split_ifs with hk
  · exact List.inj_on_of_nodup_map nodup ho hx hk.symm
  · rfl

/-- `Create`: fails with `AlreadyExists` on a taken key. -/
def create (s : Store α) (o : α) : Except ApiError (Store α) :=
  match h : s.get? (Object.key o) with
  | none => .ok (s.add o h)
  | some _ => .error .alreadyExists

/-- `Update`: fails with `NotFound` when nothing is stored under the object's key. -/
def update (s : Store α) (o : α) : Except ApiError (Store α) :=
  if (s.get? (Object.key o)).isSome then .ok (s.replace o) else .error .notFound

/-- `Delete`: fails with `NotFound` when nothing is stored under the key. -/
def delete (s : Store α) (k : NamespacedName) : Except ApiError (Store α) :=
  if (s.get? k).isSome then .ok (s.erase k) else .error .notFound

theorem create_of_get?_none (h : s.get? (Object.key o) = none) : s.create o = .ok (s.add o h) := by
  unfold create
  split
  · rfl
  · next h' => exact absurd (h.symm.trans h') (by simp)

theorem create_ok {s' : Store α} (h : s.create o = .ok s') :
    ∃ hk : s.get? (Object.key o) = none, s' = s.add o hk := by
  unfold create at h
  split at h
  · next hk => exact ⟨hk, (Except.ok.inj h).symm⟩
  · cases h

theorem update_ok {s' : Store α} (h : s.update o = .ok s') : s' = s.replace o := by
  unfold update at h
  split at h
  · exact (Except.ok.inj h).symm
  · cases h

theorem delete_ok {s' : Store α} (h : s.delete k = .ok s') : s' = s.erase k := by
  unfold delete at h
  split at h
  · exact (Except.ok.inj h).symm
  · cases h

end Store

end SriovFec.Controller
