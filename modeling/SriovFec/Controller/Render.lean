import SriovFec.Api.V1
import Mathlib.Data.List.Basic
import Mathlib.Data.List.Forall2

/-!
# Rendering the node configs of a cluster config

`renderNodeConfigs` fans the cluster config out over the nodes with an accelerator. With
`OneNodeConfigForAll` every node gets the cards of the first node entry; otherwise each
entry naming a node of the list gets its own cards, and the others are dropped.

## Implementation notes

The uniform branch reads `Spec.Nodes[0]` once per node of the list; on an empty entry
list that read panics, which the model returns as `none`.
-/

namespace SriovFec.Controller

open SriovFec.Api.V1

/-- The node config both branches of `renderNodeConfigs` build for a node. -/
def newNodeConfig (name : String) (oneCardConfigForAll : Bool) (cards : List CardConfig) :
    SriovFecNodeConfig where
  typeMeta := ⟨"v1", "SriovFecNodeConfig"⟩
  objectMeta := ⟨name, "default", [], []⟩
  spec := ⟨oneCardConfigForAll, cards⟩
  status := ⟨"", ""⟩

@[simp] theorem newNodeConfig_name (name : String) (b : Bool) (cards : List CardConfig) :
    (newNodeConfig name b cards).name = name := rfl

@[simp] theorem newNodeConfig_namespace (name : String) (b : Bool) (cards : List CardConfig) :
    (newNodeConfig name b cards).objectMeta.«namespace» = "default" := rfl

/-- `renderNodeConfigs`; `none` when reading `Spec.Nodes[0]` panics. -/
def renderNodeConfigs (clusterConfig : SriovFecClusterConfig) (nodeList : List Node) :
    Option (List SriovFecNodeConfig) :=
  if clusterConfig.spec.oneNodeConfigForAll then
    nodeList.foldlM (fun nodeConfigs node => do
      let node0 ← clusterConfig.spec.nodes[0]?
      pure (nodeConfigs ++ [newNodeConfig node.name true node0.cards])) []
  else
    let nodeHasAccelerator (nodeName : String) : Bool := nodeList.any fun node => node.name == nodeName
    some (clusterConfig.spec.nodes.foldl (fun nodeConfigs nodeConfigSpec =>
      if !nodeHasAccelerator nodeConfigSpec.nodeName then nodeConfigs
      else nodeConfigs ++ [newNodeConfig nodeConfigSpec.nodeName
        nodeConfigSpec.oneCardConfigForAll nodeConfigSpec.cards]) [])

/-- What the spec says the rendered node configs carry, in order: a name, a
`OneCardConfigForAll` and the cards. With `OneNodeConfigForAll`, one triple per node of the
list, with `true` and the cards of `Spec.Nodes[0]`; otherwise one per entry of `Spec.Nodes`
naming a node of the list, duplicates kept, with the entry's own flag and cards. -/
def specRendering (clusterConfig : SriovFecClusterConfig) (nodeList : List Node) :
    List (String × Bool × List CardConfig) :=
  if clusterConfig.spec.oneNodeConfigForAll then
    match clusterConfig.spec.nodes with
    | [] => []
    | node0 :: _ => nodeList.map fun node => (node.name, true, node0.cards)
  else
    (clusterConfig.spec.nodes.filter fun e => nodeList.any fun node => node.name == e.nodeName).map
      fun e => (e.nodeName, e.oneCardConfigForAll, e.cards)

/-- A `v1` `SriovFecNodeConfig` in `default` with the name, `OneCardConfigForAll` and cards
of `d`. -/
structure RenderedAs (nc : SriovFecNodeConfig) (d : String × Bool × List CardConfig) : Prop where
  typeMeta_eq : nc.typeMeta = ⟨"v1", "SriovFecNodeConfig"⟩
  name_eq : nc.name = d.1
  inDefault : nc.objectMeta.«namespace» = "default"
  flag_eq : nc.spec.oneCardConfigForAll = d.2.1
  cards_eq : nc.spec.cards = d.2.2

/-- Every name of the spec's rendering is the name of a node of the list. -/
theorem specRendering_names (clusterConfig : SriovFecClusterConfig) (nodeList : List Node) :
    ∀ d ∈ specRendering clusterConfig nodeList, ∃ node ∈ nodeList, d.1 = node.name := by
  unfold specRendering
  split
  · split
    · simp
    · simp only [List.mem_map]
      rintro _ ⟨node, hn, rfl⟩
      exact ⟨node, hn, rfl⟩
  · simp only [List.mem_map, List.mem_filter, List.any_eq_true, beq_iff_eq]
    rintro _ ⟨e, ⟨-, node, hn, he⟩, rfl⟩
    exact ⟨node, hn, he.symm⟩

/-- `newNodeConfig` builds each object with the name, flag and cards it is given. -/
theorem forall₂_renderedAs (ds : List (String × Bool × List CardConfig)) :
    List.Forall₂ RenderedAs (ds.map fun d => newNodeConfig d.1 d.2.1 d.2.2) ds :=
  List.forall₂_map_left_iff.2 (List.forall₂_same.2 fun _ _ => ⟨rfl, rfl, rfl, rfl, rfl⟩)

theorem foldlM_some_append {β γ : Type} (g : β → γ) (l : List β) (acc : List γ) :
    l.foldlM (fun out x => some (out ++ [g x])) acc = some (acc ++ l.map g) := by
  induction l generalizing acc with
  | nil => simp
  | cons x rest ih => simp [ih]

theorem foldl_filter_map {β : Type} (p : NodeConfig → Bool) (f : NodeConfig → β)
    (entries : List NodeConfig) (acc : List β) :
    entries.foldl (fun out e => if !p e then out else out ++ [f e]) acc =
      acc ++ (entries.filter p).map f := by
  induction entries generalizing acc with
  | nil => simp
  | cons e rest ih =>
      rw [List.foldl_cons, ih]
      cases h : p e <;> simp [h, List.filter_cons]

/-- The uniform branch panics exactly on an empty entry list with a non-empty node list. -/
theorem renderNodeConfigs_eq_none_iff (clusterConfig : SriovFecClusterConfig) (nodeList : List Node) :
    renderNodeConfigs clusterConfig nodeList = none ↔
      clusterConfig.spec.oneNodeConfigForAll ∧ clusterConfig.spec.nodes = [] ∧ nodeList ≠ [] := by
  unfold renderNodeConfigs
  cases hu : clusterConfig.spec.oneNodeConfigForAll
  · simp
  · cases hn : clusterConfig.spec.nodes with
    | nil => cases nodeList <;> simp
    | cons node0 rest => simp [foldlM_some_append]

/-- Whenever `renderNodeConfigs` returns, it returns one `newNodeConfig` per triple of the
spec's rendering. -/
theorem renderNodeConfigs_eq_some {clusterConfig : SriovFecClusterConfig} {nodeList : List Node}
    {T : List SriovFecNodeConfig} (h : renderNodeConfigs clusterConfig nodeList = some T) :
    T = (specRendering clusterConfig nodeList).map fun d => newNodeConfig d.1 d.2.1 d.2.2 := by
  unfold renderNodeConfigs specRendering at *
  cases hu : clusterConfig.spec.oneNodeConfigForAll
  · simp only [hu, Bool.false_eq_true, ↓reduceIte, Option.some.injEq] at h ⊢
    rw [← h, foldl_filter_map (fun e => nodeList.any fun node => node.name == e.nodeName)
      (fun e => newNodeConfig e.nodeName e.oneCardConfigForAll e.cards), List.map_map]
    rfl
  · cases hn : clusterConfig.spec.nodes with
    | nil => cases nodeList <;> simp_all
    | cons node0 rest => simp_all [foldlM_some_append, Function.comp_def]

theorem renderNodeConfigs_named {clusterConfig : SriovFecClusterConfig} {nodeList : List Node}
    {T : List SriovFecNodeConfig} (h : renderNodeConfigs clusterConfig nodeList = some T) :
    ∀ nc ∈ T, nc.objectMeta.«namespace» = "default" ∧ ∃ node ∈ nodeList, nc.name = node.name := by
  rw [renderNodeConfigs_eq_some h]
  simp only [List.mem_map]
  rintro _ ⟨d, hd, rfl⟩
  exact ⟨rfl, specRendering_names clusterConfig nodeList d hd⟩

/-- `renderNodeConfigs` reads only the spec of the cluster config. -/
theorem renderNodeConfigs_congr_spec {c c' : SriovFecClusterConfig} (nodeList : List Node)
    (h : c.spec = c'.spec) : renderNodeConfigs c nodeList = renderNodeConfigs c' nodeList := by
  unfold renderNodeConfigs
  rw [h]

/-- Whenever its `Spec.Nodes[0]` read is in range, `renderNodeConfigs` returns `v1` node
configs in `default` that carry, one for one and in order, the names, flags and cards of the
spec's rendering; each is named after a node of the list. -/
theorem renderNodeConfigs_spec (clusterConfig : SriovFecClusterConfig) (nodeList : List Node)
    (h : clusterConfig.spec.oneNodeConfigForAll = true → nodeList ≠ [] →
      1 ≤ clusterConfig.spec.nodes.length) :
    ∃ T, renderNodeConfigs clusterConfig nodeList = some T ∧
      List.Forall₂ RenderedAs T (specRendering clusterConfig nodeList) ∧
      ∀ nc ∈ T, ∃ node ∈ nodeList, nc.name = node.name := by
  have hne : renderNodeConfigs clusterConfig nodeList ≠ none := fun hnone => by
    obtain ⟨hu, hnil, hl⟩ := (renderNodeConfigs_eq_none_iff _ _).1 hnone
    simpa [hnil] using h hu hl
  obtain ⟨T, hT⟩ := Option.ne_none_iff_exists'.1 hne
  exact ⟨T, hT, renderNodeConfigs_eq_some hT ▸ forall₂_renderedAs _,
    fun nc hnc => (renderNodeConfigs_named hT nc hnc).2⟩

/-- One node config for all: both nodes get `true` and the cards of the first entry, whatever
that entry's own flag. -/
theorem renderNodeConfigs_spec_on_two_nodes :
    ∃ T, renderNodeConfigs ⟨⟨"", ""⟩, ⟨"config", "ns", [], []⟩, ⟨true, [⟨"node1", false, []⟩]⟩, ⟨"", ""⟩⟩
        [⟨"node1", []⟩, ⟨"node2", []⟩] = some T ∧
      List.Forall₂ RenderedAs T [("node1", true, []), ("node2", true, [])] ∧
      ∀ nc ∈ T, ∃ node ∈ [(⟨"node1", []⟩ : Node), ⟨"node2", []⟩], nc.name = node.name :=
  renderNodeConfigs_spec _ _ fun _ _ => by decide

end SriovFec.Controller
