/-
**Arranging nodes as trees.**

Nodes of a list each have a parent among them, or none. Below every node that leads to a root a tree is
grown; the trees of the roots have every such node in them, once.

* `grow_grown`: growing ends, and what is grown below a node;
* `grow_arranged`: the trees of the roots are the nodes that lead to one, each below its parent.
-/

import Mathlib.Data.Set.Card
import OpenEstate.Relational.Forest

namespace Relational

open Relation (ReflTransGen TransGen)

inductive Rose (α : Type)
  | node (value : α) (branches : List (Rose α))

namespace Rose

variable {α β : Type}

def value : Rose α → α
  | node value _ => value

def branches : Rose α → List (Rose α)
  | node _ branches => branches

mutual

def subtrees : Rose α → List (Rose α)
  | node value branches => node value branches :: subtreesList branches

def subtreesList : List (Rose α) → List (Rose α)
  | [] => []
  | tree :: rest => subtrees tree ++ subtreesList rest

end

mutual

def map (f : α → β) : Rose α → Rose β
  | node value branches => node (f value) (mapList f branches)

def mapList (f : α → β) : List (Rose α) → List (Rose β)
  | [] => []
  | tree :: rest => map f tree :: mapList f rest

end

def nodes (tree : Rose α) : List α := tree.subtrees.map value

theorem subtreesList_eq (trees : List (Rose α)) : subtreesList trees = trees.flatMap subtrees := by
  induction trees with
  | nil => rfl
  | cons tree rest ih => rw [subtreesList, ih, List.flatMap_cons]

theorem mapList_eq (f : α → β) (trees : List (Rose α)) : mapList f trees = trees.map (map f) := by
  induction trees with
  | nil => rfl
  | cons tree rest ih => rw [mapList, ih, List.map_cons]

theorem subtrees_node (value : α) (branches : List (Rose α)) :
    (node value branches).subtrees = node value branches :: branches.flatMap subtrees := by
  rw [subtrees, subtreesList_eq]

theorem nodes_node (value : α) (branches : List (Rose α)) :
    (node value branches).nodes = value :: branches.flatMap nodes := by
  rw [nodes, subtrees_node, List.map_cons, List.map_flatMap]
  rfl

theorem value_map (f : α → β) (tree : Rose α) : (tree.map f).value = f tree.value := by
  cases tree
  rfl

theorem branches_map (f : α → β) (tree : Rose α) :
    (tree.map f).branches = tree.branches.map (map f) := by
  obtain ⟨value, trees⟩ := tree
  exact mapList_eq f trees

mutual

theorem subtrees_map (f : α → β) : ∀ tree : Rose α,
    (tree.map f).subtrees = tree.subtrees.map (map f)
  | node value branches => by
    rw [map, subtrees, subtrees, subtreesList_map f branches, List.map_cons, map]

theorem subtreesList_map (f : α → β) : ∀ trees : List (Rose α),
    subtreesList (mapList f trees) = (subtreesList trees).map (map f)
  | [] => rfl
  | tree :: rest => by
    rw [mapList, subtreesList, subtreesList, subtrees_map f tree, subtreesList_map f rest,
      List.map_append]

end

theorem nodes_map (f : α → β) (tree : Rose α) : (tree.map f).nodes = tree.nodes.map f := by
  rw [nodes, subtrees_map, nodes, List.map_map, List.map_map]
  exact List.map_congr_left fun sub _ => value_map f sub

end Rose

/-! ### Growing -/

section Grow

variable {N : Type}

def grow (children : N → List N) : Nat → N → Option (Rose N)
  | 0, _ => none
  | fuel + 1, node => ((children node).mapM (grow children fuel)).map (Rose.node node)

theorem exists_mapM {f : N → Option (Rose N)} {holds : Rose N → Prop} {list : List N}
    (each : ∀ node ∈ list, ∃ tree, f node = some tree ∧ tree.value = node ∧ holds tree) :
    ∃ trees, list.mapM f = some trees ∧ trees.map Rose.value = list ∧
      ∀ tree ∈ trees, holds tree := by
  induction list with
  | nil => exact ⟨[], rfl, rfl, nofun⟩
  | cons first rest ih =>
    obtain ⟨here, later⟩ := List.forall_mem_cons.mp each
    obtain ⟨tree, grows, value, is⟩ := here
    obtain ⟨trees, growsLater, values, are⟩ := ih later
    refine ⟨tree :: trees, ?_, ?_, List.forall_mem_cons.mpr ⟨is, are⟩⟩
    · rw [List.mapM_cons, grows, growsLater]
      rfl
    · rw [List.map_cons, value, values]

/-! ### Objects under keys -/

/-- The tree of an object that is kept under a key, with the keys of those below it. -/
def readTree {α : Type} (read : N → Option (α × List N)) : Nat → N → Option (Rose α)
  | 0, _ => none
  | fuel + 1, node => (read node).bind fun object =>
    (object.2.mapM (readTree read fuel)).map (Rose.node object.1)

theorem mapM_eq_map {α β γ : Type} {read : α → Option γ} {first : α → Option β} {second : β → γ}
    {list : List α} (each : ∀ node ∈ list, read node = (first node).map second) :
    list.mapM read = (list.mapM first).map (List.map second) := by
  induction list with
  | nil => rfl
  | cons node rest ih =>
    rw [List.mapM_cons, List.mapM_cons, each node List.mem_cons_self,
      ih fun other member => each other (List.mem_cons_of_mem _ member)]
    cases first node with
    | none => rfl
    | some value => cases rest.mapM first <;> rfl

section Read

variable {α : Type} {read : N → Option (α × List N)} {value : N → α} {children : N → List N}
  {kept : N → Prop} (reads : ∀ node, kept node → read node = some (value node, children node))
  (closed : ∀ node, kept node → ∀ child ∈ children node, kept child) {fuel : Nat}

include reads closed

theorem readTree_eq {node : N} (isKept : kept node) :
    readTree read fuel node = (grow children fuel node).map (Rose.map value) := by
  induction fuel generalizing node with
  | zero => rfl
  | succ fuel ih =>
    rw [readTree, grow, reads node isKept, Option.bind_some,
      mapM_eq_map fun child isChild => ih (closed node isKept child isChild), Option.map_map,
      Option.map_map]
    congr 1
    funext trees
    exact congrArg (Rose.node _) (Rose.mapList_eq value trees).symm

theorem mapM_readTree_eq {list : List N} (isKept : ∀ node ∈ list, kept node) :
    list.mapM (readTree read fuel) =
      (list.mapM (grow children fuel)).map (List.map (Rose.map value)) :=
  mapM_eq_map fun node member => readTree_eq reads closed (isKept node member)

end Read

/-! ### What is grown -/

variable (all : List N) (parent : N → Option N)

def Rooted (node : N) : Prop := ∃ root, Below parent node root ∧ parent root = none

def belowSet (node : N) : Set N := { other | other ∈ all ∧ Below parent other node }

section Rooted

variable {all parent} {node child other : N}

theorem Rooted.of_child (rooted : Rooted parent node) (isParent : parent child = some node) :
    Rooted parent child := by
  obtain ⟨root, below, isRoot⟩ := rooted
  exact ⟨root, .head isParent below, isRoot⟩

theorem Rooted.child_unique (rooted : Rooted parent node) {first second : N}
    (isFirst : parent first = some node) (isSecond : parent second = some node)
    (belowFirst : Below parent other first) (belowSecond : Below parent other second) :
    first = second := by
  obtain ⟨root, toRoot, isRoot⟩ := rooted
  -- the way from one to the other would lead through the parent, and back to it
  have apart : ∀ {first second}, parent first = some node → parent second = some node →
      Below parent first second → first = second := by
    intro first second isFirst isSecond below
    rcases below.cases_head with same | ⟨next, follows, below⟩
    · exact same
    · obtain rfl := Option.some.inj (Eq.trans (Eq.symm isFirst) follows)
      exact absurd (TransGen.tail' below isSecond) (not_circle_of_root toRoot isRoot)
  rcases belowFirst.total belowSecond with below | below
  · exact apart isFirst isSecond below
  · exact (apart isSecond isFirst below).symm

theorem belowSet_finite (node : N) : (belowSet all parent node).Finite :=
  (List.finite_toSet all).subset fun _ member => member.1

theorem Rooted.ncard_lt (rooted : Rooted parent node) (member : node ∈ all)
    (isParent : parent child = some node) :
    (belowSet all parent child).ncard < (belowSet all parent node).ncard := by
  obtain ⟨root, toRoot, isRoot⟩ := rooted
  refine Set.ncard_lt_ncard ⟨fun other below => ⟨below.1, below.2.tail isParent⟩, fun all_ => ?_⟩
    (belowSet_finite node)
  exact not_circle_of_root toRoot isRoot (TransGen.tail' (all_ ⟨member, .refl⟩).2 isParent)

end Rooted

variable [DecidableEq N]

def childrenOf (node : N) : List N := all.filter fun child => parent child = some node

def rootsOf : List N := all.filter fun node => parent node = none

/-- What is grown below a node: all that is below it, each below its parent. -/
structure Grown (tree : Rose N) : Prop where
  nodup : tree.nodes.Nodup
  mem_iff : ∀ node, node ∈ tree.nodes ↔ node ∈ all ∧ Below parent node tree.value
  children : ∀ sub ∈ tree.subtrees, sub.branches.map Rose.value = childrenOf all parent sub.value

variable {all parent} {node : N}

theorem mem_childrenOf {child : N} :
    child ∈ childrenOf all parent node ↔ child ∈ all ∧ parent child = some node := by
  rw [childrenOf, List.mem_filter, decide_eq_true_iff]

omit [DecidableEq N] in
theorem mem_rootsOf : node ∈ rootsOf all parent ↔ node ∈ all ∧ parent node = none := by
  rw [rootsOf, List.mem_filter, decide_eq_true_iff]

theorem childrenOf_concat (last : N) : childrenOf (all ++ [last]) parent node =
    childrenOf all parent node ++ if parent last = some node then [last] else [] := by
  rw [childrenOf, List.filter_append, List.filter_singleton, Bool.cond_decide]
  rfl

omit [DecidableEq N] in
theorem rootsOf_concat (last : N) : rootsOf (all ++ [last]) parent =
    rootsOf all parent ++ if parent last = none then [last] else [] := by
  rw [rootsOf, List.filter_append, List.filter_singleton, Bool.cond_decide]
  rfl

theorem ncard_belowSet_le (node : N) : (belowSet all parent node).ncard ≤ all.length := by
  have within : belowSet all parent node ⊆ ↑all.toFinset :=
    fun other member => List.mem_toFinset.mpr member.1
  calc (belowSet all parent node).ncard
      ≤ (↑all.toFinset : Set N).ncard := Set.ncard_le_ncard within (Finset.finite_toSet _)
    _ = all.toFinset.card := Set.ncard_coe_finset _
    _ ≤ all.length := List.toFinset_card_le all

section Trees

variable {trees : List (Rose N)}

theorem mem_flatMap_nodes (grown : ∀ tree ∈ trees, Grown all parent tree) :
    node ∈ trees.flatMap Rose.nodes ↔
      node ∈ all ∧ ∃ value ∈ trees.map Rose.value, Below parent node value := by
  rw [List.mem_flatMap]
  constructor
  · rintro ⟨tree, isTree, member⟩
    obtain ⟨isMember, below⟩ := ((grown tree isTree).mem_iff node).mp member
    exact ⟨isMember, tree.value, List.mem_map_of_mem isTree, below⟩
  · rintro ⟨isMember, _, isValue, below⟩
    obtain ⟨tree, isTree, rfl⟩ := List.mem_map.mp isValue
    exact ⟨tree, isTree, ((grown tree isTree).mem_iff node).mpr ⟨isMember, below⟩⟩

theorem nodup_flatMap_nodes (grown : ∀ tree ∈ trees, Grown all parent tree)
    (distinct : (trees.map Rose.value).Nodup)
    (apart : ∀ first ∈ trees.map Rose.value, ∀ second ∈ trees.map Rose.value, ∀ other,
      Below parent other first → Below parent other second → first = second) :
    (trees.flatMap Rose.nodes).Nodup := by
  refine List.nodup_flatMap.mpr ⟨fun tree isTree => (grown tree isTree).nodup, ?_⟩
  refine (List.pairwise_map.mp distinct).imp_of_mem fun {first second} isFirst isSecond differ => ?_
  intro other inFirst inSecond
  exact differ (apart _ (List.mem_map_of_mem isFirst) _ (List.mem_map_of_mem isSecond) other
    (((grown first isFirst).mem_iff other).mp inFirst).2
    (((grown second isSecond).mem_iff other).mp inSecond).2)

end Trees

theorem mem_below_iff (inside : ∀ {child node}, parent child = some node → child ∈ all ∧ node ∈ all)
    (member : node ∈ all) {other : N} : other ∈ all ∧ Below parent other node ↔
      other = node ∨ other ∈ all ∧ ∃ child ∈ childrenOf all parent node, Below parent other child := by
  constructor
  · rintro ⟨isMember, below⟩
    rcases below.cases_tail with same | ⟨child, below, isParent⟩
    · exact Or.inl same.symm
    · exact Or.inr ⟨isMember, child, mem_childrenOf.mpr ⟨(inside isParent).1, isParent⟩, below⟩
  · rintro (rfl | ⟨isMember, child, isChild, below⟩)
    · exact ⟨member, .refl⟩
    · exact ⟨isMember, below.tail (mem_childrenOf.mp isChild).2⟩

theorem grow_grown (nodup : all.Nodup)
    (inside : ∀ {child node}, parent child = some node → child ∈ all ∧ node ∈ all)
    (rooted : Rooted parent node) (member : node ∈ all) {fuel : Nat}
    (enough : (belowSet all parent node).ncard ≤ fuel) :
    ∃ tree, grow (childrenOf all parent) fuel node = some tree ∧ tree.value = node ∧
      Grown all parent tree := by
  induction fuel generalizing node with
  | zero =>
    have some_ : (belowSet all parent node).Nonempty := ⟨node, member, .refl⟩
    exact absurd ((Set.ncard_pos (belowSet_finite node)).mpr some_) (Nat.not_lt.mpr enough)
  | succ fuel ih =>
    have each : ∀ child ∈ childrenOf all parent node, ∃ tree,
        grow (childrenOf all parent) fuel child = some tree ∧ tree.value = child ∧
          Grown all parent tree := by
      intro child isChild
      obtain ⟨isMember, isParent⟩ := mem_childrenOf.mp isChild
      have less := rooted.ncard_lt member isParent
      exact ih (rooted.of_child isParent) isMember (by omega)
    obtain ⟨trees, grows, values, grown⟩ := exists_mapM each
    refine ⟨.node node trees, by rw [grow, grows]; rfl, rfl, ?_, fun other => ?_, ?_⟩
    · rw [Rose.nodes_node, List.nodup_cons]
      refine ⟨fun again => ?_, nodup_flatMap_nodes grown (values ▸ nodup.filter _) ?_⟩
      · -- a node that is below its child is in a circle
        rw [mem_flatMap_nodes grown, values] at again
        obtain ⟨_, child, isChild, below⟩ := again
        obtain ⟨root, toRoot, isRoot⟩ := rooted
        exact not_circle_of_root toRoot isRoot (TransGen.tail' below (mem_childrenOf.mp isChild).2)
      · rw [values]
        exact fun first isFirst second isSecond other => rooted.child_unique
          (mem_childrenOf.mp isFirst).2 (mem_childrenOf.mp isSecond).2
    · rw [Rose.nodes_node, List.mem_cons, mem_flatMap_nodes grown, values]
      exact (mem_below_iff inside member).symm
    · rw [Rose.subtrees_node, List.forall_mem_cons]
      refine ⟨values, fun sub isSub => ?_⟩
      obtain ⟨tree, isTree, isSub⟩ := List.mem_flatMap.mp isSub
      exact (grown tree isTree).children sub isSub

/-- The trees of the roots: the nodes that lead to one, once, each below its parent. -/
structure Arranged (all : List N) (parent : N → Option N) (trees : List (Rose N)) : Prop where
  roots : trees.map Rose.value = rootsOf all parent
  nodup : (trees.flatMap Rose.nodes).Nodup
  mem_iff : ∀ node, node ∈ trees.flatMap Rose.nodes ↔ node ∈ all ∧ Rooted parent node
  children : ∀ tree ∈ trees, ∀ sub ∈ tree.subtrees,
    sub.branches.map Rose.value = childrenOf all parent sub.value

theorem grow_arranged (nodup : all.Nodup)
    (inside : ∀ {child node}, parent child = some node → child ∈ all ∧ node ∈ all) {fuel : Nat}
    (enough : all.length ≤ fuel) :
    ∃ trees, (rootsOf all parent).mapM (grow (childrenOf all parent) fuel) = some trees ∧
      Arranged all parent trees := by
  have each : ∀ root ∈ rootsOf all parent, ∃ tree,
      grow (childrenOf all parent) fuel root = some tree ∧ tree.value = root ∧
        Grown all parent tree := by
    intro root isRoot
    obtain ⟨isMember, noParent⟩ := mem_rootsOf.mp isRoot
    exact grow_grown nodup inside ⟨root, .refl, noParent⟩ isMember
      ((ncard_belowSet_le root).trans enough)
  obtain ⟨trees, grows, values, grown⟩ := exists_mapM each
  refine ⟨trees, grows, values, nodup_flatMap_nodes grown (values ▸ nodup.filter _) ?_,
    fun node => ?_, fun tree isTree => (grown tree isTree).children⟩
  · rw [values]
    exact fun first isFirst second isSecond other toFirst toSecond => toFirst.root_unique toSecond
      (mem_rootsOf.mp isFirst).2 (mem_rootsOf.mp isSecond).2
  · rw [mem_flatMap_nodes grown, values]
    constructor
    · rintro ⟨isMember, root, isRoot, below⟩
      exact ⟨isMember, root, below, (mem_rootsOf.mp isRoot).2⟩
    · rintro ⟨isMember, root, below, noParent⟩
      refine ⟨isMember, root, mem_rootsOf.mpr ⟨?_, noParent⟩, below⟩
      rcases below.cases_tail with same | ⟨child, _, isParent⟩
      · exact same ▸ isMember
      · exact (inside isParent).2

end Grow

end Relational
