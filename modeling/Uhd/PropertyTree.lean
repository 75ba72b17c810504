import Mathlib.Data.List.Sort
import Mathlib.Data.List.Dedup
import Mathlib.Data.String.Basic

/-! # The property tree

Modelled from the spec: `property_tree` is not part of the source here, only the calls
`usrp1_impl` makes to it, so this is the tree of the spec's sections 3, 4.1 and 7,
with the operations the device code uses. A path is its list of segments. A node keeps
the type it was created with, its current value, and its coercers, subscribers and
publisher as callback labels. Each value carries the tag of its type, which `set` checks
against the node's. What a coercer computes, and which subscriber calls fail, are given
to the tree as its `Hooks`. The subscriber calls a `set` makes are appended to the tree's
call log; one that fails stops the calls after it and surfaces as `HardwareWriteError`,
with the value stored and the calls before it left in place.
-/

namespace Uhd.PropertyTree

abbrev Path := List String

/-- Modelled from the spec: the tree errors of its section 7. -/
inductive TreeError
  | alreadyExists (path : Path)
  | notFound (path : Path)
  | typeMismatch (path : Path)
  | alreadyPublished (path : Path)
  | notInitialized (path : Path)
  | hardwareWriteError (path : Path)
deriving DecidableEq, Repr

/-- Modelled from the spec: a node of value type `T`. -/
structure Node (T V C : Type) where
  type : T
  current : Option V
  coercers : List C
  subscribers : List C
  publisher : Option C
deriving DecidableEq, Repr

/-- Modelled from the spec: at most one node per path, and the subscriber calls made
so far with the value each was given. -/
structure Tree (T V C : Type) where
  nodes : List (Path × Node T V C)
  paths_nodup : (nodes.map Prod.fst).Nodup
  calls : List (C × V)

/-- Modelled from the spec: what can be done to an existing node. -/
inductive Action (T V C : Type)
  | access (type : T)
  | set (value : V)
  | coerce (cb : C)
  | subscribe (cb : C)
  | publish (cb : C)
deriving DecidableEq, Repr

/-- Modelled from the spec: what the tree is told of the world outside it: the type tag
each value carries, what each coercer computes, and which subscriber calls fail. -/
structure Hooks (T V C : Type) where
  typeOf : V → T
  coercion : C → V → V
  fails : C → V → Bool

variable {T V C : Type}

/-- Whether every call of a list returns. -/
def Hooks.callsReturn (hooks : Hooks T V C) (calls : List (C × V)) : Bool :=
  calls.all fun c => !hooks.fails c.1 c.2

/-- The calls of a list up to the first that fails, that one included: those a `set` makes
before a failing subscriber stops it. -/
def Hooks.callsMade (hooks : Hooks T V C) : List (C × V) → List (C × V)
  | [] => []
  | c :: rest => if hooks.fails c.1 c.2 then [c] else c :: hooks.callsMade rest

@[simp] theorem Hooks.callsReturn_append (hooks : Hooks T V C) (l l' : List (C × V)) :
    hooks.callsReturn (l ++ l') = (hooks.callsReturn l && hooks.callsReturn l') :=
  List.all_append

theorem Hooks.callsMade_of_callsReturn (hooks : Hooks T V C) :
    ∀ {calls : List (C × V)}, hooks.callsReturn calls = true → hooks.callsMade calls = calls
  | [], _ => rfl
  | c :: rest, h => by
      simp only [callsReturn, List.all_cons, Bool.and_eq_true, Bool.not_eq_true'] at h
      simp [callsMade, h.1, callsMade_of_callsReturn hooks h.2]

namespace Tree

def empty : Tree T V C :=
  ⟨[], List.nodup_nil, []⟩

def node? (t : Tree T V C) (path : Path) : Option (Node T V C) :=
  t.nodes.lookup path

def paths (t : Tree T V C) : List Path :=
  t.nodes.map Prod.fst

theorem ext {t u : Tree T V C} (hn : t.nodes = u.nodes) (hc : t.calls = u.calls) : t = u := by
  cases t
  cases u
  cases hn
  cases hc
  rfl

theorem not_mem_paths_of_node?_eq_none {t : Tree T V C} {path : Path} (h : t.node? path = none) :
    path ∉ t.paths := by
  simp only [node?, List.lookup_eq_none_iff, bne_iff_ne, ne_eq] at h
  simp only [paths, List.mem_map, not_exists, not_and]
  exact fun p hp hfst => h p hp hfst.symm

/-- A fresh node at the end. -/
def push (t : Tree T V C) (path : Path) (node : Node T V C) (h : t.node? path = none) :
    Tree T V C :=
  ⟨t.nodes ++ [(path, node)], by
    simpa [List.concat_eq_append] using
      (t.paths_nodup).concat (not_mem_paths_of_node?_eq_none h), t.calls⟩

/-- The node at `path` replaced by `f` of it, and calls appended to the log. -/
def modify (t : Tree T V C) (path : Path) (f : Node T V C → Node T V C) (calls : List (C × V)) :
    Tree T V C :=
  ⟨t.nodes.map (fun e => if e.1 = path then (e.1, f e.2) else e), by
    have h : Prod.fst ∘ (fun e : Path × Node T V C => if e.1 = path then (e.1, f e.2) else e) =
        Prod.fst := by
      funext e
      simp only [Function.comp]
      split <;> rfl
    simpa [List.map_map, h] using t.paths_nodup, t.calls ++ calls⟩

end Tree

def Node.fresh (type : T) : Node T V C :=
  ⟨type, none, [], [], none⟩

/-- Modelled from the spec: what an action does to a node, and the subscriber calls it
makes. `set` runs the coercers in order, stores the result, then calls every subscriber
with it; `coerce`, `subscribe` and `publish` register their callback. -/
def Action.apply (coercion : C → V → V) (node : Node T V C) :
    Action T V C → Node T V C × List (C × V)
  | .access _ => (node, [])
  | .set value =>
      let value' := node.coercers.foldl (fun v cb => coercion cb v) value
      ({ node with current := some value' }, node.subscribers.map (·, value'))
  | .coerce cb => ({ node with coercers := node.coercers ++ [cb] }, [])
  | .subscribe cb => ({ node with subscribers := node.subscribers ++ [cb] }, [])
  | .publish cb => ({ node with publisher := some cb }, [])

/-- Modelled from the spec: the checks an action makes: `access` or `set` of another type,
and a second `publish`, fail. -/
def Action.check [DecidableEq T] (typeOf : V → T) (path : Path) (node : Node T V C) :
    Action T V C → Except TreeError Unit
  | .access type => if node.type = type then .ok () else .error (.typeMismatch path)
  | .set value => if typeOf value = node.type then .ok () else .error (.typeMismatch path)
  | .publish _ => if node.publisher.isSome then .error (.alreadyPublished path) else .ok ()
  | _ => .ok ()

/-- The actions of a chain in order, from `node`. -/
def Action.applyAll (coercion : C → V → V) : Node T V C → List (Action T V C) → Node T V C × List (C × V)
  | node, [] => (node, [])
  | node, a :: rest =>
      let step := a.apply coercion node
      let tail := Action.applyAll coercion step.1 rest
      (tail.1, step.2 ++ tail.2)

/-- Whether a chain passes its checks on a node of type `type`: every `access` and `set`
is of that type, and `publish` happens at most once, and not at all once there is a
publisher. -/
def Action.chainOk [DecidableEq T] (typeOf : V → T) (type : T) :
    Bool → List (Action T V C) → Bool
  | _, [] => true
  | published, .access type' :: rest => type' = type && chainOk typeOf type published rest
  | published, .set value :: rest => typeOf value = type && chainOk typeOf type published rest
  | published, .publish _ :: rest => !published && chainOk typeOf type true rest
  | published, _ :: rest => chainOk typeOf type published rest

/-- `create<T>(path)` and the calls chained on the property it returns. -/
structure Block (T V C : Type) where
  path : Path
  type : T
  actions : List (Action T V C)

/-- The node a block leaves, and the subscriber calls it makes. -/
def Block.run (coercion : C → V → V) (b : Block T V C) : Node T V C × List (C × V) :=
  Action.applyAll coercion (Node.fresh b.type) b.actions

namespace Tree

variable [DecidableEq T]

/-- Modelled from the spec: `create<T>(path)`: a fresh node; on an existing path a no-op
when the type agrees and `AlreadyExists` otherwise. -/
def create (t : Tree T V C) (path : Path) (type : T) : Except TreeError (Tree T V C) :=
  match h : t.node? path with
  | none => .ok (t.push path (Node.fresh type) h)
  | some node => if node.type = type then .ok t else .error (.alreadyExists path)

/-- Modelled from the spec: an action on the node at `path`, which must exist; it fails on
a check, and on a subscriber call that fails. -/
def act (hooks : Hooks T V C) (t : Tree T V C) (path : Path) (a : Action T V C) :
    Except TreeError (Tree T V C) :=
  match t.node? path with
  | none => .error (.notFound path)
  | some node => do
      a.check hooks.typeOf path node
      if hooks.callsReturn (a.apply hooks.coercion node).2 then
        pure (t.modify path (fun n => (a.apply hooks.coercion n).1) (a.apply hooks.coercion node).2)
      else .error (.hardwareWriteError path)

/-- Modelled from the spec: `access<T>(path)`, the handle of an existing node of type
`type`. -/
def access (t : Tree T V C) (path : Path) (type : T) : Except TreeError (Tree T V C) :=
  match t.node? path with
  | none => .error (.notFound path)
  | some node => if node.type = type then .ok t else .error (.typeMismatch path)

/-- Modelled from the spec: `set(path, value)` as the device code makes it, where any
failure is an exception that ends the caller. -/
def set (hooks : Hooks T V C) (t : Tree T V C) (path : Path) (value : V) :
    Except TreeError (Tree T V C) :=
  t.act hooks path (.set value)

/-- Modelled from the spec: the calls chained on the property at `path`. -/
def actAll (hooks : Hooks T V C) (path : Path) :
    Tree T V C → List (Action T V C) → Except TreeError (Tree T V C)
  | t, [] => .ok t
  | t, a :: rest => do
      let t ← t.act hooks path a
      actAll hooks path t rest

/-- Modelled from the spec: one block, the `create` and then its chain. -/
def runBlock (hooks : Hooks T V C) (t : Tree T V C) (b : Block T V C) :
    Except TreeError (Tree T V C) := do
  let t ← t.create b.path b.type
  actAll hooks b.path t b.actions

/-- Blocks one after the other. -/
def runBlocks (hooks : Hooks T V C) : Tree T V C → List (Block T V C) → Except TreeError (Tree T V C)
  | t, [] => .ok t
  | t, b :: rest => do
      let t ← t.runBlock hooks b
      runBlocks hooks t rest

end Tree

/-- Modelled from the spec: `list(path)`, the next segment of every path under `path`,
once each, in lexicographic order. -/
def Tree.list (t : Tree T V C) (path : Path) : List String :=
  (t.paths.filterMap fun q => if path.isPrefixOf q then q[path.length]? else none).dedup.insertionSort
    (· ≤ ·)

/-! ## Frame lemmas -/

namespace Tree

theorem node?_eq_none_iff {t : Tree T V C} {path : Path} : t.node? path = none ↔ path ∉ t.paths := by
  simp only [node?, List.lookup_eq_none_iff, bne_iff_ne, ne_eq, paths, List.mem_map, not_exists,
    not_and]
  exact ⟨fun h p hp hfst => h p hp hfst.symm, fun h p hp hfst => h p hp hfst.symm⟩

private theorem lookup_map_modify (l : List (Path × Node T V C)) (path q : Path)
    (f : Node T V C → Node T V C) :
    (l.map fun e => if e.1 = path then (e.1, f e.2) else e).lookup q =
      if q = path then (l.lookup q).map f else l.lookup q := by
  induction l with
  | nil => split <;> rfl
  | cons e rest ih =>
      obtain ⟨k, n⟩ := e
      by_cases hq : q = k
      · subst hq
        by_cases hk : q = path <;> simp [List.lookup_cons, hk]
      · have hne : (q == k) = false := beq_eq_false_iff_ne.mpr hq
        by_cases hk : k = path
        · subst hk
          simp [List.lookup_cons, hne, hq, ih]
        · simp [List.lookup_cons, hk, hne, ih]

@[simp] theorem node?_modify (t : Tree T V C) (path q : Path) (f : Node T V C → Node T V C)
    (calls : List (C × V)) :
    (t.modify path f calls).node? q = if q = path then (t.node? q).map f else t.node? q :=
  lookup_map_modify t.nodes path q f

@[simp] theorem calls_modify (t : Tree T V C) (path : Path) (f : Node T V C → Node T V C)
    (calls : List (C × V)) : (t.modify path f calls).calls = t.calls ++ calls :=
  rfl

theorem modify_modify (t : Tree T V C) (path : Path) (f g : Node T V C → Node T V C)
    (c d : List (C × V)) : (t.modify path f c).modify path g d = t.modify path (g ∘ f) (c ++ d) := by
  apply ext
  · simp only [modify, List.map_map]
    congr 1
    funext e
    by_cases h : e.1 = path <;> simp [h]
  · simp [List.append_assoc]

theorem modify_id (t : Tree T V C) (path : Path) : t.modify path (fun n => n) [] = t := by
  apply ext
  · simp only [modify]
    conv => rhs; rw [← List.map_id t.nodes]
    congr 1
    funext e
    split <;> rfl
  · simp

theorem nodes_modify_push (t : Tree T V C) (path : Path) (node : Node T V C)
    (h : t.node? path = none) (f : Node T V C → Node T V C) (calls : List (C × V)) :
    ((t.push path node h).modify path f calls).nodes = t.nodes ++ [(path, f node)] := by
  have hfresh := node?_eq_none_iff.mp h
  have hmap : t.nodes.map (fun e => if e.1 = path then (e.1, f e.2) else e) = t.nodes := by
    conv => rhs; rw [← List.map_id t.nodes]
    apply List.map_congr_left
    intro e he
    have : e.1 ≠ path := fun heq => hfresh (heq ▸ List.mem_map_of_mem Prod.fst he)
    simp [this]
  simp [modify, push, hmap]

@[simp] theorem calls_push (t : Tree T V C) (path : Path) (node : Node T V C)
    (h : t.node? path = none) : (t.push path node h).calls = t.calls :=
  rfl

@[simp] theorem node?_push_self (t : Tree T V C) (path : Path) (node : Node T V C)
    (h : t.node? path = none) : (t.push path node h).node? path = some node := by
  simp [push, node?, List.lookup_append, show t.nodes.lookup path = none from h]

end Tree

/-! ## Running blocks -/

@[simp] theorem Action.apply_type (coercion : C → V → V) (node : Node T V C) (a : Action T V C) :
    (a.apply coercion node).1.type = node.type := by
  cases a <;> rfl

theorem Action.applyAll_cons (coercion : C → V → V) (node : Node T V C) (a : Action T V C)
    (rest : List (Action T V C)) :
    Action.applyAll coercion node (a :: rest) =
      ((Action.applyAll coercion (a.apply coercion node).1 rest).1,
        (a.apply coercion node).2 ++ (Action.applyAll coercion (a.apply coercion node).1 rest).2) :=
  rfl

@[simp] theorem Action.applyAll_type (coercion : C → V → V) :
    ∀ (node : Node T V C) (actions : List (Action T V C)),
      (Action.applyAll coercion node actions).1.type = node.type
  | _, [] => rfl
  | node, a :: rest => by
      rw [Action.applyAll_cons, Action.applyAll_type coercion _ rest, Action.apply_type]

@[simp] theorem Block.run_type (coercion : C → V → V) (b : Block T V C) :
    (b.run coercion).1.type = b.type :=
  Action.applyAll_type coercion _ b.actions

namespace Tree

variable [DecidableEq T]

theorem act_of_check (hooks : Hooks T V C) {t : Tree T V C} {path : Path} {node : Node T V C}
    (h : t.node? path = some node) {a : Action T V C} (hc : a.check hooks.typeOf path node = .ok ())
    (hr : hooks.callsReturn (a.apply hooks.coercion node).2 = true) :
    t.act hooks path a =
      .ok (t.modify path (fun n => (a.apply hooks.coercion n).1) (a.apply hooks.coercion node).2) := by
  simp only [act, h, hc, hr, if_true]
  rfl

/-- A chain that passes its checks, and whose subscriber calls all return, runs to the end,
leaving the node it computes. -/
theorem actAll_of_chainOk (hooks : Hooks T V C) (path : Path) :
    ∀ (actions : List (Action T V C)) (t : Tree T V C) (node : Node T V C),
      t.node? path = some node →
      Action.chainOk hooks.typeOf node.type node.publisher.isSome actions = true →
      hooks.callsReturn (Action.applyAll hooks.coercion node actions).2 = true →
      t.actAll hooks path actions =
        .ok (t.modify path (fun n => (Action.applyAll hooks.coercion n actions).1)
          (Action.applyAll hooks.coercion node actions).2)
  | [], t, _, _, _, _ => by simp [actAll, Action.applyAll, modify_id]
  | a :: rest, t, node, h, hok, hret => by
      rw [Action.applyAll_cons, Hooks.callsReturn_append, Bool.and_eq_true] at hret
      have hstep : a.check hooks.typeOf path node = .ok () ∧
          Action.chainOk hooks.typeOf node.type (a.apply hooks.coercion node).1.publisher.isSome
            rest = true := by
        cases a <;> simp only [Action.chainOk, Bool.and_eq_true, decide_eq_true_eq,
          Bool.not_eq_true'] at hok <;> simp [Action.check, Action.apply, hok, eq_comm]
      have hnode : (t.modify path (fun n => (a.apply hooks.coercion n).1)
          (a.apply hooks.coercion node).2).node? path = some (a.apply hooks.coercion node).1 := by
        simp [h]
      rw [actAll, act_of_check hooks h hstep.1 hret.1]
      simp only [bind, Except.bind]
      rw [actAll_of_chainOk hooks path rest _ _ hnode
        (by simpa only [Action.apply_type] using hstep.2) hret.2, modify_modify]
      rfl

theorem create_of_fresh {t : Tree T V C} {path : Path} (type : T) (h : t.node? path = none) :
    t.create path type = .ok (t.push path (Node.fresh type) h) := by
  unfold create
  split
  · rfl
  · simp_all

/-- A block on a fresh path, with a chain that passes its checks and subscriber calls that
return, adds exactly its node. -/
theorem runBlock_of_fresh (hooks : Hooks T V C) {t : Tree T V C} {b : Block T V C}
    (h : t.node? b.path = none) (hok : Action.chainOk hooks.typeOf b.type false b.actions = true)
    (hret : hooks.callsReturn (b.run hooks.coercion).2 = true) :
    t.runBlock hooks b =
      .ok ((t.push b.path (Node.fresh b.type) h).modify b.path
        (fun n => (Action.applyAll hooks.coercion n b.actions).1) (b.run hooks.coercion).2) := by
  rw [runBlock, create_of_fresh b.type h]
  exact actAll_of_chainOk hooks b.path b.actions _ _ (node?_push_self _ _ _ h) hok hret

/-- Blocks on distinct fresh paths, each with a chain that passes its checks and subscriber
calls that return, run without error and add their nodes in order. -/
theorem runBlocks_of_fresh (hooks : Hooks T V C) :
    ∀ (bs : List (Block T V C)) (t : Tree T V C),
      (∀ b ∈ bs, b.path ∉ t.paths) → (bs.map Block.path).Nodup →
      (∀ b ∈ bs, Action.chainOk hooks.typeOf b.type false b.actions = true) →
      (∀ b ∈ bs, hooks.callsReturn (b.run hooks.coercion).2 = true) →
      ∃ t', t.runBlocks hooks bs = .ok t' ∧
        t'.nodes = t.nodes ++ bs.map (fun b => (b.path, (b.run hooks.coercion).1)) ∧
        t'.calls = t.calls ++ (bs.map fun b => (b.run hooks.coercion).2).flatten
  | [], t, _, _, _, _ => ⟨t, rfl, by simp, by simp⟩
  | b :: rest, t, hfresh, hnodup, hok, hret => by
      have hb : t.node? b.path = none :=
        node?_eq_none_iff.mpr (hfresh b (List.mem_cons_self b rest))
      set t₁ := (t.push b.path (Node.fresh b.type) hb).modify b.path
        (fun n => (Action.applyAll hooks.coercion n b.actions).1) (b.run hooks.coercion).2 with ht₁
      have hnodes : t₁.nodes = t.nodes ++ [(b.path, (b.run hooks.coercion).1)] :=
        nodes_modify_push _ _ _ hb _ _
      rw [List.map_cons, List.nodup_cons] at hnodup
      have hfresh₁ : ∀ b' ∈ rest, b'.path ∉ t₁.paths := by
        intro b' hb' hmem
        simp only [paths, hnodes, List.map_append, List.map_cons, List.map_nil, List.mem_append,
          List.mem_singleton] at hmem
        rcases hmem with hmem | hmem
        · exact hfresh b' (List.mem_cons_of_mem b hb') hmem
        · exact hnodup.1 (hmem ▸ List.mem_map_of_mem Block.path hb')
      obtain ⟨t', hrun, hn', hc'⟩ := runBlocks_of_fresh hooks rest t₁ hfresh₁ hnodup.2
        (fun b' hb' => hok b' (List.mem_cons_of_mem b hb'))
        (fun b' hb' => hret b' (List.mem_cons_of_mem b hb'))
      refine ⟨t', ?_, ?_, ?_⟩
      · rw [runBlocks, runBlock_of_fresh hooks hb (hok b (List.mem_cons_self b rest))
          (hret b (List.mem_cons_self b rest))]
        exact hrun
      · rw [hn', hnodes]
        simp
      · rw [hc', ht₁]
        simp [Block.run, List.append_assoc]

theorem runBlocks_append (hooks : Hooks T V C) :
    ∀ (bs bs' : List (Block T V C)) (t : Tree T V C),
      t.runBlocks hooks (bs ++ bs') = (t.runBlocks hooks bs).bind (·.runBlocks hooks bs')
  | [], _, _ => rfl
  | b :: bs, bs', t => by
      simp only [List.cons_append, runBlocks]
      cases t.runBlock hooks b with
      | error e => rfl
      | ok t => exact runBlocks_append hooks bs bs' t

theorem access_of_node? {t : Tree T V C} {path : Path} {node : Node T V C}
    (h : t.node? path = some node) {type : T} (ht : node.type = type) :
    t.access path type = .ok t := by
  simp [access, h, ht]

/-- What a `set` of the device code does at an existing node: a value of another type
fails with `TypeMismatch`, a subscriber call that fails with `HardwareWriteError`, and
otherwise the value is stored and the subscribers called. -/
theorem set_eq (hooks : Hooks T V C) {t : Tree T V C} {path : Path} {node : Node T V C}
    (h : t.node? path = some node) (value : V) :
    t.set hooks path value =
      if hooks.typeOf value = node.type then
        if hooks.callsReturn ((Action.set value).apply hooks.coercion node).2 then
          .ok (t.modify path (fun n => ((Action.set value).apply hooks.coercion n).1)
            ((Action.set value).apply hooks.coercion node).2)
        else .error (.hardwareWriteError path)
      else .error (.typeMismatch path) := by
  by_cases ht : hooks.typeOf value = node.type <;>
    simp only [set, act, h, Action.check, ht, if_true, if_false] <;> rfl

theorem set_of_node?_eq_none (hooks : Hooks T V C) {t : Tree T V C} {path : Path}
    (h : t.node? path = none) (value : V) : t.set hooks path value = .error (.notFound path) := by
  simp [set, act, h]

end Tree

@[simp] theorem Action.apply_set_set (coercion : C → V → V) (node : Node T V C) (v w : V) :
    ((Action.set w).apply coercion ((Action.set v).apply coercion node).1).1 =
      ((Action.set w).apply coercion node).1 :=
  rfl

@[simp] theorem Action.apply_set_coercers (coercion : C → V → V) (node : Node T V C) (value : V) :
    ((Action.set value).apply coercion node).1.coercers = node.coercers :=
  rfl

@[simp] theorem Action.apply_set_subscribers (coercion : C → V → V) (node : Node T V C)
    (value : V) : ((Action.set value).apply coercion node).1.subscribers = node.subscribers :=
  rfl

/-! ## Subtrees -/

/-- Modelled from the spec: a block of the view `subtree(root)`, the same chain at
`root ++ path`. -/
def Block.rebase (root : Path) (b : Block T V C) : Block T V C :=
  { b with path := root ++ b.path }

@[simp] theorem Block.rebase_path (root : Path) (b : Block T V C) : (b.rebase root).path = root ++ b.path :=
  rfl

@[simp] theorem Block.rebase_type (root : Path) (b : Block T V C) : (b.rebase root).type = b.type :=
  rfl

@[simp] theorem Block.rebase_actions (root : Path) (b : Block T V C) :
    (b.rebase root).actions = b.actions :=
  rfl

@[simp] theorem Block.run_rebase (coercion : C → V → V) (root : Path) (b : Block T V C) :
    (b.rebase root).run coercion = b.run coercion :=
  rfl

/-- Groups of paths told apart by their segment at index `k`, with no repeat in any group,
have no repeat. -/
theorem nodup_flatMap_of_getElem? {ι : Type} {keys : List ι} (k : Nat) (seg : ι → String)
    (f : ι → List Path) (hkeys : (keys.map seg).Nodup) (hf : ∀ i ∈ keys, (f i).Nodup)
    (hseg : ∀ i ∈ keys, ∀ p ∈ f i, p[k]? = some (seg i)) : (keys.flatMap f).Nodup := by
  refine List.nodup_flatMap.mpr ⟨hf, (List.pairwise_map.mp hkeys).imp_of_mem ?_⟩
  intro i j hi hj hne p hp hp'
  exact hne (Option.some.inj ((hseg i hi p hp).symm.trans (hseg j hj p hp')))

/-! ## Node maps

Post-init only sets values of nodes that exist, so the trees it passes through are the
same paths with other nodes; these lemmas read such a tree back. -/

namespace Tree

private theorem lookup_map_snd (l : List (Path × Node T V C)) (f : Path × Node T V C → Node T V C)
    (q : Path) : (l.map fun e => (e.1, f e)).lookup q = (l.lookup q).map fun n => f (q, n) := by
  induction l with
  | nil => rfl
  | cons e rest ih =>
      obtain ⟨k, n⟩ := e
      by_cases hq : q = k
      · subst hq
        simp
      · simp [List.lookup_cons, beq_eq_false_iff_ne.mpr hq, ih]

theorem node?_of_nodes_eq_map {t u : Tree T V C} {f : Path × Node T V C → Node T V C}
    (h : u.nodes = t.nodes.map fun e => (e.1, f e)) (q : Path) :
    u.node? q = (t.node? q).map fun n => f (q, n) := by
  rw [node?, h]
  exact lookup_map_snd t.nodes f q

theorem paths_of_nodes_eq_map {t u : Tree T V C} {f : Path × Node T V C → Node T V C}
    (h : u.nodes = t.nodes.map fun e => (e.1, f e)) : u.paths = t.paths := by
  simp [paths, h, Function.comp_def]

theorem nodes_modify (t : Tree T V C) (path : Path) (f : Node T V C → Node T V C)
    (calls : List (C × V)) :
    (t.modify path f calls).nodes = t.nodes.map fun e => (e.1, if e.1 = path then f e.2 else e.2) := by
  simp only [modify]
  congr 1
  funext e
  split <;> rfl

private theorem lookup_of_mem {l : List (Path × Node T V C)} (hl : (l.map Prod.fst).Nodup)
    {q : Path} {n : Node T V C} (h : (q, n) ∈ l) : l.lookup q = some n := by
  induction l with
  | nil => cases h
  | cons e rest ih =>
      obtain ⟨k, m⟩ := e
      rw [List.map_cons, List.nodup_cons] at hl
      rcases List.mem_cons.mp h with he | he
      · cases he
        simp
      · have hq : q ≠ k := by
          rintro rfl
          exact hl.1 (List.mem_map_of_mem Prod.fst he : (q, n).1 ∈ _)
        simp [List.lookup_cons, beq_eq_false_iff_ne.mpr hq, ih hl.2 he]

theorem node?_of_mem {t : Tree T V C} {q : Path} {n : Node T V C} (h : (q, n) ∈ t.nodes) :
    t.node? q = some n :=
  lookup_of_mem t.paths_nodup h

theorem modify_congr {t : Tree T V C} {path : Path} {f g : Node T V C → Node T V C}
    (h : ∀ n, t.node? path = some n → f n = g n) (calls : List (C × V)) :
    t.modify path f calls = t.modify path g calls := by
  refine ext ?_ rfl
  rw [nodes_modify, nodes_modify]
  refine List.map_congr_left fun e he => ?_
  by_cases hp : e.1 = path
  · simp only [hp, if_true, h e.2 (hp ▸ node?_of_mem he)]
  · simp only [hp, if_false]

end Tree

theorem list_of_paths_eq {t u : Tree T V C} (h : u.paths = t.paths) (path : Path) :
    u.list path = t.list path := by
  simp only [Tree.list, h]

theorem mem_list {t : Tree T V C} {path : Path} {name : String} :
    name ∈ t.list path ↔ ∃ q ∈ t.paths, path.isPrefixOf q = true ∧ q[path.length]? = some name := by
  simp [Tree.list, List.mem_insertionSort, List.mem_dedup, List.mem_filterMap]

/-! ## A caller's writes

What callers do with the tree once bring-up is over: `set` calls one after the other. A
caller sees every failure and goes on, so a write reports its error next to the tree it
leaves: unchanged after `NotFound` or `TypeMismatch`, and with the value stored and the
calls made so far after `HardwareWriteError`, which the spec does not roll back. -/

section Writes

variable [DecidableEq T] (hooks : Hooks T V C)

/-- A node once `value` is written to it: stored, as its coercers make it, when it is of
the node's type. -/
def Node.afterWrite (value : V) (n : Node T V C) : Node T V C :=
  if hooks.typeOf value = n.type then ((Action.set value).apply hooks.coercion n).1 else n

/-- The subscriber calls a write of `value` makes at a node. -/
def Node.writeCalls (value : V) (n : Node T V C) : List (C × V) :=
  if hooks.typeOf value = n.type then hooks.callsMade ((Action.set value).apply hooks.coercion n).2
  else []

/-- The error a write of `value` to a node at `path` reports, if any. -/
def Node.writeError (path : Path) (value : V) (n : Node T V C) : Option TreeError :=
  if hooks.typeOf value = n.type then
    if hooks.callsReturn ((Action.set value).apply hooks.coercion n).2 then none
    else some (.hardwareWriteError path)
  else some (.typeMismatch path)

/-- Modelled from the spec: `set(path, value)` as a caller sees it, the tree it leaves and
the error it reports. -/
def Tree.write (t : Tree T V C) (path : Path) (value : V) : Tree T V C × Option TreeError :=
  match t.node? path with
  | none => (t, some (.notFound path))
  | some node =>
      (t.modify path (Node.afterWrite hooks value) (node.writeCalls hooks value),
        node.writeError hooks path value)

/-- Modelled from the spec: `set` calls in order, each reporting its error, the calls after
a failed one still made. -/
def Tree.setEach : Tree T V C → List (Path × V) → Tree T V C × List TreeError
  | t, [] => (t, [])
  | t, (path, value) :: rest =>
      let r := t.write hooks path value
      let s := Tree.setEach r.1 rest
      (s.1, r.2.toList ++ s.2)

/-- A node once a run of writes is over: each write to `path` written to it in turn. -/
def Node.afterWrites (path : Path) : List (Path × V) → Node T V C → Node T V C
  | [], n => n
  | (p, v) :: rest, n => Node.afterWrites path rest (if path = p then n.afterWrite hooks v else n)

/-- The last value of type `type` a run of writes gives `path`. -/
def lastWrite (type : T) (path : Path) : List (Path × V) → Option V
  | [] => none
  | (p, v) :: rest =>
      (lastWrite type path rest).or (if p = path ∧ hooks.typeOf v = type then some v else none)

section NodeFrame

variable (value : V) (n : Node T V C)

@[simp] theorem Node.afterWrite_type : (n.afterWrite hooks value).type = n.type := by
  unfold Node.afterWrite; split <;> rfl

@[simp] theorem Node.afterWrite_publisher : (n.afterWrite hooks value).publisher = n.publisher := by
  unfold Node.afterWrite; split <;> rfl

@[simp] theorem Node.afterWrite_coercers : (n.afterWrite hooks value).coercers = n.coercers := by
  unfold Node.afterWrite; split <;> rfl

@[simp] theorem Node.writeCalls_afterWrite (w : V) :
    (n.afterWrite hooks value).writeCalls hooks w = n.writeCalls hooks w := by
  unfold Node.afterWrite; split <;> rfl

@[simp] theorem Node.writeError_afterWrite (path : Path) (w : V) :
    (n.afterWrite hooks value).writeError hooks path w = n.writeError hooks path w := by
  unfold Node.afterWrite; split <;> rfl

end NodeFrame

/-- A write where the device code's `set` would succeed is that `set`; elsewhere it reports
the error that `set` raises. -/
theorem Tree.set_eq_write (t : Tree T V C) (path : Path) (value : V) :
    t.set hooks path value =
      match t.write hooks path value with
      | (t', none) => .ok t'
      | (_, some e) => .error e := by
  cases h : t.node? path with
  | none => simp [write, h, set_of_node?_eq_none hooks h]
  | some node =>
      rw [set_eq hooks h, write, h]
      by_cases ht : hooks.typeOf value = node.type
      · by_cases hr : hooks.callsReturn ((Action.set value).apply hooks.coercion node).2 = true
        · simp only [ht, hr, if_true, Node.writeError, Node.writeCalls,
            hooks.callsMade_of_callsReturn hr]
          exact congrArg Except.ok (modify_congr (fun n hn => by
            cases h.symm.trans hn
            simp [Node.afterWrite, ht]) _)
        · simp [ht, hr, Node.writeError]
      · simp [ht, Node.writeError]

/-- A run of writes, read off the tree it starts from: each node ends with every write to
its path written to it in turn; each write makes the subscriber calls, and reports the
error, that it would make on that tree, and a write to a path the tree does not hold fails
with `NotFound`. -/
theorem Tree.setEach_eq :
    ∀ (writes : List (Path × V)) (t : Tree T V C),
      (t.setEach hooks writes).1.nodes =
          t.nodes.map (fun e => (e.1, e.2.afterWrites hooks e.1 writes)) ∧
        (t.setEach hooks writes).1.calls = t.calls ++ writes.flatMap (fun w =>
          ((t.node? w.1).map (·.writeCalls hooks w.2)).getD []) ∧
        (t.setEach hooks writes).2 = writes.filterMap (fun w =>
          ((t.node? w.1).map (·.writeError hooks w.1 w.2)).getD (some (.notFound w.1)))
  | [], t => ⟨by simp [setEach, Node.afterWrites], by simp [setEach], by simp [setEach]⟩
  | (p, v) :: rest, t => by
      cases hp : t.node? p with
      | none =>
          have hpaths : p ∉ t.paths := node?_eq_none_iff.mp hp
          obtain ⟨hn, hc, he⟩ := Tree.setEach_eq rest t
          simp only [setEach, write, hp]
          refine ⟨?_, by simp [hc, hp], by simp [he, hp]⟩
          rw [hn]
          refine List.map_congr_left fun e he' => ?_
          have hne : e.1 ≠ p := fun h => hpaths (h ▸ List.mem_map_of_mem Prod.fst he')
          simp [Node.afterWrites, hne]
      | some node =>
          obtain ⟨hn, hc, he⟩ := Tree.setEach_eq rest
            (t.modify p (Node.afterWrite hooks v) (node.writeCalls hooks v))
          -- what a later write makes and reports is what it would on `t`
          have hkeep : ∀ {β : Type} (g : Node T V C → β), (∀ n, g (n.afterWrite hooks v) = g n) →
              ∀ q, ((t.modify p (Node.afterWrite hooks v) (node.writeCalls hooks v)).node? q).map g =
                (t.node? q).map g := by
            intro β g hg q
            rw [node?_modify]
            split <;> simp [Option.map_map, Function.comp_def, hg]
          simp only [setEach, write, hp]
          refine ⟨?_, by simp [hc, hkeep, hp, -node?_modify],
            by cases hw : node.writeError hooks p v <;> simp [he, hkeep, hp, hw, -node?_modify]⟩
          rw [hn, nodes_modify, List.map_map]
          rfl

/-- A run of writes leaves a node as the last write of its type to its path sets it. -/
theorem Node.afterWrites_eq (path : Path) :
    ∀ (writes : List (Path × V)) (n : Node T V C),
      n.afterWrites hooks path writes =
        match lastWrite hooks n.type path writes with
        | some v => ((Action.set v).apply hooks.coercion n).1
        | none => n
  | [], n => rfl
  | (p, v) :: rest, n => by
      rw [Node.afterWrites, Node.afterWrites_eq path rest]
      have htype : (if path = p then n.afterWrite hooks v else n).type = n.type := by
        split <;> simp
      simp only [htype, lastWrite]
      cases lastWrite hooks n.type path rest with
      | some w =>
          simp only [Option.or_some]
          unfold Node.afterWrite
          split_ifs <;> rfl
      | none =>
          by_cases hpp : path = p <;> by_cases ht : hooks.typeOf v = n.type <;>
            simp [Node.afterWrite, hpp, ht, eq_comm]

end Writes

/-! ## Well-typed trees

The type check of `set` makes it an invariant of the tree that every node holds, if
anything, a value of its own type, as long as coercers return a value of the type they
are given: every operation keeps it, and so does any run of writes. -/

/-- A node holds, if anything, a value of its own type. -/
def Node.WellTyped (typeOf : V → T) (n : Node T V C) : Prop :=
  ∀ v ∈ n.current, typeOf v = n.type

/-- Every node holds, if anything, a value of its own type. -/
def Tree.WellTyped (typeOf : V → T) (t : Tree T V C) : Prop :=
  ∀ e ∈ t.nodes, e.2.WellTyped typeOf

/-- Coercers return a value of the type they are given. -/
def Hooks.KeepsTypes (hooks : Hooks T V C) : Prop :=
  ∀ cb v, hooks.typeOf (hooks.coercion cb v) = hooks.typeOf v

instance [DecidableEq T] (typeOf : V → T) (n : Node T V C) : Decidable (n.WellTyped typeOf) :=
  inferInstanceAs (Decidable (∀ v ∈ n.current, typeOf v = n.type))

instance [DecidableEq T] (typeOf : V → T) (t : Tree T V C) : Decidable (t.WellTyped typeOf) :=
  inferInstanceAs (Decidable (∀ e ∈ t.nodes, e.2.WellTyped typeOf))

theorem bind_eq_ok {ε α β : Type} {x : Except ε α} {f : α → Except ε β} {b : β}
    (h : x >>= f = .ok b) : ∃ a, x = .ok a ∧ f a = .ok b := by
  cases x with
  | error e => cases h
  | ok a => exact ⟨a, rfl, h⟩

theorem ok_of_mapError {ε ε' α : Type} {x : Except ε α} {f : ε → ε'} {b : α}
    (h : x.mapError f = .ok b) : x = .ok b := by
  cases x with
  | error e => cases h
  | ok a => cases h; rfl

theorem Tree.mem_nodes_of_node? {t : Tree T V C} {path : Path} {n : Node T V C}
    (h : t.node? path = some n) : (path, n) ∈ t.nodes := by
  obtain ⟨l₁, l₂, heq, -⟩ := List.lookup_eq_some_iff.mp h
  rw [heq]
  exact List.mem_append_right _ (List.mem_cons_self _ _)

theorem Tree.WellTyped.node? {typeOf : V → T} {t : Tree T V C} (ht : t.WellTyped typeOf)
    {path : Path} {n : Node T V C} (h : t.node? path = some n) : n.WellTyped typeOf :=
  ht _ (Tree.mem_nodes_of_node? h)

theorem Tree.wellTyped_empty (typeOf : V → T) : (Tree.empty : Tree T V C).WellTyped typeOf :=
  fun _ h => nomatch h

theorem Tree.wellTyped_push {typeOf : V → T} {t : Tree T V C} (ht : t.WellTyped typeOf)
    {path : Path} {node : Node T V C} (hn : node.WellTyped typeOf) (h : t.node? path = none) :
    (t.push path node h).WellTyped typeOf := by
  intro e he
  rcases List.mem_append.mp he with he | he
  · exact ht e he
  · rw [List.mem_singleton.mp he]
    exact hn

/-- `modify` keeps a tree well typed when its function keeps the node it rewrites so. -/
theorem Tree.wellTyped_modify {typeOf : V → T} {t : Tree T V C} (ht : t.WellTyped typeOf)
    {path : Path} {f : Node T V C → Node T V C}
    (hf : ∀ n, t.node? path = some n → (f n).WellTyped typeOf) (calls : List (C × V)) :
    (t.modify path f calls).WellTyped typeOf := by
  intro e he
  rw [Tree.nodes_modify, List.mem_map] at he
  obtain ⟨e, he, rfl⟩ := he
  by_cases hp : e.1 = path
  · simp only [hp, if_true]
    exact hf e.2 (hp ▸ Tree.node?_of_mem (show (e.1, e.2) ∈ t.nodes from he))
  · simp only [hp, if_false]
    exact ht e he

section WellTyped

variable (hooks : Hooks T V C)

theorem Hooks.typeOf_foldl (hk : hooks.KeepsTypes) (cbs : List C) (value : V) :
    hooks.typeOf (cbs.foldl (fun v cb => hooks.coercion cb v) value) = hooks.typeOf value := by
  induction cbs generalizing value with
  | nil => rfl
  | cons cb rest ih => rw [List.foldl_cons, ih, hk]

/-- An action keeps a node well typed when what it sets is of the node's type. -/
theorem Action.wellTyped_apply (hk : hooks.KeepsTypes) {n : Node T V C}
    (hn : n.WellTyped hooks.typeOf) {a : Action T V C}
    (ha : ∀ value, a = .set value → hooks.typeOf value = n.type) :
    (a.apply hooks.coercion n).1.WellTyped hooks.typeOf := by
  cases a with
  | set value =>
      intro v hv
      simp only [Action.apply, Option.mem_def, Option.some.injEq] at hv
      rw [← hv, hooks.typeOf_foldl hk, ha value rfl, Action.apply_type]
  | _ => exact hn

theorem Node.wellTyped_afterWrite [DecidableEq T] (hk : hooks.KeepsTypes) {n : Node T V C}
    (hn : n.WellTyped hooks.typeOf) (value : V) :
    (n.afterWrite hooks value).WellTyped hooks.typeOf := by
  unfold Node.afterWrite
  split
  · exact Action.wellTyped_apply hooks hk hn fun _ h => by cases h; assumption
  · exact hn

/-! ### One operation -/

namespace Tree

variable [DecidableEq T] {hooks} {t t' : Tree T V C} {path : Path}

theorem wellTyped_create (ht : t.WellTyped hooks.typeOf) {type : T}
    (h : t.create path type = .ok t') : t'.WellTyped hooks.typeOf := by
  unfold create at h
  split at h
  · cases h
    exact wellTyped_push ht (by simp [Node.WellTyped, Node.fresh]) _
  · split at h <;> cases h
    exact ht

/-- An action passes its checks only when what it sets is of the node's type. -/
theorem wellTyped_act (hk : hooks.KeepsTypes) (ht : t.WellTyped hooks.typeOf)
    {a : Action T V C} (h : t.act hooks path a = .ok t') : t'.WellTyped hooks.typeOf := by
  unfold act at h
  split at h
  · cases h
  · rename_i node hnode
    obtain ⟨u, hc, h⟩ := bind_eq_ok h
    split at h <;> cases h
    refine wellTyped_modify ht (fun n hn => Action.wellTyped_apply hooks hk (ht.node? hn) ?_) _
    rintro value rfl
    rw [hnode, Option.some.injEq] at hn
    subst hn
    by_contra hne
    simp [Action.check, hne] at hc

theorem wellTyped_access (ht : t.WellTyped hooks.typeOf) {type : T}
    (h : t.access path type = .ok t') : t'.WellTyped hooks.typeOf := by
  unfold access at h
  split at h
  · cases h
  · split at h <;> cases h
    exact ht

theorem wellTyped_set (hk : hooks.KeepsTypes) (ht : t.WellTyped hooks.typeOf) {value : V}
    (h : t.set hooks path value = .ok t') : t'.WellTyped hooks.typeOf :=
  wellTyped_act hk ht h

theorem wellTyped_write (hk : hooks.KeepsTypes) (ht : t.WellTyped hooks.typeOf) (value : V) :
    (t.write hooks path value).1.WellTyped hooks.typeOf := by
  unfold write
  split
  · exact ht
  · exact wellTyped_modify ht (fun _ hn => Node.wellTyped_afterWrite hooks hk (ht.node? hn) value) _

/-! ### Runs -/

theorem wellTyped_actAll (hk : hooks.KeepsTypes) :
    ∀ (actions : List (Action T V C)) {t t' : Tree T V C}, t.WellTyped hooks.typeOf →
      t.actAll hooks path actions = .ok t' → t'.WellTyped hooks.typeOf
  | [], _, _, ht, h => by cases h; exact ht
  | _ :: rest, _, _, ht, h => by
      obtain ⟨u, h₁, h₂⟩ := bind_eq_ok h
      exact wellTyped_actAll hk rest (wellTyped_act hk ht h₁) h₂

theorem wellTyped_runBlocks (hk : hooks.KeepsTypes) :
    ∀ (blocks : List (Block T V C)) {t t' : Tree T V C}, t.WellTyped hooks.typeOf →
      t.runBlocks hooks blocks = .ok t' → t'.WellTyped hooks.typeOf
  | [], _, _, ht, h => by cases h; exact ht
  | b :: rest, _, _, ht, h => by
      obtain ⟨u, h₁, h₂⟩ := bind_eq_ok h
      obtain ⟨v, hc, ha⟩ := bind_eq_ok h₁
      exact wellTyped_runBlocks hk rest
        (wellTyped_actAll hk b.actions (wellTyped_create ht hc) ha) h₂

/-- Any run of writes keeps a tree well typed. -/
theorem wellTyped_setEach (hk : hooks.KeepsTypes) :
    ∀ (writes : List (Path × V)) {t : Tree T V C}, t.WellTyped hooks.typeOf →
      (t.setEach hooks writes).1.WellTyped hooks.typeOf
  | [], _, ht => ht
  | (_, value) :: rest, _, ht => wellTyped_setEach hk rest (wellTyped_write hk ht value)

end Tree

end WellTyped

/-! ## Reads -/

/-- Modelled from the spec: a node a read fails on, with neither a publisher nor a value. -/
def Node.uninitialized (node : Node T V C) : Bool :=
  node.publisher.isNone && node.current.isNone

namespace Tree

/-- Modelled from the spec: `get(path)` calls the node's publisher where it has one, and
otherwise returns its value, failing with `NotInitialized` where it has none.
`publication` is what each publisher returns. -/
def get (publication : C → V) (t : Tree T V C) (path : Path) : Except TreeError V :=
  match t.node? path with
  | none => .error (.notFound path)
  | some node =>
      match node.publisher, node.current with
      | some cb, _ => .ok (publication cb)
      | none, some v => .ok v
      | none, none => .error (.notInitialized path)

/-- A read of an existing node fails just when the node is uninitialized, and then with
`NotInitialized`. -/
theorem get_of_node? (publication : C → V) {t : Tree T V C} {path : Path} {node : Node T V C}
    (h : t.node? path = some node) :
    (node.uninitialized = true → t.get publication path = .error (.notInitialized path)) ∧
      (node.uninitialized = false → ∃ v, t.get publication path = .ok v) := by
  simp only [get, h]
  rcases node with ⟨_, _ | v, _, _, _ | cb⟩ <;> simp [Node.uninitialized]

end Tree

end Uhd.PropertyTree
