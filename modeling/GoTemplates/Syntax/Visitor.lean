import GoTemplates.Proofs.Syntax.WalkOrder

/-! # Visiting a tree with callbacks

A visitor walks a node and everything below it in source order, with two callbacks. The
one called before a node's children answers whether to go on into them, to pass over them,
or to stop the whole walk; the one called after them answers whether to stop. A node whose
children were passed over gets no call after them, and a stop ends the walk at once; the
walk then reports that it did not complete. The callbacks may keep state, which the walk
threads through them in the order of the calls.

The walk recurses on the child table: a child's subtree has fewer nodes than its parent's
(`Node.size_lt_of_mem_children`).
-/

namespace GoTemplates.Syntax

open Children

/-! ## The size of a subtree -/

/-- A child's walk is shorter than its parent's. -/
theorem Node.visits_length_lt_of_mem_children {N : Node} {q : Place × Node}
    (hq : q ∈ N.children) (d : Nat) (p : Place) :
    (q.2.visits (d + 1) q.1).length < (N.visits d p).length := by
  obtain ⟨v, hv, -⟩ := N.visits_preorder d p
  have hpart : (q.2.visits (d + 1) q.1).length ≤
      (N.children.flatMap fun q => q.2.visits (d + 1) q.1).length := by
    rw [List.flatMap_def]
    exact (List.sublist_flatten_of_mem
      (List.mem_map_of_mem (f := fun q : Place × Node => q.2.visits (d + 1) q.1) hq)).length_le
  rw [hv, List.length_cons]
  omega

/-- A walk lists as many nodes at every depth and place. -/
theorem Node.visits_length_eq (N : Node) (d d' : Nat) (p p' : Place) :
    (N.visits d p).length = (N.visits d' p').length := by
  -- on the length of the walk, which is longer than each child's
  suffices h : ∀ n (N : Node) d p, (N.visits d p).length ≤ n →
      ∀ d' p', (N.visits d p).length = (N.visits d' p').length from
    h _ N d p (Nat.le_refl _) d' p'
  intro n
  induction n with
  | zero =>
    intro N d p hlen
    obtain ⟨v, hv, -⟩ := N.visits_preorder d p
    simp [hv] at hlen
  | succ n ih =>
    intro N d p hlen d' p'
    obtain ⟨v, hv, -⟩ := N.visits_preorder d p
    obtain ⟨v', hv', -⟩ := N.visits_preorder d' p'
    rw [hv, hv', List.length_cons, List.length_cons, List.length_flatMap, List.length_flatMap]
    congr 2
    refine List.map_congr_left fun q hq => ih q.2 (d + 1) q.1 ?_ (d' + 1) q.1
    have hlt := N.visits_length_lt_of_mem_children hq d p
    omega

/-- The number of nodes of a subtree. -/
def Node.size (N : Node) : Nat := (N.visits 0 (.one .root)).length

theorem Node.size_lt_of_mem_children {N : Node} {q : Place × Node} (hq : q ∈ N.children) :
    q.2.size < N.size := by
  rw [Node.size, Node.size, q.2.visits_length_eq 0 1 (.one .root) q.1]
  exact N.visits_length_lt_of_mem_children hq 0 (.one .root)

/-! ## The walk -/

/-- What a callback tells the walk to do next. -/
inductive VisitControl where
  /-- Go on, into the node's children after the call before them. -/
  | continue_
  /-- From the call before the children: pass over them, and make no call after them. -/
  | skipChildren
  /-- Abandon the whole walk. -/
  | stop
  deriving DecidableEq, Repr

/-- Where a node hangs: its parent, none at the start of a walk, and its place there. -/
structure WalkCursor where
  parent : Option Node
  place : Place

/-- The cursor of the node a walk starts at. -/
def WalkCursor.root : WalkCursor := ⟨none, .one .root⟩

/-- The two callbacks of a walk, over the state they keep. -/
structure Visitor (σ : Type) where
  pre : WalkCursor → Node → StateM σ VisitControl
  post : WalkCursor → Node → StateM σ VisitControl

/-- The walk below a node: the call before its children, then, unless that passes over
them or stops, the walk of each child in the order of the child table, then the call
after them. A stop fails the walk. -/
def Node.walk {σ : Type} (v : Visitor σ) (c : WalkCursor) (N : Node) :
    ExceptT Unit (StateM σ) Unit := do
  match ← (v.pre c N : StateM σ VisitControl) with
  | .skipChildren => pure ()
  | .stop => throw ()
  | .continue_ =>
    N.children.attach.forM fun x => x.1.2.walk v ⟨some N, x.1.1⟩
    if (← (v.post c N : StateM σ VisitControl)) = .stop then throw ()
termination_by N.size
decreasing_by exact Node.size_lt_of_mem_children x.2

/-- Walks a node and everything below it; false when a callback stopped the walk. -/
def visit {σ : Type} (v : Visitor σ) (root : Node) : StateM σ Bool := do
  return (← (root.walk v .root).run).toBool

/-- A walk with a callback before the children only. -/
def visitPre {σ : Type} (pre : WalkCursor → Node → StateM σ VisitControl) (root : Node) :
    StateM σ Bool :=
  visit ⟨pre, fun _ _ => pure .continue_⟩ root

end GoTemplates.Syntax
