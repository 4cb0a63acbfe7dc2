import GoTemplates.Syntax.Visitor

/-! # A visit makes the calls of a tour, left to right

Below a node a visit could make one call before and one after each node of the subtree:
the node's call before its children, the calls below each child in the order of the child
table, then the node's call after its children (`Node.tour`). The calls before the
children come in the pre-order of the child table, the enumeration of a file.

The visit is the left-to-right run of that tour (`runTour`). A call before a node's
children that answers `skipChildren` passes over the calls below the node, those deeper
than it, and the node's own call after its children; a stop ends the run, which fails; the
other answers of a call after the children change nothing. The recursion of the walk with
its early exit and this flat run agree on every tree and every pair of callbacks, whatever
state they keep (`Node.runTour_tour_append`).

When the callbacks answer by the node alone, the visit fails exactly when a stop occurs at
a node of the pruned pre-order enumeration, the one without the descendants of the nodes
answered `skipChildren` (`visit_eq_false_iff`). Main statement: `visit_makes_tour_calls`.
-/

namespace GoTemplates.Syntax

open Children

variable {σ : Type}

/-! ## Tours -/

/-- A call of a callback: before or after a node's children, at the node's depth. -/
inductive Call where
  | pre (depth : Nat) (c : WalkCursor) (N : Node)
  | post (depth : Nat) (c : WalkCursor) (N : Node)

/-- The depth of the node a call is made at. -/
def Call.depth : Call → Nat
  | .pre d .. | .post d .. => d

/-- The depth, place and kind of the node of a call before its children. -/
def Call.preStep? : Call → Option (Nat × Place × NodeKind)
  | .pre d c N => some (d, c.place, N.kind)
  | .post .. => none

/-- The calls a visit below a node could make, in order: the call before the node's
children, the calls below each child in the order of the child table, one level deeper,
and the call after the children. -/
def Node.tour (d : Nat) (c : WalkCursor) (N : Node) : List Call :=
  .pre d c N ::
    ((N.children.attach.flatMap fun x => x.1.2.tour (d + 1) ⟨some N, x.1.1⟩) ++ [.post d c N])
termination_by N.size
decreasing_by exact Node.size_lt_of_mem_children x.2

/-- The calls after those below a node at depth `d` and the node's own call after its
children, in a run where the node's calls come first: the ones deeper than the node are
passed over, and then one more. -/
def skipBelow (d : Nat) (cs : List Call) : List Call :=
  (cs.dropWhile fun x => d < x.depth).drop 1

theorem length_skipBelow_le (d : Nat) (cs : List Call) : (skipBelow d cs).length ≤ cs.length := by
  have := (List.dropWhile_suffix (fun x : Call => decide (d < x.depth)) (l := cs)).length_le
  rw [skipBelow, List.length_drop]
  omega

/-- Runs the callbacks along calls from the left. A call before a node's children that
answers `skipChildren` passes over the calls after it that are deeper than its node, and
then one more, the node's call after its children; a stop fails the run at once; the call
after the children goes on unless it answers `stop`. -/
def runTour (v : Visitor σ) (cs : List Call) : ExceptT Unit (StateM σ) Unit :=
  match cs with
  | [] => pure ()
  | .pre d c N :: cs => do
    match ← (v.pre c N : StateM σ VisitControl) with
    | .continue_ => runTour v cs
    | .skipChildren => runTour v (skipBelow d cs)
    | .stop => throw ()
  | .post _ c N :: cs => do
    if (← (v.post c N : StateM σ VisitControl)) = .stop then throw ()
    runTour v cs
termination_by cs.length
decreasing_by
  · exact Nat.lt_succ_self _
  · exact Nat.lt_succ_of_le (length_skipBelow_le d cs)
  · exact Nat.lt_succ_self _

/-- The calls below a node's children, deeper than the node. -/
def Node.childTours (d : Nat) (N : Node) : List Call :=
  N.children.flatMap fun q => q.2.tour (d + 1) ⟨some N, q.1⟩

theorem Node.tour_eq (d : Nat) (c : WalkCursor) (N : Node) :
    N.tour d c = .pre d c N :: (N.childTours d ++ [.post d c N]) := by
  rw [Node.tour, Node.childTours,
    List.flatMap_subtype (g := fun q => q.2.tour (d + 1) ⟨some N, q.1⟩) (fun _ _ => rfl),
    List.unattach_attach]

/-! ## Depths along a tour -/

/-- Every call of a tour is at the depth of its node or deeper. -/
theorem Node.le_depth_of_mem_tour (N : Node) (d : Nat) (c : WalkCursor) :
    ∀ x ∈ N.tour d c, d ≤ x.depth := by
  -- on the size of the subtree
  induction hs : N.size using Nat.strongRecOn generalizing N d c with
  | _ n ih =>
    intro x hx
    rw [N.tour_eq, List.mem_cons, List.mem_append, List.mem_singleton] at hx
    rcases hx with rfl | hx | rfl
    · exact Nat.le_refl _
    · obtain ⟨q, hq, hx⟩ := List.mem_flatMap.mp hx
      have := ih _ (hs ▸ Node.size_lt_of_mem_children hq) q.2 (d + 1) _ rfl x hx
      omega
    · exact Nat.le_refl _

theorem Node.lt_depth_of_mem_childTours (N : Node) (d : Nat) :
    ∀ x ∈ N.childTours d, d < x.depth := by
  intro x hx
  obtain ⟨q, -, hx⟩ := List.mem_flatMap.mp hx
  exact q.2.le_depth_of_mem_tour (d + 1) _ x hx

/-- Passing over the calls deeper than a node, and one more, leaves exactly the calls
after the node's tour. -/
theorem Node.skip_tour (N : Node) (d : Nat) (c : WalkCursor) (rest : List Call) :
    skipBelow d (N.childTours d ++ .post d c N :: rest) = rest := by
  rw [skipBelow, List.dropWhile_append_of_pos (fun x hx => by simpa using N.lt_depth_of_mem_childTours d x hx),
    List.dropWhile_cons_of_neg (by simp [Call.depth])]
  rfl

/-! ## The walk is the run of its tour -/

/-- A loop over the members of a list with their proofs of membership, which it does not
use, is the loop over the list. -/
theorem forM_attach_eq {m : Type → Type} [Monad m] [LawfulMonad m] {α : Type} (l : List α)
    (f : α → m PUnit) : (l.attach.forM fun x => f x.1) = l.forM f := by
  have h := List.forM_map (m := m) (l := l.attach) (g := Subtype.val) (f := f)
  rw [List.attach_map_subtype_val] at h
  exact h.symm

theorem Node.walk_eq (v : Visitor σ) (c : WalkCursor) (N : Node) :
    N.walk v c = (do
      match ← (v.pre c N : StateM σ VisitControl) with
      | .skipChildren => pure ()
      | .stop => throw ()
      | .continue_ =>
        N.children.forM fun q => q.2.walk v ⟨some N, q.1⟩
        if (← (v.post c N : StateM σ VisitControl)) = .stop then throw ()) := by
  rw [Node.walk]
  congr 1
  funext r
  cases r
  · rw [forM_attach_eq N.children fun q => q.2.walk v ⟨some N, q.1⟩]
  · rfl
  · rfl

theorem runTour_pre (v : Visitor σ) (d : Nat) (c : WalkCursor) (N : Node) (cs : List Call) :
    runTour v (.pre d c N :: cs) = (do
      match ← (v.pre c N : StateM σ VisitControl) with
      | .continue_ => runTour v cs
      | .skipChildren => runTour v (skipBelow d cs)
      | .stop => throw ()) := by
  rw [runTour]

theorem runTour_post (v : Visitor σ) (d : Nat) (c : WalkCursor) (N : Node) (cs : List Call) :
    runTour v (.post d c N :: cs) = (do
      if (← (v.post c N : StateM σ VisitControl)) = .stop then throw ()
      runTour v cs) := by
  rw [runTour]

/-- Running the tours of some children in turn is walking them in turn, when each child's
tour runs as its walk. -/
theorem runTour_flatMap_append (v : Visitor σ) (N : Node) (d : Nat) (l : List (Place × Node))
    (hl : ∀ q ∈ l, ∀ rest, runTour v (q.2.tour (d + 1) ⟨some N, q.1⟩ ++ rest) =
      q.2.walk v ⟨some N, q.1⟩ >>= fun _ => runTour v rest)
    (rest : List Call) :
    runTour v ((l.flatMap fun q => q.2.tour (d + 1) ⟨some N, q.1⟩) ++ rest) =
      (l.forM fun q => q.2.walk v ⟨some N, q.1⟩) >>= fun _ => runTour v rest := by
  induction l with
  | nil => simp
  | cons q l ih =>
    rw [List.flatMap_cons, List.append_assoc, hl q List.mem_cons_self,
      ih fun q' hq' => hl q' (List.mem_cons_of_mem q hq')]
    simp only [List.forM_eq_forM, List.forM_cons, bind_assoc]

/-- A walk below a node, followed by any calls, is the run of the node's tour followed by
those calls. -/
theorem Node.runTour_tour_append (v : Visitor σ) (N : Node) (d : Nat) (c : WalkCursor)
    (rest : List Call) :
    runTour v (N.tour d c ++ rest) = N.walk v c >>= fun _ => runTour v rest := by
  -- on the size of the subtree: each child's tour runs as its walk
  induction hs : N.size using Nat.strongRecOn generalizing N d c rest with
  | _ n ih =>
    have hkids : ∀ q ∈ N.children, ∀ rest,
        runTour v (q.2.tour (d + 1) ⟨some N, q.1⟩ ++ rest) =
          q.2.walk v ⟨some N, q.1⟩ >>= fun _ => runTour v rest :=
      fun q hq rest => ih _ (hs ▸ Node.size_lt_of_mem_children hq) q.2 (d + 1) _ rest rfl
    rw [N.tour_eq, List.cons_append, List.append_assoc, List.singleton_append, runTour_pre,
      N.walk_eq, bind_assoc]
    congr 1
    funext r
    cases r with
    | continue_ =>
      rw [Node.childTours, runTour_flatMap_append v N d _ hkids, bind_assoc, runTour_post]
      simp only [bind_assoc]
      congr 1
      funext u
      congr 1
      funext r
      split <;> simp
    | skipChildren => rw [N.skip_tour d c rest]; simp
    | stop => exact (ExceptT.bind_throw _).symm

/-- A visit is the run of the tour of its root. -/
theorem visit_eq_runTour (v : Visitor σ) (root : Node) :
    visit v root = (fun r => r.toBool) <$> (runTour v (root.tour 0 .root)).run := by
  have h := root.runTour_tour_append v 0 .root []
  rw [List.append_nil, runTour, bind_pure] at h
  rw [visit, h, bind_pure_comp]

/-! ## Pre-order -/

/-- The calls before the children of a tour come in the order the enumeration lists the
nodes, at the same depths, places and kinds. -/
theorem Node.tour_preSteps (N : Node) (d : Nat) (c : WalkCursor) :
    (N.tour d c).filterMap Call.preStep? =
      (N.visits d c.place).map fun w => (w.depth, w.place, w.kind) := by
  induction hs : N.size using Nat.strongRecOn generalizing N d c with
  | _ n ih =>
    obtain ⟨w, hw, hd, hp, hk⟩ := N.visits_preorder d c.place
    rw [N.tour_eq, hw, List.filterMap_cons, List.map_cons, Call.preStep?, hd, hp, hk,
      List.filterMap_append, Node.childTours, List.filterMap_flatMap, List.map_flatMap]
    simp only [List.filterMap_cons, Call.preStep?, List.filterMap_nil, List.append_nil]
    rw [List.flatMap_def, List.flatMap_def]
    congr 2
    exact List.map_congr_left fun q hq =>
      ih _ (hs ▸ Node.size_lt_of_mem_children hq) q.2 (d + 1) _ rfl

/-! ## Answers by the node alone -/

/-- The pre-order enumeration below a node, without the descendants of the nodes at which
`f` answers `skipChildren`. -/
def Node.pruned (f : WalkCursor → Node → VisitControl) (c : WalkCursor) (N : Node) :
    List (WalkCursor × Node) :=
  (c, N) :: if f c N = .skipChildren then [] else
    N.children.attach.flatMap fun x => x.1.2.pruned f ⟨some N, x.1.1⟩
termination_by N.size
decreasing_by exact Node.size_lt_of_mem_children x.2

theorem Node.pruned_eq (f : WalkCursor → Node → VisitControl) (c : WalkCursor) (N : Node) :
    N.pruned f c = (c, N) :: if f c N = .skipChildren then [] else
      N.children.flatMap fun q => q.2.pruned f ⟨some N, q.1⟩ := by
  rw [Node.pruned,
    List.flatMap_subtype (g := fun q => q.2.pruned f ⟨some N, q.1⟩) (fun _ _ => rfl),
    List.unattach_attach]

/-- A stop occurs at a node: its call before the children answers `stop`, or answers
`continue_` and its call after them answers `stop`. -/
def StopsAt (f g : WalkCursor → Node → VisitControl) (x : WalkCursor × Node) : Prop :=
  f x.1 x.2 = .stop ∨ (f x.1 x.2 = .continue_ ∧ g x.1 x.2 = .stop)

/-- Below a node that answers `continue_`, a stop in the pruned enumeration is a stop after
the node's children or a stop in the pruned enumeration of a child. -/
theorem Node.stopsAt_pruned_iff {f g : WalkCursor → Node → VisitControl} {c : WalkCursor} {N : Node}
    (hc : f c N = .continue_) :
    (∃ x ∈ N.pruned f c, StopsAt f g x) ↔
      g c N = .stop ∨ ∃ q ∈ N.children, ∃ x ∈ q.2.pruned f ⟨some N, q.1⟩, StopsAt f g x := by
  have hself : StopsAt f g (c, N) ↔ g c N = .stop := by simp [StopsAt, hc]
  rw [N.pruned_eq, if_neg (by rw [hc]; decide)]
  constructor
  · rintro ⟨x, hx, hstop⟩
    rcases List.mem_cons.mp hx with rfl | hx
    · exact .inl (hself.mp hstop)
    · obtain ⟨q, hq, hx⟩ := List.mem_flatMap.mp hx
      exact .inr ⟨q, hq, x, hx, hstop⟩
  · rintro (hpost | ⟨q, hq, x, hx, hstop⟩)
    · exact ⟨(c, N), List.mem_cons_self, hself.mpr hpost⟩
    · exact ⟨x, List.mem_cons_of_mem _ (List.mem_flatMap.mpr ⟨q, hq, hx⟩), hstop⟩

/-- A step of the state whose result is known, followed by the rest of a run. -/
theorem run_liftM_bind {α : Type} {x : StateM σ α} {s s' : σ} {a : α}
    (hx : x.run s = (a, s')) (k : α → ExceptT Unit (StateM σ) Unit) :
    ((liftM x >>= k : ExceptT Unit (StateM σ) Unit).run.run s) = (k a).run.run s' := by
  simp only [ExceptT.run_bind, ExceptT.run_liftM, bind_map_left, StateT.run_bind, hx]
  rfl

/-- A run in sequence, from a state: it fails where its first part fails, and goes on from
the state that part leaves otherwise. -/
theorem run_bind_eq {x : ExceptT Unit (StateM σ) Unit} {s : σ}
    (k : Unit → ExceptT Unit (StateM σ) Unit) :
    (x >>= k).run.run s = match x.run.run s with
      | (.ok (), s') => (k ()).run.run s'
      | (.error (), s') => (.error (), s') := by
  simp only [ExceptT.run_bind, StateT.run_bind]
  rcases x.run.run s with ⟨_ | _, s'⟩ <;> rfl

/-- Walking some children in turn fails exactly when one of them fails, when whether each
fails does not depend on the state. -/
theorem forM_fails_iff {α : Type} (l : List α) (g : α → ExceptT Unit (StateM σ) PUnit)
    (P : α → Prop) (hg : ∀ a ∈ l, ∀ s, ((g a).run.run s).1 = .error () ↔ P a) (s : σ) :
    ((l.forM g).run.run s).1 = .error () ↔ ∃ a ∈ l, P a := by
  induction l generalizing s with
  | nil => simp [List.forM_nil]
  | cons a l ih =>
    have hhead := hg a List.mem_cons_self
    have htail := ih fun a' ha' => hg a' (List.mem_cons_of_mem a ha')
    simp only [List.forM_eq_forM, List.forM_cons] at htail ⊢
    rw [run_bind_eq]
    rcases hrun : (g a).run.run s with ⟨_ | _, s'⟩
    · have hP : P a := (hhead s).mp (by rw [hrun])
      simp [hP]
    · have hP : ¬ P a := fun h => by simpa [hrun] using (hhead s).mpr h
      rw [htail s']
      simp [hP]

/-- With callbacks that answer by the node alone, a walk from any state fails exactly when a
stop occurs at a node of the pruned enumeration. -/
theorem Node.walk_fails_iff {pre post : WalkCursor → Node → StateM σ VisitControl}
    {f g : WalkCursor → Node → VisitControl} (hf : ∀ c N s, ((pre c N).run s).1 = f c N)
    (hg : ∀ c N s, ((post c N).run s).1 = g c N) (N : Node) (c : WalkCursor) (s : σ) :
    ((N.walk ⟨pre, post⟩ c).run.run s).1 = .error () ↔ ∃ x ∈ N.pruned f c, StopsAt f g x := by
  -- on the size of the subtree; the children's failures do not depend on the state
  induction hs : N.size using Nat.strongRecOn generalizing N c s with
  | _ n ih =>
    have hpre : (pre c N).run s = (f c N, ((pre c N).run s).2) := Prod.ext (hf c N s) rfl
    rw [N.walk_eq, run_liftM_bind hpre]
    cases hfc : f c N with
    | skipChildren =>
      -- the walk goes on, and the node alone is left of its pruned enumeration
      rw [N.pruned_eq, if_pos hfc]
      simp [StopsAt, hfc]
    | stop =>
      refine ⟨fun _ => ⟨(c, N), ?_, .inl hfc⟩, fun _ => rfl⟩
      rw [N.pruned_eq]
      exact List.mem_cons_self
    | continue_ =>
      have hkids := forM_fails_iff N.children (fun q => q.2.walk ⟨pre, post⟩ ⟨some N, q.1⟩)
        (fun q => ∃ x ∈ q.2.pruned f ⟨some N, q.1⟩, StopsAt f g x)
        (fun q hq s => ih _ (hs ▸ Node.size_lt_of_mem_children hq) q.2 _ s rfl)
        ((pre c N).run s).2
      rw [Node.stopsAt_pruned_iff hfc]
      dsimp only
      rw [run_bind_eq]
      rcases hrun : (N.children.forM fun q =>
          q.2.walk ⟨pre, post⟩ ⟨some N, q.1⟩).run.run ((pre c N).run s).2 with ⟨e | u, s'⟩
      · -- a child stopped the walk
        cases e
        rw [hrun] at hkids
        exact ⟨fun _ => .inr (hkids.mp rfl), fun _ => rfl⟩
      · -- the children all went on, and the call after them decides
        cases u
        rw [hrun] at hkids
        have hpost : (post c N).run s' = (g c N, ((post c N).run s').2) := Prod.ext (hg c N s') rfl
        have hnone : ¬ ∃ q ∈ N.children, ∃ x ∈ q.2.pruned f ⟨some N, q.1⟩, StopsAt f g x :=
          fun h => by cases hkids.mpr h
        dsimp only
        rw [run_liftM_bind hpost, or_iff_left hnone]
        cases g c N with
        | stop => exact ⟨fun _ => rfl, fun _ => rfl⟩
        | continue_ | skipChildren => exact ⟨fun h => (by cases h), fun h => (by cases h)⟩

/-- With callbacks that answer by the node alone, a visit returns false exactly when a stop
occurs at a node of the pruned enumeration. -/
theorem visit_eq_false_iff {pre post : WalkCursor → Node → StateM σ VisitControl}
    {f g : WalkCursor → Node → VisitControl} (hf : ∀ c N s, ((pre c N).run s).1 = f c N)
    (hg : ∀ c N s, ((post c N).run s).1 = g c N) (root : Node) (s : σ) :
    ((visit ⟨pre, post⟩ root).run s).1 = false ↔ ∃ x ∈ root.pruned f .root, StopsAt f g x := by
  rw [← root.walk_fails_iff hf hg .root s]
  show (((root.walk ⟨pre, post⟩ .root).run >>= fun r => pure r.toBool :
    StateM σ Bool).run s).1 = false ↔ _
  rw [StateT.run_bind]
  rcases (root.walk ⟨pre, post⟩ .root).run.run s with ⟨e | u, s'⟩
  · exact ⟨fun _ => rfl, fun _ => rfl⟩
  · exact ⟨fun h => Bool.noConfusion (show true = false from h), fun h => by cases h⟩

/-- With a call before the children that answers by the node alone, a visit with that call
only returns false exactly when it answers `stop` at a node of the pruned enumeration. -/
theorem visitPre_eq_false_iff {pre : WalkCursor → Node → StateM σ VisitControl}
    {f : WalkCursor → Node → VisitControl} (hf : ∀ c N s, ((pre c N).run s).1 = f c N)
    (root : Node) (s : σ) :
    ((visitPre pre root).run s).1 = false ↔ ∃ x ∈ root.pruned f .root, f x.1 x.2 = .stop := by
  have hstops : ∀ x, StopsAt f (fun _ _ => .continue_) x ↔ f x.1 x.2 = .stop := by
    simp [StopsAt]
  rw [visitPre, visit_eq_false_iff hf (g := fun _ _ => .continue_) (fun _ _ _ => rfl)]
  simp only [hstops]

/-! ## The visit -/

/-- A visit makes the calls of its root's tour from the left, as `runTour` makes them, for
every pair of callbacks and every state they keep: below every node the walk, with its
recursion and early exit, is the run of the node's tour, and the visit returns whether the
run of the root's tour completes. The tour's calls before the children come in the
pre-order of the enumeration. When the callbacks answer by the node alone, the visit
returns false exactly when a stop occurs at a node of the pruned enumeration, and a visit
with only the call before the children exactly when that call answers `stop` at one. -/
theorem visit_makes_tour_calls (v : Visitor σ) (root : Node) :
    (∀ (N : Node) (d : Nat) (c : WalkCursor) (rest : List Call),
      runTour v (N.tour d c ++ rest) = N.walk v c >>= fun _ => runTour v rest) ∧
    visit v root = (fun r => r.toBool) <$> (runTour v (root.tour 0 .root)).run ∧
    (root.tour 0 .root).filterMap Call.preStep? =
      (root.visits 0 (.one .root)).map (fun w => (w.depth, w.place, w.kind)) ∧
    (∀ f g : WalkCursor → Node → VisitControl, (∀ c N s, ((v.pre c N).run s).1 = f c N) →
      (∀ c N s, ((v.post c N).run s).1 = g c N) →
      ∀ s, ((visit v root).run s).1 = false ↔ ∃ x ∈ root.pruned f .root, StopsAt f g x) ∧
    ∀ (pre : WalkCursor → Node → StateM σ VisitControl) (f : WalkCursor → Node → VisitControl),
      (∀ c N s, ((pre c N).run s).1 = f c N) →
      ∀ s, ((visitPre pre root).run s).1 = false ↔
        ∃ x ∈ root.pruned f .root, f x.1 x.2 = .stop :=
  ⟨fun N d c rest => N.runTour_tour_append v d c rest, visit_eq_runTour v root,
    root.tour_preSteps 0 .root, fun _ _ hf hg s => visit_eq_false_iff hf hg root s,
    fun _ _ hf s => visitPre_eq_false_iff hf root s⟩

end GoTemplates.Syntax
