import GoTemplates.Proofs.Syntax.WalkOrder
import GoTemplates.Proofs.Specialize.Table
import GoTemplates.Proofs.Specialize.Retention
import GoTemplates.Specialize.Generate

/-! # Comments of a specialized file are rewritten once

Renaming passes the text of every comment of a retained declaration through the
replacer. The groups it reaches are those the walk of the declaration reaches, and the
doc the declaration table gives the entry: the spec's own, or the one a spec inherits
from its group. A group can be reached twice, as an entry's doc and again by the walk
when it is the declaration's own doc, and a group doc is shared by every spec of its
group. The replacer is not idempotent, so what matters is that each group printed in
the output is the original passed through the replacer exactly once.

The output of a run holds, for each retained entry in order, the entry's doc and then
every other group its declaration holds, each renamed once; it holds no other group.
A spec is printed as a declaration of its own carrying the doc it inherits, which is
printed above its keyword.
-/

namespace GoTemplates.Syntax

open Children

/-- The comment groups a walk reaches, in order. -/
def groupsOf (vs : List Visit) : List CommentGroup := vs.filterMap Visit.group

@[simp] theorem groupsOf_nil : groupsOf [] = [] := rfl

theorem groupsOf_cons (v : Visit) (vs : List Visit) :
    groupsOf (v :: vs) = v.group.toList ++ groupsOf vs := by
  cases h : v.group <;> simp [groupsOf, h]

@[simp] theorem groupsOf_append (vs ws : List Visit) :
    groupsOf (vs ++ ws) = groupsOf vs ++ groupsOf ws :=
  List.filterMap_append

theorem groupsOf_flatMap {α : Type} (l : List α) (f : α → List Visit) :
    groupsOf (l.flatMap f) = l.flatMap fun x => groupsOf (f x) := by
  induction l with
  | nil => rfl
  | cons x l ih => simp [ih]

/-! Visits other than a comment group's carry no group. -/

@[simp] theorem groupsOf_node_cons (d : Nat) (p : Place) (k : NodeKind) (vs : List Visit) :
    groupsOf (Visit.node d p k :: vs) = groupsOf vs := rfl

@[simp] theorem groupsOf_qualified_cons (d : Nat) (p : Place) (k : NodeKind) (q : Qualifier)
    (vs : List Visit) : groupsOf ({ Visit.node d p k with qualifier := q } :: vs) = groupsOf vs :=
  rfl

@[simp] theorem groupsOf_identVisit_cons (d : Nat) (p : Place) (id : Ident) (vs : List Visit) :
    groupsOf (identVisit d p id :: vs) = groupsOf vs := rfl

@[simp] theorem groupsOf_identsVisits (d : Nat) (s : Slot) (i : Nat) (ids : List Ident) :
    groupsOf (identsVisits d s i ids) = [] := by
  induction ids generalizing i with
  | nil => rfl
  | cons id ids ih => exact ih (i + 1)

@[simp] theorem groupsOf_optIdentVisits (d : Nat) (s : Slot) (o : Option Ident) :
    groupsOf (optIdentVisits d s o) = [] := by
  cases o <;> rfl

/-- A comment group's walk reaches the group itself and then only its comments. -/
@[simp] theorem groupsOf_groupVisits (d : Nat) (p : Place) (g : CommentGroup) :
    groupsOf (groupVisits d p g) = [g] := by
  suffices h : ∀ i cs, groupsOf (groupVisits.comments d i cs) = [] by
    simp only [groupVisits, groupsOf_cons, h, Option.toList_some, List.singleton_append]
  intro i cs
  induction cs generalizing i with
  | nil => rfl
  | cons c cs ih => exact ih (i + 1)

@[simp] theorem groupsOf_optGroupVisits (d : Nat) (s : Slot) (o : Option CommentGroup) :
    groupsOf (optGroupVisits d s o) = o.toList := by
  cases o <;> simp [optGroupVisits]

/-! ## The groups of a walk do not depend on where it starts -/

/-- The comment group a node is, if it is one. -/
def Node.ownGroup : Node → Option CommentGroup
  | .commentGroup g => some g
  | _ => none

/-- The first visit of a walk carries the group of the node it starts at. -/
theorem Node.visits_head_group (N : Node) (d : Nat) (p : Place) :
    (N.visits d p).head?.map Visit.group = some N.ownGroup := by
  -- records the walk matches on are opened so that its first step reduces
  cases N with
  | expr e =>
    rcases e with _ | _ | ⟨_, _, _, ⟨⟩⟩ | ⟨_, _, ⟨⟩⟩ | _ | _ | _ | _ | _ | _ | _ | _ <;> rfl
  | type t => rcases t with _ | _ | _ | _ | _ | _ | ⟨_, _, ⟨⟩⟩ | _ | _ | _ | _ <;> rfl
  | stmt st =>
    rcases st with _ | _ | _ | _ | _ | _ | _ | _ | ⟨_, ⟨⟩⟩ | ⟨_, _, _, _, ⟨⟩⟩ |
      ⟨_, _, _, ⟨⟩⟩ | _ | _ | _ <;> rfl
  | simpleStmt st => cases st <;> rfl
  | switchClause cl => cases cl <;> rfl
  | commClause cl => cases cl <;> rfl
  | spec s => cases s <;> rfl
  | interfaceElem e => cases e <;> rfl
  | signature s => obtain ⟨_, ⟨⟩, _⟩ := s; rfl
  | field f => obtain ⟨⟩ := f; rfl
  | keyedElement e => obtain ⟨⟩ := e; rfl
  | genDecl g => obtain ⟨⟩ := g; rfl
  | typeParams t => obtain ⟨⟩ := t; rfl
  | typeParamDecl t => obtain ⟨⟩ := t; rfl
  | file | funcDecl | commentGroup | comment | ident => rfl

/-- The groups a walk reaches: the node's own, then those of each child in turn. -/
theorem Node.groupsOf_visits (N : Node) (d : Nat) (p : Place) :
    groupsOf (N.visits d p) =
      N.ownGroup.toList ++ N.children.flatMap fun q => groupsOf (q.2.visits (d + 1) q.1) := by
  obtain ⟨v, hv, -, -, -⟩ := N.visits_preorder d p
  have hg : v.group = N.ownGroup := by simpa [hv] using N.visits_head_group d p
  rw [hv, groupsOf_cons, hg, groupsOf_flatMap]

/-- A walk reaches the same groups at every depth and place. -/
theorem Node.groupsOf_visits_eq (N : Node) (d d' : Nat) (p p' : Place) :
    groupsOf (N.visits d p) = groupsOf (N.visits d' p') := by
  -- on the length of the walk: a child's walk is a part of its parent's tail
  suffices h : ∀ n (N : Node) d p, (N.visits d p).length ≤ n →
      ∀ d' p', groupsOf (N.visits d p) = groupsOf (N.visits d' p') from
    h _ N d p (Nat.le_refl _) d' p'
  intro n
  induction n with
  | zero =>
    intro N d p hlen
    obtain ⟨v, hv, -⟩ := N.visits_preorder d p
    simp [hv] at hlen
  | succ n ih =>
    intro N d p hlen d' p'
    rw [N.groupsOf_visits d p, N.groupsOf_visits d' p']
    congr 1
    refine List.flatMap_congr fun q hq => ih q.2 (d + 1) q.1 ?_ (d' + 1) q.1
    obtain ⟨v, hv, -⟩ := N.visits_preorder d p
    have hpart : (q.2.visits (d + 1) q.1).length ≤
        (N.children.flatMap fun q => q.2.visits (d + 1) q.1).length := by
      rw [List.flatMap_def]
      exact (List.sublist_flatten_of_mem
        (List.mem_map_of_mem (f := fun q : Place × Node => q.2.visits (d + 1) q.1) hq)).length_le
    rw [hv, List.length_cons] at hlen
    omega

/-- Type arguments reach the same groups at every depth. -/
theorem groupsOf_typesVisits_depth (d d' : Nat) (s : Slot) (ts : List TypeExpr) :
    groupsOf (typesVisits d s 0 ts) = groupsOf (typesVisits d' s 0 ts) := by
  simp only [typesVisits_eq, groupsOf_flatMap]
  exact List.flatMap_congr fun q _ => q.2.groupsOf_visits_eq d d' q.1 q.1

theorem Spec.groupsOf_visits_eq (s : Spec) (d d' : Nat) (p p' : Place) :
    groupsOf (s.visits d p) = groupsOf (s.visits d' p') :=
  Node.groupsOf_visits_eq (.spec s) d d' p p'

theorem FuncDecl.groupsOf_visits_eq (f : FuncDecl) (d d' : Nat) (p p' : Place) :
    groupsOf (f.visits d p) = groupsOf (f.visits d' p') :=
  Node.groupsOf_visits_eq (.funcDecl f) d d' p p'

theorem TopDecl.groupsOf_visits_eq (t : TopDecl) (d d' : Nat) (p p' : Place) :
    groupsOf (t.visits d p) = groupsOf (t.visits d' p') := by
  cases t with
  | gen g => exact Node.groupsOf_visits_eq (.genDecl g) d d' p p'
  | func f => exact f.groupsOf_visits_eq d d' p p'

/-- A spec's walk reaches its doc first. -/
theorem Spec.groupsOf_visits_withDoc (s : Spec) (d : Nat) (p : Place) :
    groupsOf (s.visits d p) = s.doc.toList ++ groupsOf ((s.withDoc none).visits d p) := by
  cases s <;> simp only [Spec.visits, Spec.withDoc, Spec.doc, groupsOf_node_cons, groupsOf_append,
    groupsOf_optGroupVisits, Option.toList_none, List.nil_append, List.append_assoc]

/-- A function's walk reaches its doc first. -/
theorem FuncDecl.groupsOf_visits_withDoc (f : FuncDecl) (d : Nat) (p : Place) :
    groupsOf (f.visits d p) = f.doc.toList ++ groupsOf ({ f with doc := none }.visits d p) := by
  simp only [FuncDecl.visits, groupsOf_node_cons, groupsOf_append, groupsOf_optGroupVisits,
    Option.toList_none, List.nil_append, List.append_assoc]

/-- A file's walk reaches its doc, then the groups of each declaration in turn. -/
theorem SourceFile.groupsOf_visits (f : SourceFile) :
    groupsOf f.visits =
      f.doc.toList ++ f.decls.flatMap fun t => groupsOf (t.visits 0 (.one .root)) := by
  -- the declarations from position `k` on
  have hdecls : ∀ (ts : List TopDecl) (k : Nat),
      groupsOf ((ts.zipIdx k).flatMap fun x => x.1.visits 1 (.nth .decls x.2)) =
        ts.flatMap fun t => groupsOf (t.visits 0 (.one .root)) := by
    intro ts
    induction ts with
    | nil => intro k; rfl
    | cons t ts ih =>
      intro k
      simp only [List.zipIdx_cons, List.flatMap_cons, groupsOf_append, ih (k + 1)]
      rw [t.groupsOf_visits_eq 1 0 _ (.one .root)]
  show groupsOf (Visit.node 0 (.one .root) .file :: (optGroupVisits 1 .doc f.doc ++
    identVisit 1 (.one .name) f.name :: f.decls.zipIdx.flatMap fun x => x.1.visits 1 (.nth .decls x.2))) = _
  rw [groupsOf_node_cons, groupsOf_append, groupsOf_optGroupVisits, groupsOf_identVisit_cons,
    hdecls]

/-- Import specs with no doc and no line comment reach no group. -/
theorem groupsOf_specsVisits_of_imports (d i : Nat) (ss : List Spec)
    (h : ∀ s ∈ ss, ∃ n l, s = .import_ none n l none) : groupsOf (specsVisits d i ss) = [] := by
  induction ss generalizing i with
  | nil => rfl
  | cons s ss ih =>
    obtain ⟨n, l, rfl⟩ := h s List.mem_cons_self
    have hrest := ih (i + 1) fun s hs => h s (List.mem_cons_of_mem _ hs)
    rcases n with _ | _ | _ | _ <;>
      simp only [specsVisits, Spec.visits, groupsOf_append, groupsOf_node_cons,
        groupsOf_optGroupVisits, groupsOf_identVisit_cons, groupsOf_nil, Option.toList_none,
        List.nil_append, hrest]

end GoTemplates.Syntax

namespace GoTemplates.Syntax

open GoTemplates.Printer PrintM

/-! ## A doc comment is printed above its declaration -/

/-- The lines a doc comment is printed as: each comment on a line of its own. -/
def docText (doc : Option CommentGroup) : String :=
  String.join ((doc.toList.flatMap (·.comments)).map fun c => c.text ++ "\n")

theorem printComment_run (text : String) (st : PrintState) (hi : st.indent = 0) :
    (do w text; nl : PrintM Unit).run st =
      pure ((), { st with out := st.out ++ (text ++ "\n"), atLineStart := true }) := by
  have hpush : ∀ s : String, s.push '\n' = s ++ "\n" := fun s => String.push_eq_append _
  simp only [w, nl]
  by_cases he : text.isEmpty
  · -- an empty comment writes only its line end
    have ht : text = "" := String.isEmpty_iff.mp he
    subst ht
    simp [hpush]
  · simp [he, hpush, hi, String.append_assoc]

theorem forM_comments_run (cs : List Comment) (st : PrintState) (hi : st.indent = 0)
    (hl : st.atLineStart = true) :
    (cs.forM fun c => do w c.text; nl : PrintM Unit).run st =
      pure ((), { st with out := st.out ++ String.join (cs.map fun c => c.text ++ "\n") }) := by
  induction cs generalizing st with
  | nil => simp
  | cons c cs ih =>
    have hstep := printComment_run c.text st hi
    simp only [List.forM] at hstep ⊢
    rw [StateT.run_bind, hstep, pure_bind]
    rw [ih { st with out := st.out ++ (c.text ++ "\n"), atLineStart := true } hi rfl]
    obtain ⟨layout, out, indent, atLineStart⟩ := st
    simp only at hl
    simp [hl, String.append_assoc]

/-- At the start of an unindented line, a doc comment is written as its lines. -/
theorem printDoc_run (doc : Option CommentGroup) (st : PrintState) (hi : st.indent = 0)
    (hl : st.atLineStart = true) :
    (printDoc doc).run st = pure ((), { st with out := st.out ++ docText doc }) := by
  cases doc with
  | none => simp [printDoc, docText]
  | some g => simpa [printDoc, docText] using forM_comments_run g.comments st hi hl

/-- At the start of an unindented line, a general declaration is printed as the lines of
its doc comment, then as it would be without one. -/
theorem GenDecl.print_run_doc (g : GenDecl) (st : PrintState) (hi : st.indent = 0)
    (hl : st.atLineStart = true) :
    g.print.run st =
      ({ g with doc := none }.print).run { st with out := st.out ++ docText g.doc } := by
  obtain ⟨s, doc, kw, kind, lp, specs, rp⟩ := g
  have hnone : (printDoc none).run { st with out := st.out ++ docText doc } =
      pure ((), { st with out := st.out ++ docText doc }) := rfl
  rw [GenDecl.print.eq_1, GenDecl.print.eq_1, StateT.run_bind, StateT.run_bind,
    printDoc_run doc st hi hl, hnone]

end GoTemplates.Syntax

namespace GoTemplates.Specialize

open GoTemplates.Syntax GoTemplates.Source GoTemplates.Printer

/-! ## Renaming rewrites each group it reaches once

A replacement holds identifiers only, so a replaced reference reaches no group; every
other node is renamed child by child, each comment group through `Renaming.group`. One
lemma per function of the walk, following the recursion of the renaming. Each step is
the walk's and the renaming's own equation at that node, so a proof puts the children's
lemmas together along the shape of the walk: `MapsGroups.append` for consecutive parts,
`MapsGroups.cons` for a visit that is no comment group. -/

theorem Replacement.groupsOf_toExpr (r : Replacement) (callee : Bool) (d : Nat) (p : Place) :
    groupsOf ((r.toExpr callee).visits d p) = [] := by
  rcases r with _ | ⟨_ | _, _, _ | _⟩ <;> cases callee <;> rfl

/-- A replaced named type reaches the groups of its type arguments, one level further
down behind a pointer. -/
theorem Replacement.groupsOf_toType (r : Replacement) (lb rb : Option Span)
    (args : List TypeExpr) (d : Nat) (p : Place) :
    groupsOf ((r.toType lb args rb).visits d p) = groupsOf (typesVisits (d + 1) .args 0 args) := by
  unfold Replacement.toType
  split
  · simp only [TypeExpr.visits, groupsOf_node_cons, groupsOf_qualified_cons, groupsOf_append,
      groupsOf_optIdentVisits, groupsOf_identVisit_cons, List.nil_append]
    exact groupsOf_typesVisits_depth _ _ _ _
  · simp only [TypeExpr.visits, groupsOf_qualified_cons, groupsOf_append,
      groupsOf_optIdentVisits, groupsOf_identVisit_cons, List.nil_append]

namespace Renaming

/-- The walk `vs'` reaches the groups the walk `vs` reaches, in order, each renamed. -/
def MapsGroups (ρ : Renaming) (vs' vs : List Visit) : Prop :=
  groupsOf vs' = (groupsOf vs).map ρ.group

variable {ρ : Renaming}

theorem MapsGroups.eq {vs' vs : List Visit} (h : ρ.MapsGroups vs' vs) :
    groupsOf vs' = (groupsOf vs).map ρ.group := h

theorem MapsGroups.nil : ρ.MapsGroups [] [] := rfl

theorem MapsGroups.append {a' a b' b : List Visit} (ha : ρ.MapsGroups a' a)
    (hb : ρ.MapsGroups b' b) : ρ.MapsGroups (a' ++ b') (a ++ b) := by
  unfold MapsGroups at *
  rw [groupsOf_append, groupsOf_append, List.map_append, ha, hb]

/-- Visits that are no comment group leave the groups as they are. -/
theorem MapsGroups.cons {v' v : Visit} {a' a : List Visit} (hv' : v'.group = none)
    (hv : v.group = none) (h : ρ.MapsGroups a' a) : ρ.MapsGroups (v' :: a') (v :: a) := by
  unfold MapsGroups at *
  rw [groupsOf_cons, groupsOf_cons, hv', hv]
  exact h

theorem MapsGroups.of_nil {a' a : List Visit} (ha' : groupsOf a' = []) (ha : groupsOf a = []) :
    ρ.MapsGroups a' a := by
  unfold MapsGroups
  rw [ha', ha, List.map_nil]

theorem mapsGroups_optGroup (d : Nat) (s : Slot) (g : Option CommentGroup) :
    ρ.MapsGroups (optGroupVisits d s (ρ.optGroup g)) (optGroupVisits d s g) := by
  unfold MapsGroups
  rw [optGroup, groupsOf_optGroupVisits, groupsOf_optGroupVisits, Option.toList_map]

theorem mapsGroups_idents (d : Nat) (s : Slot) (i : Nat) (ids' ids : List Ident) :
    ρ.MapsGroups (identsVisits d s i ids') (identsVisits d s i ids) :=
  .of_nil (groupsOf_identsVisits d s i ids') (groupsOf_identsVisits d s i ids)

theorem mapsGroups_optIdent (d : Nat) (s : Slot) (o : Option Ident) :
    ρ.MapsGroups (optIdentVisits d s o) (optIdentVisits d s o) :=
  .of_nil (groupsOf_optIdentVisits d s o) (groupsOf_optIdentVisits d s o)

theorem mapsGroups_identExpr (s : Span) (id : Ident) (callee : Bool) (d : Nat) (p : Place) :
    ρ.MapsGroups ((ρ.identExpr s id callee).visits d p) ((Expr.ident s id).visits d p) := by
  refine .of_nil ?_ rfl
  unfold identExpr
  split
  · exact Replacement.groupsOf_toExpr _ _ d p
  · rfl

mutual

theorem mapsGroups_expr : ∀ (e : Expr) (d : Nat) (p : Place),
    ρ.MapsGroups ((ρ.expr e).visits d p) (e.visits d p)
  | .ident s id, d, p => mapsGroups_identExpr s id false d p
  | .basicLit .., _, _ => rfl
  | .funcLit _ _ sig ⟨_, ss, _⟩, _, _ =>
    .cons rfl rfl ((mapsGroups_signature sig _ _).append (mapsGroups_stmts ss _ _ _))
  | .compositeLit _ t ⟨_, els, _⟩, _, _ =>
    .cons rfl rfl ((mapsGroups_typeExpr t _ _).append (mapsGroups_keyedElements els _ _ _))
  | .index _ x _ args _, _, _ =>
    .cons rfl rfl ((mapsGroups_expr x _ _).append (mapsGroups_terms args _ _ _))
  | .paren _ _ x _, _, _ => .cons rfl rfl (mapsGroups_expr x _ _)
  | .selector _ x _ _, _, _ => .cons rfl rfl ((mapsGroups_expr x _ _).append (.cons rfl rfl .nil))
  | .slice _ x _ lo hi mx _, _, _ =>
    .cons rfl rfl ((((mapsGroups_expr x _ _).append (mapsGroups_optExpr lo _ _)).append
      (mapsGroups_optExpr hi _ _)).append (mapsGroups_optExpr mx _ _))
  | .typeAssert _ x _ _ t _, _, _ =>
    .cons rfl rfl ((mapsGroups_expr x _ _).append (mapsGroups_optType t _ _))
  | .call _ f _ args _ _, _, _ =>
    .cons rfl rfl ((mapsGroups_callee f _ _).append (mapsGroups_terms args _ _ _))
  | .unary _ _ _ x, _, _ => .cons rfl rfl (mapsGroups_expr x _ _)
  | .binary _ x _ _ y, _, _ => .cons rfl rfl ((mapsGroups_expr x _ _).append (mapsGroups_expr y _ _))

theorem mapsGroups_optExpr : ∀ (e : Option Expr) (d : Nat) (s : Slot),
    ρ.MapsGroups (optExprVisits d s (ρ.optExpr e)) (optExprVisits d s e)
  | none, _, _ => rfl
  | some e, d, s => mapsGroups_expr e d (.one s)

theorem mapsGroups_exprs : ∀ (es : List Expr) (d : Nat) (s : Slot) (i : Nat),
    ρ.MapsGroups (exprsVisits d s i (ρ.exprs es)) (exprsVisits d s i es)
  | [], _, _, _ => rfl
  | e :: es, _, _, _ => (mapsGroups_expr e _ _).append (mapsGroups_exprs es _ _ _)

theorem mapsGroups_term : ∀ (t : Term) (d : Nat) (p : Place),
    ρ.MapsGroups ((ρ.term t).visits d p) (t.visits d p)
  | .expr e, d, p => mapsGroups_expr e d p
  | .type t, d, p => mapsGroups_typeExpr t d p

/-- A callee that is a replaced reference reaches no group, parenthesized or not. -/
theorem mapsGroups_callee : ∀ (t : Term) (d : Nat) (p : Place),
    ρ.MapsGroups ((ρ.callee t).visits d p) (t.visits d p)
  | .expr e, d, p => by
    by_cases hident : ∃ s id, e = .ident s id
    · obtain ⟨s, id, rfl⟩ := hident
      exact mapsGroups_identExpr s id true d p
    · rw [Renaming.callee.eq_2 _ _ fun s id he => hident ⟨s, id, he⟩]
      exact mapsGroups_expr e d p
  | .type t, d, p => mapsGroups_typeExpr t d p

theorem mapsGroups_terms : ∀ (ts : List Term) (d : Nat) (s : Slot) (i : Nat),
    ρ.MapsGroups (termsVisits d s i (ρ.terms ts)) (termsVisits d s i ts)
  | [], _, _, _ => rfl
  | t :: ts, _, _, _ => (mapsGroups_term t _ _).append (mapsGroups_terms ts _ _ _)

theorem mapsGroups_typeExpr : ∀ (t : TypeExpr) (d : Nat) (p : Place),
    ρ.MapsGroups ((ρ.typeExpr t).visits d p) (t.visits d p)
  | .named s pkg name lb args rb, d, p => by
    have hargs := mapsGroups_typeExprs args (d + 1) .args 0
    -- a named type keeps its shape unless it is an unqualified reference with a replacement
    by_cases hrep : ∃ r, pkg = none ∧ ρ.lookup name.pos = some r
    · obtain ⟨r, rfl, hl⟩ := hrep
      rw [Renaming.typeExpr.eq_1 _ _ _ _ _ _ r hl]
      split
      · exact .cons rfl rfl ((mapsGroups_optIdent _ _ _).append (.cons rfl rfl hargs))
      · unfold MapsGroups
        rw [Replacement.groupsOf_toType]
        exact hargs
    · rw [Renaming.typeExpr.eq_2 _ _ _ _ _ _ pkg fun r hpkg hl => hrep ⟨r, hpkg, hl⟩]
      exact .cons rfl rfl ((mapsGroups_optIdent _ _ _).append (.cons rfl rfl hargs))
  | .pointer _ _ e, _, _ => .cons rfl rfl (mapsGroups_typeExpr e _ _)
  | .array _ _ len _ e, _, _ =>
    .cons rfl rfl ((mapsGroups_arrayLength len _).append (mapsGroups_typeExpr e _ _))
  | .slice _ _ _ e, _, _ => .cons rfl rfl (mapsGroups_typeExpr e _ _)
  | .map _ _ _ k _ v, _, _ =>
    .cons rfl rfl ((mapsGroups_typeExpr k _ _).append (mapsGroups_typeExpr v _ _))
  | .chan _ _ _ _ e, _, _ => .cons rfl rfl (mapsGroups_typeExpr e _ _)
  | .struct _ _ ⟨_, fs, _⟩, _, _ => .cons rfl rfl (mapsGroups_fields fs _ _ _)
  | .interface _ _ _ elems _, _, _ => .cons rfl rfl (mapsGroups_interfaceElems elems _ _)
  | .func _ _ sig, _, _ => .cons rfl rfl (mapsGroups_signature sig _ _)
  | .paren _ _ t _, _, _ => .cons rfl rfl (mapsGroups_typeExpr t _ _)
  | .union _ ts, _, _ => .cons rfl rfl (mapsGroups_unionTerms ts _ _)

theorem mapsGroups_typeExprs : ∀ (ts : List TypeExpr) (d : Nat) (s : Slot) (i : Nat),
    ρ.MapsGroups (typesVisits d s i (ρ.typeExprs ts)) (typesVisits d s i ts)
  | [], _, _, _ => rfl
  | t :: ts, _, _, _ => (mapsGroups_typeExpr t _ _).append (mapsGroups_typeExprs ts _ _ _)

theorem mapsGroups_optType : ∀ (t : Option TypeExpr) (d : Nat) (s : Slot),
    ρ.MapsGroups (optTypeVisits d s (ρ.optType t)) (optTypeVisits d s t)
  | none, _, _ => rfl
  | some t, d, s => mapsGroups_typeExpr t d (.one s)

theorem mapsGroups_arrayLength : ∀ (l : ArrayLength) (d : Nat),
    ρ.MapsGroups ((ρ.arrayLength l).visits d) (l.visits d)
  | .expr e, d => mapsGroups_expr e d (.one .len)
  | .ellipsis _, _ => rfl

theorem mapsGroups_unionTerms : ∀ (ts : List UnionTerm) (d i : Nat),
    ρ.MapsGroups (unionVisits d i (ρ.unionTerms ts)) (unionVisits d i ts)
  | [], _, _ => rfl
  | ⟨_, t⟩ :: ts, _, _ => (mapsGroups_typeExpr t _ _).append (mapsGroups_unionTerms ts _ _)

theorem mapsGroups_interfaceElem : ∀ (e : InterfaceElem) (d : Nat) (p : Place),
    ρ.MapsGroups ((ρ.interfaceElem e).visits d p) (e.visits d p)
  | .method _ sig, _, _ => .cons rfl rfl (.cons rfl rfl (mapsGroups_signature sig _ _))
  | .embed t, _, _ => .cons rfl rfl (mapsGroups_typeExpr t _ _)

theorem mapsGroups_interfaceElems : ∀ (es : List InterfaceElem) (d i : Nat),
    ρ.MapsGroups (elemsVisits d i (ρ.interfaceElems es)) (elemsVisits d i es)
  | [], _, _ => rfl
  | e :: es, _, _ => (mapsGroups_interfaceElem e _ _).append (mapsGroups_interfaceElems es _ _)

theorem mapsGroups_signature : ∀ (sig : Signature) (d : Nat) (p : Place),
    ρ.MapsGroups ((ρ.signature sig).visits d p) (sig.visits d p)
  | ⟨_, ⟨_, ps, _⟩, rs⟩, _, _ =>
    .cons rfl rfl ((mapsGroups_fields ps _ _ _).append (mapsGroups_optResults rs _))

theorem mapsGroups_optResults : ∀ (rs : Option Results) (d : Nat),
    ρ.MapsGroups (resultsVisits d (ρ.optResults rs)) (resultsVisits d rs)
  | none, _ => rfl
  | some (.params ⟨_, fs, _⟩), d => mapsGroups_fields fs d .results 0
  | some (.type t), d => mapsGroups_typeExpr t d (.one .results)

theorem mapsGroups_fields : ∀ (fs : List Field) (d : Nat) (s : Slot) (i : Nat),
    ρ.MapsGroups (fieldsVisits d s i (ρ.fields fs)) (fieldsVisits d s i fs)
  | [], _, _, _ => rfl
  | f :: fs, _, _, _ => (mapsGroups_field f _ _).append (mapsGroups_fields fs _ _ _)

/-- A field's doc and line comment are renamed with its type. -/
theorem mapsGroups_field : ∀ (f : Field) (d : Nat) (p : Place),
    ρ.MapsGroups ((ρ.field f).visits d p) (f.visits d p)
  | ⟨_, doc, names, _, t, _, cmt⟩, _, _ =>
    .cons rfl rfl ((((mapsGroups_optGroup _ _ doc).append (mapsGroups_idents _ _ _ names names)).append
      (mapsGroups_typeExpr t _ _)).append (mapsGroups_optGroup _ _ cmt))

theorem mapsGroups_keyedElements : ∀ (es : List KeyedElement) (d : Nat) (s : Slot) (i : Nat),
    ρ.MapsGroups (keyedVisits d s i (ρ.keyedElements es)) (keyedVisits d s i es)
  | [], _, _, _ => rfl
  | e :: es, _, _, _ => (mapsGroups_keyedElement e _ _).append (mapsGroups_keyedElements es _ _ _)

theorem mapsGroups_keyedElement : ∀ (e : KeyedElement) (d : Nat) (p : Place),
    ρ.MapsGroups ((ρ.keyedElement e).visits d p) (e.visits d p)
  | ⟨k, _, v⟩, _, _ => .cons rfl rfl ((mapsGroups_optElement k _).append (mapsGroups_element v _ _))

theorem mapsGroups_optElement : ∀ (k : Option Element) (d : Nat),
    ρ.MapsGroups (keyVisits d (ρ.optElement k)) (keyVisits d k)
  | none, _ => rfl
  | some e, d => mapsGroups_element e d .key

theorem mapsGroups_element : ∀ (e : Element) (d : Nat) (s : Slot),
    ρ.MapsGroups ((ρ.element e).sideVisits d s) (e.sideVisits d s)
  | .expr e, d, s => mapsGroups_expr e d (.one s)
  | .literal ⟨_, els, _⟩, d, s => mapsGroups_keyedElements els d s 0

theorem mapsGroups_stmts : ∀ (ss : List Stmt) (d : Nat) (s : Slot) (i : Nat),
    ρ.MapsGroups (stmtsVisits d s i (ρ.stmts ss)) (stmtsVisits d s i ss)
  | [], _, _, _ => rfl
  | st :: ss, _, _, _ => (mapsGroups_stmt st _ _).append (mapsGroups_stmts ss _ _ _)

theorem mapsGroups_stmt : ∀ (st : Stmt) (d : Nat) (p : Place),
    ρ.MapsGroups ((ρ.stmt st).visits d p) (st.visits d p)
  | .empty _, _, _ => rfl
  | .simple _ x, _, _ => .cons rfl rfl (mapsGroups_simpleStmt x _ _)
  | .decl _ g, _, _ => .cons rfl rfl (mapsGroups_genDecl g _ _)
  | .labeled _ _ _ st, _, _ => .cons rfl rfl (.cons rfl rfl (mapsGroups_stmt st _ _))
  | .go _ _ c, _, _ => .cons rfl rfl (mapsGroups_expr c _ _)
  | .defer _ _ c, _, _ => .cons rfl rfl (mapsGroups_expr c _ _)
  | .return_ _ _ rs, _, _ => .cons rfl rfl (mapsGroups_exprs rs _ _ _)
  | .branch _ _ _ l, _, _ => .cons rfl rfl (mapsGroups_optIdent _ _ l)
  | .block _ ⟨_, ss, _⟩, _, _ => .cons rfl rfl (mapsGroups_stmts ss _ _ _)
  | .if_ _ _ init c ⟨_, ss, _⟩ el, _, _ =>
    .cons rfl rfl ((((mapsGroups_optSimpleStmt init _ _).append (mapsGroups_expr c _ _)).append
      (mapsGroups_stmts ss _ _ _)).append (mapsGroups_optStmt el _ _))
  | .for_ _ _ h ⟨_, ss, _⟩, _, _ =>
    .cons rfl rfl ((mapsGroups_forHeader h _).append (mapsGroups_stmts ss _ _ _))
  | .switch _ _ init tag _ cs _, _, _ =>
    .cons rfl rfl (((mapsGroups_optSimpleStmt init _ _).append (mapsGroups_optExpr tag _ _)).append
      (mapsGroups_switchClauses cs _ _))
  | .typeSwitch _ _ init bind _ x _ _ _ _ cs _, _, _ =>
    .cons rfl rfl ((((mapsGroups_optSimpleStmt init _ _).append (mapsGroups_optIdent _ _ bind)).append
      (mapsGroups_expr x _ _)).append (mapsGroups_switchClauses cs _ _))
  | .select _ _ _ cs _, _, _ => .cons rfl rfl (mapsGroups_commClauses cs _ _)

theorem mapsGroups_optStmt : ∀ (st : Option Stmt) (d : Nat) (s : Slot),
    ρ.MapsGroups (optStmtVisits d s (ρ.optStmt st)) (optStmtVisits d s st)
  | none, _, _ => rfl
  | some st, d, s => mapsGroups_stmt st d (.one s)

theorem mapsGroups_optSimpleStmt : ∀ (st : Option SimpleStmt) (d : Nat) (s : Slot),
    ρ.MapsGroups (optSimpleVisits d s (ρ.optSimpleStmt st)) (optSimpleVisits d s st)
  | none, _, _ => rfl
  | some st, d, s => mapsGroups_simpleStmt st d (.one s)

theorem mapsGroups_forHeader : ∀ (h : ForHeader) (d : Nat),
    ρ.MapsGroups ((ρ.forHeader h).visits d) (h.visits d)
  | .infinite, _ => rfl
  | .cond c, d => mapsGroups_expr c d (.one .cond)
  | .clause i c p, _ =>
    ((mapsGroups_optSimpleStmt i _ _).append (mapsGroups_optExpr c _ _)).append
      (mapsGroups_optSimpleStmt p _ _)
  | .range lhs _ x, _ => (mapsGroups_optRangeLhs lhs _).append (mapsGroups_expr x _ _)

theorem mapsGroups_optRangeLhs : ∀ (lhs : Option RangeLhs) (d : Nat),
    ρ.MapsGroups (rangeLhsVisits d (ρ.optRangeLhs lhs)) (rangeLhsVisits d lhs)
  | none, _ => rfl
  | some (.define names _), d => mapsGroups_idents d .names 0 names names
  | some (.assign es _), d => mapsGroups_exprs es d .lhs 0

theorem mapsGroups_simpleStmt : ∀ (st : SimpleStmt) (d : Nat) (p : Place),
    ρ.MapsGroups ((ρ.simpleStmt st).visits d p) (st.visits d p)
  | .expr _ x, _, _ => .cons rfl rfl (mapsGroups_expr x _ _)
  | .send _ c _ v, _, _ => .cons rfl rfl ((mapsGroups_expr c _ _).append (mapsGroups_expr v _ _))
  | .incDec _ x _ _, _, _ => .cons rfl rfl (mapsGroups_expr x _ _)
  | .assign _ l _ _ r, _, _ =>
    .cons rfl rfl ((mapsGroups_exprs l _ _ _).append (mapsGroups_exprs r _ _ _))
  | .shortVarDecl _ names _ vs, _, _ =>
    .cons rfl rfl ((mapsGroups_idents _ _ _ names names).append (mapsGroups_exprs vs _ _ _))

theorem mapsGroups_switchClauses : ∀ (cs : List SwitchClause) (d i : Nat),
    ρ.MapsGroups (switchClausesVisits d i (ρ.switchClauses cs)) (switchClausesVisits d i cs)
  | [], _, _ => rfl
  | c :: cs, _, _ => (mapsGroups_switchClause c _ _).append (mapsGroups_switchClauses cs _ _)

theorem mapsGroups_switchClause : ∀ (c : SwitchClause) (d : Nat) (p : Place),
    ρ.MapsGroups ((ρ.switchClause c).visits d p) (c.visits d p)
  | .exprs _ _ items _ ss, _, _ =>
    .cons rfl rfl ((mapsGroups_exprs items _ _ _).append (mapsGroups_stmts ss _ _ _))
  | .types _ _ items _ ss, _, _ =>
    .cons rfl rfl ((mapsGroups_typeCases items _ _).append (mapsGroups_stmts ss _ _ _))

theorem mapsGroups_typeCases : ∀ (cs : List TypeCase) (d i : Nat),
    ρ.MapsGroups (typeCasesVisits d i (ρ.typeCases cs)) (typeCasesVisits d i cs)
  | [], _, _ => rfl
  | .type t :: cs, _, _ => (mapsGroups_typeExpr t _ _).append (mapsGroups_typeCases cs _ _)
  | .nil _ :: cs, d, i => mapsGroups_typeCases cs d (i + 1)

theorem mapsGroups_commClauses : ∀ (cs : List CommClause) (d i : Nat),
    ρ.MapsGroups (commClausesVisits d i (ρ.commClauses cs)) (commClausesVisits d i cs)
  | [], _, _ => rfl
  | c :: cs, _, _ => (mapsGroups_commClause c _ _).append (mapsGroups_commClauses cs _ _)

theorem mapsGroups_commClause : ∀ (c : CommClause) (d : Nat) (p : Place),
    ρ.MapsGroups ((ρ.commClause c).visits d p) (c.visits d p)
  | .send _ _ c _ v _ ss, _, _ =>
    .cons rfl rfl (((mapsGroups_expr c _ _).append (mapsGroups_expr v _ _)).append
      (mapsGroups_stmts ss _ _ _))
  | .recv _ _ lhs x _ ss, _, _ =>
    .cons rfl rfl (((mapsGroups_optRangeLhs lhs _).append (mapsGroups_expr x _ _)).append
      (mapsGroups_stmts ss _ _ _))
  | .default _ _ _ ss, _, _ => .cons rfl rfl (mapsGroups_stmts ss _ _ _)

/-- A declaration's doc is renamed with its specs. -/
theorem mapsGroups_genDecl : ∀ (g : GenDecl) (d : Nat) (p : Place),
    ρ.MapsGroups ((ρ.genDecl g).visits d p) (g.visits d p)
  | ⟨_, doc, _, _, _, specs, _⟩, _, _ =>
    .cons rfl rfl ((mapsGroups_optGroup _ _ doc).append (mapsGroups_specs specs _ _))

theorem mapsGroups_specs : ∀ (ss : List Spec) (d i : Nat),
    ρ.MapsGroups (specsVisits d i (ρ.specs ss)) (specsVisits d i ss)
  | [], _, _ => rfl
  | s :: ss, _, _ => (mapsGroups_spec s _ _).append (mapsGroups_specs ss _ _)

/-- A spec's doc and line comment are renamed with the rest of it. -/
theorem mapsGroups_spec : ∀ (s : Spec) (d : Nat) (p : Place),
    ρ.MapsGroups ((ρ.spec s).visits d p) (s.visits d p)
  | .import_ doc n _ c, _, _ => by
    rcases n with _ | _ | _ | _ <;>
      exact .cons rfl rfl (((mapsGroups_optGroup _ _ doc).append (.of_nil rfl rfl)).append
        (mapsGroups_optGroup _ _ c))
  | .value doc names t _ vs c, _, _ =>
    .cons rfl rfl (((((mapsGroups_optGroup _ _ doc).append (mapsGroups_idents _ _ _ _ names)).append
      (mapsGroups_optType t _ _)).append (mapsGroups_exprs vs _ _ _)).append
        (mapsGroups_optGroup _ _ c))
  | .type doc _ tps _ t c, _, _ =>
    .cons rfl rfl ((mapsGroups_optGroup _ _ doc).append (.cons rfl rfl
      (((mapsGroups_optTypeParams tps _).append (mapsGroups_typeExpr t _ _)).append
        (mapsGroups_optGroup _ _ c))))

theorem mapsGroups_optTypeParams : ∀ (tps : Option TypeParams) (d : Nat),
    ρ.MapsGroups (optTypeParamsVisits d (ρ.optTypeParams tps)) (optTypeParamsVisits d tps)
  | none, _ => rfl
  | some tps, d => mapsGroups_typeParams tps d (.one .typeParams)

theorem mapsGroups_typeParams : ∀ (tps : TypeParams) (d : Nat) (p : Place),
    ρ.MapsGroups ((ρ.typeParams tps).visits d p) (tps.visits d p)
  | ⟨_, _, ps, _⟩, _, _ => .cons rfl rfl (mapsGroups_typeParamDecls ps _ _)

theorem mapsGroups_typeParamDecls : ∀ (ts : List TypeParamDecl) (d i : Nat),
    ρ.MapsGroups (typeParamDeclsVisits d i (ρ.typeParamDecls ts)) (typeParamDeclsVisits d i ts)
  | [], _, _ => rfl
  | t :: ts, _, _ => (mapsGroups_typeParamDecl t _ _).append (mapsGroups_typeParamDecls ts _ _)

theorem mapsGroups_typeParamDecl : ∀ (t : TypeParamDecl) (d : Nat) (p : Place),
    ρ.MapsGroups ((ρ.typeParamDecl t).visits d p) (t.visits d p)
  | ⟨_, names, c⟩, _, _ =>
    .cons rfl rfl ((mapsGroups_idents _ _ _ names names).append (mapsGroups_typeExpr c _ _))

end

/-- A function's doc is renamed with its receiver type, signature and body. -/
theorem mapsGroups_funcDecl (f : FuncDecl) (d : Nat) (p : Place) :
    ρ.MapsGroups ((ρ.funcDecl f).visits d p) (f.visits d p) := by
  obtain ⟨_, doc, _, recv, _, tps, sig, body⟩ := f
  -- the walk's parts: doc, receiver, name, type parameters, signature, body
  have hsig := (mapsGroups_optTypeParams (ρ := ρ) tps (d + 1)).append
    (mapsGroups_signature sig (d + 1) (.one .type))
  rcases recv with _ | ⟨_, rn, rt, _⟩ <;> rcases body with _ | ⟨_, ss, _⟩
  · exact .cons rfl rfl (((mapsGroups_optGroup _ _ doc).append .nil).append
      (.cons rfl rfl (hsig.append .nil)))
  · exact .cons rfl rfl (((mapsGroups_optGroup _ _ doc).append .nil).append
      (.cons rfl rfl (hsig.append (mapsGroups_stmts ss _ _ _))))
  · exact .cons rfl rfl (((mapsGroups_optGroup _ _ doc).append
      ((mapsGroups_optIdent _ _ rn).append (mapsGroups_typeExpr rt _ _))).append
      (.cons rfl rfl (hsig.append .nil)))
  · exact .cons rfl rfl (((mapsGroups_optGroup _ _ doc).append
      ((mapsGroups_optIdent _ _ rn).append (mapsGroups_typeExpr rt _ _))).append
      (.cons rfl rfl (hsig.append (mapsGroups_stmts ss _ _ _))))

end Renaming

/-! ## The groups of a retained entry -/

/-- The doc a declaration carries itself: a spec's own, or a function's. -/
def DeclSite.ownDoc : DeclSite → Option CommentGroup
  | .spec _ s => s.doc
  | .func f => f.doc

/-- The doc the table records for a declaration: a spec's own, else its group's; a
function's own. -/
def DeclSite.tableDoc : DeclSite → Option CommentGroup
  | .spec g s => s.doc.or g.doc
  | .func f => f.doc

/-- Every group of a declaration other than its own doc, in walk order. -/
def DeclSite.innerGroups : DeclSite → List CommentGroup
  | .spec _ s => groupsOf ((s.withDoc none).visits 0 (.one .root))
  | .func f => groupsOf ({ f with doc := none }.visits 0 (.one .root))

/-- The groups renaming reaches for an entry, a group reached twice listed twice: the
entry's doc, then every group the walk of its declaration reaches. -/
def TableEntry.reachedGroups (e : TableEntry) : List CommentGroup :=
  e.doc.toList ++ groupsOf e.site.visits

/-- The groups of an entry, each once: its doc, then every other group of its
declaration. -/
def TableEntry.renamedGroups (e : TableEntry) : List CommentGroup :=
  e.doc.toList ++ e.site.innerGroups

/-- The walk of a declaration reaches its own doc, then its other groups. -/
theorem DeclSite.groupsOf_visits (site : DeclSite) :
    groupsOf site.visits = site.ownDoc.toList ++ site.innerGroups := by
  cases site with
  | spec g s => exact s.groupsOf_visits_withDoc 0 (.one .root)
  | func f => exact f.groupsOf_visits_withDoc 0 (.one .root)

/-- Every entry of a file's table carries the doc the table records for its declaration. -/
theorem DeclTable.doc_of_mem_collect {file : SourceFile} {e : TableEntry}
    (he : e ∈ (DeclTable.collect file).entries.toList) : e.doc = e.site.tableDoc := by
  rw [DeclTable.entries_collect] at he
  obtain ⟨d, -, hd⟩ := List.mem_flatMap.mp he
  rcases DeclTable.mem_declEntries hd with
    ⟨f, -, rfl⟩ | ⟨g, s, kind, first, rest, -, -, rfl⟩ <;> rfl

variable {e : TableEntry}

/-- An entry whose declaration has a doc of its own records that doc: the walk then
reaches it a second time. -/
theorem TableEntry.doc_of_ownDoc (h : e.doc = e.site.tableDoc) :
    ∀ g ∈ e.site.ownDoc, e.doc = some g := by
  intro g hg
  rw [h]
  cases hs : e.site with
  | spec gd s =>
    rw [hs] at hg
    simp only [DeclSite.ownDoc, Option.mem_def] at hg
    simp [DeclSite.tableDoc, hg]
  | func f =>
    rw [hs] at hg
    exact hg

/-- What renaming reaches for an entry is what it writes, with the declaration's own doc
reached once more before it. -/
theorem TableEntry.reachedGroups_eq (h : e.doc = e.site.tableDoc) :
    e.reachedGroups = e.site.ownDoc.toList ++ e.renamedGroups := by
  unfold reachedGroups renamedGroups
  rw [DeclSite.groupsOf_visits, ← List.append_assoc, ← List.append_assoc]
  congr 1
  cases hown : e.site.ownDoc with
  | none => simp
  | some g => simp [e.doc_of_ownDoc h g hown]

/-- A spec is written as a declaration of its own holding it alone, with the entry's doc. -/
theorem outputDecl_of_spec (ρ : Renaming) {g : GenDecl} {s : Spec} (hs : e.site = .spec g s) :
    outputDecl ρ e = .gen (freshDecl g.kind (ρ.optGroup e.doc) [ρ.spec (s.withDoc none)]) := by
  unfold outputDecl
  rw [hs]

/-- The output declaration of an entry holds its groups, each renamed once. -/
theorem groupsOf_outputDecl (ρ : Renaming) (h : e.doc = e.site.tableDoc) (d : Nat)
    (p : Place) : groupsOf ((outputDecl ρ e).visits d p) = e.renamedGroups.map ρ.group := by
  unfold TableEntry.renamedGroups
  cases hs : e.site with
  | spec g s =>
    -- the written declaration: the entry's doc, then the spec without its own
    have hmap : ρ.MapsGroups ((outputDecl ρ e).visits d p)
        (Visit.node d p .genDecl :: (optGroupVisits (d + 1) .doc e.doc ++
          ((s.withDoc none).visits (d + 1) (.nth .specs 0) ++ []))) := by
      rw [outputDecl_of_spec ρ hs]
      exact .cons rfl rfl ((Renaming.mapsGroups_optGroup _ _ _).append
        ((Renaming.mapsGroups_spec _ _ _).append .nil))
    show _ = (e.doc.toList ++ groupsOf ((s.withDoc none).visits 0 (.one .root))).map ρ.group
    rw [hmap.eq, groupsOf_node_cons, groupsOf_append, groupsOf_append, groupsOf_nil,
      List.append_nil, groupsOf_optGroupVisits,
      (s.withDoc none).groupsOf_visits_eq (d + 1) 0 _ (.one .root)]
  | func f =>
    have hdoc : e.doc = f.doc := by
      rw [h, hs]
      rfl
    have hout : outputDecl ρ e = .func (ρ.funcDecl f) := by
      unfold outputDecl
      rw [hs]
    show _ = (e.doc.toList ++ groupsOf ({ f with doc := none }.visits 0 (.one .root))).map ρ.group
    rw [hout, TopDecl.visits, (Renaming.mapsGroups_funcDecl f d p).eq, f.groupsOf_visits_withDoc,
      FuncDecl.groupsOf_visits_eq { f with doc := none } d 0 p (.one .root), hdoc]

/-- The import declaration of the output has no comments. -/
theorem groupsOf_importDecl (injected : List NewImport) (imported : List Imported) :
    ∀ t ∈ (importDecl injected imported).toList, groupsOf (t.visits 0 (.one .root)) = [] := by
  intro t ht
  unfold importDecl at ht
  dsimp only at ht
  split at ht
  · simp at ht
  · simp only [Option.toList_some, List.mem_singleton] at ht
    subst ht
    simp only [TopDecl.visits, freshDecl, GenDecl.visits, groupsOf_node_cons, groupsOf_append,
      groupsOf_optGroupVisits, Option.toList_none, List.nil_append]
    apply groupsOf_specsVisits_of_imports
    intro s hs
    simp only [List.mem_append, List.mem_map] at hs
    rcases hs with ⟨n, -, rfl⟩ | ⟨i, -, rfl⟩
    · exact ⟨_, _, rfl⟩
    · exact ⟨_, _, rfl⟩

/-- The output holds the groups of its entries, in order, each renamed once, and no other
group. -/
theorem groupsOf_assemble (ρ : Renaming) (name : Ident) (kept : List TableEntry)
    (injected : List NewImport) (imported : List Imported)
    (hdoc : ∀ e ∈ kept, e.doc = e.site.tableDoc) :
    groupsOf (assemble ρ name kept injected imported).visits =
      (kept.flatMap TableEntry.renamedGroups).map ρ.group := by
  rw [SourceFile.groupsOf_visits]
  simp only [assemble, Option.toList_none, List.nil_append, List.flatMap_append, List.flatMap_map,
    List.flatMap_eq_nil_iff.mpr (groupsOf_importDecl injected imported), List.map_flatMap]
  exact List.flatMap_congr fun e he => groupsOf_outputDecl ρ (hdoc e he) 0 (.one .root)

/-- The output declaration of a spec is a declaration of its own holding the spec alone,
printed below the lines of the doc the spec inherits, renamed. -/
theorem outputDecl_spec (ρ : Renaming) {g : GenDecl} {s : Spec} (hs : e.site = .spec g s)
    (h : e.doc = e.site.tableDoc) :
    ∃ d, outputDecl ρ e = .gen d ∧ d.specs = [ρ.spec (s.withDoc none)] ∧
      ∀ st : PrintState, st.indent = 0 → st.atLineStart = true →
        d.print.run st = ({ d with doc := none }.print).run
          { st with out := st.out ++ docText ((s.doc.or g.doc).map ρ.group) } := by
  refine ⟨_, outputDecl_of_spec ρ hs, rfl, fun st hi hl => ?_⟩
  rw [hs] at h
  rw [GenDecl.print_run_doc _ st hi hl]
  simp only [freshDecl, Renaming.optGroup, h, DeclSite.tableDoc]

end GoTemplates.Specialize
