import GoTemplates.Syntax.Children

/-! # The walk is the pre-order of the child table

The walk of a node visits the node, then each child the child table lists, in that
order, at the child's place and one level deeper: it recurses over the child table
as the walker does. The enumeration of a file is this walk from the root, so what the
enumeration reports also fixes the child table that replacement is stated over.

The walk's helpers recurse over a list from a position; each is the walk of the
children of one list slot (`walk_many`) or of one optional slot (`walk_opt`).
-/

namespace GoTemplates.Syntax

open Children

/-- The walk of a file at a depth and a place: the file, its doc, its package name and
its declarations. -/
def fileVisits (d : Nat) (p : Place) (f : SourceFile) : List Visit :=
  Visit.node d p .file :: (optGroupVisits (d + 1) .doc f.doc
    ++ identVisit (d + 1) (.one .name) f.name
      :: f.decls.zipIdx.flatMap fun (decl, i) => decl.visits (d + 1) (.nth .decls i))

/-- The walk from any node, at a depth and a place. -/
def Node.visits (d : Nat) (p : Place) : Node → List Visit
  | .file f => fileVisits d p f
  | .genDecl g => g.visits d p
  | .spec s => s.visits d p
  | .funcDecl f => f.visits d p
  | .signature s => s.visits d p
  | .field f => f.visits d p
  | .typeParams t => t.visits d p
  | .typeParamDecl t => t.visits d p
  | .stmt s => s.visits d p
  | .simpleStmt s => s.visits d p
  | .switchClause c => c.visits d p
  | .commClause c => c.visits d p
  | .expr e => e.visits d p
  | .keyedElement e => e.visits d p
  | .type t => t.visits d p
  | .interfaceElem e => e.visits d p
  | .commentGroup g => groupVisits d p g
  | .comment _ => [Visit.node d p .comment]
  | .ident id => [identVisit d p id]

section nodeVisits

variable (d : Nat) (p : Place)

@[simp] theorem Node.visits_file (f : SourceFile) :
    (Node.file f).visits d p = fileVisits d p f := rfl
@[simp] theorem Node.visits_genDecl (g : GenDecl) :
    (Node.genDecl g).visits d p = g.visits d p := rfl
@[simp] theorem Node.visits_spec (s : Spec) : (Node.spec s).visits d p = s.visits d p := rfl
@[simp] theorem Node.visits_funcDecl (f : FuncDecl) :
    (Node.funcDecl f).visits d p = f.visits d p := rfl
@[simp] theorem Node.visits_signature (s : Signature) :
    (Node.signature s).visits d p = s.visits d p := rfl
@[simp] theorem Node.visits_field (f : Field) : (Node.field f).visits d p = f.visits d p := rfl
@[simp] theorem Node.visits_typeParams (t : TypeParams) :
    (Node.typeParams t).visits d p = t.visits d p := rfl
@[simp] theorem Node.visits_typeParamDecl (t : TypeParamDecl) :
    (Node.typeParamDecl t).visits d p = t.visits d p := rfl
@[simp] theorem Node.visits_stmt (s : Stmt) : (Node.stmt s).visits d p = s.visits d p := rfl
@[simp] theorem Node.visits_simpleStmt (s : SimpleStmt) :
    (Node.simpleStmt s).visits d p = s.visits d p := rfl
@[simp] theorem Node.visits_switchClause (c : SwitchClause) :
    (Node.switchClause c).visits d p = c.visits d p := rfl
@[simp] theorem Node.visits_commClause (c : CommClause) :
    (Node.commClause c).visits d p = c.visits d p := rfl
@[simp] theorem Node.visits_expr (e : Expr) : (Node.expr e).visits d p = e.visits d p := rfl
@[simp] theorem Node.visits_keyedElement (e : KeyedElement) :
    (Node.keyedElement e).visits d p = e.visits d p := rfl
@[simp] theorem Node.visits_type (t : TypeExpr) : (Node.type t).visits d p = t.visits d p := rfl
@[simp] theorem Node.visits_interfaceElem (e : InterfaceElem) :
    (Node.interfaceElem e).visits d p = e.visits d p := rfl
@[simp] theorem Node.visits_commentGroup (g : CommentGroup) :
    (Node.commentGroup g).visits d p = groupVisits d p g := rfl
@[simp] theorem Node.visits_comment (c : Comment) :
    (Node.comment c).visits d p = [Visit.node d p .comment] := rfl
@[simp] theorem Node.visits_ident (id : Ident) :
    (Node.ident id).visits d p = [identVisit d p id] := rfl

end nodeVisits

/-- The enumeration of a file is the walk from the file, at the root. -/
theorem SourceFile.visits_eq_walk (f : SourceFile) :
    f.visits = (Node.file f).visits 0 (.one .root) := rfl

/-- An operand is walked as the node it stands for. -/
@[simp] theorem Term.node_visits (t : Term) (d : Nat) (p : Place) :
    t.node.visits d p = t.visits d p := by
  cases t <;> rfl

/-- A declaration is walked as the node it stands for. -/
@[simp] theorem TopDecl.node_visits (t : TopDecl) (d : Nat) (p : Place) :
    t.node.visits d p = t.visits d p := by
  cases t <;> rfl

/-! ## The walk of a child list -/

section walks

variable {α : Type} {s : Slot} {f : α → Node} {d : Nat}

/-- A walk over a list slot, as a recursion from a position, walks the slot's
children. -/
theorem walk_many {h : Nat → List α → List Visit} (hnil : ∀ i, h i [] = [])
    (hcons : ∀ i x xs, h i (x :: xs) = (f x).visits d (.nth s i) ++ h (i + 1) xs)
    (xs : List α) : h 0 xs = (many s f xs).flatMap fun q => q.2.visits d q.1 := by
  -- from position `i` the recursion walks the entries at positions `i + j`
  suffices ∀ i, h i xs =
      (xs.mapIdx fun j x => (Place.nth s (i + j), f x)).flatMap fun q => q.2.visits d q.1 by
    simpa [many] using this 0
  induction xs with
  | nil => simp [hnil]
  | cons x xs ih =>
    intro i
    have hpos : ∀ j, i + 1 + j = i + (j + 1) := fun j => by omega
    simp [hcons, ih (i + 1), List.mapIdx_cons, hpos]

/-- A walk over an optional slot walks the slot's child, if there is one. -/
theorem walk_opt {h : Option α → List Visit} (hnone : h none = [])
    (hsome : ∀ x, h (some x) = (f x).visits d (.one s)) (o : Option α) :
    h o = (opt s f o).flatMap fun q => q.2.visits d q.1 := by
  cases o with
  | none => rw [hnone]; rfl
  | some x => simp [hsome, opt]

end walks

@[simp] theorem flatMap_one {β : Type} (s : Slot) (c : Node) (g : Place × Node → List β) :
    (one s c).flatMap g = g (.one s, c) := by
  simp [one]

/-! ## Each helper of the walk walks a child list -/

section helpers

variable (d : Nat)

@[simp] theorem stmtsVisits_eq (s : Slot) (xs : List Stmt) :
    stmtsVisits d s 0 xs = (many s .stmt xs).flatMap fun q => q.2.visits d q.1 :=
  walk_many (fun _ => rfl) (fun _ _ _ => rfl) xs

@[simp] theorem exprsVisits_eq (s : Slot) (xs : List Expr) :
    exprsVisits d s 0 xs = (many s .expr xs).flatMap fun q => q.2.visits d q.1 :=
  walk_many (fun _ => rfl) (fun _ _ _ => rfl) xs

@[simp] theorem termsVisits_eq (s : Slot) (xs : List Term) :
    termsVisits d s 0 xs = (many s Term.node xs).flatMap fun q => q.2.visits d q.1 :=
  walk_many (fun _ => rfl) (fun _ _ _ => by simp [termsVisits]) xs

@[simp] theorem typesVisits_eq (s : Slot) (xs : List TypeExpr) :
    typesVisits d s 0 xs = (many s .type xs).flatMap fun q => q.2.visits d q.1 :=
  walk_many (fun _ => rfl) (fun _ _ _ => rfl) xs

@[simp] theorem fieldsVisits_eq (s : Slot) (xs : List Field) :
    fieldsVisits d s 0 xs = (many s .field xs).flatMap fun q => q.2.visits d q.1 :=
  walk_many (fun _ => rfl) (fun _ _ _ => rfl) xs

@[simp] theorem keyedVisits_eq (s : Slot) (xs : List KeyedElement) :
    keyedVisits d s 0 xs = (many s .keyedElement xs).flatMap fun q => q.2.visits d q.1 :=
  walk_many (fun _ => rfl) (fun _ _ _ => rfl) xs

@[simp] theorem identsVisits_eq (s : Slot) (xs : List Ident) :
    identsVisits d s 0 xs = (many s .ident xs).flatMap fun q => q.2.visits d q.1 :=
  walk_many (fun _ => rfl) (fun _ _ _ => rfl) xs

@[simp] theorem elemsVisits_eq (xs : List InterfaceElem) :
    elemsVisits d 0 xs = (many .methods .interfaceElem xs).flatMap fun q => q.2.visits d q.1 :=
  walk_many (fun _ => rfl) (fun _ _ _ => rfl) xs

/-- A union term is walked as its type. -/
@[simp] theorem unionVisits_eq (xs : List UnionTerm) :
    unionVisits d 0 xs = (many .terms (fun u => .type u.type) xs).flatMap
      fun q => q.2.visits d q.1 :=
  walk_many (fun _ => rfl) (fun _ u _ => by cases u; rfl) xs

@[simp] theorem switchClausesVisits_eq (xs : List SwitchClause) :
    switchClausesVisits d 0 xs = (many .body .switchClause xs).flatMap fun q => q.2.visits d q.1 :=
  walk_many (fun _ => rfl) (fun _ _ _ => rfl) xs

@[simp] theorem commClausesVisits_eq (xs : List CommClause) :
    commClausesVisits d 0 xs = (many .body .commClause xs).flatMap fun q => q.2.visits d q.1 :=
  walk_many (fun _ => rfl) (fun _ _ _ => rfl) xs

@[simp] theorem specsVisits_eq (xs : List Spec) :
    specsVisits d 0 xs = (many .specs .spec xs).flatMap fun q => q.2.visits d q.1 :=
  walk_many (fun _ => rfl) (fun _ _ _ => rfl) xs

@[simp] theorem typeParamDeclsVisits_eq (xs : List TypeParamDecl) :
    typeParamDeclsVisits d 0 xs = (many .list .typeParamDecl xs).flatMap
      fun q => q.2.visits d q.1 :=
  walk_many (fun _ => rfl) (fun _ _ _ => rfl) xs

/-- A comment group's comments are walked one level below the group. -/
@[simp] theorem groupVisits_comments_eq (xs : List Comment) :
    groupVisits.comments d 0 xs = (many .list .comment xs).flatMap
      fun q => q.2.visits (d + 1) q.1 :=
  walk_many (fun _ => rfl) (fun _ _ _ => rfl) xs

@[simp] theorem optExprVisits_eq (s : Slot) (o : Option Expr) :
    optExprVisits d s o = (opt s .expr o).flatMap fun q => q.2.visits d q.1 :=
  walk_opt rfl (fun _ => rfl) o

@[simp] theorem optTypeVisits_eq (s : Slot) (o : Option TypeExpr) :
    optTypeVisits d s o = (opt s .type o).flatMap fun q => q.2.visits d q.1 :=
  walk_opt rfl (fun _ => rfl) o

@[simp] theorem optSimpleVisits_eq (s : Slot) (o : Option SimpleStmt) :
    optSimpleVisits d s o = (opt s .simpleStmt o).flatMap fun q => q.2.visits d q.1 :=
  walk_opt rfl (fun _ => rfl) o

@[simp] theorem optStmtVisits_eq (s : Slot) (o : Option Stmt) :
    optStmtVisits d s o = (opt s .stmt o).flatMap fun q => q.2.visits d q.1 :=
  walk_opt rfl (fun _ => rfl) o

@[simp] theorem optIdentVisits_eq (s : Slot) (o : Option Ident) :
    optIdentVisits d s o = (opt s .ident o).flatMap fun q => q.2.visits d q.1 :=
  walk_opt rfl (fun _ => rfl) o

@[simp] theorem optGroupVisits_eq (s : Slot) (o : Option CommentGroup) :
    optGroupVisits d s o = (opt s .commentGroup o).flatMap fun q => q.2.visits d q.1 :=
  walk_opt rfl (fun _ => rfl) o

@[simp] theorem optTypeParamsVisits_eq (o : Option TypeParams) :
    optTypeParamsVisits d o = (opt .typeParams .typeParams o).flatMap fun q => q.2.visits d q.1 :=
  walk_opt rfl (fun _ => rfl) o

/-- The types of a type switch case are walked at their positions, `nil` counted. -/
@[simp] theorem typeCasesVisits_eq (k : Nat) (items : List TypeCase) :
    typeCasesVisits d k items = (typeCases k items).flatMap fun q => q.2.visits d q.1 := by
  induction items generalizing k with
  | nil => rfl
  | cons it items ih =>
    cases it with
    | type t =>
      simp only [typeCasesVisits, typeCases, List.flatMap_cons, ih (k + 1)]
      rfl
    | nil p => exact ih (k + 1)

@[simp] theorem rangeLhsVisits_eq (lhs : Option RangeLhs) :
    rangeLhsVisits d lhs = (rangeLhs lhs).flatMap fun q => q.2.visits d q.1 := by
  rcases lhs with _ | ⟨names, _⟩ | ⟨exprs, _⟩ <;> simp [rangeLhsVisits, rangeLhs]

end helpers

/-! ## Below a node, the walk walks its children -/

theorem Expr.visits_tail (e : Expr) (d : Nat) (p : Place) :
    (e.visits d p).tail = e.children.flatMap fun q => q.2.visits (d + 1) q.1 := by
  cases e with
  | funcLit _ _ _ b => cases b; simp [Expr.visits, Expr.children]
  | compositeLit _ _ l => cases l; simp [Expr.visits, Expr.children]
  | _ => simp [Expr.visits, Expr.children]

theorem TypeExpr.visits_tail (t : TypeExpr) (d : Nat) (p : Place) :
    (t.visits d p).tail = t.children.flatMap fun q => q.2.visits (d + 1) q.1 := by
  cases t with
  | array _ _ len => cases len <;> simp [TypeExpr.visits, TypeExpr.children, ArrayLength.visits]
  | struct _ _ fl => cases fl; simp [TypeExpr.visits, TypeExpr.children]
  | _ => simp [TypeExpr.visits, TypeExpr.children]

theorem InterfaceElem.visits_tail (e : InterfaceElem) (d : Nat) (p : Place) :
    (e.visits d p).tail = e.children.flatMap fun q => q.2.visits (d + 1) q.1 := by
  cases e <;> simp [InterfaceElem.visits, InterfaceElem.children]

theorem Signature.visits_tail (sig : Signature) (d : Nat) (p : Place) :
    (sig.visits d p).tail = sig.children.flatMap fun q => q.2.visits (d + 1) q.1 := by
  obtain ⟨sp, ⟨_, _, _⟩, results⟩ := sig
  rcases results with _ | ⟨⟨_, _, _⟩⟩ | _ <;>
    simp [Signature.visits, Signature.children, resultsVisits]

theorem Field.visits_tail (f : Field) (d : Nat) (p : Place) :
    (f.visits d p).tail = f.children.flatMap fun q => q.2.visits (d + 1) q.1 := by
  obtain ⟨_, _, _, _, _, _, _⟩ := f
  simp [Field.visits, Field.children]

theorem KeyedElement.visits_tail (e : KeyedElement) (d : Nat) (p : Place) :
    (e.visits d p).tail = e.children.flatMap fun q => q.2.visits (d + 1) q.1 := by
  obtain ⟨key, colon, value⟩ := e
  rcases key with _ | _ | ⟨_, _, _⟩ <;> rcases value with _ | ⟨_, _, _⟩ <;>
    simp [KeyedElement.visits, KeyedElement.children, keyVisits, Element.sideVisits, element]

theorem Stmt.visits_tail (st : Stmt) (d : Nat) (p : Place) :
    (st.visits d p).tail = st.children.flatMap fun q => q.2.visits (d + 1) q.1 := by
  cases st with
  | block _ b => cases b; simp [Stmt.visits, Stmt.children]
  | if_ _ _ _ _ b => cases b; simp [Stmt.visits, Stmt.children]
  | for_ _ _ hd b =>
    cases b
    cases hd <;> simp [Stmt.visits, Stmt.children, ForHeader.visits]
  | _ => simp [Stmt.visits, Stmt.children]

theorem SimpleStmt.visits_tail (st : SimpleStmt) (d : Nat) (p : Place) :
    (st.visits d p).tail = st.children.flatMap fun q => q.2.visits (d + 1) q.1 := by
  cases st <;> simp [SimpleStmt.visits, SimpleStmt.children]

theorem SwitchClause.visits_tail (cl : SwitchClause) (d : Nat) (p : Place) :
    (cl.visits d p).tail = cl.children.flatMap fun q => q.2.visits (d + 1) q.1 := by
  cases cl <;> simp [SwitchClause.visits, SwitchClause.children]

theorem CommClause.visits_tail (cl : CommClause) (d : Nat) (p : Place) :
    (cl.visits d p).tail = cl.children.flatMap fun q => q.2.visits (d + 1) q.1 := by
  cases cl <;> simp [CommClause.visits, CommClause.children]

theorem GenDecl.visits_tail (g : GenDecl) (d : Nat) (p : Place) :
    (g.visits d p).tail = g.children.flatMap fun q => q.2.visits (d + 1) q.1 := by
  obtain ⟨_, _, _, _, _, _, _⟩ := g
  simp [GenDecl.visits, GenDecl.children]

theorem Spec.visits_tail (spec : Spec) (d : Nat) (p : Place) :
    (spec.visits d p).tail = spec.children.flatMap fun q => q.2.visits (d + 1) q.1 := by
  cases spec with
  | import_ _ name => rcases name with _ | _ | _ | _ <;> simp [Spec.visits, Spec.children]
  | _ => simp [Spec.visits, Spec.children]

theorem FuncDecl.visits_tail (f : FuncDecl) (d : Nat) (p : Place) :
    (f.visits d p).tail = f.children.flatMap fun q => q.2.visits (d + 1) q.1 := by
  obtain ⟨_, _, _, recv, _, _, _, body⟩ := f
  rcases recv with _ | ⟨_, _, _, _⟩ <;> rcases body with _ | ⟨_, _, _⟩ <;>
    simp [FuncDecl.visits, FuncDecl.children]

/-- A file's declarations are walked at their positions. -/
theorem declsVisits_eq (d : Nat) (decls : List TopDecl) :
    (decls.zipIdx.flatMap fun (decl, i) => decl.visits d (.nth .decls i)) =
      (many .decls TopDecl.node decls).flatMap fun q => q.2.visits d q.1 := by
  simp [many, List.mapIdx_eq_zipIdx_map, List.flatMap_map]

/-- Below a node, the walk walks the node's children, in the child table's order and at
its places, one level deeper. -/
theorem Node.visits_tail (N : Node) (d : Nat) (p : Place) :
    (N.visits d p).tail = N.children.flatMap fun q => q.2.visits (d + 1) q.1 := by
  cases N with
  | file f => simp [fileVisits, Node.children, declsVisits_eq]
  | typeParams t => obtain ⟨_, _, _, _⟩ := t; simp [TypeParams.visits, Node.children]
  | typeParamDecl t => obtain ⟨_, _, _⟩ := t; simp [TypeParamDecl.visits, Node.children]
  | commentGroup g => simp [groupVisits, Node.children]
  | comment | ident => simp [Node.children]
  | genDecl g => exact g.visits_tail d p
  | spec s => exact s.visits_tail d p
  | funcDecl f => exact f.visits_tail d p
  | signature s => exact s.visits_tail d p
  | field f => exact f.visits_tail d p
  | stmt s => exact s.visits_tail d p
  | simpleStmt s => exact s.visits_tail d p
  | switchClause cl => exact cl.visits_tail d p
  | commClause cl => exact cl.visits_tail d p
  | expr e => exact e.visits_tail d p
  | keyedElement e => exact e.visits_tail d p
  | type t => exact t.visits_tail d p
  | interfaceElem e => exact e.visits_tail d p

/-- The walk of a node starts with the node itself, at its depth, place and kind. -/
theorem Node.visits_head (N : Node) (d : Nat) (p : Place) :
    ∃ v, (N.visits d p).head? = some v ∧ v.depth = d ∧ v.place = p ∧ v.kind = N.kind := by
  -- records the walk matches on are opened so that its first step reduces
  cases N with
  | expr e =>
    rcases e with _ | _ | ⟨_, _, _, ⟨⟩⟩ | ⟨_, _, ⟨⟩⟩ | _ | _ | _ | _ | _ | _ | _ | _ <;>
      exact ⟨_, rfl, rfl, rfl, rfl⟩
  | type t =>
    rcases t with _ | _ | _ | _ | _ | _ | ⟨_, _, ⟨⟩⟩ | _ | _ | _ | _ <;>
      exact ⟨_, rfl, rfl, rfl, rfl⟩
  | stmt st =>
    rcases st with _ | _ | _ | _ | _ | _ | _ | _ | ⟨_, ⟨⟩⟩ | ⟨_, _, _, _, ⟨⟩⟩ |
      ⟨_, _, _, ⟨⟩⟩ | _ | _ | _ <;>
      exact ⟨_, rfl, rfl, rfl, rfl⟩
  | simpleStmt st => cases st <;> exact ⟨_, rfl, rfl, rfl, rfl⟩
  | switchClause cl => cases cl <;> exact ⟨_, rfl, rfl, rfl, rfl⟩
  | commClause cl => cases cl <;> exact ⟨_, rfl, rfl, rfl, rfl⟩
  | spec s => cases s <;> exact ⟨_, rfl, rfl, rfl, rfl⟩
  | interfaceElem e => cases e <;> exact ⟨_, rfl, rfl, rfl, rfl⟩
  | signature s => obtain ⟨_, ⟨⟩, _⟩ := s; exact ⟨_, rfl, rfl, rfl, rfl⟩
  | field f => obtain ⟨⟩ := f; exact ⟨_, rfl, rfl, rfl, rfl⟩
  | keyedElement e => obtain ⟨⟩ := e; exact ⟨_, rfl, rfl, rfl, rfl⟩
  | genDecl g => obtain ⟨⟩ := g; exact ⟨_, rfl, rfl, rfl, rfl⟩
  | typeParams t => obtain ⟨⟩ := t; exact ⟨_, rfl, rfl, rfl, rfl⟩
  | typeParamDecl t => obtain ⟨⟩ := t; exact ⟨_, rfl, rfl, rfl, rfl⟩
  | file | funcDecl | commentGroup | comment | ident => exact ⟨_, rfl, rfl, rfl, rfl⟩

/-- The walk of a node is its pre-order over the child table: the node, then the walk of
each child the child table lists, in order, at the child's place and one level deeper. -/
theorem Node.visits_preorder (N : Node) (d : Nat) (p : Place) :
    ∃ v, N.visits d p = v :: N.children.flatMap (fun q => q.2.visits (d + 1) q.1) ∧
      v.depth = d ∧ v.place = p ∧ v.kind = N.kind := by
  obtain ⟨v, hv, hd, hp, hk⟩ := N.visits_head d p
  refine ⟨v, ?_, hd, hp, hk⟩
  obtain ⟨rest, hrest⟩ := List.head?_eq_some_iff.mp hv
  have htail := N.visits_tail d p
  rw [hrest, List.tail_cons] at htail
  rw [hrest, htail]

end GoTemplates.Syntax
