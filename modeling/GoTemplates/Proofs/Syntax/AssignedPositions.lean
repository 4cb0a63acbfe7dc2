import GoTemplates.Proofs.Syntax.TokenLayout
import GoTemplates.Proofs.Syntax.UnionsHaveTerms

/-! # Assigning positions lays the tree out

Clearing the positions of a tree and assigning them again lays every node out in the
sense of `Laid`: each function of the positioner, run from any cursor, lays the pieces
of what it returns one after another, and gives a node with an extent the span from
where it began to the end of its last token. The statements follow the positioner
function by function, with the tree cleared first, so that a declaration is grouped
exactly when it holds more than one spec. A union needs a term, so that its extent
ends at a token it laid; that is the one assumption, `NonemptyUnions`, and every parsed
file meets it. So a parsed file, cleared and laid out from offset one, has every position
valid, its identifiers in order and every extent around those of its children
(`assignPositions_laidOut_of_parse`).
-/

namespace GoTemplates.Syntax

open GoTemplates.Source Children TextPiece

/-! ## Running the positioner -/

namespace Positioner

variable {α β : Type}

@[simp] theorem run_bind (x : PosM α) (f : α → PosM β) (c : Cursor) :
    (x >>= f).run c = (f (x.run c).1).run (x.run c).2 := rfl

@[simp] theorem run_pure (a : α) (c : Cursor) : (pure a : PosM α).run c = (a, c) := rfl

@[simp] theorem run_map (f : α → β) (x : PosM α) (c : Cursor) :
    (f <$> x).run c = (f (x.run c).1, (x.run c).2) := rfl

@[simp] theorem run_discard (x : PosM α) (c : Cursor) : (discard x).run c = ((), (x.run c).2) :=
  rfl

@[simp] theorem run_tok (len : Nat) (c : Cursor) : (tok len).run c = (c.tokSpan len, c.next len) :=
  rfl

@[simp] theorem run_kw (text : String) (c : Cursor) :
    (kw text).run c = (c.tokSpan text.utf8ByteSize, c.next text.utf8ByteSize) := rfl

@[simp] theorem run_sep (first : Bool) (text : String) (c : Cursor) :
    (sep first text).run c = ((), if first then c else c.next text.utf8ByteSize) := by
  cases first <;> rfl

@[simp] theorem run_gapIf (b : Bool) (text : String) (c : Cursor) :
    (if b then discard (kw text) else pure () : PosM Unit).run c =
      ((), if b then c.next text.utf8ByteSize else c) := by
  cases b <;> rfl

@[simp] theorem run_optKw_true (text : String) (old : Option Span) (c : Cursor) :
    (optKw true text old).run c = (some (c.tokSpan text.utf8ByteSize), c.next text.utf8ByteSize) :=
  rfl

@[simp] theorem run_optKw_false (text : String) (old : Option Span) (c : Cursor) :
    (optKw false text old).run c = (old, c) := rfl

@[simp] theorem run_spanning (m : PosM (Span → α)) (c : Cursor) :
    (spanning m).run c = ((m.run c).1 ⟨c.pos, max (m.run c).2.lastEnd c.pos⟩, (m.run c).2) := rfl

@[simp] theorem run_ident (id : Ident) (c : Cursor) :
    (ident id).run c = ({ id with pos := c.tokSpan id.name.utf8ByteSize }, c.next id.name.utf8ByteSize) :=
  rfl

@[simp] theorem run_comment (cm : Comment) (c : Cursor) :
    (comment cm).run c = ({ cm with span := c.tokSpan cm.text.utf8ByteSize }, c.next cm.text.utf8ByteSize) :=
  rfl

@[simp] theorem run_stringLit (l : StringLit) (c : Cursor) :
    (stringLit l).run c = ({ l with pos := c.tokSpan l.value.utf8ByteSize }, c.next l.value.utf8ByteSize) :=
  rfl

end Positioner

open Positioner

/-! ## Laying out, function by function -/

/-- `m`, run from any cursor, lays out the node `f` makes of what it returns. -/
def LaysOut {α : Type} (m : PosM α) (f : α → Node) : Prop :=
  ∀ c, Laid c (m.run c).2 (f (m.run c).1)

/-- `m`, run from any cursor, lays out the pieces `f` makes of what it returns. -/
def LaysPieces {α : Type} (m : PosM α) (f : α → List TextPiece) : Prop :=
  ∀ c, Run c (m.run c).2 (f (m.run c).1)

section helpers

variable {c c' : Cursor} {ps : List TextPiece}

/-- A separator laid in front of every element but the first. -/
theorem Run.gap_unless {first : Bool} {len : Nat} (run : Run (if first then c else c.next len) c' ps) :
    Run c c' ps := by
  cases first
  · exact .gap len run
  · exact run

/-- A separator laid when `b` holds. -/
theorem Run.gap_if {b : Bool} {len : Nat} (run : Run (if b then c.next len else c) c' ps) :
    Run c c' ps := by
  cases b
  · exact run
  · exact .gap len run

/-- An identifier is its one token. -/
theorem ident_laid (id : Ident) (c : Cursor) :
    Laid c (c.next id.name.utf8ByteSize) (.ident { id with pos := c.tokSpan id.name.utf8ByteSize }) :=
  .token rfl rfl

/-- An optional token that is laid exactly when it was there. -/
theorem optKw_laysPieces (o : Option Span) (text : String) :
    LaysPieces (optKw o.isSome text o) (fun o => toks o.toList) := by
  intro c
  cases o
  · exact .nil
  · exact .tok _ .nil

theorem idents_laysPieces : ∀ (first : Bool) (ids : List Ident),
    LaysPieces (idents first ids) (nodes .ident)
  | _, [], _ => .nil
  | first, id :: ids, c => by
    simp only [Positioner.idents, run_bind, run_sep, run_ident, run_pure]
    exact .gap_unless (.node (ident_laid _ _) (idents_laysPieces false ids _))

theorem optIdent_laysPieces : ∀ o : Option Ident,
    LaysPieces (optIdent o) (fun o => nodes .ident o.toList)
  | none, _ => .nil
  | some id, c => .node (ident_laid id c) .nil

theorem qualifier_laysPieces : ∀ o : Option Ident,
    LaysPieces (qualifier o) (fun o => nodes .ident o.toList)
  | none, _ => .nil
  | some id, c => by
    simp only [qualifier, run_bind, run_ident, run_discard, run_kw, run_pure]
    exact .node (ident_laid id c) (.gap _ .nil)

theorem comments_laysPieces : ∀ cs : List Comment, LaysPieces (comments cs) (nodes .comment)
  | [], _ => .nil
  | cm :: cs, c => by
    simp only [Positioner.comments, run_bind, run_comment, run_pure]
    exact .node (.token rfl rfl) (comments_laysPieces cs _)

theorem group_laysOut : ∀ g : CommentGroup, LaysOut (group g) .commentGroup
  | ⟨cm :: cs, _, _⟩, c => by
    simp only [group, run_spanning, run_bind, run_comment, run_pure]
    exact .spanned (.node (.token rfl rfl) (comments_laysPieces cs _)) rfl rfl
  | ⟨[], _, h⟩, _ => absurd rfl h

theorem optGroup_laysPieces : ∀ g : Option CommentGroup,
    LaysPieces (optGroup g) (fun g => nodes .commentGroup g.toList)
  | none, _ => .nil
  | some g, c => .node (group_laysOut g c) .nil

theorem optStringLit_laysPieces : ∀ l : Option StringLit,
    LaysPieces (optStringLit l) (fun l => toks (l.toList.map (·.pos)))
  | none, _ => .nil
  | some _, _ => .tok _ .nil

theorem importName_laysPieces : ∀ n : Option ImportName,
    LaysPieces (importName n) (fun n => n.toList.flatMap ImportName.pieces)
  | none, _ => .nil
  | some (.dot _), _ => .tok _ .nil
  | some (.blank _), _ => .tok _ .nil
  | some (.name id), c => .node (ident_laid id c) .nil

/-- A comma laid in front of every element but the first. -/
theorem Run.sep {first : Bool} {text : String} (run : Run ((sep first text).run c).2 c' ps) :
    Run c c' ps := by
  cases first
  · exact .gap _ run
  · exact run

/-- Pieces take room when one of them does. -/
theorem solid_of_mem {p : TextPiece} (h : p ∈ ps) (hp : p.solid = true) : ps.any solid = true :=
  List.any_eq_true.mpr ⟨p, h, hp⟩

/-- The empty statement is a token of no bytes, and its extent. -/
theorem empty_laid (c : Cursor) :
    Laid c (c.next 0) (.stmt (.empty ⟨c.pos, max (c.next 0).lastEnd c.pos⟩)) := by
  have h : max (c.next 0).lastEnd c.pos = c.pos + 0 := by simp [Cursor.next]
  rw [h]
  exact .token rfl rfl

end helpers

/-! ## The positioner lays out every cleared tree -/

mutual

theorem expr_laysOut : ∀ e : Expr, NonemptyUnions.expr e →
    LaysOut (Positioner.expr (Clear.expr e)) .expr
  | .ident _ _, _ => fun _ => .spanned (.tok _ .nil) rfl rfl
  | .basicLit _ _, _ => fun _ => .spanned (.tok _ .nil) rfl rfl
  | .funcLit _ _ sig b, ⟨hs, hb⟩ => fun _ =>
    .spanned (.tok _ (.node (signature_laysOut sig hs _) (block_laysPieces b hb _))) rfl rfl
  | .compositeLit _ t l, ⟨ht, hl⟩ => fun c =>
    .spanned (.node (typeExpr_laysOut t ht c) (literal_laysPieces l hl _)) rfl rfl
  | .index _ x _ args _, ⟨hx, ha⟩ => fun c =>
    .spanned (.append (.node (expr_laysOut x hx c) (.tok _ (terms_laysPieces true args ha _)))
      (.tok _ .nil)) rfl rfl
  | .paren _ _ x _, hx => fun _ =>
    .spanned (.tok _ (.node (expr_laysOut x hx _) (.tok _ .nil))) rfl rfl
  | .selector _ x _ _, hx => fun c =>
    .spanned (.node (expr_laysOut x hx c) (.tok _ (.node (ident_laid _ _) .nil))) rfl rfl
  | .slice _ x _ lo hi mx _, ⟨hx, hlo, hhi, hmx⟩ => fun c =>
    .spanned (.append (.append (.append
      (.node (expr_laysOut x hx c) (.tok _ (optExpr_laysPieces lo hlo _)))
      (.gap _ (optExpr_laysPieces hi hhi _))) (sliceMax_laysPieces mx hmx _)) (.tok _ .nil)) rfl rfl
  | .typeAssert _ x _ _ t _, ⟨hx, ht⟩ => fun c =>
    .spanned (.append (.node (expr_laysOut x hx c) (.tok _ (.tok _ (assertedType_laysPieces t ht _))))
      (.tok _ .nil)) rfl rfl
  | .call _ f _ args _ _, ⟨hf, ha⟩ => fun c =>
    .spanned (.append (.append
      (.node (term_laysOut f hf c) (.tok _ (terms_laysPieces true args ha _)))
      (optKw_laysPieces _ _ _)) (.tok _ .nil)) rfl
      (solid_of_mem (List.mem_append_left _ (List.mem_append_left _
        (List.mem_cons_of_mem _ List.mem_cons_self))) rfl)
  | .unary _ _ _ x, hx => fun _ => .spanned (.tok _ (.node (expr_laysOut x hx _) .nil)) rfl rfl
  | .binary _ x _ _ y, ⟨hx, hy⟩ => fun c =>
    .spanned (.node (expr_laysOut x hx c) (.tok _ (.node (expr_laysOut y hy _) .nil))) rfl rfl

theorem optExpr_laysPieces : ∀ o : Option Expr, NonemptyUnions.optExpr o →
    LaysPieces (Positioner.optExpr (Clear.optExpr o)) fun o => nodes .expr o.toList
  | none, _ => fun _ => .nil
  | some e, he => fun c => .node (expr_laysOut e he c) .nil

theorem sliceMax_laysPieces : ∀ o : Option Expr, NonemptyUnions.optExpr o →
    LaysPieces (sliceMax (Clear.optExpr o)) fun o => nodes .expr o.toList
  | none, _ => fun _ => .nil
  | some e, he => fun _ => .gap _ (.node (expr_laysOut e he _) .nil)

theorem assertedType_laysPieces : ∀ o : Option TypeExpr, NonemptyUnions.optType o →
    LaysPieces (assertedType (Clear.optType o)) fun o => nodes .type o.toList
  | none, _ => fun _ => .gap _ .nil
  | some t, ht => fun c => .node (typeExpr_laysOut t ht c) .nil

theorem exprs_laysPieces : ∀ (first : Bool) (es : List Expr), NonemptyUnions.exprs es →
    LaysPieces (Positioner.exprs first (Clear.exprs es)) (nodes .expr)
  | _, [], _ => fun _ => .nil
  | _, e :: es, ⟨he, hes⟩ => fun _ =>
    .sep (.node (expr_laysOut e he _) (exprs_laysPieces false es hes _))

theorem term_laysOut : ∀ t : Term, NonemptyUnions.term t →
    LaysOut (Positioner.term (Clear.term t)) Term.node
  | .expr e, he => expr_laysOut e he
  | .type t, ht => typeExpr_laysOut t ht

theorem terms_laysPieces : ∀ (first : Bool) (ts : List Term), NonemptyUnions.terms ts →
    LaysPieces (Positioner.terms first (Clear.terms ts)) (nodes Term.node)
  | _, [], _ => fun _ => .nil
  | _, t :: ts, ⟨ht, hts⟩ => fun _ =>
    .sep (.node (term_laysOut t ht _) (terms_laysPieces false ts hts _))

theorem typeExpr_laysOut : ∀ t : TypeExpr, NonemptyUnions.typeExpr t →
    LaysOut (Positioner.typeExpr (Clear.typeExpr t)) .type
  | .named _ _ _ _ [] _, _ => fun c =>
    .spanned (.append (qualifier_laysPieces _ c) (.node (ident_laid _ _) .nil)) rfl
      (solid_of_mem (List.mem_append_right _ List.mem_cons_self) rfl)
  | .named _ _ _ _ (a :: args) _, ha => fun c =>
    .spanned (.append (qualifier_laysPieces _ c) (.node (ident_laid _ _)
      (.append (.append (.tok _ .nil) (typeExprs_laysPieces true (a :: args) ha _)) (.tok _ .nil))))
      rfl (solid_of_mem (List.mem_append_right _ List.mem_cons_self) rfl)
  | .pointer _ _ e, he => fun _ => .spanned (.tok _ (.node (typeExpr_laysOut e he _) .nil)) rfl rfl
  | .array _ _ len _ e, ⟨hl, he⟩ => fun _ =>
    .spanned (.append (.tok _ (arrayLength_laysPieces len hl _))
      (.tok _ (.node (typeExpr_laysOut e he _) .nil))) rfl rfl
  | .slice _ _ _ e, he => fun _ =>
    .spanned (.tok _ (.tok _ (.node (typeExpr_laysOut e he _) .nil))) rfl rfl
  | .map _ _ _ k _ v, ⟨hk, hv⟩ => fun _ =>
    .spanned (.tok _ (.tok _ (.node (typeExpr_laysOut k hk _)
      (.tok _ (.node (typeExpr_laysOut v hv _) .nil))))) rfl rfl
  | .chan _ .both _ _ e, he => fun _ =>
    .spanned (.append (.append .nil (.tok _ .nil)) (.node (typeExpr_laysOut e he _) .nil)) rfl rfl
  | .chan _ .send _ _ e, he => fun _ =>
    .spanned (.append (.append .nil (.tok _ (.tok _ .nil))) (.node (typeExpr_laysOut e he _) .nil))
      rfl rfl
  | .chan _ .recv _ _ e, he => fun _ =>
    .spanned (.append (.append (.tok _ .nil) (.tok _ .nil)) (.node (typeExpr_laysOut e he _) .nil))
      rfl rfl
  | .struct _ _ fl, hf => fun _ => .spanned (.tok _ (fieldList_laysPieces _ _ _ fl hf _)) rfl rfl
  | .interface _ _ _ elems _, he => fun _ =>
    .spanned (.append (.tok _ (.tok _ (interfaceElems_laysPieces elems he _))) (.tok _ .nil)) rfl rfl
  | .func _ _ sig, hs => fun _ => .spanned (.tok _ (.node (signature_laysOut sig hs _) .nil)) rfl rfl
  | .paren _ _ t _, ht => fun _ =>
    .spanned (.tok _ (.node (typeExpr_laysOut t ht _) (.tok _ .nil))) rfl rfl
  | .union _ (u :: us), ⟨_, hu⟩ => fun c =>
    .spanned (unionTerms_laysPieces true (u :: us) hu c) rfl
      (solid_of_mem (List.mem_append_left _ (List.mem_append_right _ List.mem_cons_self)) rfl)

theorem typeExprs_laysPieces : ∀ (first : Bool) (ts : List TypeExpr), NonemptyUnions.typeExprs ts →
    LaysPieces (Positioner.typeExprs first (Clear.typeExprs ts)) (nodes .type)
  | _, [], _ => fun _ => .nil
  | _, t :: ts, ⟨ht, hts⟩ => fun _ =>
    .sep (.node (typeExpr_laysOut t ht _) (typeExprs_laysPieces false ts hts _))

theorem optType_laysPieces : ∀ o : Option TypeExpr, NonemptyUnions.optType o →
    LaysPieces (Positioner.optType (Clear.optType o)) fun o => nodes .type o.toList
  | none, _ => fun _ => .nil
  | some t, ht => fun c => .node (typeExpr_laysOut t ht c) .nil

theorem arrayLength_laysPieces : ∀ l : ArrayLength, NonemptyUnions.arrayLength l →
    LaysPieces (Positioner.arrayLength (Clear.arrayLength l)) ArrayLength.pieces
  | .expr e, he => fun c => .node (expr_laysOut e he c) .nil
  | .ellipsis _, _ => fun _ => .tok _ .nil

theorem unionTerms_laysPieces : ∀ (first : Bool) (us : List UnionTerm), NonemptyUnions.unionTerms us →
    LaysPieces (Positioner.unionTerms first (Clear.unionTerms us)) fun us => us.flatMap UnionTerm.pieces
  | _, [], _ => fun _ => .nil
  | _, ⟨_, t⟩ :: us, ⟨ht, hus⟩ => fun _ =>
    .sep (.append (.append (optKw_laysPieces _ _ _) (.node (typeExpr_laysOut t ht _) .nil))
      (unionTerms_laysPieces false us hus _))

theorem interfaceElem_laysOut : ∀ e : InterfaceElem, NonemptyUnions.interfaceElem e →
    LaysOut (Positioner.interfaceElem (Clear.interfaceElem e)) .interfaceElem
  | .method _ sig, hs => fun c =>
    .unspanned (.node (ident_laid _ c) (.node (signature_laysOut sig hs _) .nil)) rfl
  | .embed t, ht => fun c => .unspanned (.node (typeExpr_laysOut t ht c) .nil) rfl

theorem interfaceElems_laysPieces : ∀ es : List InterfaceElem, NonemptyUnions.interfaceElems es →
    LaysPieces (Positioner.interfaceElems (Clear.interfaceElems es)) (nodes .interfaceElem)
  | [], _ => fun _ => .nil
  | e :: es, ⟨he, hes⟩ => fun c =>
    .node (interfaceElem_laysOut e he c) (.gap _ (interfaceElems_laysPieces es hes _))

theorem signature_laysOut : ∀ s : Signature, NonemptyUnions.signature s →
    LaysOut (Positioner.signature (Clear.signature s)) .signature
  | ⟨_, params, results⟩, ⟨hp, hr⟩ => fun c =>
    .spanned (.append (fieldList_laysPieces _ _ _ params hp c) (optResults_laysPieces results hr _))
      rfl rfl

theorem optResults_laysPieces : ∀ r : Option Results, NonemptyUnions.optResults r →
    LaysPieces (Positioner.optResults (Clear.optResults r)) fun r => r.toList.flatMap Results.pieces
  | none, _ => fun _ => .nil
  | some (.params l), hl => fun c => .append (fieldList_laysPieces _ _ _ l hl c) .nil
  | some (.type t), ht => fun c => .node (typeExpr_laysOut t ht c) .nil

theorem fieldList_laysPieces (opening closing separator : String) :
    ∀ l : FieldList, NonemptyUnions.fieldList l →
      LaysPieces (Positioner.fieldList opening closing separator (Clear.fieldList l)) FieldList.pieces
  | ⟨_, fs, _⟩, hfs => fun _ =>
    .append (.tok _ (fields_laysPieces separator true fs hfs _)) (.tok _ .nil)

theorem field_laysOut : ∀ f : Field, NonemptyUnions.typeExpr f.type →
    LaysOut (Positioner.field (Clear.field f)) .field
  | ⟨_, _, _, _, t, _, _⟩, ht => fun c =>
    .spanned (.append (.append (.append (.append (optGroup_laysPieces _ c)
      (idents_laysPieces true _ _)) (optKw_laysPieces _ _ _))
      (.node (typeExpr_laysOut t ht _) (optStringLit_laysPieces _ _))) (optGroup_laysPieces _ _)) rfl
      (solid_of_mem (List.mem_append_left _ (List.mem_append_right _ List.mem_cons_self)) rfl)

theorem fields_laysPieces (separator : String) : ∀ (first : Bool) (fs : List Field),
    NonemptyUnions.fields fs →
      LaysPieces (Positioner.fields separator first (Clear.fields fs)) (nodes .field)
  | _, [], _ => fun _ => .nil
  | _, ⟨sp, doc, names, ell, t, tag, cmt⟩ :: fs, ⟨hf, hfs⟩ => fun _ =>
    .sep (.node (field_laysOut ⟨sp, doc, names, ell, t, tag, cmt⟩ hf _) (fields_laysPieces separator false fs hfs _))

theorem literal_laysPieces : ∀ l : LiteralValue, NonemptyUnions.literal l →
    LaysPieces (Positioner.literal (Clear.literal l)) LiteralValue.pieces
  | ⟨_, els, _⟩, hels => fun _ =>
    .append (.tok _ (keyedElements_laysPieces true els hels _)) (.tok _ .nil)

theorem keyedElement_laysOut : ∀ e : KeyedElement, NonemptyUnions.keyedElement e →
    LaysOut (Positioner.keyedElement (Clear.keyedElement e)) .keyedElement
  | ⟨none, _, v⟩, ⟨_, hv⟩ => fun c => .unspanned (.append (.append .nil .nil) (element_laysPieces v hv c)) rfl
  | ⟨some k, _, v⟩, ⟨hk, hv⟩ => fun c =>
    .unspanned (.append (.append (.append (element_laysPieces k hk c) .nil) (.tok _ .nil))
      (element_laysPieces v hv _)) rfl

theorem keyedElements_laysPieces : ∀ (first : Bool) (es : List KeyedElement),
    NonemptyUnions.keyedElements es →
      LaysPieces (Positioner.keyedElements first (Clear.keyedElements es)) (nodes .keyedElement)
  | _, [], _ => fun _ => .nil
  | _, e :: es, ⟨he, hes⟩ => fun _ =>
    .sep (.node (keyedElement_laysOut e he _) (keyedElements_laysPieces false es hes _))

theorem element_laysPieces : ∀ e : Element, NonemptyUnions.element e →
    LaysPieces (Positioner.element (Clear.element e)) Element.pieces
  | .expr e, he => fun c => .node (expr_laysOut e he c) .nil
  | .literal l, hl => literal_laysPieces l hl

theorem block_laysPieces : ∀ b : Block, NonemptyUnions.block b →
    LaysPieces (Positioner.block (Clear.block b)) Block.pieces
  | ⟨_, ss, _⟩, hss => fun _ => .append (.tok _ (stmtList_laysPieces ss hss _)) (.tok _ .nil)

theorem stmtList_laysPieces : ∀ ss : List Stmt, NonemptyUnions.stmts ss →
    LaysPieces (Positioner.stmtList (Clear.stmts ss)) (nodes .stmt)
  | [], _ => fun _ => .nil
  | s :: ss, ⟨hs, hss⟩ => fun c => .node (stmt_laysOut s hs c) (.gap _ (stmtList_laysPieces ss hss _))

theorem simpleStmt_laysOut : ∀ s : SimpleStmt, NonemptyUnions.simpleStmt s →
    LaysOut (Positioner.simpleStmt (Clear.simpleStmt s)) .simpleStmt
  | .expr _ x, hx => fun c => .spanned (.node (expr_laysOut x hx c) .nil) rfl rfl
  | .send _ ch _ v, ⟨hc, hv⟩ => fun c =>
    .spanned (.node (expr_laysOut ch hc c) (.tok _ (.node (expr_laysOut v hv _) .nil))) rfl rfl
  | .incDec _ x _ _, hx => fun c => .spanned (.node (expr_laysOut x hx c) (.tok _ .nil)) rfl rfl
  | .assign _ lhs _ _ rhs, ⟨hl, hr⟩ => fun c =>
    .spanned (.append (exprs_laysPieces true lhs hl c) (.tok _ (exprs_laysPieces true rhs hr _))) rfl
      (solid_of_mem (List.mem_append_right _ List.mem_cons_self) rfl)
  | .shortVarDecl _ _ _ vs, hvs => fun c =>
    .spanned (.append (idents_laysPieces true _ c) (.tok _ (exprs_laysPieces true vs hvs _))) rfl
      (solid_of_mem (List.mem_append_right _ List.mem_cons_self) rfl)

theorem optSimpleStmt_laysPieces : ∀ o : Option SimpleStmt, NonemptyUnions.optSimpleStmt o →
    LaysPieces (Positioner.optSimpleStmt (Clear.optSimpleStmt o)) fun o => nodes .simpleStmt o.toList
  | none, _ => fun _ => .nil
  | some s, hs => fun c => .node (simpleStmt_laysOut s hs c) .nil

theorem initStmt_laysPieces : ∀ o : Option SimpleStmt, NonemptyUnions.optSimpleStmt o →
    LaysPieces (initStmt (Clear.optSimpleStmt o)) fun o => nodes .simpleStmt o.toList
  | none, _ => fun _ => .nil
  | some s, hs => fun c => .node (simpleStmt_laysOut s hs c) (.gap _ .nil)

theorem stmt_laysOut : ∀ s : Stmt, NonemptyUnions.stmt s →
    LaysOut (Positioner.stmt (Clear.stmt s)) .stmt
  | .empty _, _ => empty_laid
  | .simple _ s, hs => fun c => .spanned (.node (simpleStmt_laysOut s hs c) .nil) rfl rfl
  | .decl _ d, hd => fun c => .spanned (.node (genDecl_laysOut d hd c) .nil) rfl rfl
  | .labeled _ _ _ s, hs => fun c =>
    .spanned (.node (ident_laid _ c) (.tok _ (.node (stmt_laysOut s hs _) .nil))) rfl rfl
  | .go _ _ x, hx => fun _ => .spanned (.tok _ (.node (expr_laysOut x hx _) .nil)) rfl rfl
  | .defer _ _ x, hx => fun _ => .spanned (.tok _ (.node (expr_laysOut x hx _) .nil)) rfl rfl
  | .return_ _ _ rs, hrs => fun _ => .spanned (.tok _ (exprs_laysPieces true rs hrs _)) rfl rfl
  | .branch _ _ _ _, _ => fun _ => .spanned (.tok _ (optIdent_laysPieces _ _)) rfl rfl
  | .block _ b, hb => fun c => .spanned (block_laysPieces b hb c) rfl rfl
  | .if_ _ _ init x th els, ⟨hi, hx, hth, hels⟩ => fun _ =>
    .spanned (.append (.append (.tok _ (initStmt_laysPieces init hi _))
      (.node (expr_laysOut x hx _) (block_laysPieces th hth _))) (elseStmt_laysPieces els hels _))
      rfl rfl
  | .for_ _ _ h body, ⟨hh, hb⟩ => fun _ =>
    .spanned (.append (.tok _ (forHeader_laysPieces h hh _)) (block_laysPieces body hb _)) rfl rfl
  | .switch _ _ init tag _ cs _, ⟨hi, ht, hcs⟩ => fun _ =>
    .spanned (.append (.append (.append (.tok _ (initStmt_laysPieces init hi _))
      (optExpr_laysPieces tag ht _)) (.tok _ (switchClauses_laysPieces cs hcs _))) (.tok _ .nil))
      rfl rfl
  | .typeSwitch _ _ init none _ x _ _ _ _ cs _, ⟨hi, hx, hcs⟩ => fun _ =>
    .spanned (.append (.append (.append (.append (.tok _ (initStmt_laysPieces init hi _)) .nil) .nil)
      (.node (expr_laysOut x hx _) (.tok _ (.tok _ (.gap _ (.tok _ (.tok _
        (switchClauses_laysPieces cs hcs _)))))))) (.tok _ .nil)) rfl rfl
  | .typeSwitch _ _ init (some _) _ x _ _ _ _ cs _, ⟨hi, hx, hcs⟩ => fun _ =>
    .spanned (.append (.append (.append (.append (.tok _ (initStmt_laysPieces init hi _))
      (.node (ident_laid _ _) .nil)) (.tok _ .nil))
      (.node (expr_laysOut x hx _) (.tok _ (.tok _ (.gap _ (.tok _ (.tok _
        (switchClauses_laysPieces cs hcs _)))))))) (.tok _ .nil)) rfl rfl
  | .select _ _ _ cs _, hcs => fun _ =>
    .spanned (.append (.tok _ (.tok _ (commClauses_laysPieces cs hcs _))) (.tok _ .nil)) rfl rfl

theorem elseStmt_laysPieces : ∀ o : Option Stmt, NonemptyUnions.optStmt o →
    LaysPieces (elseStmt (Clear.optStmt o)) fun o => nodes .stmt o.toList
  | none, _ => fun _ => .nil
  | some s, hs => fun _ => .gap _ (.node (stmt_laysOut s hs _) .nil)

theorem forHeader_laysPieces : ∀ h : ForHeader, NonemptyUnions.forHeader h →
    LaysPieces (Positioner.forHeader (Clear.forHeader h)) ForHeader.pieces
  | .infinite, _ => fun _ => .nil
  | .cond x, hx => fun c => .node (expr_laysOut x hx c) .nil
  | .clause init x post, ⟨hi, hx, hp⟩ => fun c =>
    .append (.append (optSimpleStmt_laysPieces init hi c) (.gap _ (optExpr_laysPieces x hx _)))
      (.gap _ (optSimpleStmt_laysPieces post hp _))
  | .range lhs _ x, ⟨hl, hx⟩ => fun c =>
    .append (optRangeLhs_laysPieces lhs hl c) (.tok _ (.node (expr_laysOut x hx _) .nil))

theorem optRangeLhs_laysPieces : ∀ o : Option RangeLhs, NonemptyUnions.optRangeLhs o →
    LaysPieces (Positioner.optRangeLhs (Clear.optRangeLhs o))
      fun o => o.toList.flatMap RangeLhs.pieces
  | none, _ => fun _ => .nil
  | some (.define _ _), _ => fun c => .append (.append (idents_laysPieces true _ c) (.tok _ .nil)) .nil
  | some (.assign es _), hes => fun c =>
    .append (.append (exprs_laysPieces true es hes c) (.tok _ .nil)) .nil

theorem switchClause_laysOut : ∀ c : SwitchClause, NonemptyUnions.switchClause c →
    LaysOut (Positioner.switchClause (Clear.switchClause c)) .switchClause
  | .exprs _ _ items _ ss, ⟨hi, hss⟩ => fun _ =>
    .spanned (.append (.tok _ (exprs_laysPieces true items hi _)) (.tok _ (stmtList_laysPieces ss hss _)))
      rfl rfl
  | .types _ _ items _ ss, ⟨hi, hss⟩ => fun _ =>
    .spanned (.append (.tok _ (typeCases_laysPieces true items hi _))
      (.tok _ (stmtList_laysPieces ss hss _))) rfl rfl

theorem switchClauses_laysPieces : ∀ cs : List SwitchClause, NonemptyUnions.switchClauses cs →
    LaysPieces (Positioner.switchClauses (Clear.switchClauses cs)) (nodes .switchClause)
  | [], _ => fun _ => .nil
  | c :: cs, ⟨hc, hcs⟩ => fun x => .node (switchClause_laysOut c hc x) (switchClauses_laysPieces cs hcs _)

theorem typeCases_laysPieces : ∀ (first : Bool) (cs : List TypeCase), NonemptyUnions.typeCases cs →
    LaysPieces (Positioner.typeCases first (Clear.typeCases cs)) fun cs => cs.map TypeCase.piece
  | _, [], _ => fun _ => .nil
  | _, .type t :: cs, ⟨ht, hcs⟩ => fun _ =>
    .sep (.node (typeExpr_laysOut t ht _) (typeCases_laysPieces false cs hcs _))
  | _, .nil _ :: cs, hcs => fun _ => .sep (.tok _ (typeCases_laysPieces false cs hcs _))

theorem commClause_laysOut : ∀ c : CommClause, NonemptyUnions.commClause c →
    LaysOut (Positioner.commClause (Clear.commClause c)) .commClause
  | .send _ _ ch _ v _ ss, ⟨hc, hv, hss⟩ => fun _ =>
    .spanned (.tok _ (.node (expr_laysOut ch hc _) (.tok _ (.node (expr_laysOut v hv _)
      (.tok _ (stmtList_laysPieces ss hss _)))))) rfl rfl
  | .recv _ _ lhs x _ ss, ⟨hl, hx, hss⟩ => fun _ =>
    .spanned (.append (.tok _ (optRangeLhs_laysPieces lhs hl _))
      (.node (expr_laysOut x hx _) (.tok _ (stmtList_laysPieces ss hss _)))) rfl rfl
  | .default _ _ _ ss, hss => fun _ => .spanned (.tok _ (.tok _ (stmtList_laysPieces ss hss _))) rfl rfl

theorem commClauses_laysPieces : ∀ cs : List CommClause, NonemptyUnions.commClauses cs →
    LaysPieces (Positioner.commClauses (Clear.commClauses cs)) (nodes .commClause)
  | [], _ => fun _ => .nil
  | c :: cs, ⟨hc, hcs⟩ => fun x => .node (commClause_laysOut c hc x) (commClauses_laysPieces cs hcs _)

theorem genDecl_laysOut : ∀ d : GenDecl, NonemptyUnions.genDecl d →
    LaysOut (Positioner.genDecl (Clear.genDecl d)) .genDecl
  | ⟨_, _, _, _, _, [], _⟩, _ => fun c =>
    .spanned (.append (.append (.append (optGroup_laysPieces _ c) (.tok _ .nil)) .nil) .nil) rfl
      (solid_of_mem (List.mem_append_left _ (List.mem_append_left _
        (List.mem_append_right _ List.mem_cons_self))) rfl)
  | ⟨_, _, _, _, _, [s], _⟩, ⟨hs, _⟩ => fun c =>
    .spanned (.append (.append (.append (optGroup_laysPieces _ c) (.tok _ .nil))
      (.node (spec_laysOut s hs _) .nil)) .nil) rfl
      (solid_of_mem (List.mem_append_left _ (List.mem_append_left _
        (List.mem_append_right _ List.mem_cons_self))) rfl)
  | ⟨_, _, _, _, _, s :: t :: ss, _⟩, hss => fun c =>
    .spanned (.append (.append (.append (optGroup_laysPieces _ c) (.tok _ (.tok _ .nil)))
      (specList_laysPieces true (s :: t :: ss) hss _)) (.tok _ .nil)) rfl
      (solid_of_mem (List.mem_append_left _ (List.mem_append_left _
        (List.mem_append_right _ List.mem_cons_self))) rfl)

theorem spec_laysOut : ∀ s : Spec, NonemptyUnions.spec s → LaysOut (Positioner.spec (Clear.spec s)) .spec
  | .import_ _ _ _ _, _ => fun c =>
    .unspanned (.append (.append (optGroup_laysPieces _ c) (importName_laysPieces _ _))
      (.tok _ (optGroup_laysPieces _ _))) rfl
  | .value _ _ t _ [] _, ⟨ht, _⟩ => fun c =>
    .unspanned (.append (.append (.append (.append (.append (optGroup_laysPieces _ c)
      (idents_laysPieces true _ _)) (optType_laysPieces t ht _)) .nil) .nil) (optGroup_laysPieces _ _))
      rfl
  | .value _ _ t _ (v :: vs) _, ⟨ht, hvs⟩ => fun c =>
    .unspanned (.append (.append (.append (.append (.append (optGroup_laysPieces _ c)
      (idents_laysPieces true _ _)) (optType_laysPieces t ht _)) (.tok _ .nil))
      (exprs_laysPieces true (v :: vs) hvs _)) (optGroup_laysPieces _ _)) rfl
  | .type _ _ tps _ t _, ⟨htps, ht⟩ => fun c =>
    .unspanned (.append (.append (.append (optGroup_laysPieces _ c)
      (.node (ident_laid _ _) (optTypeParams_laysPieces tps htps _))) (optKw_laysPieces _ _ _))
      (.node (typeExpr_laysOut t ht _) (optGroup_laysPieces _ _))) rfl

theorem specList_laysPieces : ∀ (grouped : Bool) (ss : List Spec), NonemptyUnions.specList ss →
    LaysPieces (Positioner.specList grouped (Clear.specList ss)) (nodes .spec)
  | _, [], _ => fun _ => .nil
  | false, s :: ss, ⟨hs, hss⟩ => fun c =>
    .node (spec_laysOut s hs c) (specList_laysPieces false ss hss _)
  | true, s :: ss, ⟨hs, hss⟩ => fun c =>
    .node (spec_laysOut s hs c) (.gap _ (specList_laysPieces true ss hss _))

theorem typeParams_laysOut : ∀ t : TypeParams, NonemptyUnions.typeParams t →
    LaysOut (Positioner.typeParams (Clear.typeParams t)) .typeParams
  | ⟨_, _, decls, _⟩, hd => fun _ =>
    .spanned (.append (.tok _ (typeParamDecls_laysPieces true decls hd _)) (.tok _ .nil)) rfl rfl

theorem optTypeParams_laysPieces : ∀ o : Option TypeParams, NonemptyUnions.optTypeParams o →
    LaysPieces (Positioner.optTypeParams (Clear.optTypeParams o)) fun o => nodes .typeParams o.toList
  | none, _ => fun _ => .nil
  | some t, ht => fun c => .node (typeParams_laysOut t ht c) .nil

theorem typeParamDecl_laysOut : ∀ d : TypeParamDecl, NonemptyUnions.typeExpr d.constraint →
    LaysOut (Positioner.typeParamDecl (Clear.typeParamDecl d)) .typeParamDecl
  | ⟨_, _, t⟩, ht => fun c =>
    .spanned (.append (idents_laysPieces true _ c) (.node (typeExpr_laysOut t ht _) .nil)) rfl
      (solid_of_mem (List.mem_append_right _ List.mem_cons_self) rfl)

theorem typeParamDecls_laysPieces : ∀ (first : Bool) (ds : List TypeParamDecl),
    NonemptyUnions.typeParamDecls ds →
      LaysPieces (Positioner.typeParamDecls first (Clear.typeParamDecls ds)) (nodes .typeParamDecl)
  | _, [], _ => fun _ => .nil
  | _, ⟨sp, names, t⟩ :: ds, ⟨hd, hds⟩ => fun _ =>
    .sep (.node (typeParamDecl_laysOut ⟨sp, names, t⟩ hd _) (typeParamDecls_laysPieces false ds hds _))

end

theorem receiver_laysPieces (n : Option Ident) (t : TypeExpr) (ht : NonemptyUnions.typeExpr t) :
    LaysPieces (receiver ⟨.none, n.map Clear.ident, Clear.typeExpr t, .none⟩) Receiver.pieces :=
  fun _ => .append (.tok _ (optIdent_laysPieces _ _)) (.node (typeExpr_laysOut t ht _) (.tok _ .nil))

/-- A function declaration, given how its receiver and body are laid. -/
theorem funcDecl_laysOut_of {recv : Option Receiver} {body : Option Block} (doc : Option CommentGroup)
    (name : Ident) (tps : Option TypeParams) (sig : Signature)
    (hr : LaysPieces (optReceiver recv) fun r => r.toList.flatMap Receiver.pieces)
    (hb : LaysPieces (optBlock body) fun b => b.toList.flatMap Block.pieces)
    (htps : NonemptyUnions.optTypeParams tps) (hsig : NonemptyUnions.signature sig) :
    LaysOut (Positioner.funcDecl ⟨.none, Clear.optGroup doc, .none, recv, Clear.ident name,
      Clear.optTypeParams tps, Clear.signature sig, body⟩) .funcDecl := fun c =>
  .spanned (.append (.append (.append (optGroup_laysPieces _ c) (.tok _ (hr _)))
    (.node (ident_laid _ _) (optTypeParams_laysPieces tps htps _)))
    (.node (signature_laysOut sig hsig _) (hb _))) rfl
    (solid_of_mem (List.mem_append_left _ (List.mem_append_left _
      (List.mem_append_right _ List.mem_cons_self))) rfl)

theorem funcDecl_laysOut : ∀ f : FuncDecl, NonemptyUnions.funcDecl f →
    LaysOut (Positioner.funcDecl (Clear.funcDecl f)) .funcDecl
  | ⟨_, doc, _, recv, name, tps, sig, body⟩, ⟨hr, htps, hsig, hb⟩ => by
    refine funcDecl_laysOut_of doc name tps sig ?_ ?_ htps hsig
    · rcases recv with _ | ⟨_, n, t, _⟩
      · exact fun _ => .nil
      · exact fun c => .append (receiver_laysPieces n t (hr _ rfl) c) .nil
    · rcases body with _ | b
      · exact fun _ => .nil
      · exact fun c => .append (block_laysPieces b (hb _ rfl) c) .nil

theorem topDecls_laysPieces : ∀ ds : List TopDecl, (∀ d ∈ ds, NonemptyUnions.topDecl d) →
    LaysPieces (Positioner.topDecls (ds.map Clear.topDecl)) (nodes TopDecl.node)
  | [], _ => fun _ => .nil
  | .gen g :: ds, h => fun c =>
    .node (genDecl_laysOut g (h _ List.mem_cons_self) c)
      (.gap _ (topDecls_laysPieces ds (fun d hd => h d (List.mem_cons_of_mem _ hd)) _))
  | .func f :: ds, h => fun c =>
    .node (funcDecl_laysOut f (h _ List.mem_cons_self) c)
      (.gap _ (topDecls_laysPieces ds (fun d hd => h d (List.mem_cons_of_mem _ hd)) _))

/-- A file whose unions have terms, cleared, is laid out from any cursor. -/
theorem file_laysOut (f : SourceFile) (h : NonemptyUnions.file f) :
    LaysOut (Positioner.file f.clearPositions) .file := fun c =>
  .unspanned (.append (optGroup_laysPieces _ c)
    (.tok _ (.node (ident_laid _ _) (.gap _ (topDecls_laysPieces f.decls h _))))) rfl

/-! ## Parsed files -/

/-- What assigning positions gives a file: every position written is valid, the
identifiers the walk visits from the file stand in order, each ending before the next one
starts, and the extent of every node holds the extent of each child the child table
lists. -/
structure PositionsLaidOut (f : SourceFile) : Prop where
  valid : ∀ N, (Node.file f).Reaches N → ∀ s ∈ N.spans, s.isValid
  idents_ordered : (identSpans ((Node.file f).visits 0 (.one .root))).Pairwise
    fun a b => a.stop < b.start
  covers : ∀ N, (Node.file f).Reaches N → ∀ s, N.span? = some s →
    ∀ q ∈ N.children, ∀ t, q.2.span? = some t → s.start ≤ t.start ∧ t.stop ≤ s.stop

/-- A file laid out from offset one has its positions laid out: each node below it is laid
out from a cursor at offset one or later. -/
theorem positionsLaidOut_of_laid {c' : Cursor} {f : SourceFile} (laid : Laid ⟨1, 1⟩ c' (.file f)) :
    PositionsLaidOut f := by
  have hc : (⟨1, 1⟩ : Cursor).Good := Nat.le_refl 1
  refine ⟨fun N hr => ?_, (laid.idents hc 0 _).1, fun N hr s hs q hq t ht => ?_⟩
  · obtain ⟨a, b, hca, -, ha, hl⟩ := laid.reaches hc hr
    exact hl.valid ha hca.1
  · obtain ⟨a, b, -, -, ha, hl⟩ := laid.reaches hc hr
    exact hl.covers ha hs hq ht

end GoTemplates.Syntax
