import GoTemplates.Specialize.Rename
import Mathlib.Logic.Basic

/-! # Renaming changes references and nothing else

Renaming a declaration reads the tree at three kinds of place only: the
references (an identifier expression, a callee, an unqualified named type),
the defining names of specs and functions, and the text of comments.
`Consult` lists these places of a tree in order. A renaming that leaves each of
them as it is leaves the whole declaration as it is: selector names, field
names, labels, package-qualified types, local names and every other node are
never touched. What a renaming does at a place it does change is its own
equation: a reference becomes the replacement's node, a defining name the new
name.
-/

namespace GoTemplates.Specialize

open GoTemplates.Syntax GoTemplates.Source

/-- A place renaming consults. -/
inductive Consulted where
  /-- An identifier expression, a callee or an unqualified named type. -/
  | ref (id : Ident)
  /-- A defining name of a spec or a function. -/
  | defining (id : Ident)
  /-- The text of a comment. -/
  | comment (text : String)

namespace Consult

/-- The comments of an optional comment group. -/
def optGroup : Option CommentGroup → List Consulted
  | none => []
  | some g => g.comments.map fun c => .comment c.text

mutual

/-- The places of an expression. -/
def expr : Expr → List Consulted
  | .ident _ id => [.ref id]
  | .basicLit .. => []
  | .funcLit _ _ sig body => signature sig ++ block body
  | .compositeLit _ t lit => typeExpr t ++ literal lit
  | .index _ x _ args _ => expr x ++ terms args
  | .paren _ _ x _ => expr x
  | .selector _ x _ _ => expr x
  | .slice _ x _ lo hi mx _ => expr x ++ optExpr lo ++ optExpr hi ++ optExpr mx
  | .typeAssert _ x _ _ t _ => expr x ++ optType t
  | .call _ f _ args _ _ => term f ++ terms args
  | .unary _ _ _ x => expr x
  | .binary _ x _ _ y => expr x ++ expr y

def optExpr : Option Expr → List Consulted
  | none => []
  | some e => expr e

def exprs : List Expr → List Consulted
  | [] => []
  | e :: es => expr e ++ exprs es

def term : Term → List Consulted
  | .expr e => expr e
  | .type t => typeExpr t

def terms : List Term → List Consulted
  | [] => []
  | t :: ts => term t ++ terms ts

/-- The places of a type: a package-qualified name is not a reference. -/
def typeExpr : TypeExpr → List Consulted
  | .named _ none name _ args _ => .ref name :: typeExprs args
  | .named _ (some _) _ _ args _ => typeExprs args
  | .pointer _ _ e => typeExpr e
  | .array _ _ len _ e => arrayLength len ++ typeExpr e
  | .slice _ _ _ e => typeExpr e
  | .map _ _ _ k _ v => typeExpr k ++ typeExpr v
  | .chan _ _ _ _ e => typeExpr e
  | .struct _ _ fl => fieldList fl
  | .interface _ _ _ elems _ => interfaceElems elems
  | .func _ _ sig => signature sig
  | .paren _ _ t _ => typeExpr t
  | .union _ ts => unionTerms ts

def typeExprs : List TypeExpr → List Consulted
  | [] => []
  | t :: ts => typeExpr t ++ typeExprs ts

def optType : Option TypeExpr → List Consulted
  | none => []
  | some t => typeExpr t

def arrayLength : ArrayLength → List Consulted
  | .expr e => expr e
  | .ellipsis _ => []

def unionTerm : UnionTerm → List Consulted
  | ⟨_, t⟩ => typeExpr t

def unionTerms : List UnionTerm → List Consulted
  | [] => []
  | t :: ts => unionTerm t ++ unionTerms ts

def interfaceElem : InterfaceElem → List Consulted
  | .method _ sig => signature sig
  | .embed t => typeExpr t

def interfaceElems : List InterfaceElem → List Consulted
  | [] => []
  | e :: es => interfaceElem e ++ interfaceElems es

def signature : Signature → List Consulted
  | ⟨_, ps, rs⟩ => fieldList ps ++ optResults rs

def results : Results → List Consulted
  | .params l => fieldList l
  | .type t => typeExpr t

def optResults : Option Results → List Consulted
  | none => []
  | some r => results r

def fieldList : FieldList → List Consulted
  | ⟨_, fs, _⟩ => fields fs

/-- The places of a field: its comments and its type, never its names. -/
def field : Field → List Consulted
  | ⟨_, doc, _, _, t, _, cmt⟩ => optGroup doc ++ typeExpr t ++ optGroup cmt

def fields : List Field → List Consulted
  | [] => []
  | f :: fs => field f ++ fields fs

def literal : LiteralValue → List Consulted
  | ⟨_, els, _⟩ => keyedElements els

def keyedElement : KeyedElement → List Consulted
  | ⟨k, _, v⟩ => optElement k ++ element v

def keyedElements : List KeyedElement → List Consulted
  | [] => []
  | e :: es => keyedElement e ++ keyedElements es

def element : Element → List Consulted
  | .expr e => expr e
  | .literal l => literal l

def optElement : Option Element → List Consulted
  | none => []
  | some e => element e

def block : Block → List Consulted
  | ⟨_, ss, _⟩ => stmts ss

def simpleStmt : SimpleStmt → List Consulted
  | .expr _ x => expr x
  | .send _ c _ v => expr c ++ expr v
  | .incDec _ x _ _ => expr x
  | .assign _ l _ _ r => exprs l ++ exprs r
  | .shortVarDecl _ _ _ vs => exprs vs

def optSimpleStmt : Option SimpleStmt → List Consulted
  | none => []
  | some s => simpleStmt s

/-- The places of a statement: labels and the names it defines are not among them. -/
def stmt : Stmt → List Consulted
  | .empty _ => []
  | .simple _ x => simpleStmt x
  | .decl _ d => genDecl d
  | .labeled _ _ _ st => stmt st
  | .go _ _ c => expr c
  | .defer _ _ c => expr c
  | .return_ _ _ rs => exprs rs
  | .branch .. => []
  | .block _ b => block b
  | .if_ _ _ init c th el => optSimpleStmt init ++ expr c ++ block th ++ optStmt el
  | .for_ _ _ h body => forHeader h ++ block body
  | .switch _ _ init tag _ cs _ => optSimpleStmt init ++ optExpr tag ++ switchClauses cs
  | .typeSwitch _ _ init _ _ x _ _ _ _ cs _ => optSimpleStmt init ++ expr x ++ switchClauses cs
  | .select _ _ _ cs _ => commClauses cs

def optStmt : Option Stmt → List Consulted
  | none => []
  | some s => stmt s

def stmts : List Stmt → List Consulted
  | [] => []
  | s :: ss => stmt s ++ stmts ss

def forHeader : ForHeader → List Consulted
  | .infinite => []
  | .cond c => expr c
  | .clause i c p => optSimpleStmt i ++ optExpr c ++ optSimpleStmt p
  | .range lhs _ x => optRangeLhs lhs ++ expr x

def rangeLhs : RangeLhs → List Consulted
  | .define .. => []
  | .assign es _ => exprs es

def optRangeLhs : Option RangeLhs → List Consulted
  | none => []
  | some l => rangeLhs l

def switchClause : SwitchClause → List Consulted
  | .exprs _ _ items _ ss => exprs items ++ stmts ss
  | .types _ _ items _ ss => typeCases items ++ stmts ss

def switchClauses : List SwitchClause → List Consulted
  | [] => []
  | c :: cs => switchClause c ++ switchClauses cs

def typeCase : TypeCase → List Consulted
  | .type t => typeExpr t
  | .nil _ => []

def typeCases : List TypeCase → List Consulted
  | [] => []
  | c :: cs => typeCase c ++ typeCases cs

def commClause : CommClause → List Consulted
  | .send _ _ c _ v _ ss => expr c ++ expr v ++ stmts ss
  | .recv _ _ lhs x _ ss => optRangeLhs lhs ++ expr x ++ stmts ss
  | .default _ _ _ ss => stmts ss

def commClauses : List CommClause → List Consulted
  | [] => []
  | c :: cs => commClause c ++ commClauses cs

def genDecl : GenDecl → List Consulted
  | ⟨_, doc, _, _, _, ss, _⟩ => optGroup doc ++ specs ss

/-- The places of a spec: its defining names, but not an import's name. -/
def spec : Spec → List Consulted
  | .import_ doc _ _ c => optGroup doc ++ optGroup c
  | .value doc names t _ vs c =>
    optGroup doc ++ names.map .defining ++ optType t ++ exprs vs ++ optGroup c
  | .type doc name tps _ t c =>
    optGroup doc ++ .defining name :: (optTypeParams tps ++ typeExpr t ++ optGroup c)

def specs : List Spec → List Consulted
  | [] => []
  | s :: ss => spec s ++ specs ss

def typeParams : TypeParams → List Consulted
  | ⟨_, _, ps, _⟩ => typeParamDecls ps

def optTypeParams : Option TypeParams → List Consulted
  | none => []
  | some tps => typeParams tps

def typeParamDecl : TypeParamDecl → List Consulted
  | ⟨_, _, c⟩ => typeExpr c

def typeParamDecls : List TypeParamDecl → List Consulted
  | [] => []
  | d :: ds => typeParamDecl d ++ typeParamDecls ds

end

/-- The places of a function or method: the receiver's type but not its name. -/
def funcDecl (f : FuncDecl) : List Consulted :=
  optGroup f.doc ++ (f.recv.map (typeExpr ·.type)).getD [] ++ .defining f.name ::
    (optTypeParams f.typeParams ++ signature f.signature ++ (f.body.map block).getD [])

end Consult

namespace Renaming

variable (ρ : Renaming)

/-- A renaming leaves a consulted place as it is. -/
def Keeps : Consulted → Prop
  | .ref id => ρ.lookup id.pos = none
  | .defining id => ρ.ctx.renameOf id.pos.start = none
  | .comment text => ρ.ctx.replacer.apply text = text

/-- A renaming leaves every place of a list as it is. -/
def KeepsAll (l : List Consulted) : Prop := ∀ c ∈ l, ρ.Keeps c

variable {ρ}

@[simp] theorem keepsAll_nil : ρ.KeepsAll [] := by simp [KeepsAll]

@[simp] theorem keepsAll_append {l l' : List Consulted} :
    ρ.KeepsAll (l ++ l') ↔ ρ.KeepsAll l ∧ ρ.KeepsAll l' := by
  simp [KeepsAll, or_imp, forall_and]

@[simp] theorem keepsAll_cons {c : Consulted} {l : List Consulted} :
    ρ.KeepsAll (c :: l) ↔ ρ.Keeps c ∧ ρ.KeepsAll l := by
  simp [KeepsAll]

theorem optGroup_eq_self {g : Option CommentGroup} (h : ρ.KeepsAll (Consult.optGroup g)) :
    ρ.optGroup g = g := by
  cases g with
  | none => rfl
  | some g =>
    simp only [Consult.optGroup, KeepsAll, List.mem_map] at h
    simp only [optGroup, group, Option.map_some, Option.some.injEq]
    -- every comment keeps its text
    have hcomments : g.comments.map ρ.comment = g.comments := by
      refine (List.map_congr_left fun c hc => ?_).trans (List.map_id _)
      have hc' : ρ.ctx.replacer.apply c.text = c.text := h _ ⟨c, hc, rfl⟩
      simp [comment, hc']
    simp [hcomments]

theorem KeepsAll.left {l l' : List Consulted} (h : ρ.KeepsAll (l ++ l')) : ρ.KeepsAll l :=
  (keepsAll_append.mp h).1

theorem KeepsAll.right {l l' : List Consulted} (h : ρ.KeepsAll (l ++ l')) : ρ.KeepsAll l' :=
  (keepsAll_append.mp h).2

theorem KeepsAll.head {c : Consulted} {l : List Consulted} (h : ρ.KeepsAll (c :: l)) :
    ρ.Keeps c :=
  h c List.mem_cons_self

theorem KeepsAll.tail {c : Consulted} {l : List Consulted} (h : ρ.KeepsAll (c :: l)) :
    ρ.KeepsAll l :=
  (keepsAll_cons.mp h).2

/-! ## The frame

One lemma per kind of node, following the recursion of the renaming: a node
whose consulted places are all kept is renamed to itself. Each step is the
renaming's own equation at that node, so the proofs state it with `show` and
rewrite the children. -/

mutual

theorem expr_eq_self : ∀ e : Expr, ρ.KeepsAll (Consult.expr e) → ρ.expr e = e
  | .ident s id, h => by
    have hid : ρ.lookup id.pos = none := h.head
    show ρ.identExpr s id false = _
    simp only [identExpr, hid]
  | .basicLit .., _ => rfl
  | .funcLit s fp sig body, h =>
    congr_arg₂ (Expr.funcLit s fp) (signature_eq_self sig h.left) (block_eq_self body h.right)
  | .compositeLit s t lit, h =>
    congr_arg₂ (Expr.compositeLit s) (typeExpr_eq_self t h.left) (literal_eq_self lit h.right)
  | .index s x lb args rb, h =>
    congr_arg₂ (Expr.index s · lb · rb) (expr_eq_self x h.left) (terms_eq_self args h.right)
  | .paren s lp x rp, h => congrArg (Expr.paren s lp · rp) (expr_eq_self x h)
  | .selector s x dp sel, h => congrArg (Expr.selector s · dp sel) (expr_eq_self x h)
  | .slice s x lb lo hi mx rb, h => by
    show Expr.slice s (ρ.expr x) lb (ρ.optExpr lo) (ρ.optExpr hi) (ρ.optExpr mx) rb = _
    rw [expr_eq_self x h.left.left.left, optExpr_eq_self lo h.left.left.right,
      optExpr_eq_self hi h.left.right, optExpr_eq_self mx h.right]
  | .typeAssert s x dp lp t rp, h =>
    congr_arg₂ (Expr.typeAssert s · dp lp · rp) (expr_eq_self x h.left) (optType_eq_self t h.right)
  | .call s f lp args ell rp, h =>
    congr_arg₂ (Expr.call s · lp · ell rp) (callee_eq_self f h.left) (terms_eq_self args h.right)
  | .unary s op opPos x, h => congrArg (Expr.unary s op opPos) (expr_eq_self x h)
  | .binary s x op opPos y, h =>
    congr_arg₂ (Expr.binary s · op opPos ·) (expr_eq_self x h.left) (expr_eq_self y h.right)

theorem optExpr_eq_self : ∀ e : Option Expr, ρ.KeepsAll (Consult.optExpr e) → ρ.optExpr e = e
  | none, _ => rfl
  | some e, h => congrArg some (expr_eq_self e h)

theorem exprs_eq_self : ∀ es : List Expr, ρ.KeepsAll (Consult.exprs es) → ρ.exprs es = es
  | [], _ => rfl
  | e :: es, h => congr_arg₂ List.cons (expr_eq_self e h.left) (exprs_eq_self es h.right)

theorem term_eq_self : ∀ t : Term, ρ.KeepsAll (Consult.term t) → ρ.term t = t
  | .expr e, h => congrArg Term.expr (expr_eq_self e h)
  | .type t, h => congrArg Term.type (typeExpr_eq_self t h)

/-- A callee is renamed as the term it is, a plain identifier being a reference too. -/
theorem callee_eq_self : ∀ t : Term, ρ.KeepsAll (Consult.term t) → ρ.callee t = t
  | .expr e, h => by
    by_cases hident : ∃ s id, e = .ident s id
    · obtain ⟨s, id, rfl⟩ := hident
      have hid : ρ.lookup id.pos = none := h.head
      rw [Renaming.callee, identExpr, hid]
    · rw [Renaming.callee.eq_2 _ _ fun s id he => hident ⟨s, id, he⟩, expr_eq_self e h]
  | .type t, h => congrArg Term.type (typeExpr_eq_self t h)

theorem terms_eq_self : ∀ ts : List Term, ρ.KeepsAll (Consult.terms ts) → ρ.terms ts = ts
  | [], _ => rfl
  | t :: ts, h => congr_arg₂ List.cons (term_eq_self t h.left) (terms_eq_self ts h.right)

/-- A named type keeps its name unless it is an unqualified reference with a replacement. -/
theorem typeExpr_eq_self : ∀ t : TypeExpr, ρ.KeepsAll (Consult.typeExpr t) → ρ.typeExpr t = t
  | .named s none name lb args rb, h => by
    have hname : ρ.lookup name.pos = none := h.head
    rw [Renaming.typeExpr.eq_2 _ _ _ _ _ _ _ (fun r _ hr => by simp [hname] at hr),
      typeExprs_eq_self args h.tail]
  | .named s (some pk) name lb args rb, h => by
    rw [Renaming.typeExpr.eq_2 _ _ _ _ _ _ _ (fun r hpkg _ => by cases hpkg),
      typeExprs_eq_self args h]
  | .pointer s sp e, h => congrArg (TypeExpr.pointer s sp) (typeExpr_eq_self e h)
  | .array s lb len rb e, h =>
    congr_arg₂ (TypeExpr.array s lb · rb ·) (arrayLength_eq_self len h.left)
      (typeExpr_eq_self e h.right)
  | .slice s lb rb e, h => congrArg (TypeExpr.slice s lb rb) (typeExpr_eq_self e h)
  | .map s mp lb k rb v, h =>
    congr_arg₂ (TypeExpr.map s mp lb · rb ·) (typeExpr_eq_self k h.left) (typeExpr_eq_self v h.right)
  | .chan s d cp ap e, h => congrArg (TypeExpr.chan s d cp ap) (typeExpr_eq_self e h)
  | .struct s sp fl, h => congrArg (TypeExpr.struct s sp) (fieldList_eq_self fl h)
  | .interface s ip lb elems rb, h =>
    congrArg (TypeExpr.interface s ip lb · rb) (interfaceElems_eq_self elems h)
  | .func s fp sig, h => congrArg (TypeExpr.func s fp) (signature_eq_self sig h)
  | .paren s lp t rp, h => congrArg (TypeExpr.paren s lp · rp) (typeExpr_eq_self t h)
  | .union s ts, h => congrArg (TypeExpr.union s) (unionTerms_eq_self ts h)

theorem typeExprs_eq_self : ∀ ts : List TypeExpr, ρ.KeepsAll (Consult.typeExprs ts) →
    ρ.typeExprs ts = ts
  | [], _ => rfl
  | t :: ts, h => congr_arg₂ List.cons (typeExpr_eq_self t h.left) (typeExprs_eq_self ts h.right)

theorem optType_eq_self : ∀ t : Option TypeExpr, ρ.KeepsAll (Consult.optType t) →
    ρ.optType t = t
  | none, _ => rfl
  | some t, h => congrArg some (typeExpr_eq_self t h)

theorem arrayLength_eq_self : ∀ l : ArrayLength, ρ.KeepsAll (Consult.arrayLength l) →
    ρ.arrayLength l = l
  | .expr e, h => congrArg ArrayLength.expr (expr_eq_self e h)
  | .ellipsis _, _ => rfl

theorem unionTerm_eq_self : ∀ t : UnionTerm, ρ.KeepsAll (Consult.unionTerm t) →
    ρ.unionTerm t = t
  | ⟨tilde, t⟩, h => congrArg (UnionTerm.mk tilde) (typeExpr_eq_self t h)

theorem unionTerms_eq_self : ∀ ts : List UnionTerm, ρ.KeepsAll (Consult.unionTerms ts) →
    ρ.unionTerms ts = ts
  | [], _ => rfl
  | t :: ts, h => congr_arg₂ List.cons (unionTerm_eq_self t h.left) (unionTerms_eq_self ts h.right)

theorem interfaceElem_eq_self : ∀ e : InterfaceElem, ρ.KeepsAll (Consult.interfaceElem e) →
    ρ.interfaceElem e = e
  | .method n sig, h => congrArg (InterfaceElem.method n) (signature_eq_self sig h)
  | .embed t, h => congrArg InterfaceElem.embed (typeExpr_eq_self t h)

theorem interfaceElems_eq_self : ∀ es : List InterfaceElem,
    ρ.KeepsAll (Consult.interfaceElems es) → ρ.interfaceElems es = es
  | [], _ => rfl
  | e :: es, h =>
    congr_arg₂ List.cons (interfaceElem_eq_self e h.left) (interfaceElems_eq_self es h.right)

theorem signature_eq_self : ∀ sig : Signature, ρ.KeepsAll (Consult.signature sig) →
    ρ.signature sig = sig
  | ⟨s, ps, rs⟩, h =>
    congr_arg₂ (Signature.mk s) (fieldList_eq_self ps h.left) (optResults_eq_self rs h.right)

theorem results_eq_self : ∀ r : Results, ρ.KeepsAll (Consult.results r) → ρ.results r = r
  | .params l, h => congrArg Results.params (fieldList_eq_self l h)
  | .type t, h => congrArg Results.type (typeExpr_eq_self t h)

theorem optResults_eq_self : ∀ r : Option Results, ρ.KeepsAll (Consult.optResults r) →
    ρ.optResults r = r
  | none, _ => rfl
  | some r, h => congrArg some (results_eq_self r h)

theorem fieldList_eq_self : ∀ l : FieldList, ρ.KeepsAll (Consult.fieldList l) →
    ρ.fieldList l = l
  | ⟨o, fs, c⟩, h => congrArg (FieldList.mk o · c) (fields_eq_self fs h)

/-- A field keeps its names whatever the renaming. -/
theorem field_eq_self : ∀ f : Field, ρ.KeepsAll (Consult.field f) → ρ.field f = f
  | ⟨s, doc, names, ell, t, tag, cmt⟩, h => by
    show Syntax.Field.mk s (ρ.optGroup doc) names ell (ρ.typeExpr t) tag (ρ.optGroup cmt) = _
    rw [optGroup_eq_self h.left.left, typeExpr_eq_self t h.left.right, optGroup_eq_self h.right]

theorem fields_eq_self : ∀ fs : List Field, ρ.KeepsAll (Consult.fields fs) → ρ.fields fs = fs
  | [], _ => rfl
  | f :: fs, h => congr_arg₂ List.cons (field_eq_self f h.left) (fields_eq_self fs h.right)

theorem literal_eq_self : ∀ l : LiteralValue, ρ.KeepsAll (Consult.literal l) →
    ρ.literal l = l
  | ⟨lb, els, rb⟩, h => congrArg (LiteralValue.mk lb · rb) (keyedElements_eq_self els h)

theorem keyedElement_eq_self : ∀ e : KeyedElement, ρ.KeepsAll (Consult.keyedElement e) →
    ρ.keyedElement e = e
  | ⟨k, cp, v⟩, h =>
    congr_arg₂ (KeyedElement.mk · cp ·) (optElement_eq_self k h.left) (element_eq_self v h.right)

theorem keyedElements_eq_self : ∀ es : List KeyedElement,
    ρ.KeepsAll (Consult.keyedElements es) → ρ.keyedElements es = es
  | [], _ => rfl
  | e :: es, h =>
    congr_arg₂ List.cons (keyedElement_eq_self e h.left) (keyedElements_eq_self es h.right)

theorem element_eq_self : ∀ e : Element, ρ.KeepsAll (Consult.element e) → ρ.element e = e
  | .expr e, h => congrArg Element.expr (expr_eq_self e h)
  | .literal l, h => congrArg Element.literal (literal_eq_self l h)

theorem optElement_eq_self : ∀ e : Option Element, ρ.KeepsAll (Consult.optElement e) →
    ρ.optElement e = e
  | none, _ => rfl
  | some e, h => congrArg some (element_eq_self e h)

theorem block_eq_self : ∀ b : Block, ρ.KeepsAll (Consult.block b) → ρ.block b = b
  | ⟨lb, ss, rb⟩, h => congrArg (Block.mk lb · rb) (stmts_eq_self ss h)

theorem simpleStmt_eq_self : ∀ s : SimpleStmt, ρ.KeepsAll (Consult.simpleStmt s) →
    ρ.simpleStmt s = s
  | .expr s x, h => congrArg (SimpleStmt.expr s) (expr_eq_self x h)
  | .send s c ap v, h =>
    congr_arg₂ (SimpleStmt.send s · ap ·) (expr_eq_self c h.left) (expr_eq_self v h.right)
  | .incDec s x op opPos, h => congrArg (SimpleStmt.incDec s · op opPos) (expr_eq_self x h)
  | .assign s l op opPos r, h =>
    congr_arg₂ (SimpleStmt.assign s · op opPos ·) (exprs_eq_self l h.left)
      (exprs_eq_self r h.right)
  | .shortVarDecl s names opPos vs, h =>
    congrArg (SimpleStmt.shortVarDecl s names opPos) (exprs_eq_self vs h)

theorem optSimpleStmt_eq_self : ∀ s : Option SimpleStmt,
    ρ.KeepsAll (Consult.optSimpleStmt s) → ρ.optSimpleStmt s = s
  | none, _ => rfl
  | some s, h => congrArg some (simpleStmt_eq_self s h)

theorem stmt_eq_self : ∀ s : Stmt, ρ.KeepsAll (Consult.stmt s) → ρ.stmt s = s
  | .empty _, _ => rfl
  | .simple s x, h => congrArg (Stmt.simple s) (simpleStmt_eq_self x h)
  | .decl s d, h => congrArg (Stmt.decl s) (genDecl_eq_self d h)
  | .labeled s l cp st, h => congrArg (Stmt.labeled s l cp) (stmt_eq_self st h)
  | .go s gp c, h => congrArg (Stmt.go s gp) (expr_eq_self c h)
  | .defer s dp c, h => congrArg (Stmt.defer s dp) (expr_eq_self c h)
  | .return_ s rp rs, h => congrArg (Stmt.return_ s rp) (exprs_eq_self rs h)
  | .branch .., _ => rfl
  | .block s b, h => congrArg (Stmt.block s) (block_eq_self b h)
  | .if_ s ip init c th el, h => by
    show Stmt.if_ s ip (ρ.optSimpleStmt init) (ρ.expr c) (ρ.block th) (ρ.optStmt el) = _
    rw [optSimpleStmt_eq_self init h.left.left.left, expr_eq_self c h.left.left.right,
      block_eq_self th h.left.right, optStmt_eq_self el h.right]
  | .for_ s fp hd body, h =>
    congr_arg₂ (Stmt.for_ s fp) (forHeader_eq_self hd h.left) (block_eq_self body h.right)
  | .switch s sp init tag lb cs rb, h => by
    show Stmt.switch s sp (ρ.optSimpleStmt init) (ρ.optExpr tag) lb (ρ.switchClauses cs) rb = _
    rw [optSimpleStmt_eq_self init h.left.left, optExpr_eq_self tag h.left.right,
      switchClauses_eq_self cs h.right]
  | .typeSwitch s sp init bind dp x dot lp rp lb cs rb, h => by
    show Stmt.typeSwitch s sp (ρ.optSimpleStmt init) bind dp (ρ.expr x) dot lp rp lb
      (ρ.switchClauses cs) rb = _
    rw [optSimpleStmt_eq_self init h.left.left, expr_eq_self x h.left.right,
      switchClauses_eq_self cs h.right]
  | .select s sp lb cs rb, h => congrArg (Stmt.select s sp lb · rb) (commClauses_eq_self cs h)

theorem optStmt_eq_self : ∀ s : Option Stmt, ρ.KeepsAll (Consult.optStmt s) → ρ.optStmt s = s
  | none, _ => rfl
  | some s, h => congrArg some (stmt_eq_self s h)

theorem stmts_eq_self : ∀ ss : List Stmt, ρ.KeepsAll (Consult.stmts ss) → ρ.stmts ss = ss
  | [], _ => rfl
  | s :: ss, h => congr_arg₂ List.cons (stmt_eq_self s h.left) (stmts_eq_self ss h.right)

theorem forHeader_eq_self : ∀ hd : ForHeader, ρ.KeepsAll (Consult.forHeader hd) →
    ρ.forHeader hd = hd
  | .infinite, _ => rfl
  | .cond c, h => congrArg ForHeader.cond (expr_eq_self c h)
  | .clause i c p, h => by
    show ForHeader.clause (ρ.optSimpleStmt i) (ρ.optExpr c) (ρ.optSimpleStmt p) = _
    rw [optSimpleStmt_eq_self i h.left.left, optExpr_eq_self c h.left.right,
      optSimpleStmt_eq_self p h.right]
  | .range lhs rp x, h =>
    congr_arg₂ (ForHeader.range · rp ·) (optRangeLhs_eq_self lhs h.left) (expr_eq_self x h.right)

theorem rangeLhs_eq_self : ∀ l : RangeLhs, ρ.KeepsAll (Consult.rangeLhs l) → ρ.rangeLhs l = l
  | .define .., _ => rfl
  | .assign es op, h => congrArg (RangeLhs.assign · op) (exprs_eq_self es h)

theorem optRangeLhs_eq_self : ∀ l : Option RangeLhs, ρ.KeepsAll (Consult.optRangeLhs l) →
    ρ.optRangeLhs l = l
  | none, _ => rfl
  | some l, h => congrArg some (rangeLhs_eq_self l h)

theorem switchClause_eq_self : ∀ c : SwitchClause, ρ.KeepsAll (Consult.switchClause c) →
    ρ.switchClause c = c
  | .exprs s cp items colon ss, h =>
    congr_arg₂ (SwitchClause.exprs s cp · colon ·) (exprs_eq_self items h.left)
      (stmts_eq_self ss h.right)
  | .types s cp items colon ss, h =>
    congr_arg₂ (SwitchClause.types s cp · colon ·) (typeCases_eq_self items h.left)
      (stmts_eq_self ss h.right)

theorem switchClauses_eq_self : ∀ cs : List SwitchClause,
    ρ.KeepsAll (Consult.switchClauses cs) → ρ.switchClauses cs = cs
  | [], _ => rfl
  | c :: cs, h =>
    congr_arg₂ List.cons (switchClause_eq_self c h.left) (switchClauses_eq_self cs h.right)

theorem typeCase_eq_self : ∀ c : TypeCase, ρ.KeepsAll (Consult.typeCase c) → ρ.typeCase c = c
  | .type t, h => congrArg TypeCase.type (typeExpr_eq_self t h)
  | .nil _, _ => rfl

theorem typeCases_eq_self : ∀ cs : List TypeCase, ρ.KeepsAll (Consult.typeCases cs) →
    ρ.typeCases cs = cs
  | [], _ => rfl
  | c :: cs, h => congr_arg₂ List.cons (typeCase_eq_self c h.left) (typeCases_eq_self cs h.right)

theorem commClause_eq_self : ∀ c : CommClause, ρ.KeepsAll (Consult.commClause c) →
    ρ.commClause c = c
  | .send s cp c ap v colon ss, h => by
    show CommClause.send s cp (ρ.expr c) ap (ρ.expr v) colon (ρ.stmts ss) = _
    rw [expr_eq_self c h.left.left, expr_eq_self v h.left.right, stmts_eq_self ss h.right]
  | .recv s cp lhs x colon ss, h => by
    show CommClause.recv s cp (ρ.optRangeLhs lhs) (ρ.expr x) colon (ρ.stmts ss) = _
    rw [optRangeLhs_eq_self lhs h.left.left, expr_eq_self x h.left.right,
      stmts_eq_self ss h.right]
  | .default s dp colon ss, h => congrArg (CommClause.default s dp colon) (stmts_eq_self ss h)

theorem commClauses_eq_self : ∀ cs : List CommClause, ρ.KeepsAll (Consult.commClauses cs) →
    ρ.commClauses cs = cs
  | [], _ => rfl
  | c :: cs, h =>
    congr_arg₂ List.cons (commClause_eq_self c h.left) (commClauses_eq_self cs h.right)

theorem genDecl_eq_self : ∀ d : GenDecl, ρ.KeepsAll (Consult.genDecl d) → ρ.genDecl d = d
  | ⟨s, _, kw, kind, lp, ss, rp⟩, h =>
    congr_arg₂ (GenDecl.mk s · kw kind lp · rp) (optGroup_eq_self h.left)
      (specs_eq_self ss h.right)

/-- A spec keeps its names when none of them is renamed. -/
theorem spec_eq_self : ∀ s : Spec, ρ.KeepsAll (Consult.spec s) → ρ.spec s = s
  | .import_ doc n p c, h =>
    congr_arg₂ (Spec.import_ · n p ·) (optGroup_eq_self h.left) (optGroup_eq_self h.right)
  | .value doc names t ap vs c, h => by
    have hdoc := h.left.left.left.left
    have hnames : names.map ρ.definingName = names := by
      refine (List.map_congr_left fun n hn => ?_).trans (List.map_id _)
      have hkeep : ρ.ctx.renameOf n.pos.start = none :=
        h.left.left.left.right _ (List.mem_map_of_mem hn)
      simp [definingName, hkeep]
    show Spec.value (ρ.optGroup doc) (names.map ρ.definingName) (ρ.optType t) ap (ρ.exprs vs)
      (ρ.optGroup c) = _
    rw [optGroup_eq_self hdoc, hnames, optType_eq_self t h.left.left.right,
      exprs_eq_self vs h.left.right, optGroup_eq_self h.right]
  | .type doc name tps ap t c, h => by
    have hkeep : ρ.ctx.renameOf name.pos.start = none := h.right.head
    have hname : ρ.definingName name = name := by simp [definingName, hkeep]
    have hrest := h.right.tail
    show Spec.type (ρ.optGroup doc) (ρ.definingName name) (ρ.optTypeParams tps) ap
      (ρ.typeExpr t) (ρ.optGroup c) = _
    rw [optGroup_eq_self h.left, hname, optTypeParams_eq_self tps hrest.left.left,
      typeExpr_eq_self t hrest.left.right, optGroup_eq_self hrest.right]

theorem specs_eq_self : ∀ ss : List Spec, ρ.KeepsAll (Consult.specs ss) → ρ.specs ss = ss
  | [], _ => rfl
  | s :: ss, h => congr_arg₂ List.cons (spec_eq_self s h.left) (specs_eq_self ss h.right)

theorem typeParams_eq_self : ∀ tps : TypeParams, ρ.KeepsAll (Consult.typeParams tps) →
    ρ.typeParams tps = tps
  | ⟨s, lb, ps, rb⟩, h => congrArg (TypeParams.mk s lb · rb) (typeParamDecls_eq_self ps h)

theorem optTypeParams_eq_self : ∀ tps : Option TypeParams,
    ρ.KeepsAll (Consult.optTypeParams tps) → ρ.optTypeParams tps = tps
  | none, _ => rfl
  | some tps, h => congrArg some (typeParams_eq_self tps h)

theorem typeParamDecl_eq_self : ∀ d : TypeParamDecl, ρ.KeepsAll (Consult.typeParamDecl d) →
    ρ.typeParamDecl d = d
  | ⟨s, names, c⟩, h => congrArg (TypeParamDecl.mk s names) (typeExpr_eq_self c h)

theorem typeParamDecls_eq_self : ∀ ds : List TypeParamDecl,
    ρ.KeepsAll (Consult.typeParamDecls ds) → ρ.typeParamDecls ds = ds
  | [], _ => rfl
  | d :: ds, h =>
    congr_arg₂ List.cons (typeParamDecl_eq_self d h.left) (typeParamDecls_eq_self ds h.right)

end

/-- A function keeps its name, receiver, signature and body when none of its consulted
places changes. -/
theorem funcDecl_eq_self {f : FuncDecl} (h : ρ.KeepsAll (Consult.funcDecl f)) :
    ρ.funcDecl f = f := by
  obtain ⟨span, doc, fp, recv, name, tps, sig, body⟩ := f
  have hrest := h.right.tail
  have hrecv : (recv.map fun r => { r with type := ρ.typeExpr r.type }) = recv := by
    cases recv with
    | none => rfl
    | some r => exact congrArg some (congrArg ({ r with type := · }) (typeExpr_eq_self _ h.left.right))
  have hkeep : ρ.ctx.renameOf name.pos.start = none := h.right.head
  have hname : ρ.definingName name = name := by simp [definingName, hkeep]
  have hbody : body.map ρ.block = body := by
    cases body with
    | none => rfl
    | some b => exact congrArg some (block_eq_self b hrest.right)
  show FuncDecl.mk span (ρ.optGroup doc) fp _ (ρ.definingName name) (ρ.optTypeParams tps)
    (ρ.signature sig) (body.map ρ.block) = _
  rw [optGroup_eq_self h.left.left, hrecv, hname, optTypeParams_eq_self tps hrest.left.left,
    signature_eq_self sig hrest.left.right, hbody]

end Renaming

end GoTemplates.Specialize
