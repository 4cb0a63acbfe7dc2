import GoTemplates.Specialize.Context
import GoTemplates.Syntax.Resolve

/-! # Renaming retained declarations

Renaming maps a retained declaration node by node; everything a rename
does not reach stays as it was.

* A defining name of a spec or function whose declaration has a rename is
  written as the new name.
* An unqualified named type bound to a renamed declaration becomes the new
  name when the replacement is a bare identifier, and otherwise the whole type
  becomes the qualified type, behind a pointer if the replacement is one; type
  arguments are kept, themselves renamed.
* An identifier expression bound to a renamed declaration becomes the new
  name, qualified by a selector and dereferenced as the replacement says; a
  dereferenced callee is parenthesized, since `*T(x)` would dereference the
  conversion.
* Every comment attached inside the declaration is passed through the replacer.

Fields, parameters, labels, selectors, receiver names and local names are left
alone: only references resolved to top level declarations change.
-/

namespace GoTemplates.Specialize

open GoTemplates.Syntax GoTemplates.Source GoTemplates.Text

/-- What renaming consults: the bindings of the input file and the run's state. -/
structure Renaming where
  bindings : Bindings
  ctx : Retention

/-- An identifier made by the specializer, with no position. -/
def freshIdent (name : String) : Ident := ⟨name, Span.none⟩

/-- The expression a reference to a replaced declaration becomes. -/
def Replacement.toExpr (r : Replacement) (callee : Bool) : Expr :=
  let base : Expr := match r.qualifier with
    | some q => .selector Span.none (.ident Span.none (freshIdent q)) Span.none (freshIdent r.name)
    | none => .ident Span.none (freshIdent r.name)
  if r.pointer then
    let deref := Expr.unary Span.none .deref Span.none base
    if callee then .paren Span.none Span.none deref Span.none else deref
  else base

/-- The type a named type referring to a replaced declaration becomes, keeping its
type arguments. -/
def Replacement.toType (r : Replacement) (lBrack : Option Span) (args : List TypeExpr)
    (rBrack : Option Span) : TypeExpr :=
  let named := TypeExpr.named Span.none (r.qualifier.map freshIdent) (freshIdent r.name)
    lBrack args rBrack
  if r.pointer then .pointer Span.none Span.none named else named

namespace Renaming

/-- The replacement of the declaration an occurrence is bound to, if it has one. -/
def lookup (ρ : Renaming) (pos : Span) : Option Replacement :=
  (ρ.bindings.lookup pos).bind fun b => ρ.ctx.renameOf b.key

/-- A comment with its text passed through the replacer. -/
def comment (ρ : Renaming) (c : Comment) : Comment :=
  { c with text := ρ.ctx.replacer.apply c.text }

/-- A comment group with every comment passed through the replacer. -/
def group (ρ : Renaming) (g : CommentGroup) : CommentGroup :=
  { g with comments := g.comments.map ρ.comment, nonempty := by simpa using g.nonempty }

/-- An optional comment group, renamed. -/
def optGroup (ρ : Renaming) (g : Option CommentGroup) : Option CommentGroup :=
  g.map ρ.group

/-- A defining name, written as its declaration's new name if it has one. -/
def definingName (ρ : Renaming) (id : Ident) : Ident :=
  match ρ.ctx.renameOf id.pos.start with
  | some r => freshIdent r.name
  | none => id

/-- An identifier expression, replaced if it refers to a renamed declaration. -/
def identExpr (ρ : Renaming) (s : Span) (id : Ident) (callee : Bool) : Expr :=
  match ρ.lookup id.pos with
  | some r => r.toExpr callee
  | none => .ident s id

mutual

/-- Renames an expression. -/
def expr (ρ : Renaming) : Expr → Expr
  | .ident s id => ρ.identExpr s id false
  | .basicLit s l => .basicLit s l
  | .funcLit s fp sig body => .funcLit s fp (ρ.signature sig) (ρ.block body)
  | .compositeLit s t lit => .compositeLit s (ρ.typeExpr t) (ρ.literal lit)
  | .index s x lb args rb => .index s (ρ.expr x) lb (ρ.terms args) rb
  | .paren s lp x rp => .paren s lp (ρ.expr x) rp
  | .selector s x dp sel => .selector s (ρ.expr x) dp sel
  | .slice s x lb lo hi mx rb =>
    .slice s (ρ.expr x) lb (ρ.optExpr lo) (ρ.optExpr hi) (ρ.optExpr mx) rb
  | .typeAssert s x dp lp t rp => .typeAssert s (ρ.expr x) dp lp (ρ.optType t) rp
  | .call s f lp args ell rp => .call s (ρ.callee f) lp (ρ.terms args) ell rp
  | .unary s op opPos x => .unary s op opPos (ρ.expr x)
  | .binary s x op opPos y => .binary s (ρ.expr x) op opPos (ρ.expr y)

/-- Renames an optional expression. -/
def optExpr (ρ : Renaming) : Option Expr → Option Expr
  | none => none
  | some e => some (ρ.expr e)

/-- Renames an expression list. -/
def exprs (ρ : Renaming) : List Expr → List Expr
  | [] => []
  | e :: es => ρ.expr e :: ρ.exprs es

/-- Renames an argument. -/
def term (ρ : Renaming) : Term → Term
  | .expr e => .expr (ρ.expr e)
  | .type t => .type (ρ.typeExpr t)

/-- Renames a callee, where a dereferenced replacement is parenthesized. -/
def callee (ρ : Renaming) : Term → Term
  | .expr (.ident s id) => .expr (ρ.identExpr s id true)
  | .expr e => .expr (ρ.expr e)
  | .type t => .type (ρ.typeExpr t)

/-- Renames an argument list. -/
def terms (ρ : Renaming) : List Term → List Term
  | [] => []
  | t :: ts => ρ.term t :: ρ.terms ts

/-- Renames a type. -/
def typeExpr (ρ : Renaming) : TypeExpr → TypeExpr
  | .named s pkg name lb args rb =>
    match pkg, ρ.lookup name.pos with
    | none, some r =>
      if r.isIdent then .named s none (freshIdent r.name) lb (ρ.typeExprs args) rb
      else r.toType lb (ρ.typeExprs args) rb
    | _, _ => .named s pkg name lb (ρ.typeExprs args) rb
  | .pointer s sp e => .pointer s sp (ρ.typeExpr e)
  | .array s lb len rb e => .array s lb (ρ.arrayLength len) rb (ρ.typeExpr e)
  | .slice s lb rb e => .slice s lb rb (ρ.typeExpr e)
  | .map s mp lb k rb v => .map s mp lb (ρ.typeExpr k) rb (ρ.typeExpr v)
  | .chan s d cp ap e => .chan s d cp ap (ρ.typeExpr e)
  | .struct s sp fl => .struct s sp (ρ.fieldList fl)
  | .interface s ip lb elems rb => .interface s ip lb (ρ.interfaceElems elems) rb
  | .func s fp sig => .func s fp (ρ.signature sig)
  | .paren s lp t rp => .paren s lp (ρ.typeExpr t) rp
  | .union s ts => .union s (ρ.unionTerms ts)

/-- Renames a type list. -/
def typeExprs (ρ : Renaming) : List TypeExpr → List TypeExpr
  | [] => []
  | t :: ts => ρ.typeExpr t :: ρ.typeExprs ts

/-- Renames an optional type. -/
def optType (ρ : Renaming) : Option TypeExpr → Option TypeExpr
  | none => none
  | some t => some (ρ.typeExpr t)

/-- Renames an array length. -/
def arrayLength (ρ : Renaming) : ArrayLength → ArrayLength
  | .expr e => .expr (ρ.expr e)
  | .ellipsis p => .ellipsis p

/-- Renames a union term. -/
def unionTerm (ρ : Renaming) : UnionTerm → UnionTerm
  | ⟨tilde, t⟩ => ⟨tilde, ρ.typeExpr t⟩

/-- Renames union terms. -/
def unionTerms (ρ : Renaming) : List UnionTerm → List UnionTerm
  | [] => []
  | t :: ts => ρ.unionTerm t :: ρ.unionTerms ts

/-- Renames an interface element. -/
def interfaceElem (ρ : Renaming) : InterfaceElem → InterfaceElem
  | .method n sig => .method n (ρ.signature sig)
  | .embed t => .embed (ρ.typeExpr t)

/-- Renames interface elements. -/
def interfaceElems (ρ : Renaming) : List InterfaceElem → List InterfaceElem
  | [] => []
  | e :: es => ρ.interfaceElem e :: ρ.interfaceElems es

/-- Renames a signature. -/
def signature (ρ : Renaming) : Signature → Signature
  | ⟨s, ps, rs⟩ => ⟨s, ρ.fieldList ps, ρ.optResults rs⟩

/-- Renames results. -/
def results (ρ : Renaming) : Results → Results
  | .params l => .params (ρ.fieldList l)
  | .type t => .type (ρ.typeExpr t)

/-- Renames optional results. -/
def optResults (ρ : Renaming) : Option Results → Option Results
  | none => none
  | some r => some (ρ.results r)

/-- Renames a field list. -/
def fieldList (ρ : Renaming) : FieldList → FieldList
  | ⟨o, fs, c⟩ => ⟨o, ρ.fields fs, c⟩

/-- Renames a field: its type and its comments, never its names. -/
def field (ρ : Renaming) : Field → Field
  | ⟨s, doc, names, ell, t, tag, cmt⟩ =>
    ⟨s, ρ.optGroup doc, names, ell, ρ.typeExpr t, tag, ρ.optGroup cmt⟩

/-- Renames fields. -/
def fields (ρ : Renaming) : List Field → List Field
  | [] => []
  | f :: fs => ρ.field f :: ρ.fields fs

/-- Renames a composite literal's elements. -/
def literal (ρ : Renaming) : LiteralValue → LiteralValue
  | ⟨lb, els, rb⟩ => ⟨lb, ρ.keyedElements els, rb⟩

/-- Renames a keyed element. -/
def keyedElement (ρ : Renaming) : KeyedElement → KeyedElement
  | ⟨k, cp, v⟩ => ⟨ρ.optElement k, cp, ρ.element v⟩

/-- Renames keyed elements. -/
def keyedElements (ρ : Renaming) : List KeyedElement → List KeyedElement
  | [] => []
  | e :: es => ρ.keyedElement e :: ρ.keyedElements es

/-- Renames an element. -/
def element (ρ : Renaming) : Element → Element
  | .expr e => .expr (ρ.expr e)
  | .literal l => .literal (ρ.literal l)

/-- Renames an optional element. -/
def optElement (ρ : Renaming) : Option Element → Option Element
  | none => none
  | some e => some (ρ.element e)

/-- Renames a block. -/
def block (ρ : Renaming) : Block → Block
  | ⟨lb, ss, rb⟩ => ⟨lb, ρ.stmts ss, rb⟩

/-- Renames a simple statement. -/
def simpleStmt (ρ : Renaming) : SimpleStmt → SimpleStmt
  | .expr s x => .expr s (ρ.expr x)
  | .send s c ap v => .send s (ρ.expr c) ap (ρ.expr v)
  | .incDec s x op opPos => .incDec s (ρ.expr x) op opPos
  | .assign s l op opPos r => .assign s (ρ.exprs l) op opPos (ρ.exprs r)
  | .shortVarDecl s names opPos vs => .shortVarDecl s names opPos (ρ.exprs vs)

/-- Renames an optional simple statement. -/
def optSimpleStmt (ρ : Renaming) : Option SimpleStmt → Option SimpleStmt
  | none => none
  | some s => some (ρ.simpleStmt s)

/-- Renames a statement. -/
def stmt (ρ : Renaming) : Stmt → Stmt
  | .empty s => .empty s
  | .simple s x => .simple s (ρ.simpleStmt x)
  | .decl s d => .decl s (ρ.genDecl d)
  | .labeled s l cp st => .labeled s l cp (ρ.stmt st)
  | .go s gp c => .go s gp (ρ.expr c)
  | .defer s dp c => .defer s dp (ρ.expr c)
  | .return_ s rp rs => .return_ s rp (ρ.exprs rs)
  | .branch s k p l => .branch s k p l
  | .block s b => .block s (ρ.block b)
  | .if_ s ip init c th el =>
    .if_ s ip (ρ.optSimpleStmt init) (ρ.expr c) (ρ.block th) (ρ.optStmt el)
  | .for_ s fp h body => .for_ s fp (ρ.forHeader h) (ρ.block body)
  | .switch s sp init tag lb cs rb =>
    .switch s sp (ρ.optSimpleStmt init) (ρ.optExpr tag) lb (ρ.switchClauses cs) rb
  | .typeSwitch s sp init bind dp x dot lp rp lb cs rb =>
    .typeSwitch s sp (ρ.optSimpleStmt init) bind dp (ρ.expr x) dot lp rp lb
      (ρ.switchClauses cs) rb
  | .select s sp lb cs rb => .select s sp lb (ρ.commClauses cs) rb

/-- Renames an optional statement. -/
def optStmt (ρ : Renaming) : Option Stmt → Option Stmt
  | none => none
  | some s => some (ρ.stmt s)

/-- Renames a statement list. -/
def stmts (ρ : Renaming) : List Stmt → List Stmt
  | [] => []
  | s :: ss => ρ.stmt s :: ρ.stmts ss

/-- Renames a loop header. -/
def forHeader (ρ : Renaming) : ForHeader → ForHeader
  | .infinite => .infinite
  | .cond c => .cond (ρ.expr c)
  | .clause i c p => .clause (ρ.optSimpleStmt i) (ρ.optExpr c) (ρ.optSimpleStmt p)
  | .range lhs rp x => .range (ρ.optRangeLhs lhs) rp (ρ.expr x)

/-- Renames the left side of a range or receive. -/
def rangeLhs (ρ : Renaming) : RangeLhs → RangeLhs
  | .define names op => .define names op
  | .assign es op => .assign (ρ.exprs es) op

/-- Renames an optional left side. -/
def optRangeLhs (ρ : Renaming) : Option RangeLhs → Option RangeLhs
  | none => none
  | some l => some (ρ.rangeLhs l)

/-- Renames a switch clause. -/
def switchClause (ρ : Renaming) : SwitchClause → SwitchClause
  | .exprs s cp items colon ss => .exprs s cp (ρ.exprs items) colon (ρ.stmts ss)
  | .types s cp items colon ss => .types s cp (ρ.typeCases items) colon (ρ.stmts ss)

/-- Renames switch clauses. -/
def switchClauses (ρ : Renaming) : List SwitchClause → List SwitchClause
  | [] => []
  | c :: cs => ρ.switchClause c :: ρ.switchClauses cs

/-- Renames a type case. -/
def typeCase (ρ : Renaming) : TypeCase → TypeCase
  | .type t => .type (ρ.typeExpr t)
  | .nil p => .nil p

/-- Renames type cases. -/
def typeCases (ρ : Renaming) : List TypeCase → List TypeCase
  | [] => []
  | c :: cs => ρ.typeCase c :: ρ.typeCases cs

/-- Renames a select clause. -/
def commClause (ρ : Renaming) : CommClause → CommClause
  | .send s cp c ap v colon ss => .send s cp (ρ.expr c) ap (ρ.expr v) colon (ρ.stmts ss)
  | .recv s cp lhs x colon ss => .recv s cp (ρ.optRangeLhs lhs) (ρ.expr x) colon (ρ.stmts ss)
  | .default s dp colon ss => .default s dp colon (ρ.stmts ss)

/-- Renames select clauses. -/
def commClauses (ρ : Renaming) : List CommClause → List CommClause
  | [] => []
  | c :: cs => ρ.commClause c :: ρ.commClauses cs

/-- Renames a general declaration. -/
def genDecl (ρ : Renaming) : GenDecl → GenDecl
  | ⟨s, doc, kw, kind, lp, specs, rp⟩ => ⟨s, ρ.optGroup doc, kw, kind, lp, ρ.specs specs, rp⟩

/-- Renames a spec, its defining names included. -/
def spec (ρ : Renaming) : Spec → Spec
  | .import_ doc n p c => .import_ (ρ.optGroup doc) n p (ρ.optGroup c)
  | .value doc names t ap vs c =>
    .value (ρ.optGroup doc) (names.map ρ.definingName) (ρ.optType t) ap (ρ.exprs vs)
      (ρ.optGroup c)
  | .type doc name tps ap t c =>
    .type (ρ.optGroup doc) (ρ.definingName name) (ρ.optTypeParams tps) ap (ρ.typeExpr t)
      (ρ.optGroup c)

/-- Renames specs. -/
def specs (ρ : Renaming) : List Spec → List Spec
  | [] => []
  | s :: ss => ρ.spec s :: ρ.specs ss

/-- Renames a type parameter list: constraints only. -/
def typeParams (ρ : Renaming) : TypeParams → TypeParams
  | ⟨s, lb, ps, rb⟩ => ⟨s, lb, ρ.typeParamDecls ps, rb⟩

/-- Renames an optional type parameter list. -/
def optTypeParams (ρ : Renaming) : Option TypeParams → Option TypeParams
  | none => none
  | some tps => some (ρ.typeParams tps)

/-- Renames a type parameter declaration's constraint. -/
def typeParamDecl (ρ : Renaming) : TypeParamDecl → TypeParamDecl
  | ⟨s, names, c⟩ => ⟨s, names, ρ.typeExpr c⟩

/-- Renames type parameter declarations. -/
def typeParamDecls (ρ : Renaming) : List TypeParamDecl → List TypeParamDecl
  | [] => []
  | d :: ds => ρ.typeParamDecl d :: ρ.typeParamDecls ds

end

/-- Renames a function or method: its name if renamed, receiver type, type parameter
constraints, signature, body and doc. -/
def funcDecl (ρ : Renaming) (f : FuncDecl) : FuncDecl :=
  { f with
    doc := ρ.optGroup f.doc
    recv := f.recv.map fun r => { r with type := ρ.typeExpr r.type }
    name := ρ.definingName f.name
    typeParams := ρ.optTypeParams f.typeParams
    signature := ρ.signature f.signature
    body := f.body.map ρ.block }

end Renaming

end GoTemplates.Specialize
