import GoTemplates.Syntax.Tree

/-! # Unions have terms

A union type is written as one or more terms separated by `|`. `NonemptyUnions`
says of a tree that every union in it has at least one term.
-/

namespace GoTemplates.Syntax

namespace NonemptyUnions

mutual

/-- Every union in an expression has a term. -/
def expr : Expr → Prop
  | .ident .. | .basicLit .. => True
  | .funcLit _ _ sig b => signature sig ∧ block b
  | .compositeLit _ t l => typeExpr t ∧ literal l
  | .index _ x _ args _ => expr x ∧ terms args
  | .paren _ _ x _ | .selector _ x _ _ | .unary _ _ _ x => expr x
  | .slice _ x _ lo hi mx _ => expr x ∧ optExpr lo ∧ optExpr hi ∧ optExpr mx
  | .typeAssert _ x _ _ t _ => expr x ∧ optType t
  | .call _ f _ args _ _ => term f ∧ terms args
  | .binary _ x _ _ y => expr x ∧ expr y

def optExpr : Option Expr → Prop
  | none => True
  | some e => expr e

def exprs : List Expr → Prop
  | [] => True
  | e :: es => expr e ∧ exprs es

def term : Term → Prop
  | .expr e => expr e
  | .type t => typeExpr t

def terms : List Term → Prop
  | [] => True
  | t :: ts => term t ∧ terms ts

/-- Every union in a type has a term. -/
def typeExpr : TypeExpr → Prop
  | .named _ _ _ _ args _ => typeExprs args
  | .pointer _ _ e | .slice _ _ _ e | .chan _ _ _ _ e | .paren _ _ e _ => typeExpr e
  | .array _ _ len _ e => arrayLength len ∧ typeExpr e
  | .map _ _ _ k _ v => typeExpr k ∧ typeExpr v
  | .struct _ _ fl => fieldList fl
  | .interface _ _ _ elems _ => interfaceElems elems
  | .func _ _ sig => signature sig
  | .union _ ts => ts ≠ [] ∧ unionTerms ts

def typeExprs : List TypeExpr → Prop
  | [] => True
  | t :: ts => typeExpr t ∧ typeExprs ts

def optType : Option TypeExpr → Prop
  | none => True
  | some t => typeExpr t

def arrayLength : ArrayLength → Prop
  | .expr e => expr e
  | .ellipsis _ => True

def unionTerms : List UnionTerm → Prop
  | [] => True
  | ⟨_, t⟩ :: us => typeExpr t ∧ unionTerms us

def interfaceElem : InterfaceElem → Prop
  | .method _ sig => signature sig
  | .embed t => typeExpr t

def interfaceElems : List InterfaceElem → Prop
  | [] => True
  | e :: es => interfaceElem e ∧ interfaceElems es

def signature : Signature → Prop
  | ⟨_, params, results⟩ => fieldList params ∧ optResults results

def optResults : Option Results → Prop
  | none => True
  | some (.params l) => fieldList l
  | some (.type t) => typeExpr t

def fieldList : FieldList → Prop
  | ⟨_, fs, _⟩ => fields fs

def fields : List Field → Prop
  | [] => True
  | ⟨_, _, _, _, t, _, _⟩ :: fs => typeExpr t ∧ fields fs

def literal : LiteralValue → Prop
  | ⟨_, els, _⟩ => keyedElements els

def keyedElement : KeyedElement → Prop
  | ⟨key, _, value⟩ => optElement key ∧ element value

def keyedElements : List KeyedElement → Prop
  | [] => True
  | e :: es => keyedElement e ∧ keyedElements es

def element : Element → Prop
  | .expr e => expr e
  | .literal l => literal l

def optElement : Option Element → Prop
  | none => True
  | some e => element e

def block : Block → Prop
  | ⟨_, ss, _⟩ => stmts ss

/-- Every union in a simple statement has a term. -/
def simpleStmt : SimpleStmt → Prop
  | .expr _ x | .incDec _ x _ _ => expr x
  | .send _ c _ v => expr c ∧ expr v
  | .assign _ l _ _ r => exprs l ∧ exprs r
  | .shortVarDecl _ _ _ vs => exprs vs

def optSimpleStmt : Option SimpleStmt → Prop
  | none => True
  | some s => simpleStmt s

/-- Every union in a statement has a term. -/
def stmt : Stmt → Prop
  | .empty _ | .branch .. => True
  | .simple _ s => simpleStmt s
  | .decl _ d => genDecl d
  | .labeled _ _ _ s => stmt s
  | .go _ _ c | .defer _ _ c => expr c
  | .return_ _ _ rs => exprs rs
  | .block _ b => block b
  | .if_ _ _ init c th els => optSimpleStmt init ∧ expr c ∧ block th ∧ optStmt els
  | .for_ _ _ h body => forHeader h ∧ block body
  | .switch _ _ init tag _ cs _ => optSimpleStmt init ∧ optExpr tag ∧ switchClauses cs
  | .typeSwitch _ _ init _ _ x _ _ _ _ cs _ => optSimpleStmt init ∧ expr x ∧ switchClauses cs
  | .select _ _ _ cs _ => commClauses cs

def optStmt : Option Stmt → Prop
  | none => True
  | some s => stmt s

def stmts : List Stmt → Prop
  | [] => True
  | s :: ss => stmt s ∧ stmts ss

def forHeader : ForHeader → Prop
  | .infinite => True
  | .cond c => expr c
  | .clause i c p => optSimpleStmt i ∧ optExpr c ∧ optSimpleStmt p
  | .range lhs _ x => optRangeLhs lhs ∧ expr x

def optRangeLhs : Option RangeLhs → Prop
  | none | some (.define ..) => True
  | some (.assign es _) => exprs es

def switchClause : SwitchClause → Prop
  | .exprs _ _ items _ ss => exprs items ∧ stmts ss
  | .types _ _ items _ ss => typeCases items ∧ stmts ss

def switchClauses : List SwitchClause → Prop
  | [] => True
  | c :: cs => switchClause c ∧ switchClauses cs

def typeCases : List TypeCase → Prop
  | [] => True
  | .type t :: cs => typeExpr t ∧ typeCases cs
  | .nil _ :: cs => typeCases cs

def commClause : CommClause → Prop
  | .send _ _ c _ v _ ss => expr c ∧ expr v ∧ stmts ss
  | .recv _ _ lhs x _ ss => optRangeLhs lhs ∧ expr x ∧ stmts ss
  | .default _ _ _ ss => stmts ss

def commClauses : List CommClause → Prop
  | [] => True
  | c :: cs => commClause c ∧ commClauses cs

/-- Every union in a declaration has a term. -/
def genDecl : GenDecl → Prop
  | ⟨_, _, _, _, _, specs, _⟩ => specList specs

def spec : Spec → Prop
  | .import_ .. => True
  | .value _ _ t _ vs _ => optType t ∧ exprs vs
  | .type _ _ tps _ t _ => optTypeParams tps ∧ typeExpr t

def specList : List Spec → Prop
  | [] => True
  | s :: ss => spec s ∧ specList ss

def typeParams : TypeParams → Prop
  | ⟨_, _, decls, _⟩ => typeParamDecls decls

def optTypeParams : Option TypeParams → Prop
  | none => True
  | some t => typeParams t

def typeParamDecls : List TypeParamDecl → Prop
  | [] => True
  | ⟨_, _, c⟩ :: ds => typeExpr c ∧ typeParamDecls ds

end

/-- Every union in a function declaration has a term. -/
def funcDecl (f : FuncDecl) : Prop :=
  (∀ r ∈ f.recv, typeExpr r.type) ∧ optTypeParams f.typeParams ∧ signature f.signature ∧
    ∀ b ∈ f.body, block b

/-- Every union in a top level declaration has a term. -/
def topDecl : TopDecl → Prop
  | .gen d => genDecl d
  | .func f => funcDecl f

/-- Every union in a file has a term. -/
def file (f : SourceFile) : Prop := ∀ d ∈ f.decls, topDecl d

end NonemptyUnions

end GoTemplates.Syntax
