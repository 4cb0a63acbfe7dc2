import GoTemplates.Syntax.Tree

/-! # Walking the syntax tree

A pre-order enumeration of every node below a file. Each node is listed with
its depth, the place it hangs in its parent (a named slot, and the position
when the slot holds a list), and its kind. Identifiers in naming positions are
nodes of their own; an identifier used as an expression is an expression node
that carries the identifier.

The child order is source order, with these conventions: a composite literal
element whose key or value is a nested literal contributes that literal's
elements directly, under the key or value slot; a type switch case lists its
types at their positions among the cases, skipping `nil`; a receiver
contributes its name and its type, not a field.
-/

namespace GoTemplates.Syntax

open GoTemplates.Source

/-- The named place of a child in its parent. -/
inductive Slot where
  | root | doc | comment | name | names | decls | specs | type | typeParams | values
  | recvName | recv | body | list | constraint | params | results | stmt | decl | label
  | call | init | cond | post | else_ | lhs | rhs | x | y | tag | chan | value | elts
  | index | sel | low | high | max | fun_ | args | key | pkg | len | elt | fields
  | methods | terms
  deriving DecidableEq, Repr, Inhabited

/-- The name of a slot as it is printed. -/
def Slot.text : Slot → String
  | .root => "Root" | .doc => "Doc" | .comment => "Comment" | .name => "Name"
  | .names => "Names" | .decls => "Decls" | .specs => "Specs" | .type => "Type"
  | .typeParams => "TypeParams" | .values => "Values" | .recvName => "RecvName"
  | .recv => "Recv" | .body => "Body" | .list => "List" | .constraint => "Constraint"
  | .params => "Params" | .results => "Results" | .stmt => "Stmt" | .decl => "Decl"
  | .label => "Label" | .call => "Call" | .init => "Init" | .cond => "Cond"
  | .post => "Post" | .else_ => "Else" | .lhs => "Lhs" | .rhs => "Rhs" | .x => "X"
  | .y => "Y" | .tag => "Tag" | .chan => "Chan" | .value => "Value" | .elts => "Elts"
  | .index => "Index" | .sel => "Sel" | .low => "Low" | .high => "High" | .max => "Max"
  | .fun_ => "Fun" | .args => "Args" | .key => "Key" | .pkg => "Pkg" | .len => "Len"
  | .elt => "Elt" | .fields => "Fields" | .methods => "Methods" | .terms => "Terms"

/-- The kind of a node. -/
inductive NodeKind where
  | file | genDecl | spec | funcDecl | signature | field | typeParams | typeParamDecl
  | stmt | simpleStmt | switchClause | commClause | expr | keyedElement | type
  | interfaceElem | commentGroup | comment | ident
  deriving DecidableEq, Repr, Inhabited

/-- The name of a node kind as it is printed. -/
def NodeKind.text : NodeKind → String
  | .file => "File" | .genDecl => "GenDecl" | .spec => "Spec" | .funcDecl => "FuncDecl"
  | .signature => "Signature" | .field => "Field" | .typeParams => "TypeParams"
  | .typeParamDecl => "TypeParamDecl" | .stmt => "Stmt" | .simpleStmt => "SimpleStmt"
  | .switchClause => "SwitchClause" | .commClause => "CommClause" | .expr => "Expr"
  | .keyedElement => "KeyedElement" | .type => "Type" | .interfaceElem => "InterfaceElem"
  | .commentGroup => "CommentGroup" | .comment => "Comment" | .ident => "Ident"

/-- Where a node hangs: a slot, and `-1` for a single child or the list position. -/
structure Place where
  slot : Slot
  index : Int
  deriving DecidableEq, Repr, Inhabited

/-- The place of a single child. -/
def Place.one (s : Slot) : Place := ⟨s, -1⟩

/-- The place of a list element. -/
def Place.nth (s : Slot) (i : Nat) : Place := ⟨s, i⟩

/-- What a node says about package qualifiers. -/
inductive Qualifier where
  | none
  /-- An expression `base.sel` whose base is an identifier. -/
  | selectorBase (base : Ident)
  /-- A type `pkg.Name`. -/
  | typePackage (pkg : Ident)
  deriving Repr, Inhabited

/-- One node of the enumeration; `ident` is the identifier of an `Ident` node or of
an expression that is a plain identifier, and `group` the group of a `CommentGroup` node. -/
structure Visit where
  depth : Nat
  place : Place
  kind : NodeKind
  ident : Option Ident := none
  qualifier : Qualifier := .none
  group : Option CommentGroup := none
  deriving Repr, Inhabited

/-- A node without identifier or qualifier. -/
def Visit.node (d : Nat) (p : Place) (k : NodeKind) : Visit := { depth := d, place := p, kind := k }

/-- The line of a visit: depth, slot, index and kind, then the identifier if any. -/
def Visit.line (v : Visit) : String :=
  let base := toString v.depth ++ " " ++ v.place.slot.text ++ "[" ++ toString v.place.index ++ "] "
    ++ v.kind.text
  match v.ident with
  | some id => base ++ " " ++ id.name
  | none => base

/-- An identifier in a naming position. -/
def identVisit (d : Nat) (p : Place) (id : Ident) : Visit :=
  { Visit.node d p .ident with ident := some id }

/-- Identifiers of a list slot, from position `i`. -/
def identsVisits (d : Nat) (s : Slot) : Nat → List Ident → List Visit
  | _, [] => []
  | i, id :: ids => identVisit d (.nth s i) id :: identsVisits d s (i + 1) ids

/-- An optional identifier. -/
def optIdentVisits (d : Nat) (s : Slot) : Option Ident → List Visit
  | none => []
  | some id => [identVisit d (.one s) id]

/-- A comment group and its comments. -/
def groupVisits (d : Nat) (p : Place) (g : CommentGroup) : List Visit :=
  let rec comments : Nat → List Comment → List Visit
    | _, [] => []
    | i, _ :: cs => Visit.node (d + 1) (.nth .list i) .comment :: comments (i + 1) cs
  { Visit.node d p .commentGroup with group := some g } :: comments 0 g.comments

/-- An optional comment group. -/
def optGroupVisits (d : Nat) (s : Slot) : Option CommentGroup → List Visit
  | none => []
  | some g => groupVisits d (.one s) g

mutual

/-- An expression and what lies below it. -/
def Expr.visits (d : Nat) (p : Place) : Expr → List Visit
  | .ident _ id => [{ Visit.node d p .expr with ident := some id }]
  | .basicLit .. => [Visit.node d p .expr]
  | .funcLit _ _ sig ⟨_, stmts, _⟩ =>
    Visit.node d p .expr :: (sig.visits (d + 1) (.one .type) ++ stmtsVisits (d + 1) .body 0 stmts)
  | .compositeLit _ t ⟨_, els, _⟩ =>
    Visit.node d p .expr :: (t.visits (d + 1) (.one .type) ++ keyedVisits (d + 1) .elts 0 els)
  | .index _ x _ args _ =>
    Visit.node d p .expr :: (x.visits (d + 1) (.one .x) ++ termsVisits (d + 1) .index 0 args)
  | .paren _ _ x _ => Visit.node d p .expr :: x.visits (d + 1) (.one .x)
  | .selector _ x _ sel =>
    let q := match x with
      | .ident _ base => Qualifier.selectorBase base
      | _ => .none
    { Visit.node d p .expr with qualifier := q } :: (x.visits (d + 1) (.one .x) ++ [identVisit (d + 1) (.one .sel) sel])
  | .slice _ x _ lo hi mx _ =>
    Visit.node d p .expr :: (x.visits (d + 1) (.one .x) ++ optExprVisits (d + 1) .low lo
      ++ optExprVisits (d + 1) .high hi ++ optExprVisits (d + 1) .max mx)
  | .typeAssert _ x _ _ t _ =>
    Visit.node d p .expr :: (x.visits (d + 1) (.one .x) ++ optTypeVisits (d + 1) .type t)
  | .call _ callee _ args _ _ =>
    Visit.node d p .expr :: (callee.visits (d + 1) (.one .fun_) ++ termsVisits (d + 1) .args 0 args)
  | .unary _ _ _ x => Visit.node d p .expr :: x.visits (d + 1) (.one .x)
  | .binary _ x _ _ y =>
    Visit.node d p .expr :: (x.visits (d + 1) (.one .x) ++ y.visits (d + 1) (.one .y))

/-- An expression or type operand. -/
def Term.visits (d : Nat) (p : Place) : Term → List Visit
  | .expr e => e.visits d p
  | .type t => t.visits d p

/-- Operands of a list slot, from position `i`. -/
def termsVisits (d : Nat) (s : Slot) : Nat → List Term → List Visit
  | _, [] => []
  | i, t :: ts => t.visits d (.nth s i) ++ termsVisits d s (i + 1) ts

/-- Expressions of a list slot, from position `i`. -/
def exprsVisits (d : Nat) (s : Slot) : Nat → List Expr → List Visit
  | _, [] => []
  | i, e :: es => e.visits d (.nth s i) ++ exprsVisits d s (i + 1) es

/-- An optional expression. -/
def optExprVisits (d : Nat) (s : Slot) : Option Expr → List Visit
  | none => []
  | some e => e.visits d (.one s)

/-- An optional type. -/
def optTypeVisits (d : Nat) (s : Slot) : Option TypeExpr → List Visit
  | none => []
  | some t => t.visits d (.one s)

/-- A type and what lies below it. -/
def TypeExpr.visits (d : Nat) (p : Place) : TypeExpr → List Visit
  | .named _ pkg name _ args _ =>
    let q := match pkg with
      | some pk => Qualifier.typePackage pk
      | none => .none
    { Visit.node d p .type with qualifier := q } :: (optIdentVisits (d + 1) .pkg pkg
      ++ identVisit (d + 1) (.one .name) name :: typesVisits (d + 1) .args 0 args)
  | .pointer _ _ e => Visit.node d p .type :: e.visits (d + 1) (.one .elt)
  | .array _ _ len _ e =>
    Visit.node d p .type :: (len.visits (d + 1) ++ e.visits (d + 1) (.one .elt))
  | .slice _ _ _ e => Visit.node d p .type :: e.visits (d + 1) (.one .elt)
  | .map _ _ _ k _ v =>
    Visit.node d p .type :: (k.visits (d + 1) (.one .key) ++ v.visits (d + 1) (.one .value))
  | .chan _ _ _ _ e => Visit.node d p .type :: e.visits (d + 1) (.one .elt)
  | .struct _ _ ⟨_, fields, _⟩ => Visit.node d p .type :: fieldsVisits (d + 1) .fields 0 fields
  | .interface _ _ _ elems _ => Visit.node d p .type :: elemsVisits (d + 1) 0 elems
  | .func _ _ sig => Visit.node d p .type :: sig.visits (d + 1) (.one .type)
  | .paren _ _ t _ => Visit.node d p .type :: t.visits (d + 1) (.one .x)
  | .union _ terms => Visit.node d p .type :: unionVisits (d + 1) 0 terms

/-- Types of a list slot, from position `i`. -/
def typesVisits (d : Nat) (s : Slot) : Nat → List TypeExpr → List Visit
  | _, [] => []
  | i, t :: ts => t.visits d (.nth s i) ++ typesVisits d s (i + 1) ts

/-- The length of an array type, unless it is `...`. -/
def ArrayLength.visits (d : Nat) : ArrayLength → List Visit
  | .expr e => e.visits d (.one .len)
  | .ellipsis _ => []

/-- The types of union terms, from position `i`. -/
def unionVisits (d : Nat) : Nat → List UnionTerm → List Visit
  | _, [] => []
  | i, ⟨_, t⟩ :: ts => t.visits d (.nth .terms i) ++ unionVisits d (i + 1) ts

/-- Interface elements, from position `i`. -/
def elemsVisits (d : Nat) : Nat → List InterfaceElem → List Visit
  | _, [] => []
  | i, e :: es => e.visits d (.nth .methods i) ++ elemsVisits d (i + 1) es

/-- An interface element: a method name and signature, or an embedded type. -/
def InterfaceElem.visits (d : Nat) (p : Place) : InterfaceElem → List Visit
  | .method name sig =>
    Visit.node d p .interfaceElem :: identVisit (d + 1) (.one .name) name
      :: sig.visits (d + 1) (.one .type)
  | .embed t => Visit.node d p .interfaceElem :: t.visits (d + 1) (.one .type)

/-- A signature: the parameter fields, then the result fields or type. -/
def Signature.visits (d : Nat) (p : Place) : Signature → List Visit
  | ⟨_, ⟨_, params, _⟩, results⟩ =>
    Visit.node d p .signature :: (fieldsVisits (d + 1) .params 0 params
      ++ resultsVisits (d + 1) results)

/-- The results of a signature. -/
def resultsVisits (d : Nat) : Option Results → List Visit
  | none => []
  | some (.params ⟨_, fields, _⟩) => fieldsVisits d .results 0 fields
  | some (.type t) => t.visits d (.one .results)

/-- Fields of a list slot, from position `i`. -/
def fieldsVisits (d : Nat) (s : Slot) : Nat → List Field → List Visit
  | _, [] => []
  | i, f :: fs => f.visits d (.nth s i) ++ fieldsVisits d s (i + 1) fs

/-- A field: doc, names, type and line comment. -/
def Field.visits (d : Nat) (p : Place) : Field → List Visit
  | ⟨_, doc, names, _, t, _, comment⟩ =>
    Visit.node d p .field :: (optGroupVisits (d + 1) .doc doc ++ identsVisits (d + 1) .names 0 names
      ++ t.visits (d + 1) (.one .type) ++ optGroupVisits (d + 1) .comment comment)

/-- Elements of a composite literal under a slot, from position `i`. -/
def keyedVisits (d : Nat) (s : Slot) : Nat → List KeyedElement → List Visit
  | _, [] => []
  | i, e :: es => e.visits d (.nth s i) ++ keyedVisits d s (i + 1) es

/-- An element of a composite literal: its key, then its value. -/
def KeyedElement.visits (d : Nat) (p : Place) : KeyedElement → List Visit
  | ⟨key, _, value⟩ =>
    Visit.node d p .keyedElement :: (keyVisits (d + 1) key ++ value.sideVisits (d + 1) .value)

/-- The key of an element, if it has one. -/
def keyVisits (d : Nat) : Option Element → List Visit
  | none => []
  | some e => e.sideVisits d .key

/-- A key or value: an expression, or the elements of a nested literal. -/
def Element.sideVisits (d : Nat) (s : Slot) : Element → List Visit
  | .expr e => e.visits d (.one s)
  | .literal ⟨_, els, _⟩ => keyedVisits d s 0 els

/-- Statements of a list slot, from position `i`. -/
def stmtsVisits (d : Nat) (s : Slot) : Nat → List Stmt → List Visit
  | _, [] => []
  | i, st :: sts => st.visits d (.nth s i) ++ stmtsVisits d s (i + 1) sts

/-- A statement and what lies below it. -/
def Stmt.visits (d : Nat) (p : Place) : Stmt → List Visit
  | .empty _ => [Visit.node d p .stmt]
  | .simple _ s => Visit.node d p .stmt :: s.visits (d + 1) (.one .stmt)
  | .decl _ g => Visit.node d p .stmt :: g.visits (d + 1) (.one .decl)
  | .labeled _ l _ s =>
    Visit.node d p .stmt :: identVisit (d + 1) (.one .label) l :: s.visits (d + 1) (.one .stmt)
  | .go _ _ c => Visit.node d p .stmt :: c.visits (d + 1) (.one .call)
  | .defer _ _ c => Visit.node d p .stmt :: c.visits (d + 1) (.one .call)
  | .return_ _ _ rs => Visit.node d p .stmt :: exprsVisits (d + 1) .results 0 rs
  | .branch _ _ _ l => Visit.node d p .stmt :: optIdentVisits (d + 1) .label l
  | .block _ ⟨_, stmts, _⟩ => Visit.node d p .stmt :: stmtsVisits (d + 1) .list 0 stmts
  | .if_ _ _ init cond ⟨_, stmts, _⟩ els =>
    Visit.node d p .stmt :: (optSimpleVisits (d + 1) .init init ++ cond.visits (d + 1) (.one .cond)
      ++ stmtsVisits (d + 1) .body 0 stmts ++ optStmtVisits (d + 1) .else_ els)
  | .for_ _ _ h ⟨_, stmts, _⟩ =>
    Visit.node d p .stmt :: (h.visits (d + 1) ++ stmtsVisits (d + 1) .body 0 stmts)
  | .switch _ _ init tag _ clauses _ =>
    Visit.node d p .stmt :: (optSimpleVisits (d + 1) .init init ++ optExprVisits (d + 1) .tag tag
      ++ switchClausesVisits (d + 1) 0 clauses)
  | .typeSwitch _ _ init bind _ x _ _ _ _ clauses _ =>
    Visit.node d p .stmt :: (optSimpleVisits (d + 1) .init init ++ optIdentVisits (d + 1) .name bind
      ++ x.visits (d + 1) (.one .x) ++ switchClausesVisits (d + 1) 0 clauses)
  | .select _ _ _ clauses _ => Visit.node d p .stmt :: commClausesVisits (d + 1) 0 clauses

/-- An optional statement. -/
def optStmtVisits (d : Nat) (s : Slot) : Option Stmt → List Visit
  | none => []
  | some st => st.visits d (.one s)

/-- An optional simple statement. -/
def optSimpleVisits (d : Nat) (s : Slot) : Option SimpleStmt → List Visit
  | none => []
  | some st => st.visits d (.one s)

/-- The children a `for` header contributes. -/
def ForHeader.visits (d : Nat) : ForHeader → List Visit
  | .infinite => []
  | .cond c => c.visits d (.one .cond)
  | .clause init cond post =>
    optSimpleVisits d .init init ++ optExprVisits d .cond cond ++ optSimpleVisits d .post post
  | .range lhs _ x => rangeLhsVisits d lhs ++ x.visits d (.one .x)

/-- The left side of a range clause or receive. -/
def rangeLhsVisits (d : Nat) : Option RangeLhs → List Visit
  | none => []
  | some (.define names _) => identsVisits d .names 0 names
  | some (.assign exprs _) => exprsVisits d .lhs 0 exprs

/-- A simple statement and what lies below it. -/
def SimpleStmt.visits (d : Nat) (p : Place) : SimpleStmt → List Visit
  | .expr _ x => Visit.node d p .simpleStmt :: x.visits (d + 1) (.one .x)
  | .send _ ch _ v =>
    Visit.node d p .simpleStmt :: (ch.visits (d + 1) (.one .chan) ++ v.visits (d + 1) (.one .value))
  | .incDec _ x _ _ => Visit.node d p .simpleStmt :: x.visits (d + 1) (.one .x)
  | .assign _ lhs _ _ rhs =>
    Visit.node d p .simpleStmt :: (exprsVisits (d + 1) .lhs 0 lhs ++ exprsVisits (d + 1) .rhs 0 rhs)
  | .shortVarDecl _ names _ values =>
    Visit.node d p .simpleStmt :: (identsVisits (d + 1) .names 0 names
      ++ exprsVisits (d + 1) .rhs 0 values)

/-- Switch clauses, from position `i`. -/
def switchClausesVisits (d : Nat) : Nat → List SwitchClause → List Visit
  | _, [] => []
  | i, c :: cs => c.visits d (.nth .body i) ++ switchClausesVisits d (i + 1) cs

/-- A switch clause: its items, then its statements. -/
def SwitchClause.visits (d : Nat) (p : Place) : SwitchClause → List Visit
  | .exprs _ _ items _ stmts =>
    Visit.node d p .switchClause :: (exprsVisits (d + 1) .list 0 items
      ++ stmtsVisits (d + 1) .body 0 stmts)
  | .types _ _ items _ stmts =>
    Visit.node d p .switchClause :: (typeCasesVisits (d + 1) 0 items
      ++ stmtsVisits (d + 1) .body 0 stmts)

/-- The types of a type switch case at their positions; `nil` has no node. -/
def typeCasesVisits (d : Nat) : Nat → List TypeCase → List Visit
  | _, [] => []
  | i, .type t :: cs => t.visits d (.nth .list i) ++ typeCasesVisits d (i + 1) cs
  | i, .nil _ :: cs => typeCasesVisits d (i + 1) cs

/-- Select clauses, from position `i`. -/
def commClausesVisits (d : Nat) : Nat → List CommClause → List Visit
  | _, [] => []
  | i, c :: cs => c.visits d (.nth .body i) ++ commClausesVisits d (i + 1) cs

/-- A select clause: its communication, then its statements. -/
def CommClause.visits (d : Nat) (p : Place) : CommClause → List Visit
  | .send _ _ ch _ v _ stmts =>
    Visit.node d p .commClause :: (ch.visits (d + 1) (.one .chan) ++ v.visits (d + 1) (.one .value)
      ++ stmtsVisits (d + 1) .body 0 stmts)
  | .recv _ _ lhs x _ stmts =>
    Visit.node d p .commClause :: (rangeLhsVisits (d + 1) lhs ++ x.visits (d + 1) (.one .x)
      ++ stmtsVisits (d + 1) .body 0 stmts)
  | .default _ _ _ stmts => Visit.node d p .commClause :: stmtsVisits (d + 1) .body 0 stmts

/-- A general declaration: its doc, then its specs. -/
def GenDecl.visits (d : Nat) (p : Place) : GenDecl → List Visit
  | ⟨_, doc, _, _, _, specs, _⟩ =>
    Visit.node d p .genDecl :: (optGroupVisits (d + 1) .doc doc ++ specsVisits (d + 1) 0 specs)

/-- Specs, from position `i`. -/
def specsVisits (d : Nat) : Nat → List Spec → List Visit
  | _, [] => []
  | i, s :: ss => s.visits d (.nth .specs i) ++ specsVisits d (i + 1) ss

/-- A spec: doc, names, type parameters, type, values and line comment. -/
def Spec.visits (d : Nat) (p : Place) : Spec → List Visit
  | .import_ doc name _ comment =>
    let nameVisits := match name with
      | some (.name id) => [identVisit (d + 1) (.one .name) id]
      | _ => []
    Visit.node d p .spec :: (optGroupVisits (d + 1) .doc doc ++ nameVisits
      ++ optGroupVisits (d + 1) .comment comment)
  | .value doc names t _ values comment =>
    Visit.node d p .spec :: (optGroupVisits (d + 1) .doc doc ++ identsVisits (d + 1) .names 0 names
      ++ optTypeVisits (d + 1) .type t ++ exprsVisits (d + 1) .values 0 values
      ++ optGroupVisits (d + 1) .comment comment)
  | .type doc name tps _ t comment =>
    Visit.node d p .spec :: (optGroupVisits (d + 1) .doc doc
      ++ identVisit (d + 1) (.one .name) name :: (optTypeParamsVisits (d + 1) tps
      ++ t.visits (d + 1) (.one .type) ++ optGroupVisits (d + 1) .comment comment))

/-- Optional type parameters. -/
def optTypeParamsVisits (d : Nat) : Option TypeParams → List Visit
  | none => []
  | some tps => tps.visits d (.one .typeParams)

/-- A type parameter list. -/
def TypeParams.visits (d : Nat) (p : Place) : TypeParams → List Visit
  | ⟨_, _, decls, _⟩ => Visit.node d p .typeParams :: typeParamDeclsVisits (d + 1) 0 decls

/-- Type parameter declarations, from position `i`. -/
def typeParamDeclsVisits (d : Nat) : Nat → List TypeParamDecl → List Visit
  | _, [] => []
  | i, t :: ts => t.visits d (.nth .list i) ++ typeParamDeclsVisits d (i + 1) ts

/-- A type parameter declaration: names, then constraint. -/
def TypeParamDecl.visits (d : Nat) (p : Place) : TypeParamDecl → List Visit
  | ⟨_, names, c⟩ =>
    Visit.node d p .typeParamDecl :: (identsVisits (d + 1) .names 0 names
      ++ c.visits (d + 1) (.one .constraint))

end

/-- A function declaration: doc, receiver, name, type parameters, signature, body. -/
def FuncDecl.visits (d : Nat) (p : Place) (f : FuncDecl) : List Visit :=
  let recv := match f.recv with
    | some r => optIdentVisits (d + 1) .recvName r.name ++ r.type.visits (d + 1) (.one .recv)
    | none => []
  let body := match f.body with
    | some b => stmtsVisits (d + 1) .body 0 b.stmts
    | none => []
  Visit.node d p .funcDecl :: (optGroupVisits (d + 1) .doc f.doc ++ recv
    ++ identVisit (d + 1) (.one .name) f.name :: (optTypeParamsVisits (d + 1) f.typeParams
    ++ f.signature.visits (d + 1) (.one .type) ++ body))

/-- A top level declaration. -/
def TopDecl.visits (d : Nat) (p : Place) : TopDecl → List Visit
  | .gen g => g.visits d p
  | .func f => f.visits d p

/-- The whole file in pre-order: doc, package name, declarations. -/
def SourceFile.visits (f : SourceFile) : List Visit :=
  let decls := f.decls.zipIdx.flatMap fun (decl, i) => decl.visits 1 (.nth .decls i)
  Visit.node 0 (.one .root) .file :: (optGroupVisits 1 .doc f.doc
    ++ identVisit 1 (.one .name) f.name :: decls)

end GoTemplates.Syntax
