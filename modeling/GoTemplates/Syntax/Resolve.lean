import GoTemplates.Syntax.Tree
import Std.Data.TreeMap

/-! # Binding identifiers to declarations

Every identifier occurrence that denotes a declaration of the file is bound to
that declaration, which is named by the offset of its defining identifier. A
defining occurrence is bound to itself. Only syntax is consulted: the package
scope holds every top level type, constant, variable and function (not
methods) whatever their order; below it, function and block scopes follow Go's
visibility rules, a name being visible after its declaration. Names of imported
packages, predeclared names, struct fields, selectors and labels stay unbound,
and so does the blank identifier.

`:=` redeclares a name already in the innermost scope: the occurrence is bound
to the existing declaration.
-/

namespace GoTemplates.Syntax

open GoTemplates.Source

/-- What a declaration declares. -/
inductive BindingKind where
  | type | func | var | const
  /-- Anything declared inside a function, its parameters included. -/
  | local_
  deriving DecidableEq, Repr, Inhabited

/-- The name of a binding kind. -/
def BindingKind.text : BindingKind → String
  | .type => "Type" | .func => "Func" | .var => "Var" | .const => "Const" | .local_ => "Local"

/-- A declaration: the offset of its defining identifier, and its kind. -/
structure Binding where
  key : Nat
  kind : BindingKind
  deriving DecidableEq, Repr, Inhabited

/-- Whether a binding is a package level declaration. -/
def Binding.isPackageLevel (b : Binding) : Bool := b.kind != .local_

/-- The bindings of a file: identifier offset to declaration. -/
structure Bindings where
  byPos : Std.TreeMap Nat Binding := {}

/-- The binding of the identifier occurrence at a span; none for an absent span. -/
def Bindings.lookup (b : Bindings) (pos : Span) : Option Binding :=
  if pos.isNone then none else b.byPos[pos.start]?

/-- One scope: names with their bindings, the latest first. -/
abbrev Scope := List (String × Binding)

/-- The binding of a name in one scope. -/
def Scope.binding? (s : Scope) (name : String) : Option Binding :=
  (List.find? (fun (e : String × Binding) => e.1 == name) s).map (·.2)

/-- The resolver's state: open scopes, innermost first, and the bindings so far. -/
structure ResolveState where
  scopes : List Scope := [[]]
  out : Std.TreeMap Nat Binding := {}

/-- Resolution: a state threaded through the tree. -/
abbrev ResolveM := StateM ResolveState

namespace ResolveM

/-- Opens a scope. -/
def push : ResolveM Unit := modify fun st => { st with scopes := [] :: st.scopes }

/-- Closes the innermost scope. -/
def pop : ResolveM Unit := modify fun st => { st with scopes := st.scopes.tail }

/-- Records the binding of an occurrence. -/
def record (pos : Nat) (b : Binding) : ResolveM Unit :=
  modify fun st => { st with out := st.out.insert pos b }

/-- Declares a name in the innermost scope; the blank identifier declares nothing. -/
def declare (kind : BindingKind) (name : Ident) : ResolveM Unit := do
  if name.name == "_" || name.pos.isNone then return
  let b : Binding := ⟨name.pos.start, kind⟩
  record name.pos.start b
  modify fun st => match st.scopes with
    | s :: ss => { st with scopes := ((name.name, b) :: s) :: ss }
    | [] => st

/-- Declares names in the innermost scope. -/
def declareAll (kind : BindingKind) (names : List Ident) : ResolveM Unit :=
  names.forM (declare kind)

/-- Binds a use to the innermost visible declaration of its name. -/
def useName (name : Ident) : ResolveM Unit := do
  if name.pos.isNone then return
  match (← get).scopes.findSome? (·.binding? name.name) with
  | some b => record name.pos.start b
  | none => pure ()

/-- The names left of `:=`: one already in the innermost scope is bound to it, the
others are declared. -/
def define (names : List Ident) : ResolveM Unit :=
  names.forM fun name => do
    match ((← get).scopes.head?.bind (·.binding? name.name)), name.pos.isNone with
    | some b, false => record name.pos.start b
    | _, _ => declare .local_ name

end ResolveM

open ResolveM

/-- Declares the parameter and result names of a signature. -/
def Signature.declareNames : Signature → ResolveM Unit
  | ⟨_, ⟨_, params, _⟩, results⟩ => do
    params.forM fun f => declareAll .local_ f.names
    match results with
    | some (.params ⟨_, fields, _⟩) => fields.forM fun f => declareAll .local_ f.names
    | _ => pure ()

/-- Declares the type parameters of a receiver type: `T` in `func (l *List[T])`. -/
def receiverTypeParams : TypeExpr → ResolveM Unit
  | .paren _ _ t _ => receiverTypeParams t
  | .pointer _ _ elem => namedArgs elem
  | t => namedArgs t
where
  namedArgs : TypeExpr → ResolveM Unit
    | .named _ _ _ _ args _ => args.forM fun a => match a with
      | .named _ none name _ _ _ => declare .local_ name
      | _ => pure ()
    | _ => pure ()

mutual

/-- Binds the names used in a type. -/
def TypeExpr.resolve : TypeExpr → ResolveM Unit
  | .named _ pkg name _ args _ => do
    if pkg.isNone then useName name
    typesResolve args
  | .pointer _ _ elem | .slice _ _ _ elem | .chan _ _ _ _ elem => elem.resolve
  | .array _ _ len _ elem => do
    match len with
    | .expr e => e.resolve
    | .ellipsis _ => pure ()
    elem.resolve
  | .map _ _ _ k _ v => do
    k.resolve
    v.resolve
  | .struct _ _ ⟨_, fields, _⟩ => fieldTypesResolve fields
  | .interface _ _ _ elems _ => elemsResolve elems
  | .func _ _ sig => sig.resolveTypes
  | .paren _ _ t _ => t.resolve
  | .union _ terms => unionResolve terms

/-- Binds the names used in types. -/
def typesResolve : List TypeExpr → ResolveM Unit
  | [] => pure ()
  | t :: ts => do
    t.resolve
    typesResolve ts

/-- Binds the names used in the types of fields. -/
def fieldTypesResolve : List Field → ResolveM Unit
  | [] => pure ()
  | ⟨_, _, _, _, t, _, _⟩ :: fs => do
    t.resolve
    fieldTypesResolve fs

/-- Binds the names used in interface elements. -/
def elemsResolve : List InterfaceElem → ResolveM Unit
  | [] => pure ()
  | .method _ sig :: es => do
    sig.resolveTypes
    elemsResolve es
  | .embed t :: es => do
    t.resolve
    elemsResolve es

/-- Binds the names used in union terms. -/
def unionResolve : List UnionTerm → ResolveM Unit
  | [] => pure ()
  | ⟨_, t⟩ :: ts => do
    t.resolve
    unionResolve ts

/-- Binds the names used in the parameter and result types of a signature. -/
def Signature.resolveTypes : Signature → ResolveM Unit
  | ⟨_, ⟨_, params, _⟩, results⟩ => do
    fieldTypesResolve params
    match results with
    | some (.params ⟨_, fields, _⟩) => fieldTypesResolve fields
    | some (.type t) => t.resolve
    | none => pure ()

/-- Binds the names used in an expression. -/
def Expr.resolve : Expr → ResolveM Unit
  | .ident _ id => useName id
  | .basicLit .. => pure ()
  | .funcLit _ _ sig ⟨_, stmts, _⟩ => do
    push
    sig.resolveTypes
    sig.declareNames
    stmtsResolve stmts
    pop
  | .compositeLit _ t lit => do
    t.resolve
    lit.resolve
  | .index _ x _ args _ => do
    x.resolve
    termsResolve args
  | .paren _ _ x _ | .selector _ x _ _ | .unary _ _ _ x => x.resolve
  | .slice _ x _ lo hi mx _ => do
    x.resolve
    optExprResolve lo
    optExprResolve hi
    optExprResolve mx
  | .typeAssert _ x _ _ t _ => do
    x.resolve
    match t with
    | some t => t.resolve
    | none => pure ()
  | .call _ callee _ args _ _ => do
    match callee with
    | .expr e => e.resolve
    | .type t => t.resolve
    termsResolve args
  | .binary _ l _ _ r => do
    l.resolve
    r.resolve

/-- Binds the names used in an optional expression. -/
def optExprResolve : Option Expr → ResolveM Unit
  | some e => e.resolve
  | none => pure ()

/-- Binds the names used in expressions. -/
def exprsResolve : List Expr → ResolveM Unit
  | [] => pure ()
  | e :: es => do
    e.resolve
    exprsResolve es

/-- Binds the names used in expression or type operands. -/
def termsResolve : List Term → ResolveM Unit
  | [] => pure ()
  | .expr e :: ts => do
    e.resolve
    termsResolve ts
  | .type t :: ts => do
    t.resolve
    termsResolve ts

/-- Binds the names used in a composite literal's elements. -/
def LiteralValue.resolve : LiteralValue → ResolveM Unit
  | ⟨_, els, _⟩ => keyedResolve els

/-- Binds the names used in keyed elements: key, then value. -/
def keyedResolve : List KeyedElement → ResolveM Unit
  | [] => pure ()
  | ⟨key, _, value⟩ :: els => do
    match key with
    | some k => k.resolve
    | none => pure ()
    value.resolve
    keyedResolve els

/-- Binds the names used in a key or value. -/
def Element.resolve : Element → ResolveM Unit
  | .expr e => e.resolve
  | .literal l => l.resolve

/-- Binds the names of statements in order. -/
def stmtsResolve : List Stmt → ResolveM Unit
  | [] => pure ()
  | s :: ss => do
    s.resolve
    stmtsResolve ss

/-- Binds the names of a statement, opening the scopes it opens. -/
def Stmt.resolve : Stmt → ResolveM Unit
  | .empty _ | .branch .. => pure ()
  | .simple _ s => s.resolve
  | .decl _ ⟨_, _, _, _, _, specs, _⟩ => localSpecsResolve specs
  | .labeled _ _ _ s => s.resolve
  | .go _ _ call | .defer _ _ call => call.resolve
  | .return_ _ _ results => exprsResolve results
  | .block _ ⟨_, stmts, _⟩ => do
    push
    stmtsResolve stmts
    pop
  | .if_ _ _ init cond ⟨_, stmts, _⟩ els => do
    push
    optSimpleResolve init
    cond.resolve
    push
    stmtsResolve stmts
    pop
    match els with
    | some e => e.resolve
    | none => pure ()
    pop
  | .for_ _ _ header ⟨_, stmts, _⟩ => do
    push
    match header with
    | .infinite => pure ()
    | .cond c => c.resolve
    | .clause init cond post => do
      optSimpleResolve init
      optExprResolve cond
      optSimpleResolve post
    | .range lhs _ x => do
      x.resolve
      rangeLhsResolve lhs
    push
    stmtsResolve stmts
    pop
    pop
  | .switch _ _ init tag _ clauses _ => do
    push
    optSimpleResolve init
    optExprResolve tag
    switchClausesResolve none clauses
    pop
  | .typeSwitch _ _ init bind _ x _ _ _ _ clauses _ => do
    push
    optSimpleResolve init
    x.resolve
    switchClausesResolve bind clauses
    pop
  | .select _ _ _ clauses _ => commClausesResolve clauses

/-- Binds the names of an optional simple statement. -/
def optSimpleResolve : Option SimpleStmt → ResolveM Unit
  | some s => s.resolve
  | none => pure ()

/-- Binds the left side of a range clause or receive, declaring what `:=` declares. -/
def rangeLhsResolve : Option RangeLhs → ResolveM Unit
  | some (.define names _) => define names
  | some (.assign exprs _) => exprsResolve exprs
  | none => pure ()

/-- Binds switch clauses, each in its own scope; a type switch binding is declared
anew in each clause. -/
def switchClausesResolve (bind : Option Ident) : List SwitchClause → ResolveM Unit
  | [] => pure ()
  | c :: cs => do
    push
    match c with
    | .exprs _ _ items _ stmts => do
      exprsResolve items
      stmtsResolve stmts
    | .types _ _ items _ stmts => do
      typeCasesResolve items
      match bind with
      | some b => declare .local_ b
      | none => pure ()
      stmtsResolve stmts
    pop
    switchClausesResolve bind cs

/-- Binds the types of a type switch case. -/
def typeCasesResolve : List TypeCase → ResolveM Unit
  | [] => pure ()
  | .type t :: cs => do
    t.resolve
    typeCasesResolve cs
  | .nil _ :: cs => typeCasesResolve cs

/-- Binds select clauses, each in its own scope. -/
def commClausesResolve : List CommClause → ResolveM Unit
  | [] => pure ()
  | c :: cs => do
    push
    match c with
    | .send _ _ ch _ v _ stmts => do
      ch.resolve
      v.resolve
      stmtsResolve stmts
    | .recv _ _ lhs x _ stmts => do
      x.resolve
      rangeLhsResolve lhs
      stmtsResolve stmts
    | .default _ _ _ stmts => stmtsResolve stmts
    pop
    commClausesResolve cs

/-- Binds the names of a simple statement; values are bound before `:=` declares. -/
def SimpleStmt.resolve : SimpleStmt → ResolveM Unit
  | .expr _ x | .incDec _ x _ _ => x.resolve
  | .send _ ch _ v => do
    ch.resolve
    v.resolve
  | .assign _ lhs _ _ rhs => do
    exprsResolve lhs
    exprsResolve rhs
  | .shortVarDecl _ names _ values => do
    exprsResolve values
    define names

/-- Binds the names used in a spec's type parameters, type and values. -/
def Spec.resolveBody : Spec → ResolveM Unit
  | .import_ .. => pure ()
  | .type _ _ tps _ t _ => do
    push
    match tps with
    | some tp => tp.resolve
    | none => pure ()
    t.resolve
    pop
  | .value _ _ t _ values _ => do
    match t with
    | some t => t.resolve
    | none => pure ()
    exprsResolve values

/-- Binds local declarations: a type name is visible in its own type, value names
only after their values. -/
def localSpecsResolve : List Spec → ResolveM Unit
  | [] => pure ()
  | s :: ss => do
    match s with
    | .type _ name .. => declare .local_ name
    | _ => pure ()
    s.resolveBody
    match s with
    | .value _ names .. => declareAll .local_ names
    | _ => pure ()
    localSpecsResolve ss

/-- Declares type parameters, then binds their constraints. -/
def TypeParams.resolve : TypeParams → ResolveM Unit
  | ⟨_, _, decls, _⟩ => do
    decls.forM fun d => declareAll .local_ d.names
    constraintsResolve decls

/-- Binds the constraints of type parameter declarations. -/
def constraintsResolve : List TypeParamDecl → ResolveM Unit
  | [] => pure ()
  | ⟨_, _, c⟩ :: ds => do
    c.resolve
    constraintsResolve ds

end

/-- Binds a function: receiver type, type parameters, signature types, then the
receiver and parameter names, then the body, all in the function's scope. -/
def FuncDecl.resolve (f : FuncDecl) : ResolveM Unit := do
  push
  match f.recv with
  | some r => do
    receiverTypeParams r.type
    r.type.resolve
  | none => pure ()
  match f.typeParams with
  | some tp => tp.resolve
  | none => pure ()
  f.signature.resolveTypes
  match f.recv.bind (·.name) with
  | some n => declare .local_ n
  | none => pure ()
  f.signature.declareNames
  match f.body with
  | some b => stmtsResolve b.stmts
  | none => pure ()
  pop

/-- Declares the package level names of a declaration. -/
def TopDecl.declarePackage : TopDecl → ResolveM Unit
  | .gen d => d.specs.forM fun s => match s with
    | .import_ .. => pure ()
    | .type _ name .. => declare .type name
    | .value _ names .. => declareAll (if d.kind == .const then .const else .var) names
  | .func f => if f.recv.isNone then declare .func f.name else pure ()

/-- Binds the names used in a top level declaration. -/
def TopDecl.resolve : TopDecl → ResolveM Unit
  | .gen d => d.specs.forM Spec.resolveBody
  | .func f => f.resolve

/-- The bindings of a file: package names first, then every declaration. -/
def SourceFile.resolve (f : SourceFile) : Bindings :=
  let act : ResolveM Unit := do
    f.decls.forM TopDecl.declarePackage
    f.decls.forM TopDecl.resolve
  ⟨(act.run {}).2.out⟩

end GoTemplates.Syntax
