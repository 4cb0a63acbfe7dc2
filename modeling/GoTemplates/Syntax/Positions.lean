import GoTemplates.Syntax.Tree

/-! # Clearing and assigning positions

Two passes over a whole tree. Clearing resets every span to `Span.none`; an optional
token keeps its presence, since whether it is there is syntax, not layout, except that
a declaration keeps its parentheses only when it groups more than one spec.

Assigning lays the file out as one synthetic stream of tokens, in source order. A
cursor holds the offset the next token starts at and the end of the last token laid. A
token of `len` bytes spans `[pos, pos + len]` and the next one starts a byte after it,
so offsets increase strictly along the stream and every span stops at offset one or
later. A node's extent runs from where the cursor stood when the node began to the end
of its last token. Separators and keywords that have no field of their own are laid
too, and so take their room in the stream. Optional tokens are laid when the syntax has
them: the brackets of a named type around type arguments, the `=` of a value spec with
values, the `:` of a keyed element, the arrow of a directed channel, the `:=` of a type
switch binding, and the optional tokens that are present. The file's list of all its
comment groups is not laid out; the groups attached to a node are laid where they stand.
-/

namespace GoTemplates.Syntax

open GoTemplates.Source

/-! ## Clearing -/

namespace Clear

/-- An identifier without position. -/
def ident (id : Ident) : Ident := { id with pos := .none }

/-- Identifiers without positions. -/
def idents (ids : List Ident) : List Ident := ids.map ident

/-- A comment without position. -/
def comment (c : Comment) : Comment := { c with span := .none }

/-- A comment group and its comments without positions. -/
def group (g : CommentGroup) : CommentGroup :=
  { comments := g.comments.map comment, span := .none, nonempty := by simpa using g.nonempty }

/-- An optional comment group without positions. -/
def optGroup (g : Option CommentGroup) : Option CommentGroup := g.map group

/-- An optional token keeps its presence and loses its position. -/
def optSpan (s : Option Span) : Option Span := s.map fun _ => .none

/-- A string literal without position. -/
def stringLit (l : StringLit) : StringLit := { l with pos := .none }

/-- An import name without position. -/
def importName : ImportName → ImportName
  | .dot _ => .dot .none
  | .blank _ => .blank .none
  | .name id => .name (ident id)

mutual

/-- An expression without positions. -/
def expr : Expr → Expr
  | .ident _ id => .ident .none (ident id)
  | .basicLit _ l => .basicLit .none { l with pos := .none }
  | .funcLit _ _ sig b => .funcLit .none .none (signature sig) (block b)
  | .compositeLit _ t l => .compositeLit .none (typeExpr t) (literal l)
  | .index _ x _ args _ => .index .none (expr x) .none (terms args) .none
  | .paren _ _ x _ => .paren .none .none (expr x) .none
  | .selector _ x _ sel => .selector .none (expr x) .none (ident sel)
  | .slice _ x _ lo hi mx _ =>
    .slice .none (expr x) .none (optExpr lo) (optExpr hi) (optExpr mx) .none
  | .typeAssert _ x _ _ t _ => .typeAssert .none (expr x) .none .none (optType t) .none
  | .call _ f _ args ell _ => .call .none (term f) .none (terms args) (optSpan ell) .none
  | .unary _ op _ x => .unary .none op .none (expr x)
  | .binary _ x op _ y => .binary .none (expr x) op .none (expr y)

def optExpr : Option Expr → Option Expr
  | none => none
  | some e => some (expr e)

def exprs : List Expr → List Expr
  | [] => []
  | e :: es => expr e :: exprs es

def term : Term → Term
  | .expr e => .expr (expr e)
  | .type t => .type (typeExpr t)

def terms : List Term → List Term
  | [] => []
  | t :: ts => term t :: terms ts

/-- A type without positions. -/
def typeExpr : TypeExpr → TypeExpr
  | .named _ pkg name lb args rb =>
    .named .none (pkg.map ident) (ident name) (optSpan lb) (typeExprs args) (optSpan rb)
  | .pointer _ _ e => .pointer .none .none (typeExpr e)
  | .array _ _ len _ e => .array .none .none (arrayLength len) .none (typeExpr e)
  | .slice _ _ _ e => .slice .none .none .none (typeExpr e)
  | .map _ _ _ k _ v => .map .none .none .none (typeExpr k) .none (typeExpr v)
  | .chan _ dir _ arrow e => .chan .none dir .none (optSpan arrow) (typeExpr e)
  | .struct _ _ fl => .struct .none .none (fieldList fl)
  | .interface _ _ _ elems _ => .interface .none .none .none (interfaceElems elems) .none
  | .func _ _ sig => .func .none .none (signature sig)
  | .paren _ _ t _ => .paren .none .none (typeExpr t) .none
  | .union _ ts => .union .none (unionTerms ts)

def typeExprs : List TypeExpr → List TypeExpr
  | [] => []
  | t :: ts => typeExpr t :: typeExprs ts

def optType : Option TypeExpr → Option TypeExpr
  | none => none
  | some t => some (typeExpr t)

def arrayLength : ArrayLength → ArrayLength
  | .expr e => .expr (expr e)
  | .ellipsis _ => .ellipsis .none

def unionTerm : UnionTerm → UnionTerm
  | ⟨tilde, t⟩ => ⟨optSpan tilde, typeExpr t⟩

def unionTerms : List UnionTerm → List UnionTerm
  | [] => []
  | u :: us => unionTerm u :: unionTerms us

def interfaceElem : InterfaceElem → InterfaceElem
  | .method name sig => .method (ident name) (signature sig)
  | .embed t => .embed (typeExpr t)

def interfaceElems : List InterfaceElem → List InterfaceElem
  | [] => []
  | e :: es => interfaceElem e :: interfaceElems es

def signature : Signature → Signature
  | ⟨_, params, results⟩ => ⟨.none, fieldList params, optResults results⟩

def optResults : Option Results → Option Results
  | none => none
  | some (.params l) => some (.params (fieldList l))
  | some (.type t) => some (.type (typeExpr t))

def fieldList : FieldList → FieldList
  | ⟨_, fs, _⟩ => ⟨.none, fields fs, .none⟩

def field : Field → Field
  | ⟨_, doc, names, ell, t, tag, cmt⟩ =>
    ⟨.none, optGroup doc, idents names, optSpan ell, typeExpr t, tag.map stringLit, optGroup cmt⟩

def fields : List Field → List Field
  | [] => []
  | f :: fs => field f :: fields fs

def literal : LiteralValue → LiteralValue
  | ⟨_, els, _⟩ => ⟨.none, keyedElements els, .none⟩

def keyedElement : KeyedElement → KeyedElement
  | ⟨key, colon, value⟩ => ⟨optElement key, optSpan colon, element value⟩

def keyedElements : List KeyedElement → List KeyedElement
  | [] => []
  | e :: es => keyedElement e :: keyedElements es

def element : Element → Element
  | .expr e => .expr (expr e)
  | .literal l => .literal (literal l)

def optElement : Option Element → Option Element
  | none => none
  | some e => some (element e)

def block : Block → Block
  | ⟨_, ss, _⟩ => ⟨.none, stmts ss, .none⟩

/-- A simple statement without positions. -/
def simpleStmt : SimpleStmt → SimpleStmt
  | .expr _ x => .expr .none (expr x)
  | .send _ c _ v => .send .none (expr c) .none (expr v)
  | .incDec _ x op _ => .incDec .none (expr x) op .none
  | .assign _ l op _ r => .assign .none (exprs l) op .none (exprs r)
  | .shortVarDecl _ names _ vs => .shortVarDecl .none (idents names) .none (exprs vs)

def optSimpleStmt : Option SimpleStmt → Option SimpleStmt
  | none => none
  | some s => some (simpleStmt s)

/-- A statement without positions. -/
def stmt : Stmt → Stmt
  | .empty _ => .empty .none
  | .simple _ s => .simple .none (simpleStmt s)
  | .decl _ d => .decl .none (genDecl d)
  | .labeled _ l _ s => .labeled .none (ident l) .none (stmt s)
  | .go _ _ c => .go .none .none (expr c)
  | .defer _ _ c => .defer .none .none (expr c)
  | .return_ _ _ rs => .return_ .none .none (exprs rs)
  | .branch _ k _ l => .branch .none k .none (l.map ident)
  | .block _ b => .block .none (block b)
  | .if_ _ _ init c th els =>
    .if_ .none .none (optSimpleStmt init) (expr c) (block th) (optStmt els)
  | .for_ _ _ h body => .for_ .none .none (forHeader h) (block body)
  | .switch _ _ init tag _ cs _ =>
    .switch .none .none (optSimpleStmt init) (optExpr tag) .none (switchClauses cs) .none
  | .typeSwitch _ _ init bind dp x _ _ _ _ cs _ =>
    .typeSwitch .none .none (optSimpleStmt init) (bind.map ident) (optSpan dp) (expr x) .none
      .none .none .none (switchClauses cs) .none
  | .select _ _ _ cs _ => .select .none .none .none (commClauses cs) .none

def optStmt : Option Stmt → Option Stmt
  | none => none
  | some s => some (stmt s)

def stmts : List Stmt → List Stmt
  | [] => []
  | s :: ss => stmt s :: stmts ss

def forHeader : ForHeader → ForHeader
  | .infinite => .infinite
  | .cond c => .cond (expr c)
  | .clause i c p => .clause (optSimpleStmt i) (optExpr c) (optSimpleStmt p)
  | .range lhs _ x => .range (optRangeLhs lhs) .none (expr x)

def optRangeLhs : Option RangeLhs → Option RangeLhs
  | none => none
  | some (.define names _) => some (.define (idents names) .none)
  | some (.assign es _) => some (.assign (exprs es) .none)

def switchClause : SwitchClause → SwitchClause
  | .exprs _ _ items _ ss => .exprs .none .none (exprs items) .none (stmts ss)
  | .types _ _ items _ ss => .types .none .none (typeCases items) .none (stmts ss)

def switchClauses : List SwitchClause → List SwitchClause
  | [] => []
  | c :: cs => switchClause c :: switchClauses cs

def typeCases : List TypeCase → List TypeCase
  | [] => []
  | .type t :: cs => .type (typeExpr t) :: typeCases cs
  | .nil _ :: cs => .nil .none :: typeCases cs

def commClause : CommClause → CommClause
  | .send _ _ c _ v _ ss => .send .none .none (expr c) .none (expr v) .none (stmts ss)
  | .recv _ _ lhs x _ ss => .recv .none .none (optRangeLhs lhs) (expr x) .none (stmts ss)
  | .default _ _ _ ss => .default .none .none .none (stmts ss)

def commClauses : List CommClause → List CommClause
  | [] => []
  | c :: cs => commClause c :: commClauses cs

/-- A declaration without positions, parenthesized exactly when it holds more than one
spec. -/
def genDecl : GenDecl → GenDecl
  | ⟨_, doc, _, kind, _, specs, _⟩ =>
    let parens := if specs.length > 1 then some .none else none
    ⟨.none, optGroup doc, .none, kind, parens, specList specs, parens⟩

def spec : Spec → Spec
  | .import_ doc name path c => .import_ (optGroup doc) (name.map importName) (stringLit path)
      (optGroup c)
  | .value doc names t ap vs c =>
    .value (optGroup doc) (idents names) (optType t) (optSpan ap) (exprs vs) (optGroup c)
  | .type doc name tps ap t c =>
    .type (optGroup doc) (ident name) (optTypeParams tps) (optSpan ap) (typeExpr t) (optGroup c)

def specList : List Spec → List Spec
  | [] => []
  | s :: ss => spec s :: specList ss

def typeParams : TypeParams → TypeParams
  | ⟨_, _, decls, _⟩ => ⟨.none, .none, typeParamDecls decls, .none⟩

def optTypeParams : Option TypeParams → Option TypeParams
  | none => none
  | some t => some (typeParams t)

def typeParamDecl : TypeParamDecl → TypeParamDecl
  | ⟨_, names, c⟩ => ⟨.none, idents names, typeExpr c⟩

def typeParamDecls : List TypeParamDecl → List TypeParamDecl
  | [] => []
  | d :: ds => typeParamDecl d :: typeParamDecls ds

end

/-- A function declaration without positions. -/
def funcDecl : FuncDecl → FuncDecl
  | ⟨_, doc, _, recv, name, tps, sig, body⟩ =>
    ⟨.none, optGroup doc, .none,
      recv.map fun ⟨_, n, t, _⟩ => ⟨.none, n.map ident, typeExpr t, .none⟩,
      ident name, optTypeParams tps, signature sig, body.map block⟩

/-- A top level declaration without positions. -/
def topDecl : TopDecl → TopDecl
  | .gen d => .gen (genDecl d)
  | .func f => .func (funcDecl f)

end Clear

/-- The file with every position cleared: what a printer lays out from scratch. -/
def SourceFile.clearPositions (f : SourceFile) : SourceFile :=
  { doc := Clear.optGroup f.doc, packagePos := .none, name := Clear.ident f.name,
    decls := f.decls.map Clear.topDecl, comments := f.comments.map Clear.group }

/-! ## Assigning -/

/-- Where the layout stands: the offset the next token starts at, and the end of the last
token laid. -/
structure Cursor where
  pos : Nat
  lastEnd : Nat
  deriving DecidableEq, Repr

/-- Laying out tokens, with the cursor threaded through. -/
abbrev PosM := StateM Cursor

namespace Positioner

/-- Lays a token of `len` bytes: it spans `[pos, pos + len]` and the next one starts a
byte after it. -/
def tok (len : Nat) : PosM Span :=
  modifyGet fun c => (⟨c.pos, c.pos + len⟩, ⟨c.pos + len + 1, c.pos + len⟩)

/-- Lays a keyword, operator or punctuation token. -/
def kw (text : String) : PosM Span := tok text.utf8ByteSize

/-- Lays a separator in front of every list element but the first. -/
def sep (first : Bool) (text : String) : PosM Unit :=
  unless first do discard (kw text)

/-- An optional token: laid when the syntax has it, and otherwise left as it was. -/
def optKw (present : Bool) (text : String) (old : Option Span) : PosM (Option Span) :=
  if present then some <$> kw text else pure old

/-- The span from `start` to the end of the last token laid, empty at `start` when no
token was laid since. -/
def since (start : Nat) : PosM Span := do
  return ⟨start, max (← get).lastEnd start⟩

/-- Runs `m` and gives what it builds its extent: from where the cursor stood before it
to the end of the last token it laid. -/
def spanning {α : Type} (m : PosM (Span → α)) : PosM α := do
  let start := (← get).pos
  let build ← m
  return build (← since start)

/-- Lays an identifier. -/
def ident (id : Ident) : PosM Ident := do
  return { id with pos := ← tok id.name.utf8ByteSize }

/-- Lays identifiers separated by commas. -/
def idents : Bool → List Ident → PosM (List Ident)
  | _, [] => return []
  | first, id :: ids => do
    sep first ","
    let id ← ident id
    return id :: (← idents false ids)

/-- Lays an optional identifier. -/
def optIdent : Option Ident → PosM (Option Ident)
  | none => return none
  | some id => some <$> ident id

/-- Lays a package qualifier and its dot. -/
def qualifier : Option Ident → PosM (Option Ident)
  | none => return none
  | some p => do
    let p ← ident p
    discard (kw ".")
    return some p

/-- Lays a comment. -/
def comment (c : Comment) : PosM Comment := do
  return { c with span := ← tok c.text.utf8ByteSize }

/-- Lays comments one after another. -/
def comments : List Comment → PosM (List Comment)
  | [] => return []
  | c :: cs => do
    let c ← comment c
    return c :: (← comments cs)

/-- Lays a comment group: its comments, and the group spans them. -/
def group : CommentGroup → PosM CommentGroup
  | ⟨c :: cs, _, _⟩ => spanning do
    let c ← comment c
    let cs ← comments cs
    return fun span => ⟨c :: cs, span, List.cons_ne_nil _ _⟩
  | ⟨[], _, h⟩ => absurd rfl h

/-- Lays an optional comment group. -/
def optGroup : Option CommentGroup → PosM (Option CommentGroup)
  | none => return none
  | some g => some <$> group g

/-- Lays a string literal as one token. -/
def stringLit (l : StringLit) : PosM StringLit := do
  return { l with pos := ← tok l.value.utf8ByteSize }

/-- Lays an optional string literal. -/
def optStringLit : Option StringLit → PosM (Option StringLit)
  | none => return none
  | some l => some <$> stringLit l

/-- Lays the local name of an import. -/
def importName : Option ImportName → PosM (Option ImportName)
  | none => return none
  | some (.dot _) => do return some (.dot (← kw "."))
  | some (.blank _) => do return some (.blank (← kw "_"))
  | some (.name id) => do return some (.name (← ident id))

mutual

/-- Lays an expression. -/
def expr (e : Expr) : PosM Expr := spanning <| match e with
  | .ident _ id => do
    let id ← ident id
    return fun span => .ident span id
  | .basicLit _ l => do
    let pos ← tok l.value.utf8ByteSize
    return fun span => .basicLit span { l with pos }
  | .funcLit _ _ sig body => do
    let funcPos ← kw "func"
    let sig ← signature sig
    let body ← block body
    return fun span => .funcLit span funcPos sig body
  | .compositeLit _ t lit => do
    let t ← typeExpr t
    let lit ← literal lit
    return fun span => .compositeLit span t lit
  | .index _ x _ args _ => do
    let x ← expr x
    let lBrack ← kw "["
    let args ← terms true args
    let rBrack ← kw "]"
    return fun span => .index span x lBrack args rBrack
  | .paren _ _ x _ => do
    let lParen ← kw "("
    let x ← expr x
    let rParen ← kw ")"
    return fun span => .paren span lParen x rParen
  | .selector _ x _ sel => do
    let x ← expr x
    let dotPos ← kw "."
    let sel ← ident sel
    return fun span => .selector span x dotPos sel
  | .slice _ x _ lo hi mx _ => do
    let x ← expr x
    let lBrack ← kw "["
    let lo ← optExpr lo
    discard (kw ":")
    let hi ← optExpr hi
    let mx ← sliceMax mx
    let rBrack ← kw "]"
    return fun span => .slice span x lBrack lo hi mx rBrack
  | .typeAssert _ x _ _ t _ => do
    let x ← expr x
    let dotPos ← kw "."
    let lParen ← kw "("
    let t ← assertedType t
    let rParen ← kw ")"
    return fun span => .typeAssert span x dotPos lParen t rParen
  | .call _ callee _ args ell _ => do
    let callee ← term callee
    let lParen ← kw "("
    let args ← terms true args
    let ell ← optKw ell.isSome "..." ell
    let rParen ← kw ")"
    return fun span => .call span callee lParen args ell rParen
  | .unary _ op _ x => do
    let opPos ← kw op.text
    let x ← expr x
    return fun span => .unary span op opPos x
  | .binary _ x op _ y => do
    let x ← expr x
    let opPos ← kw op.text
    let y ← expr y
    return fun span => .binary span x op opPos y

/-- Lays an optional expression. -/
def optExpr : Option Expr → PosM (Option Expr)
  | none => return none
  | some e => some <$> expr e

/-- Lays the third index of a slice and the colon before it. -/
def sliceMax : Option Expr → PosM (Option Expr)
  | none => return none
  | some e => do
    discard (kw ":")
    some <$> expr e

/-- Lays the type of a type assertion, or the keyword `type` when there is none. -/
def assertedType : Option TypeExpr → PosM (Option TypeExpr)
  | none => do
    discard (kw "type")
    return none
  | some t => some <$> typeExpr t

/-- Lays expressions separated by commas. -/
def exprs : Bool → List Expr → PosM (List Expr)
  | _, [] => return []
  | first, e :: es => do
    sep first ","
    let e ← expr e
    return e :: (← exprs false es)

/-- Lays an operand that may be a type. -/
def term : Term → PosM Term
  | .expr e => .expr <$> expr e
  | .type t => .type <$> typeExpr t

/-- Lays operands separated by commas. -/
def terms : Bool → List Term → PosM (List Term)
  | _, [] => return []
  | first, t :: ts => do
    sep first ","
    let t ← term t
    return t :: (← terms false ts)

/-- Lays a type. -/
def typeExpr (t : TypeExpr) : PosM TypeExpr := spanning <| match t with
  | .named _ pkg name lBrack args rBrack => do
    let hasArgs := !args.isEmpty
    let pkg ← qualifier pkg
    let name ← ident name
    let lBrack ← optKw hasArgs "[" lBrack
    let args ← typeExprs true args
    let rBrack ← optKw hasArgs "]" rBrack
    return fun span => .named span pkg name lBrack args rBrack
  | .pointer _ _ elem => do
    let starPos ← kw "*"
    let elem ← typeExpr elem
    return fun span => .pointer span starPos elem
  | .array _ _ len _ elem => do
    let lBrack ← kw "["
    let len ← arrayLength len
    let rBrack ← kw "]"
    let elem ← typeExpr elem
    return fun span => .array span lBrack len rBrack elem
  | .slice _ _ _ elem => do
    let lBrack ← kw "["
    let rBrack ← kw "]"
    let elem ← typeExpr elem
    return fun span => .slice span lBrack rBrack elem
  | .map _ _ _ k _ v => do
    let mapPos ← kw "map"
    let lBrack ← kw "["
    let k ← typeExpr k
    let rBrack ← kw "]"
    let v ← typeExpr v
    return fun span => .map span mapPos lBrack k rBrack v
  | .chan _ dir _ arrow elem => do
    let arrow ← optKw (dir == .recv) "<-" arrow
    let chanPos ← kw "chan"
    let arrow ← optKw (dir == .send) "<-" arrow
    let elem ← typeExpr elem
    return fun span => .chan span dir chanPos arrow elem
  | .struct _ _ fl => do
    let structPos ← kw "struct"
    let fl ← fieldList "\x7b" "\x7d" ";" fl
    return fun span => .struct span structPos fl
  | .interface _ _ _ elems _ => do
    let interfacePos ← kw "interface"
    let lBrace ← kw "\x7b"
    let elems ← interfaceElems elems
    let rBrace ← kw "\x7d"
    return fun span => .interface span interfacePos lBrace elems rBrace
  | .func _ _ sig => do
    let funcPos ← kw "func"
    let sig ← signature sig
    return fun span => .func span funcPos sig
  | .paren _ _ t _ => do
    let lParen ← kw "("
    let t ← typeExpr t
    let rParen ← kw ")"
    return fun span => .paren span lParen t rParen
  | .union _ ts => do
    let ts ← unionTerms true ts
    return fun span => .union span ts

/-- Lays types separated by commas. -/
def typeExprs : Bool → List TypeExpr → PosM (List TypeExpr)
  | _, [] => return []
  | first, t :: ts => do
    sep first ","
    let t ← typeExpr t
    return t :: (← typeExprs false ts)

/-- Lays an optional type. -/
def optType : Option TypeExpr → PosM (Option TypeExpr)
  | none => return none
  | some t => some <$> typeExpr t

/-- Lays the length of an array type. -/
def arrayLength : ArrayLength → PosM ArrayLength
  | .expr e => .expr <$> expr e
  | .ellipsis _ => .ellipsis <$> kw "..."

/-- Lays a union term. -/
def unionTerm : UnionTerm → PosM UnionTerm
  | ⟨tilde, t⟩ => do
    let tilde ← optKw tilde.isSome "~" tilde
    let t ← typeExpr t
    return ⟨tilde, t⟩

/-- Lays union terms separated by bars. -/
def unionTerms : Bool → List UnionTerm → PosM (List UnionTerm)
  | _, [] => return []
  | first, u :: us => do
    sep first "|"
    let u ← unionTerm u
    return u :: (← unionTerms false us)

/-- Lays an interface element. -/
def interfaceElem : InterfaceElem → PosM InterfaceElem
  | .method name sig => do
    let name ← ident name
    let sig ← signature sig
    return .method name sig
  | .embed t => .embed <$> typeExpr t

/-- Lays interface elements, each followed by a semicolon. -/
def interfaceElems : List InterfaceElem → PosM (List InterfaceElem)
  | [] => return []
  | e :: es => do
    let e ← interfaceElem e
    discard (kw ";")
    return e :: (← interfaceElems es)

/-- Lays a signature: parameters, then results. -/
def signature : Signature → PosM Signature
  | ⟨_, params, results⟩ => spanning do
    let params ← fieldList "(" ")" "," params
    let results ← optResults results
    return fun span => ⟨span, params, results⟩

/-- Lays optional results. -/
def optResults : Option Results → PosM (Option Results)
  | none => return none
  | some (.params l) => do return some (.params (← fieldList "(" ")" "," l))
  | some (.type t) => do return some (.type (← typeExpr t))

/-- Lays a field list between its brackets, fields separated by `separator`. -/
def fieldList (opening closing separator : String) : FieldList → PosM FieldList
  | ⟨_, fs, _⟩ => do
    let o ← kw opening
    let fs ← fields separator true fs
    let c ← kw closing
    return ⟨o, fs, c⟩

/-- Lays a field. -/
def field : Field → PosM Field
  | ⟨_, doc, names, ell, t, tag, cmt⟩ => spanning do
    let doc ← optGroup doc
    let names ← idents true names
    let ell ← optKw ell.isSome "..." ell
    let t ← typeExpr t
    let tag ← optStringLit tag
    let cmt ← optGroup cmt
    return fun span => ⟨span, doc, names, ell, t, tag, cmt⟩

/-- Lays fields separated by `separator`. -/
def fields (separator : String) : Bool → List Field → PosM (List Field)
  | _, [] => return []
  | first, f :: fs => do
    sep first separator
    let f ← field f
    return f :: (← fields separator false fs)

/-- Lays a composite literal's braces and elements. -/
def literal : LiteralValue → PosM LiteralValue
  | ⟨_, els, _⟩ => do
    let lBrace ← kw "\x7b"
    let els ← keyedElements true els
    let rBrace ← kw "\x7d"
    return ⟨lBrace, els, rBrace⟩

/-- Lays a keyed element: its key and colon, if any, then its value. -/
def keyedElement : KeyedElement → PosM KeyedElement
  | ⟨key, colon, value⟩ => do
    let hasKey := key.isSome
    let key ← optElement key
    let colon ← optKw hasKey ":" colon
    let value ← element value
    return ⟨key, colon, value⟩

/-- Lays keyed elements separated by commas. -/
def keyedElements : Bool → List KeyedElement → PosM (List KeyedElement)
  | _, [] => return []
  | first, e :: es => do
    sep first ","
    let e ← keyedElement e
    return e :: (← keyedElements false es)

/-- Lays a key or value. -/
def element : Element → PosM Element
  | .expr e => .expr <$> expr e
  | .literal l => .literal <$> literal l

/-- Lays an optional key. -/
def optElement : Option Element → PosM (Option Element)
  | none => return none
  | some e => some <$> element e

/-- Lays a block. -/
def block : Block → PosM Block
  | ⟨_, ss, _⟩ => do
    let lBrace ← kw "\x7b"
    let ss ← stmtList ss
    let rBrace ← kw "\x7d"
    return ⟨lBrace, ss, rBrace⟩

/-- Lays statements, each followed by a semicolon. -/
def stmtList : List Stmt → PosM (List Stmt)
  | [] => return []
  | s :: ss => do
    let s ← stmt s
    discard (kw ";")
    return s :: (← stmtList ss)

/-- Lays a simple statement. -/
def simpleStmt (s : SimpleStmt) : PosM SimpleStmt := spanning <| match s with
  | .expr _ x => do
    let x ← expr x
    return fun span => .expr span x
  | .send _ ch _ v => do
    let ch ← expr ch
    let arrowPos ← kw "<-"
    let v ← expr v
    return fun span => .send span ch arrowPos v
  | .incDec _ x op _ => do
    let x ← expr x
    let opPos ← kw op.text
    return fun span => .incDec span x op opPos
  | .assign _ lhs op _ rhs => do
    let lhs ← exprs true lhs
    let opPos ← kw op.text
    let rhs ← exprs true rhs
    return fun span => .assign span lhs op opPos rhs
  | .shortVarDecl _ names _ values => do
    let names ← idents true names
    let opPos ← kw ":="
    let values ← exprs true values
    return fun span => .shortVarDecl span names opPos values

/-- Lays an optional simple statement. -/
def optSimpleStmt : Option SimpleStmt → PosM (Option SimpleStmt)
  | none => return none
  | some s => some <$> simpleStmt s

/-- Lays the initial statement of a header and the semicolon after it. -/
def initStmt : Option SimpleStmt → PosM (Option SimpleStmt)
  | none => return none
  | some s => do
    let s ← simpleStmt s
    discard (kw ";")
    return some s

/-- Lays a statement. -/
def stmt (s : Stmt) : PosM Stmt := spanning <| match s with
  | .empty _ => do
    discard (tok 0)
    return fun span => .empty span
  | .simple _ s => do
    let s ← simpleStmt s
    return fun span => .simple span s
  | .decl _ d => do
    let d ← genDecl d
    return fun span => .decl span d
  | .labeled _ l _ s => do
    let l ← ident l
    let colonPos ← kw ":"
    let s ← stmt s
    return fun span => .labeled span l colonPos s
  | .go _ _ c => do
    let goPos ← kw "go"
    let c ← expr c
    return fun span => .go span goPos c
  | .defer _ _ c => do
    let deferPos ← kw "defer"
    let c ← expr c
    return fun span => .defer span deferPos c
  | .return_ _ _ rs => do
    let returnPos ← kw "return"
    let rs ← exprs true rs
    return fun span => .return_ span returnPos rs
  | .branch _ k _ l => do
    let pos ← kw k.keyword
    let l ← optIdent l
    return fun span => .branch span k pos l
  | .block _ b => do
    let b ← block b
    return fun span => .block span b
  | .if_ _ _ init c th els => do
    let ifPos ← kw "if"
    let init ← initStmt init
    let c ← expr c
    let th ← block th
    let els ← elseStmt els
    return fun span => .if_ span ifPos init c th els
  | .for_ _ _ h body => do
    let forPos ← kw "for"
    let h ← forHeader h
    let body ← block body
    return fun span => .for_ span forPos h body
  | .switch _ _ init tag _ cs _ => do
    let switchPos ← kw "switch"
    let init ← initStmt init
    let tag ← optExpr tag
    let lBrace ← kw "\x7b"
    let cs ← switchClauses cs
    let rBrace ← kw "\x7d"
    return fun span => .switch span switchPos init tag lBrace cs rBrace
  | .typeSwitch _ _ init bind dp x _ _ _ _ cs _ => do
    let switchPos ← kw "switch"
    let init ← initStmt init
    let hasBind := bind.isSome
    let bind ← optIdent bind
    let dp ← optKw hasBind ":=" dp
    let x ← expr x
    let dotPos ← kw "."
    let lParen ← kw "("
    discard (kw "type")
    let rParen ← kw ")"
    let lBrace ← kw "\x7b"
    let cs ← switchClauses cs
    let rBrace ← kw "\x7d"
    return fun span => .typeSwitch span switchPos init bind dp x dotPos lParen rParen lBrace cs rBrace
  | .select _ _ _ cs _ => do
    let selectPos ← kw "select"
    let lBrace ← kw "\x7b"
    let cs ← commClauses cs
    let rBrace ← kw "\x7d"
    return fun span => .select span selectPos lBrace cs rBrace

/-- Lays an `else` and the statement after it. -/
def elseStmt : Option Stmt → PosM (Option Stmt)
  | none => return none
  | some s => do
    discard (kw "else")
    some <$> stmt s

/-- Lays what follows `for`. -/
def forHeader : ForHeader → PosM ForHeader
  | .infinite => return .infinite
  | .cond c => .cond <$> expr c
  | .clause init c post => do
    let init ← optSimpleStmt init
    discard (kw ";")
    let c ← optExpr c
    discard (kw ";")
    let post ← optSimpleStmt post
    return .clause init c post
  | .range lhs _ x => do
    let lhs ← optRangeLhs lhs
    let rangePos ← kw "range"
    let x ← expr x
    return .range lhs rangePos x

/-- Lays the left side of a range or receive and its operator. -/
def optRangeLhs : Option RangeLhs → PosM (Option RangeLhs)
  | none => return none
  | some (.define names _) => do
    let names ← idents true names
    let opPos ← kw ":="
    return some (.define names opPos)
  | some (.assign es _) => do
    let es ← exprs true es
    let opPos ← kw "="
    return some (.assign es opPos)

/-- Lays a switch clause. -/
def switchClause (c : SwitchClause) : PosM SwitchClause := spanning <| match c with
  | .exprs _ _ items _ ss => do
    let casePos ← kw (if items.isEmpty then "default" else "case")
    let items ← exprs true items
    let colonPos ← kw ":"
    let ss ← stmtList ss
    return fun span => .exprs span casePos items colonPos ss
  | .types _ _ items _ ss => do
    let casePos ← kw (if items.isEmpty then "default" else "case")
    let items ← typeCases true items
    let colonPos ← kw ":"
    let ss ← stmtList ss
    return fun span => .types span casePos items colonPos ss

/-- Lays switch clauses. -/
def switchClauses : List SwitchClause → PosM (List SwitchClause)
  | [] => return []
  | c :: cs => do
    let c ← switchClause c
    return c :: (← switchClauses cs)

/-- Lays a type switch case: a type, or `nil`. -/
def typeCase : TypeCase → PosM TypeCase
  | .type t => .type <$> typeExpr t
  | .nil _ => .nil <$> kw "nil"

/-- Lays type switch cases separated by commas. -/
def typeCases : Bool → List TypeCase → PosM (List TypeCase)
  | _, [] => return []
  | first, c :: cs => do
    sep first ","
    let c ← typeCase c
    return c :: (← typeCases false cs)

/-- Lays a select clause. -/
def commClause (c : CommClause) : PosM CommClause := spanning <| match c with
  | .send _ _ ch _ v _ ss => do
    let casePos ← kw "case"
    let ch ← expr ch
    let arrowPos ← kw "<-"
    let v ← expr v
    let colonPos ← kw ":"
    let ss ← stmtList ss
    return fun span => .send span casePos ch arrowPos v colonPos ss
  | .recv _ _ lhs x _ ss => do
    let casePos ← kw "case"
    let lhs ← optRangeLhs lhs
    let x ← expr x
    let colonPos ← kw ":"
    let ss ← stmtList ss
    return fun span => .recv span casePos lhs x colonPos ss
  | .default _ _ _ ss => do
    let defaultPos ← kw "default"
    let colonPos ← kw ":"
    let ss ← stmtList ss
    return fun span => .default span defaultPos colonPos ss

/-- Lays select clauses. -/
def commClauses : List CommClause → PosM (List CommClause)
  | [] => return []
  | c :: cs => do
    let c ← commClause c
    return c :: (← commClauses cs)

/-- Lays a general declaration; its specs are parenthesized when it had parentheses or
holds more than one spec. -/
def genDecl : GenDecl → PosM GenDecl
  | ⟨_, doc, _, kind, lParen, specs, rParen⟩ => spanning do
    let doc ← optGroup doc
    let kwPos ← kw kind.keyword
    let grouped := lParen.isSome || specs.length > 1
    let lParen ← optKw grouped "(" lParen
    let specs ← specList grouped specs
    let rParen ← optKw grouped ")" rParen
    return fun span => ⟨span, doc, kwPos, kind, lParen, specs, rParen⟩

/-- Lays a spec. -/
def spec : Spec → PosM Spec
  | .import_ doc name path c => do
    let doc ← optGroup doc
    let name ← importName name
    let path ← stringLit path
    let c ← optGroup c
    return .import_ doc name path c
  | .value doc names t ap vs c => do
    let doc ← optGroup doc
    let names ← idents true names
    let t ← optType t
    let ap ← optKw (!vs.isEmpty) "=" ap
    let vs ← exprs true vs
    let c ← optGroup c
    return .value doc names t ap vs c
  | .type doc name tps ap t c => do
    let doc ← optGroup doc
    let name ← ident name
    let tps ← optTypeParams tps
    let ap ← optKw ap.isSome "=" ap
    let t ← typeExpr t
    let c ← optGroup c
    return .type doc name tps ap t c

/-- Lays specs, each followed by a semicolon inside parentheses. -/
def specList (grouped : Bool) : List Spec → PosM (List Spec)
  | [] => return []
  | s :: ss => do
    let s ← spec s
    if grouped then discard (kw ";")
    return s :: (← specList grouped ss)

/-- Lays a type parameter list. -/
def typeParams : TypeParams → PosM TypeParams
  | ⟨_, _, decls, _⟩ => spanning do
    let lBrack ← kw "["
    let decls ← typeParamDecls true decls
    let rBrack ← kw "]"
    return fun span => ⟨span, lBrack, decls, rBrack⟩

/-- Lays an optional type parameter list. -/
def optTypeParams : Option TypeParams → PosM (Option TypeParams)
  | none => return none
  | some t => some <$> typeParams t

/-- Lays a type parameter declaration. -/
def typeParamDecl : TypeParamDecl → PosM TypeParamDecl
  | ⟨_, names, c⟩ => spanning do
    let names ← idents true names
    let c ← typeExpr c
    return fun span => ⟨span, names, c⟩

/-- Lays type parameter declarations separated by commas. -/
def typeParamDecls : Bool → List TypeParamDecl → PosM (List TypeParamDecl)
  | _, [] => return []
  | first, d :: ds => do
    sep first ","
    let d ← typeParamDecl d
    return d :: (← typeParamDecls false ds)

end

/-- Lays a method receiver. -/
def receiver : Receiver → PosM Receiver
  | ⟨_, name, t, _⟩ => do
    let lParen ← kw "("
    let name ← optIdent name
    let t ← typeExpr t
    let rParen ← kw ")"
    return ⟨lParen, name, t, rParen⟩

/-- Lays an optional receiver. -/
def optReceiver : Option Receiver → PosM (Option Receiver)
  | none => return none
  | some r => some <$> receiver r

/-- Lays an optional function body. -/
def optBlock : Option Block → PosM (Option Block)
  | none => return none
  | some b => some <$> block b

/-- Lays a function declaration. -/
def funcDecl : FuncDecl → PosM FuncDecl
  | ⟨_, doc, _, recv, name, tps, sig, body⟩ => spanning do
    let doc ← optGroup doc
    let funcPos ← kw "func"
    let recv ← optReceiver recv
    let name ← ident name
    let tps ← optTypeParams tps
    let sig ← signature sig
    let body ← optBlock body
    return fun span => ⟨span, doc, funcPos, recv, name, tps, sig, body⟩

/-- Lays top level declarations, each followed by a semicolon. -/
def topDecls : List TopDecl → PosM (List TopDecl)
  | [] => return []
  | d :: ds => do
    let d ← match d with
      | .gen g => TopDecl.gen <$> genDecl g
      | .func f => TopDecl.func <$> funcDecl f
    discard (kw ";")
    return d :: (← topDecls ds)

/-- Lays a file: its doc, the package clause and the declarations. -/
def file : SourceFile → PosM SourceFile
  | ⟨doc, _, name, decls, comments⟩ => do
    let doc ← optGroup doc
    let packagePos ← kw "package"
    let name ← ident name
    discard (kw ";")
    let decls ← topDecls decls
    return ⟨doc, packagePos, name, decls, comments⟩

end Positioner

/-- The file laid out as one synthetic stream of tokens starting at offset one. -/
def SourceFile.assignPositions (f : SourceFile) : SourceFile :=
  (Id.run ((Positioner.file f).run ⟨1, 1⟩)).1

end GoTemplates.Syntax
