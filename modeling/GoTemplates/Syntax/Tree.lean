import GoTemplates.Syntax.Token
import GoTemplates.Source.Position

/-! # Syntax trees of Go files

The tree a parsed Go file becomes. Expressions, types, statements and
declarations nest in each other, so they form one family of mutually
recursive types. Nodes carry the byte spans of the tokens that matter for
layout: their own extent, where the source gives one, and the positions of
brackets, keywords and operators.
-/

namespace GoTemplates.Syntax

open GoTemplates.Source

/-- An identifier occurrence: its text and where it stands. -/
structure Ident where
  name : String
  pos : Span
  deriving Inhabited, Repr

/-- One comment, markers included. -/
structure Comment where
  kind : CommentKind
  text : String
  span : Span
  deriving Inhabited, Repr

/-- A run of comments with no blank line or token between them; a group holds at least
one comment. -/
structure CommentGroup where
  comments : List Comment
  span : Span
  nonempty : comments ≠ []
  deriving Repr

instance : Inhabited CommentGroup := ⟨⟨[default], default, List.cons_ne_nil _ _⟩⟩

/-- A string literal as written, quotes included. -/
structure StringLit where
  value : String
  pos : Span
  deriving Inhabited, Repr

/-- The kinds of basic literal. -/
inductive LitKind where
  | int | float | imag | rune | string
  deriving DecidableEq, Repr, Inhabited

/-- A basic literal as written. -/
structure BasicLit where
  kind : LitKind
  value : String
  pos : Span
  deriving Inhabited, Repr

/-- Unary operators. -/
inductive UnaryOp where
  | plus | minus | not | xor | deref | addr | recv
  deriving DecidableEq, Repr, Inhabited

/-- The spelling of a unary operator. -/
def UnaryOp.text : UnaryOp → String
  | .plus => "+" | .minus => "-" | .not => "!" | .xor => "^" | .deref => "*"
  | .addr => "&" | .recv => "<-"

/-- Binary operators. -/
inductive BinaryOp where
  | lOr | lAnd | eq | notEq | lt | ltEq | gt | gtEq | add | sub | or | xor
  | mul | div | rem | shl | shr | and | andNot
  deriving DecidableEq, Repr, Inhabited

namespace BinaryOp

/-- The spelling of a binary operator. -/
def text : BinaryOp → String
  | lOr => "||" | lAnd => "&&" | eq => "==" | notEq => "!=" | lt => "<" | ltEq => "<="
  | gt => ">" | gtEq => ">=" | add => "+" | sub => "-" | or => "|" | xor => "^"
  | mul => "*" | div => "/" | rem => "%" | shl => "<<" | shr => ">>" | and => "&"
  | andNot => "&^"

/-- Go's operator precedence, from 1 (`||`) to 5 (`*`). -/
def precedence : BinaryOp → Nat
  | lOr => 1
  | lAnd => 2
  | eq | notEq | lt | ltEq | gt | gtEq => 3
  | add | sub | or | xor => 4
  | mul | div | rem | shl | shr | and | andNot => 5

end BinaryOp

/-- Assignment operators. -/
inductive AssignOp where
  | assign | add | sub | mul | div | rem | and | or | xor | shl | shr | andNot
  deriving DecidableEq, Repr, Inhabited

/-- The spelling of an assignment operator. -/
def AssignOp.text : AssignOp → String
  | .assign => "=" | .add => "+=" | .sub => "-=" | .mul => "*=" | .div => "/="
  | .rem => "%=" | .and => "&=" | .or => "|=" | .xor => "^=" | .shl => "<<="
  | .shr => ">>=" | .andNot => "&^="

/-- Increment or decrement. -/
inductive IncDecOp where
  | inc | dec
  deriving DecidableEq, Repr, Inhabited

/-- The spelling of an increment or decrement. -/
def IncDecOp.text : IncDecOp → String
  | .inc => "++" | .dec => "--"

/-- Channel directions. -/
inductive ChanDir where
  | both | send | recv
  deriving DecidableEq, Repr, Inhabited

/-- The kinds of branch statement. -/
inductive BranchKind where
  | break_ | continue_ | goto | fallthrough
  deriving DecidableEq, Repr, Inhabited

/-- The keyword of a branch statement. -/
def BranchKind.keyword : BranchKind → String
  | .break_ => "break" | .continue_ => "continue" | .goto => "goto"
  | .fallthrough => "fallthrough"

/-- The four kinds of general declaration, named by their keyword. -/
inductive SpecKind where
  | import_ | const | type | var
  deriving DecidableEq, Repr, Inhabited

/-- The keyword of a general declaration. -/
def SpecKind.keyword : SpecKind → String
  | .import_ => "import" | .const => "const" | .type => "type" | .var => "var"

/-- The local name of an import: `.`, `_` or an identifier. -/
inductive ImportName where
  | dot (pos : Span)
  | blank (pos : Span)
  | name (id : Ident)
  deriving Inhabited, Repr

mutual

/-- An expression; the first span of each shape is its extent. -/
inductive Expr where
  | ident (span : Span) (id : Ident)
  | basicLit (span : Span) (lit : BasicLit)
  | funcLit (span : Span) (funcPos : Span) (sig : Signature) (body : Block)
  | compositeLit (span : Span) (type : TypeExpr) (lit : LiteralValue)
  /-- `a[i]`, or an instantiation `f[int, string]`. -/
  | index (span : Span) (x : Expr) (lBrack : Span) (args : List Term) (rBrack : Span)
  | paren (span : Span) (lParen : Span) (x : Expr) (rParen : Span)
  | selector (span : Span) (x : Expr) (dotPos : Span) (sel : Ident)
  | slice (span : Span) (x : Expr) (lBrack : Span) (lo hi max : Option Expr) (rBrack : Span)
  /-- `x.(T)`, or `x.(type)` in a type switch when the type is absent. -/
  | typeAssert (span : Span) (x : Expr) (dotPos lParen : Span) (type : Option TypeExpr)
      (rParen : Span)
  | call (span : Span) (callee : Term) (lParen : Span) (args : List Term)
      (ellipsis : Option Span) (rParen : Span)
  | unary (span : Span) (op : UnaryOp) (opPos : Span) (x : Expr)
  | binary (span : Span) (x : Expr) (op : BinaryOp) (opPos : Span) (y : Expr)

/-- A call argument, callee or index operand, which may be a type. -/
inductive Term where
  | expr (e : Expr)
  | type (t : TypeExpr)

/-- A type; the first span of each shape is its extent. -/
inductive TypeExpr where
  /-- `T`, `pkg.T` or `T[int]`. -/
  | named (span : Span) (pkg : Option Ident) (name : Ident) (lBrack : Option Span)
      (args : List TypeExpr) (rBrack : Option Span)
  | pointer (span : Span) (starPos : Span) (elem : TypeExpr)
  | array (span : Span) (lBrack : Span) (len : ArrayLength) (rBrack : Span) (elem : TypeExpr)
  | slice (span : Span) (lBrack rBrack : Span) (elem : TypeExpr)
  | map (span : Span) (mapPos lBrack : Span) (key : TypeExpr) (rBrack : Span) (value : TypeExpr)
  | chan (span : Span) (dir : ChanDir) (chanPos : Span) (arrowPos : Option Span)
      (elem : TypeExpr)
  | struct (span : Span) (structPos : Span) (fields : FieldList)
  | interface (span : Span) (interfacePos lBrace : Span) (elems : List InterfaceElem)
      (rBrace : Span)
  | func (span : Span) (funcPos : Span) (sig : Signature)
  | paren (span : Span) (lParen : Span) (type : TypeExpr) (rParen : Span)
  /-- A constraint union `~int | string`, also a lone `~T`. -/
  | union (span : Span) (terms : List UnionTerm)

/-- The length of an array type. -/
inductive ArrayLength where
  | expr (e : Expr)
  | ellipsis (pos : Span)

/-- One term of a union: a type, optionally with `~`. -/
structure UnionTerm where
  tilde : Option Span
  type : TypeExpr

/-- An element of an interface type. -/
inductive InterfaceElem where
  | method (name : Ident) (sig : Signature)
  | embed (type : TypeExpr)

/-- Parameters and results of a function. -/
structure Signature where
  span : Span
  params : FieldList
  results : Option Results

/-- Results: a parenthesized list, or a single type. -/
inductive Results where
  | params (list : FieldList)
  | type (t : TypeExpr)

/-- A parenthesized parameter list, or the braces of a struct type. -/
structure FieldList where
  opening : Span
  fields : List Field
  closing : Span

/-- A struct field or a parameter; without names it is embedded or unnamed. -/
structure Field where
  span : Span
  doc : Option CommentGroup
  names : List Ident
  ellipsis : Option Span
  type : TypeExpr
  tag : Option StringLit
  comment : Option CommentGroup

/-- The braces and elements of a composite literal. -/
structure LiteralValue where
  lBrace : Span
  elements : List KeyedElement
  rBrace : Span

/-- An element of a composite literal with an optional key. -/
structure KeyedElement where
  key : Option Element
  colonPos : Option Span
  value : Element

/-- A key or value of a composite literal: an expression or a nested literal. -/
inductive Element where
  | expr (e : Expr)
  | literal (lit : LiteralValue)

/-- A braced statement list. -/
structure Block where
  lBrace : Span
  stmts : List Stmt
  rBrace : Span

/-- A simple statement; the first span of each shape is its extent. -/
inductive SimpleStmt where
  | expr (span : Span) (x : Expr)
  | send (span : Span) (chan : Expr) (arrowPos : Span) (value : Expr)
  | incDec (span : Span) (x : Expr) (op : IncDecOp) (opPos : Span)
  | assign (span : Span) (lhs : List Expr) (op : AssignOp) (opPos : Span) (rhs : List Expr)
  | shortVarDecl (span : Span) (names : List Ident) (opPos : Span) (values : List Expr)

/-- A statement; the first span of each shape is its extent. -/
inductive Stmt where
  | empty (span : Span)
  | simple (span : Span) (s : SimpleStmt)
  | decl (span : Span) (d : GenDecl)
  | labeled (span : Span) (label : Ident) (colonPos : Span) (stmt : Stmt)
  | go (span : Span) (goPos : Span) (call : Expr)
  | defer (span : Span) (deferPos : Span) (call : Expr)
  | return_ (span : Span) (returnPos : Span) (results : List Expr)
  | branch (span : Span) (kind : BranchKind) (pos : Span) (label : Option Ident)
  | block (span : Span) (b : Block)
  | if_ (span : Span) (ifPos : Span) (init : Option SimpleStmt) (cond : Expr)
      (thenBlock : Block) (elseStmt : Option Stmt)
  | for_ (span : Span) (forPos : Span) (header : ForHeader) (body : Block)
  | switch (span : Span) (switchPos : Span) (init : Option SimpleStmt) (tag : Option Expr)
      (lBrace : Span) (clauses : List SwitchClause) (rBrace : Span)
  /-- `switch [init;] [bind :=] x.(type) { ... }`. -/
  | typeSwitch (span : Span) (switchPos : Span) (init : Option SimpleStmt)
      (bind : Option Ident) (definePos : Option Span) (x : Expr) (dotPos lParen rParen : Span)
      (lBrace : Span) (clauses : List SwitchClause) (rBrace : Span)
  | select (span : Span) (selectPos lBrace : Span) (clauses : List CommClause) (rBrace : Span)

/-- What follows `for`. -/
inductive ForHeader where
  | infinite
  | cond (c : Expr)
  | clause (init : Option SimpleStmt) (cond : Option Expr) (post : Option SimpleStmt)
  | range (lhs : Option RangeLhs) (rangePos : Span) (x : Expr)

/-- The left side of `range`, or of a receive in a `select` case. -/
inductive RangeLhs where
  | define (names : List Ident) (opPos : Span)
  | assign (exprs : List Expr) (opPos : Span)

/-- A clause of an expression switch or of a type switch; `default` has no items. -/
inductive SwitchClause where
  | exprs (span casePos : Span) (items : List Expr) (colonPos : Span) (stmts : List Stmt)
  | types (span casePos : Span) (items : List TypeCase) (colonPos : Span) (stmts : List Stmt)

/-- A type in a type switch case, or `nil`. -/
inductive TypeCase where
  | type (t : TypeExpr)
  | nil (pos : Span)

/-- A clause of a `select`: a send, a receive, or `default`. -/
inductive CommClause where
  | send (span casePos : Span) (chan : Expr) (arrowPos : Span) (value : Expr) (colonPos : Span)
      (stmts : List Stmt)
  | recv (span casePos : Span) (lhs : Option RangeLhs) (x : Expr) (colonPos : Span)
      (stmts : List Stmt)
  | default (span defaultPos colonPos : Span) (stmts : List Stmt)

/-- An `import`, `const`, `type` or `var` declaration. -/
structure GenDecl where
  span : Span
  doc : Option CommentGroup
  kwPos : Span
  kind : SpecKind
  /-- Present exactly when the specs are parenthesized. -/
  lParen : Option Span
  specs : List Spec
  rParen : Option Span

/-- One spec of a general declaration. -/
inductive Spec where
  | import_ (doc : Option CommentGroup) (name : Option ImportName) (path : StringLit)
      (comment : Option CommentGroup)
  | value (doc : Option CommentGroup) (names : List Ident) (type : Option TypeExpr)
      (assignPos : Option Span) (values : List Expr) (comment : Option CommentGroup)
  /-- `Name[TypeParams] Type`, or an alias `Name = Type`. -/
  | type (doc : Option CommentGroup) (name : Ident) (typeParams : Option TypeParams)
      (assignPos : Option Span) (type : TypeExpr) (comment : Option CommentGroup)

/-- A type parameter list. -/
structure TypeParams where
  span : Span
  lBrack : Span
  params : List TypeParamDecl
  rBrack : Span

/-- `K, V Constraint` in a type parameter list. -/
structure TypeParamDecl where
  span : Span
  names : List Ident
  constraint : TypeExpr

end

/-- A method receiver; a generic receiver carries its parameters as type arguments. -/
structure Receiver where
  lParen : Span
  name : Option Ident
  type : TypeExpr
  rParen : Span

/-- A function or method declaration. -/
structure FuncDecl where
  span : Span
  doc : Option CommentGroup
  funcPos : Span
  recv : Option Receiver
  name : Ident
  typeParams : Option TypeParams
  signature : Signature
  body : Option Block

/-- A top-level declaration. -/
inductive TopDecl where
  | gen (d : GenDecl)
  | func (f : FuncDecl)

/-- A parsed file: package clause, declarations, and every comment group in it. -/
structure SourceFile where
  doc : Option CommentGroup
  packagePos : Span
  name : Ident
  decls : List TopDecl
  comments : List CommentGroup

/-- The extent of an expression. -/
def Expr.span : Expr → Span
  | .ident s .. | .basicLit s .. | .funcLit s .. | .compositeLit s .. | .index s ..
  | .paren s .. | .selector s .. | .slice s .. | .typeAssert s .. | .call s .. | .unary s ..
  | .binary s .. => s

/-- The extent of a type. -/
def TypeExpr.span : TypeExpr → Span
  | .named s .. | .pointer s .. | .array s .. | .slice s .. | .map s .. | .chan s ..
  | .struct s .. | .interface s .. | .func s .. | .paren s .. | .union s .. => s

/-- The extent of a simple statement. -/
def SimpleStmt.span : SimpleStmt → Span
  | .expr s .. | .send s .. | .incDec s .. | .assign s .. | .shortVarDecl s .. => s

/-- The extent of a statement. -/
def Stmt.span : Stmt → Span
  | .empty s | .simple s .. | .decl s .. | .labeled s .. | .go s .. | .defer s ..
  | .return_ s .. | .branch s .. | .block s .. | .if_ s .. | .for_ s .. | .switch s ..
  | .typeSwitch s .. | .select s .. => s

/-- The extent of a switch clause. -/
def SwitchClause.span : SwitchClause → Span
  | .exprs s .. | .types s .. => s

/-- The extent of a select clause. -/
def CommClause.span : CommClause → Span
  | .send s .. | .recv s .. | .default s .. => s

/-- The extent of an argument. -/
def Term.span : Term → Span
  | .expr e => e.span
  | .type t => t.span

namespace Spec

/-- The doc comment of a spec. -/
def doc : Spec → Option CommentGroup
  | import_ d .. | value d .. | type d .. => d

/-- A spec with its doc comment replaced. -/
def withDoc (s : Spec) (d : Option CommentGroup) : Spec :=
  match s with
  | import_ _ n p c => import_ d n p c
  | value _ ns t a vs c => value d ns t a vs c
  | type _ n tp a t c => type d n tp a t c

/-- The line comment of a spec. -/
def comment : Spec → Option CommentGroup
  | import_ _ _ _ c | value _ _ _ _ _ c | type _ _ _ _ _ c => c

/-- A spec with its line comment replaced. -/
def withComment (s : Spec) (c : Option CommentGroup) : Spec :=
  match s with
  | import_ d n p _ => import_ d n p c
  | value d ns t a vs _ => value d ns t a vs c
  | type d n tp a t _ => type d n tp a t c

end Spec

end GoTemplates.Syntax
