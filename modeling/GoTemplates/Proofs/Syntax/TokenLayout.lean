import GoTemplates.Proofs.Syntax.WalkOrder
import GoTemplates.Syntax.Positions
import Mathlib.Logic.Relation
import Mathlib.Order.Basic

/-! # Trees laid out as a stream of tokens

The text of a node is a sequence of pieces: its own tokens (keywords, brackets,
operators, identifiers) and its children, in source order (`Node.pieces`). The
children among the pieces are exactly those of the child table, in its order, and
the own tokens are every position the node holds outside its children, except those
of tokens that are not in the text: the brackets of a named type without type
arguments, the arrow of a channel without direction, the `:=` of a type switch
without binding, the `:` of an element without key and the `=` of a value spec
without values.

`Laid c c' N` says that `N` was laid out from cursor `c` to cursor `c'`: its pieces
one after another, each own token at the cursor, with separators between them that
nothing records (`Run`), and its extent from where it began to the end of its last
token. From that alone, for a tree laid out from a cursor at offset one:

* every extent and every own token stops at offset one or later;
* the identifiers the walk visits end, each, before the next one starts;
* the extent of every node holds the extent of each of its children, provided every
  node with an extent has a token among its pieces or a child with an extent.
-/

namespace GoTemplates.Syntax

open GoTemplates.Source Children

/-! ## Pieces -/

/-- The extent of a node; a file, a spec, a composite literal element and an interface
element have none. -/
def Node.span? : Node → Option Span
  | .genDecl d => some d.span | .funcDecl f => some f.span | .signature s => some s.span
  | .field f => some f.span | .typeParams t => some t.span | .typeParamDecl t => some t.span
  | .stmt s => some s.span | .simpleStmt s => some s.span | .switchClause c => some c.span
  | .commClause c => some c.span | .expr e => some e.span | .type t => some t.span
  | .commentGroup g => some g.span | .comment c => some c.span | .ident id => some id.pos
  | .file _ | .spec _ | .keyedElement _ | .interfaceElem _ => none


/-- What stands in a node's text, in order: a token of its own, or a child. -/
inductive TextPiece where
  | tok (s : Span)
  | node (n : Node)

namespace TextPiece

/-- The child a piece is, if it is one. -/
def node? : TextPiece → Option Node
  | .node n => some n
  | .tok _ => none

/-- The token a piece is, if it is one. -/
def tok? : TextPiece → Option Span
  | .tok s => some s
  | .node _ => none

/-- Whether a piece takes room in the text: a token does, and so does a child with an
extent. -/
def solid : TextPiece → Bool
  | .tok _ => true
  | .node n => n.span?.isSome

/-- Children, as pieces. -/
def nodes {α : Type} (f : α → Node) (xs : List α) : List TextPiece := xs.map fun x => .node (f x)

/-- Tokens, as pieces. -/
def toks (xs : List Span) : List TextPiece := xs.map .tok

@[simp] theorem filterMap_tok_cons (s : Span) (ps : List TextPiece) :
    (tok s :: ps).filterMap node? = ps.filterMap node? := rfl

@[simp] theorem filterMap_node_cons (n : Node) (ps : List TextPiece) :
    (node n :: ps).filterMap node? = n :: ps.filterMap node? := rfl

@[simp] theorem filterMap_nodes {α : Type} (f : α → Node) (xs : List α) :
    (nodes f xs).filterMap node? = xs.map f := by
  induction xs with
  | nil => rfl
  | cons x xs ih => exact congrArg (f x :: ·) ih

@[simp] theorem filterMap_toks (xs : List Span) : (toks xs).filterMap node? = [] := by
  induction xs with
  | nil => rfl
  | cons x xs ih => exact ih

end TextPiece

open TextPiece

/-- The braces of a block and its statements. -/
def Block.pieces (b : Block) : List TextPiece :=
  .tok b.lBrace :: nodes .stmt b.stmts ++ [.tok b.rBrace]

/-- The braces of a composite literal and its elements. -/
def LiteralValue.pieces (l : LiteralValue) : List TextPiece :=
  .tok l.lBrace :: nodes .keyedElement l.elements ++ [.tok l.rBrace]

/-- The brackets of a field list and its fields. -/
def FieldList.pieces (l : FieldList) : List TextPiece :=
  .tok l.opening :: nodes .field l.fields ++ [.tok l.closing]

/-- The length of an array type: an expression, or `...`. -/
def ArrayLength.pieces : ArrayLength → List TextPiece
  | .expr e => [.node (.expr e)]
  | .ellipsis p => [.tok p]

/-- A union term: its `~`, if any, and its type. -/
def UnionTerm.pieces (u : UnionTerm) : List TextPiece :=
  toks u.tilde.toList ++ [.node (.type u.type)]

/-- A type switch case: a type, or `nil`. -/
def TypeCase.piece : TypeCase → TextPiece
  | .type t => .node (.type t)
  | .nil p => .tok p

/-- A key or value: an expression, or a nested literal's braces and elements. -/
def Element.pieces : Element → List TextPiece
  | .expr e => [.node (.expr e)]
  | .literal l => l.pieces

/-- The left side of a range clause or receive, and its operator. -/
def RangeLhs.pieces : RangeLhs → List TextPiece
  | .define names op => nodes .ident names ++ [.tok op]
  | .assign es op => nodes .expr es ++ [.tok op]

/-- What follows `for`. -/
def ForHeader.pieces : ForHeader → List TextPiece
  | .infinite => []
  | .cond c => [.node (.expr c)]
  | .clause init c post =>
    nodes .simpleStmt init.toList ++ nodes .expr c.toList ++ nodes .simpleStmt post.toList
  | .range lhs rangePos x => lhs.toList.flatMap RangeLhs.pieces ++ [.tok rangePos, .node (.expr x)]

/-- Results: a field list, or a type. -/
def Results.pieces : Results → List TextPiece
  | .params l => l.pieces
  | .type t => [.node (.type t)]

/-- The local name of an import. -/
def ImportName.pieces : ImportName → List TextPiece
  | .dot p | .blank p => [.tok p]
  | .name id => [.node (.ident id)]

/-- A method receiver: its parentheses, name and type. -/
def Receiver.pieces (r : Receiver) : List TextPiece :=
  .tok r.lParen :: nodes .ident r.name.toList ++ [.node (.type r.type), .tok r.rParen]

/-- The pieces of an expression. -/
def Expr.pieces : Expr → List TextPiece
  | .ident _ id => [.tok id.pos]
  | .basicLit _ l => [.tok l.pos]
  | .funcLit _ funcPos sig body => .tok funcPos :: .node (.signature sig) :: body.pieces
  | .compositeLit _ t lit => .node (.type t) :: lit.pieces
  | .index _ x lb args rb => .node (.expr x) :: .tok lb :: nodes Term.node args ++ [.tok rb]
  | .paren _ lp x rp => [.tok lp, .node (.expr x), .tok rp]
  | .selector _ x dotPos sel => [.node (.expr x), .tok dotPos, .node (.ident sel)]
  | .slice _ x lb lo hi mx rb =>
    .node (.expr x) :: .tok lb :: nodes .expr lo.toList ++ nodes .expr hi.toList
      ++ nodes .expr mx.toList ++ [.tok rb]
  | .typeAssert _ x dotPos lp t rp =>
    .node (.expr x) :: .tok dotPos :: .tok lp :: nodes .type t.toList ++ [.tok rp]
  | .call _ callee lp args ell rp =>
    .node callee.node :: .tok lp :: nodes Term.node args ++ toks ell.toList ++ [.tok rp]
  | .unary _ _ opPos x => [.tok opPos, .node (.expr x)]
  | .binary _ x _ opPos y => [.node (.expr x), .tok opPos, .node (.expr y)]

/-- The pieces of a type. -/
def TypeExpr.pieces : TypeExpr → List TextPiece
  | .named _ pkg name lb args rb =>
    nodes .ident pkg.toList ++ .node (.ident name) ::
      if args.isEmpty then [] else toks lb.toList ++ nodes .type args ++ toks rb.toList
  | .pointer _ starPos elem => [.tok starPos, .node (.type elem)]
  | .array _ lb len rb elem => .tok lb :: len.pieces ++ [.tok rb, .node (.type elem)]
  | .slice _ lb rb elem => [.tok lb, .tok rb, .node (.type elem)]
  | .map _ mapPos lb k rb v => [.tok mapPos, .tok lb, .node (.type k), .tok rb, .node (.type v)]
  | .chan _ dir chanPos arrow elem =>
    toks (if dir = .recv then arrow.toList else []) ++ .tok chanPos ::
      toks (if dir = .send then arrow.toList else []) ++ [.node (.type elem)]
  | .struct _ structPos fields => .tok structPos :: fields.pieces
  | .interface _ interfacePos lb elems rb =>
    .tok interfacePos :: .tok lb :: nodes .interfaceElem elems ++ [.tok rb]
  | .func _ funcPos sig => [.tok funcPos, .node (.signature sig)]
  | .paren _ lp t rp => [.tok lp, .node (.type t), .tok rp]
  | .union _ terms => terms.flatMap UnionTerm.pieces

/-- The pieces of a statement. -/
def Stmt.pieces : Stmt → List TextPiece
  | .empty s => [.tok s]
  | .simple _ s => [.node (.simpleStmt s)]
  | .decl _ d => [.node (.genDecl d)]
  | .labeled _ l colonPos s => [.node (.ident l), .tok colonPos, .node (.stmt s)]
  | .go _ goPos c => [.tok goPos, .node (.expr c)]
  | .defer _ deferPos c => [.tok deferPos, .node (.expr c)]
  | .return_ _ returnPos rs => .tok returnPos :: nodes .expr rs
  | .branch _ _ pos l => .tok pos :: nodes .ident l.toList
  | .block _ b => b.pieces
  | .if_ _ ifPos init c th els =>
    .tok ifPos :: nodes .simpleStmt init.toList ++ .node (.expr c) :: th.pieces
      ++ nodes .stmt els.toList
  | .for_ _ forPos h body => .tok forPos :: h.pieces ++ body.pieces
  | .switch _ switchPos init tag lb cs rb =>
    .tok switchPos :: nodes .simpleStmt init.toList ++ nodes .expr tag.toList ++ .tok lb ::
      nodes .switchClause cs ++ [.tok rb]
  | .typeSwitch _ switchPos init bind dp x dotPos lp rp lb cs rb =>
    .tok switchPos :: nodes .simpleStmt init.toList ++ nodes .ident bind.toList
      ++ toks (if bind.isSome then dp.toList else []) ++ .node (.expr x) :: .tok dotPos ::
      .tok lp :: .tok rp :: .tok lb :: nodes .switchClause cs ++ [.tok rb]
  | .select _ selectPos lb cs rb => .tok selectPos :: .tok lb :: nodes .commClause cs ++ [.tok rb]

/-- The pieces of a simple statement. -/
def SimpleStmt.pieces : SimpleStmt → List TextPiece
  | .expr _ x => [.node (.expr x)]
  | .send _ ch arrowPos v => [.node (.expr ch), .tok arrowPos, .node (.expr v)]
  | .incDec _ x _ opPos => [.node (.expr x), .tok opPos]
  | .assign _ lhs _ opPos rhs => nodes .expr lhs ++ .tok opPos :: nodes .expr rhs
  | .shortVarDecl _ names opPos values => nodes .ident names ++ .tok opPos :: nodes .expr values

/-- The pieces of a switch clause. -/
def SwitchClause.pieces : SwitchClause → List TextPiece
  | .exprs _ casePos items colonPos ss =>
    .tok casePos :: nodes .expr items ++ .tok colonPos :: nodes .stmt ss
  | .types _ casePos items colonPos ss =>
    .tok casePos :: items.map TypeCase.piece ++ .tok colonPos :: nodes .stmt ss

/-- The pieces of a select clause. -/
def CommClause.pieces : CommClause → List TextPiece
  | .send _ casePos ch arrowPos v colonPos ss =>
    .tok casePos :: .node (.expr ch) :: .tok arrowPos :: .node (.expr v) :: .tok colonPos ::
      nodes .stmt ss
  | .recv _ casePos lhs x colonPos ss =>
    .tok casePos :: lhs.toList.flatMap RangeLhs.pieces ++ .node (.expr x) :: .tok colonPos ::
      nodes .stmt ss
  | .default _ defaultPos colonPos ss => .tok defaultPos :: .tok colonPos :: nodes .stmt ss

/-- The pieces of a keyed element: its key, the colon after a key, and its value. -/
def KeyedElement.pieces (e : KeyedElement) : List TextPiece :=
  e.key.toList.flatMap Element.pieces ++ toks (if e.key.isSome then e.colonPos.toList else [])
    ++ e.value.pieces

/-- The pieces of an interface element. -/
def InterfaceElem.pieces : InterfaceElem → List TextPiece
  | .method name sig => [.node (.ident name), .node (.signature sig)]
  | .embed t => [.node (.type t)]

/-- The pieces of a signature: parameters, then results. -/
def Signature.pieces (sig : Signature) : List TextPiece :=
  sig.params.pieces ++ sig.results.toList.flatMap Results.pieces

/-- The pieces of a field; a tag is a token of the field's own. -/
def Field.pieces (f : Field) : List TextPiece :=
  nodes .commentGroup f.doc.toList ++ nodes .ident f.names ++ toks f.ellipsis.toList
    ++ .node (.type f.type) :: toks (f.tag.toList.map (·.pos)) ++ nodes .commentGroup f.comment.toList

/-- The pieces of a type parameter list. -/
def TypeParams.pieces (t : TypeParams) : List TextPiece :=
  .tok t.lBrack :: nodes .typeParamDecl t.params ++ [.tok t.rBrack]

/-- The pieces of a type parameter declaration. -/
def TypeParamDecl.pieces (t : TypeParamDecl) : List TextPiece :=
  nodes .ident t.names ++ [.node (.type t.constraint)]

/-- The pieces of a general declaration. -/
def GenDecl.pieces (d : GenDecl) : List TextPiece :=
  nodes .commentGroup d.doc.toList ++ .tok d.kwPos :: toks d.lParen.toList ++ nodes .spec d.specs
    ++ toks d.rParen.toList

/-- The pieces of a spec. -/
def Spec.pieces : Spec → List TextPiece
  | .import_ doc name path c =>
    nodes .commentGroup doc.toList ++ name.toList.flatMap ImportName.pieces ++ .tok path.pos ::
      nodes .commentGroup c.toList
  | .value doc names t assignPos values c =>
    nodes .commentGroup doc.toList ++ nodes .ident names ++ nodes .type t.toList
      ++ toks (if values.isEmpty then [] else assignPos.toList) ++ nodes .expr values
      ++ nodes .commentGroup c.toList
  | .type doc name tps assignPos t c =>
    nodes .commentGroup doc.toList ++ .node (.ident name) :: nodes .typeParams tps.toList
      ++ toks assignPos.toList ++ .node (.type t) :: nodes .commentGroup c.toList

/-- The pieces of a function declaration. -/
def FuncDecl.pieces (f : FuncDecl) : List TextPiece :=
  nodes .commentGroup f.doc.toList ++ .tok f.funcPos :: f.recv.toList.flatMap Receiver.pieces
    ++ .node (.ident f.name) :: nodes .typeParams f.typeParams.toList
    ++ .node (.signature f.signature) :: f.body.toList.flatMap Block.pieces

/-- The pieces of a node, in source order. -/
def Node.pieces : Node → List TextPiece
  | .file f =>
    nodes .commentGroup f.doc.toList ++ .tok f.packagePos :: .node (.ident f.name) ::
      nodes TopDecl.node f.decls
  | .genDecl d => d.pieces
  | .spec s => s.pieces
  | .funcDecl f => f.pieces
  | .signature s => s.pieces
  | .field f => f.pieces
  | .typeParams t => t.pieces
  | .typeParamDecl t => t.pieces
  | .stmt s => s.pieces
  | .simpleStmt s => s.pieces
  | .switchClause c => c.pieces
  | .commClause c => c.pieces
  | .expr e => e.pieces
  | .keyedElement e => e.pieces
  | .type t => t.pieces
  | .interfaceElem e => e.pieces
  | .commentGroup g => nodes .comment g.comments
  | .comment c => [.tok c.span]
  | .ident id => [.tok id.pos]

/-- The positions of a node's own tokens. -/
def Node.ownSpans (N : Node) : List Span := N.pieces.filterMap TextPiece.tok?

/-- Every position a node holds outside its children: its extent and its own tokens. -/
def Node.spans (N : Node) : List Span := N.span?.toList ++ N.ownSpans

/-! ## The child table lists the children among the pieces -/

section childTable

variable {α : Type}

@[simp] theorem map_snd_one (s : Slot) (c : Node) : (one s c).map Prod.snd = [c] := rfl

@[simp] theorem map_snd_opt (s : Slot) (f : α → Node) (o : Option α) :
    (opt s f o).map Prod.snd = o.toList.map f := by
  cases o <;> rfl

@[simp] theorem map_snd_many (s : Slot) (f : α → Node) (xs : List α) :
    (many s f xs).map Prod.snd = xs.map f := by
  apply List.ext_getElem <;> simp [many]

theorem map_snd_typeCases (k : Nat) (items : List TypeCase) :
    (typeCases k items).map Prod.snd = (items.map TypeCase.piece).filterMap node? := by
  induction items generalizing k with
  | nil => rfl
  | cons it items ih =>
    cases it <;> simp [typeCases, TypeCase.piece, ih]

theorem map_snd_element (s : Slot) (e : Element) :
    (element s e).map Prod.snd = e.pieces.filterMap node? := by
  cases e with
  | expr => rfl
  | literal l => cases l; simp [element, Element.pieces, LiteralValue.pieces]

theorem map_snd_rangeLhs (lhs : Option RangeLhs) :
    (rangeLhs lhs).map Prod.snd = (lhs.toList.flatMap RangeLhs.pieces).filterMap node? := by
  rcases lhs with _ | ⟨_, _⟩ | ⟨_, _⟩ <;> simp [rangeLhs, RangeLhs.pieces]

end childTable

/-- The children the child table lists are the children among the pieces, in order. -/
theorem Node.children_map_snd (N : Node) : N.children.map Prod.snd = N.pieces.filterMap node? := by
  cases N with
  | file f =>
    simp [Node.children, Node.pieces]
  | genDecl d => simp [Node.children, GenDecl.children, Node.pieces, GenDecl.pieces]
  | spec s =>
    cases s with
    | import_ doc name =>
      rcases name with _ | _ | _ | _ <;>
        simp [Node.children, Spec.children, Node.pieces, Spec.pieces, ImportName.pieces]
    | _ => simp [Node.children, Spec.children, Node.pieces, Spec.pieces]
  | funcDecl f =>
    obtain ⟨_, _, _, recv, _, _, _, body⟩ := f
    rcases recv with _ | ⟨_, _, _, _⟩ <;> rcases body with _ | ⟨_, _, _⟩ <;>
      simp [Node.children, FuncDecl.children, Node.pieces, FuncDecl.pieces, Receiver.pieces,
        Block.pieces]
  | signature s =>
    obtain ⟨_, ⟨_, _, _⟩, results⟩ := s
    rcases results with _ | ⟨⟨_, _, _⟩⟩ | _ <;>
      simp [Node.children, Signature.children, Node.pieces, Signature.pieces, FieldList.pieces,
        Results.pieces]
  | field f => obtain ⟨⟩ := f; simp [Node.children, Field.children, Node.pieces, Field.pieces]
  | typeParams t => simp [Node.children, Node.pieces, TypeParams.pieces]
  | typeParamDecl t => simp [Node.children, Node.pieces, TypeParamDecl.pieces]
  | stmt st =>
    cases st with
    | block _ b => cases b; simp [Node.children, Stmt.children, Node.pieces, Stmt.pieces, Block.pieces]
    | if_ _ _ _ _ b => cases b; simp [Node.children, Stmt.children, Node.pieces, Stmt.pieces, Block.pieces]
    | for_ _ _ h b =>
      cases b
      rcases h with _ | _ | _ | ⟨lhs, _, _⟩
      · simp [Node.children, Stmt.children, Node.pieces, Stmt.pieces, ForHeader.pieces, Block.pieces]
      · simp [Node.children, Stmt.children, Node.pieces, Stmt.pieces, ForHeader.pieces, Block.pieces]
      · simp [Node.children, Stmt.children, Node.pieces, Stmt.pieces, ForHeader.pieces, Block.pieces]
      · simp [Node.children, Stmt.children, Node.pieces, Stmt.pieces, ForHeader.pieces, Block.pieces,
          map_snd_rangeLhs]
    | typeSwitch _ _ _ bind => cases bind <;> simp [Node.children, Stmt.children, Node.pieces, Stmt.pieces]
    | _ => simp [Node.children, Stmt.children, Node.pieces, Stmt.pieces]
  | simpleStmt st => cases st <;> simp [Node.children, SimpleStmt.children, Node.pieces, SimpleStmt.pieces]
  | switchClause cl =>
    cases cl <;> simp [Node.children, SwitchClause.children, Node.pieces, SwitchClause.pieces,
      map_snd_typeCases]
  | commClause cl =>
    cases cl <;> simp [Node.children, CommClause.children, Node.pieces, CommClause.pieces,
      map_snd_rangeLhs]
  | expr e =>
    cases e with
    | funcLit _ _ _ b => cases b; simp [Node.children, Expr.children, Node.pieces, Expr.pieces, Block.pieces]
    | compositeLit _ _ l => cases l; simp [Node.children, Expr.children, Node.pieces, Expr.pieces, LiteralValue.pieces]
    | _ => simp [Node.children, Expr.children, Node.pieces, Expr.pieces]
  | keyedElement e =>
    obtain ⟨key, colon, value⟩ := e
    cases key <;> simp [Node.children, KeyedElement.children, Node.pieces, KeyedElement.pieces,
      map_snd_element]
  | type t =>
    cases t with
    | named _ _ _ _ args => cases args <;> simp [Node.children, TypeExpr.children, Node.pieces, TypeExpr.pieces]
    | array _ _ len => cases len <;> simp [Node.children, TypeExpr.children, Node.pieces, TypeExpr.pieces, ArrayLength.pieces]
    | chan _ dir => cases dir <;> simp [Node.children, TypeExpr.children, Node.pieces, TypeExpr.pieces]
    | struct _ _ fl => cases fl; simp [Node.children, TypeExpr.children, Node.pieces, TypeExpr.pieces, FieldList.pieces]
    | union _ ts =>
      simp only [Node.children, TypeExpr.children, Node.pieces, TypeExpr.pieces, map_snd_many]
      induction ts with
      | nil => rfl
      | cons u us ih => simp [UnionTerm.pieces, ih]
    | _ => simp [Node.children, TypeExpr.children, Node.pieces, TypeExpr.pieces]
  | interfaceElem e => cases e <;> simp [Node.children, InterfaceElem.children, Node.pieces, InterfaceElem.pieces]
  | commentGroup g => simp [Node.children, Node.pieces]
  | comment | ident => rfl

/-! ## Cursors -/

namespace Cursor

/-- The cursor after a token of `len` bytes. -/
def next (c : Cursor) (len : Nat) : Cursor := ⟨c.pos + len + 1, c.pos + len⟩

/-- Where a token of `len` bytes laid at the cursor stands. -/
def tokSpan (c : Cursor) (len : Nat) : Span := ⟨c.pos, c.pos + len⟩

/-- The last token laid ends at or before where the next one starts. -/
def Good (c : Cursor) : Prop := c.lastEnd ≤ c.pos

/-- Cursors are ordered by both offsets. -/
instance : Preorder Cursor where
  le c c' := c.pos ≤ c'.pos ∧ c.lastEnd ≤ c'.lastEnd
  le_refl _ := ⟨Nat.le_refl _, Nat.le_refl _⟩
  le_trans _ _ _ h₁ h₂ := ⟨Nat.le_trans h₁.1 h₂.1, Nat.le_trans h₁.2 h₂.2⟩

theorem le_def {c c' : Cursor} : c ≤ c' ↔ c.pos ≤ c'.pos ∧ c.lastEnd ≤ c'.lastEnd := Iff.rfl

theorem good_next (c : Cursor) (len : Nat) : (c.next len).Good := by
  simp [Good, next]

theorem le_next {c : Cursor} (hc : c.Good) (len : Nat) : c ≤ c.next len := by
  simp only [Good] at hc
  simp only [le_def, next]
  omega

end Cursor

/-! ## Laying out -/

mutual

/-- `N` is laid out from cursor `c` to cursor `c'`: its pieces in a run, and its extent,
if it has one, from where it began to the end of the last token laid. A node with an
extent has a piece that takes room. -/
inductive Laid : Cursor → Cursor → Node → Prop
  | intro {c c' : Cursor} {N : Node}
      (span : N.span? = none ∨ N.span? = some ⟨c.pos, max c'.lastEnd c.pos⟩)
      (solid : N.span?.isSome → N.pieces.any TextPiece.solid)
      (run : Run c c' N.pieces) : Laid c c' N

/-- Pieces laid out one after another from cursor `c` to cursor `c'`: each token at the
cursor, each child from where the cursor stands, and separators, which no piece records,
anywhere between them. -/
inductive Run : Cursor → Cursor → List TextPiece → Prop
  | nil {c : Cursor} : Run c c []
  | gap {c c' : Cursor} {ps : List TextPiece} (len : Nat) : Run (c.next len) c' ps → Run c c' ps
  | tok {c c' : Cursor} {ps : List TextPiece} (len : Nat) :
      Run (c.next len) c' ps → Run c c' (.tok (c.tokSpan len) :: ps)
  | node {c b c' : Cursor} {N : Node} {ps : List TextPiece} :
      Laid c b N → Run b c' ps → Run c c' (.node N :: ps)

end

section layout

variable {c c' b : Cursor} {N M : Node} {ps qs : List TextPiece}

theorem Laid.spanned (run : Run c c' N.pieces) (span : N.span? = some ⟨c.pos, max c'.lastEnd c.pos⟩)
    (solid : N.pieces.any TextPiece.solid) : Laid c c' N :=
  .intro (.inr span) (fun _ => solid) run

theorem Laid.unspanned (run : Run c c' N.pieces) (span : N.span? = none) : Laid c c' N :=
  .intro (.inl span) (by simp [span]) run

/-- A node that is one token of its own, its extent. -/
theorem Laid.token {len : Nat} (span : N.span? = some (c.tokSpan len))
    (pieces : N.pieces = [.tok (c.tokSpan len)]) : Laid c (c.next len) N := by
  refine .intro (.inr ?_) (by simp [pieces, solid]) (pieces ▸ .tok len .nil)
  rw [span]
  simp [Cursor.tokSpan, Cursor.next]

theorem Run.append {c b c' : Cursor} {ps qs : List TextPiece} : Run c b ps → Run b c' qs → Run c c' (ps ++ qs)
  | .nil, h => h
  | .gap len run, h => .gap len (run.append h)
  | .tok len run, h => .tok len (run.append h)
  | .node laid run, h => .node laid (run.append h)

mutual

/-- Laying out moves the cursor forwards and keeps it good. -/
theorem Laid.mono {c c' : Cursor} {N : Node} : Laid c c' N → c.Good → c'.Good ∧ c ≤ c'
  | .intro _ _ run, hc => run.mono hc

theorem Run.mono {c c' : Cursor} {ps : List TextPiece} : Run c c' ps → c.Good → c'.Good ∧ c ≤ c'
  | .nil, hc => ⟨hc, le_refl _⟩
  | .gap len run, hc =>
    have h := run.mono (c.good_next len)
    ⟨h.1, (Cursor.le_next hc len).trans h.2⟩
  | .tok len run, hc =>
    have h := run.mono (c.good_next len)
    ⟨h.1, (Cursor.le_next hc len).trans h.2⟩
  | .node laid run, hc =>
    have hb := laid.mono hc
    have h := run.mono hb.1
    ⟨h.1, hb.2.trans h.2⟩

end

mutual

/-- A node with an extent lays a token: the end of its last token is not before where it
began. -/
theorem Laid.lays {c c' : Cursor} {N : Node} : Laid c c' N → c.Good → N.span?.isSome → c.pos ≤ c'.lastEnd
  | .intro _ solid run, hc, hs => run.lays hc (solid hs)

theorem Run.lays {c c' : Cursor} {ps : List TextPiece} : Run c c' ps → c.Good → ps.any TextPiece.solid → c.pos ≤ c'.lastEnd
  | .nil, _, h => absurd h (by simp)
  | .gap len run, _, h => by
    have := run.lays (c.good_next len) h
    simp only [Cursor.next] at this
    omega
  | .tok len run, _, _ => by
    have := (run.mono (c.good_next len)).2.2
    simp only [Cursor.next] at this
    omega
  | .node laid run, hc, h => by
    have hb := laid.mono hc
    have hend := (run.mono hb.1).2
    rw [List.any_cons, Bool.or_eq_true] at h
    rcases h with h | h
    · exact Nat.le_trans (laid.lays hc h) hend.2
    · exact Nat.le_trans hb.2.1 (run.lays hb.1 h)

end

/-- A child among the pieces of a run is laid out between the run's ends. -/
theorem Run.laid_of_mem {c c' : Cursor} {ps : List TextPiece} {M : Node} : Run c c' ps → c.Good → .node M ∈ ps →
    ∃ a b, c ≤ a ∧ b ≤ c' ∧ a.Good ∧ Laid a b M
  | .nil, _, h => absurd h List.not_mem_nil
  | .gap len run, hc, h => by
    obtain ⟨a, b, hca, hbc, ha, hl⟩ := run.laid_of_mem (c.good_next len) h
    exact ⟨a, b, (Cursor.le_next hc len).trans hca, hbc, ha, hl⟩
  | .tok len run, hc, h => by
    obtain ⟨a, b, hca, hbc, ha, hl⟩ := run.laid_of_mem (c.good_next len)
      ((List.mem_cons.mp h).resolve_left fun h => TextPiece.noConfusion h)
    exact ⟨a, b, (Cursor.le_next hc len).trans hca, hbc, ha, hl⟩
  | .node laid run, hc, h => by
    have hb := laid.mono hc
    rcases List.mem_cons.mp h with h | h
    · cases h
      exact ⟨c, _, le_refl _, (run.mono hb.1).2, hc, laid⟩
    · obtain ⟨a, b, hca, hbc, ha, hl⟩ := run.laid_of_mem hb.1 h
      exact ⟨a, b, hb.2.trans hca, hbc, ha, hl⟩

/-- A token among the pieces of a run stands at a cursor between the run's ends. -/
theorem Run.tok_of_mem {c c' : Cursor} {ps : List TextPiece} {s : Span} : Run c c' ps → c.Good → .tok s ∈ ps →
    ∃ a len, c ≤ a ∧ a.next len ≤ c' ∧ s = a.tokSpan len
  | .nil, _, h => absurd h List.not_mem_nil
  | .gap len run, hc, h => by
    obtain ⟨a, n, hca, hac, hs⟩ := run.tok_of_mem (c.good_next len) h
    exact ⟨a, n, (Cursor.le_next hc len).trans hca, hac, hs⟩
  | .tok len run, hc, h => by
    rcases List.mem_cons.mp h with h | h
    · cases h
      exact ⟨c, len, le_refl _, (run.mono (c.good_next len)).2, rfl⟩
    · obtain ⟨a, n, hca, hac, hs⟩ := run.tok_of_mem (c.good_next len) h
      exact ⟨a, n, (Cursor.le_next hc len).trans hca, hac, hs⟩
  | .node laid run, hc, h => by
    have hb := laid.mono hc
    obtain ⟨a, n, hca, hac, hs⟩ := run.tok_of_mem hb.1
      ((List.mem_cons.mp h).resolve_left fun h => TextPiece.noConfusion h)
    exact ⟨a, n, hb.2.trans hca, hac, hs⟩

theorem Laid.span_eq {s : Span} (laid : Laid c c' N) (hs : N.span? = some s) :
    s = ⟨c.pos, max c'.lastEnd c.pos⟩ := by
  obtain ⟨span, _, _⟩ := laid
  rcases span with h | h <;> rw [hs] at h
  · cases h
  · exact Option.some.inj h

/-- A child the child table lists is laid out within its parent. -/
theorem Laid.child (laid : Laid c c' N) (hc : c.Good) {q : Place × Node} (hq : q ∈ N.children) :
    ∃ a b, c ≤ a ∧ b ≤ c' ∧ a.Good ∧ Laid a b q.2 := by
  obtain ⟨_, _, run⟩ := laid
  have hmem : q.2 ∈ N.pieces.filterMap node? := N.children_map_snd ▸ List.mem_map_of_mem hq
  obtain ⟨p, hp, hpq⟩ := List.mem_filterMap.mp hmem
  cases p with
  | tok => cases hpq
  | node n => cases hpq; exact run.laid_of_mem hc hp

/-! ## Positions are valid -/

/-- Every position a node laid out from offset one or later holds is valid. -/
theorem Laid.valid (laid : Laid c c' N) (hc : c.Good) (h1 : 1 ≤ c.pos) :
    ∀ s ∈ N.spans, s.isValid := by
  intro s hs
  rcases List.mem_append.mp hs with hs | hs
  · rw [laid.span_eq (Option.mem_toList.mp hs)]
    simp only [Span.isValid, bne_iff_ne, ne_eq]
    omega
  · obtain ⟨_, _, run⟩ := laid
    obtain ⟨p, hp, hps⟩ := List.mem_filterMap.mp hs
    cases p with
    | node => cases hps
    | tok t =>
      cases hps
      obtain ⟨a, len, hca, -, rfl⟩ := run.tok_of_mem hc hp
      simp only [Span.isValid, Cursor.tokSpan, bne_iff_ne, ne_eq]
      have := hca.1
      omega

/-! ## Extents hold their children -/

/-- The extent of a node laid out holds the extent of each of its children. -/
theorem Laid.covers (laid : Laid c c' N) (hc : c.Good) {s : Span} (hs : N.span? = some s)
    {q : Place × Node} (hq : q ∈ N.children) {t : Span} (ht : q.2.span? = some t) :
    s.start ≤ t.start ∧ t.stop ≤ s.stop := by
  obtain ⟨a, b, hca, hbc, ha, hl⟩ := laid.child hc hq
  have hlays := hl.lays ha (by simp [ht])
  rw [laid.span_eq hs, hl.span_eq ht]
  have := hca.1
  have := hbc.2
  simp only
  omega

/-- `M` is `N` or lies below it in the child table. -/
def Node.Reaches (N M : Node) : Prop :=
  Relation.ReflTransGen (fun A B => ∃ q ∈ A.children, q.2 = B) N M

/-- Every node below a node laid out is laid out within it. -/
theorem Laid.reaches (laid : Laid c c' N) (hc : c.Good) (hr : N.Reaches M) :
    ∃ a b, c ≤ a ∧ b ≤ c' ∧ a.Good ∧ Laid a b M := by
  induction hr using Relation.ReflTransGen.head_induction_on generalizing c c' with
  | refl => exact ⟨c, c', le_refl _, le_refl _, hc, laid⟩
  | head hstep _ ih =>
    obtain ⟨q, hq, rfl⟩ := hstep
    obtain ⟨a, b, hca, hbc, ha, hl⟩ := laid.child hc hq
    obtain ⟨a', b', haa, hbb, ha', hl'⟩ := ih hl ha
    exact ⟨a', b', hca.trans haa, hbb.trans hbc, ha', hl'⟩

/-! ## Identifiers are in order -/

/-- The identifier a node is: an `Ident` node, or an expression that is a plain identifier. -/
def Node.ownIdent? : Node → Option Ident
  | .ident id => some id
  | .expr (.ident _ id) => some id
  | _ => none

/-- The first visit of a walk carries the identifier of the node it starts at. -/
theorem Node.visits_head_ident (N : Node) (d : Nat) (p : Place) :
    (N.visits d p).head?.map Visit.ident = some N.ownIdent? := by
  -- records the walk matches on are opened so that its first step reduces
  cases N with
  | expr e =>
    rcases e with _ | _ | ⟨_, _, _, ⟨⟩⟩ | ⟨_, _, ⟨⟩⟩ | _ | _ | _ | _ | _ | _ | _ | _ <;> rfl
  | type t => rcases t with _ | _ | _ | _ | _ | _ | ⟨_, _, ⟨⟩⟩ | _ | _ | _ | _ <;> rfl
  | stmt st =>
    rcases st with _ | _ | _ | _ | _ | _ | _ | _ | ⟨_, ⟨⟩⟩ | ⟨_, _, _, _, ⟨⟩⟩ |
      ⟨_, _, _, ⟨⟩⟩ | _ | _ | _ <;> rfl
  | simpleStmt st => cases st <;> rfl
  | switchClause cl => cases cl <;> rfl
  | commClause cl => cases cl <;> rfl
  | spec s => cases s <;> rfl
  | interfaceElem e => cases e <;> rfl
  | signature s => obtain ⟨_, ⟨⟩, _⟩ := s; rfl
  | field f => obtain ⟨⟩ := f; rfl
  | keyedElement e => obtain ⟨⟩ := e; rfl
  | genDecl g => obtain ⟨⟩ := g; rfl
  | typeParams t => obtain ⟨⟩ := t; rfl
  | typeParamDecl t => obtain ⟨⟩ := t; rfl
  | file | funcDecl | commentGroup | comment | ident => rfl

/-- The positions of the identifiers a walk visits, in order. -/
def identSpans (vs : List Visit) : List Span := vs.filterMap fun v => v.ident.map (·.pos)

theorem identSpans_flatMap {α : Type} (l : List α) (f : α → List Visit) :
    identSpans (l.flatMap f) = l.flatMap fun x => identSpans (f x) := by
  induction l with
  | nil => rfl
  | cons x xs ih => simp [identSpans] at ih ⊢; rw [ih]

/-- The identifiers a walk visits: the node's own, then those below each child in turn. -/
theorem Node.identSpans_visits (N : Node) (d : Nat) (p : Place) :
    identSpans (N.visits d p) = (N.ownIdent?.map (·.pos)).toList ++
      N.children.flatMap fun q => identSpans (q.2.visits (d + 1) q.1) := by
  obtain ⟨v, hv, -⟩ := N.visits_preorder d p
  have hi : v.ident = N.ownIdent? := by simpa [hv] using N.visits_head_ident d p
  rw [hv, ← identSpans_flatMap]
  cases h : N.ownIdent? <;> simp [identSpans, hi, h]

/-- A node that is an identifier has no children and is its one token. -/
theorem Node.pieces_of_ownIdent {id : Ident} (h : N.ownIdent? = some id) :
    N.children = [] ∧ N.pieces = [.tok id.pos] := by
  cases N with
  | ident => cases h; exact ⟨rfl, rfl⟩
  | expr e => cases e <;> first | cases h; exact ⟨rfl, rfl⟩ | cases h
  | _ => cases h

/-- Positions in order, each ending before the next starts, all from `c`'s offset on
and ending before `c'`'s. -/
def InOrder (c c' : Cursor) (l : List Span) : Prop :=
  l.Pairwise (fun a b => a.stop < b.start) ∧ ∀ s ∈ l, c.pos ≤ s.start ∧ s.stop < c'.pos

theorem InOrder.nil : InOrder c c' [] := ⟨.nil, fun _ h => absurd h List.not_mem_nil⟩

theorem InOrder.start_le {l : List Span} (h : InOrder b c' l) (hcb : c.pos ≤ b.pos) :
    InOrder c c' l :=
  ⟨h.1, fun s hs => ⟨Nat.le_trans hcb (h.2 s hs).1, (h.2 s hs).2⟩⟩

theorem InOrder.append {l₁ l₂ : List Span} (h₁ : InOrder c b l₁) (h₂ : InOrder b c' l₂)
    (hcb : c.pos ≤ b.pos) (hbc : b.pos ≤ c'.pos) : InOrder c c' (l₁ ++ l₂) := by
  refine ⟨List.pairwise_append.mpr ⟨h₁.1, h₂.1, fun s hs t ht => ?_⟩, fun s hs => ?_⟩
  · exact Nat.lt_of_lt_of_le (h₁.2 s hs).2 (h₂.2 t ht).1
  · rcases List.mem_append.mp hs with hs | hs
    · exact ⟨(h₁.2 s hs).1, Nat.lt_of_lt_of_le (h₁.2 s hs).2 hbc⟩
    · exact ⟨Nat.le_trans hcb (h₂.2 s hs).1, (h₂.2 s hs).2⟩

mutual

/-- The identifiers below a node laid out are in order, within its cursors. -/
theorem Laid.idents {c c' : Cursor} {N : Node} : Laid c c' N → c.Good → ∀ d p, InOrder c c' (identSpans (N.visits d p))
  | .intro _ _ run, hc, d, p => by
    rw [N.identSpans_visits d p]
    cases hN : N.ownIdent? with
    | none => simpa using run.idents hc N.children N.children_map_snd (d + 1)
    | some id =>
      obtain ⟨hch, hpc⟩ := N.pieces_of_ownIdent hN
      rw [hpc] at run
      obtain ⟨a, len, hca, hac, hs⟩ := run.tok_of_mem hc (List.mem_singleton_self _)
      have h₁ := hca.1
      have h₂ := hac.1
      simp only [Cursor.next] at h₂
      rw [hch, Option.map_some, Option.toList_some, List.flatMap_nil, List.append_nil, hs]
      refine ⟨List.pairwise_singleton _ _, fun s hmem => ?_⟩
      rw [List.mem_singleton.mp hmem]
      simp only [Cursor.tokSpan]
      omega

theorem Run.idents {c c' : Cursor} {ps : List TextPiece} : Run c c' ps → c.Good → ∀ qs : List (Place × Node),
    qs.map Prod.snd = ps.filterMap node? → ∀ d,
      InOrder c c' (qs.flatMap fun q => identSpans (q.2.visits d q.1))
  | .nil, _, qs, hqs, _ => by
    rw [List.map_eq_nil_iff.mp hqs]
    exact .nil
  | .gap len run, hc, qs, hqs, d =>
    (run.idents (c.good_next len) qs hqs d).start_le (Cursor.le_next hc len).1
  | .tok len run, hc, qs, hqs, d =>
    (run.idents (c.good_next len) qs hqs d).start_le (Cursor.le_next hc len).1
  | .node laid run, hc, qs, hqs, d => by
    obtain ⟨q, qs', rfl⟩ : ∃ q qs', qs = q :: qs' := List.exists_cons_of_ne_nil (by
      rintro rfl
      cases hqs)
    simp only [List.map_cons, filterMap_node_cons, List.cons.injEq] at hqs
    obtain ⟨hq, hqs'⟩ := hqs
    have hb := laid.mono hc
    rw [List.flatMap_cons]
    exact (hq ▸ laid.idents hc d q.1).append (run.idents hb.1 qs' hqs' d) hb.2.1
      (run.mono hb.1).2.1

end

end layout

end GoTemplates.Syntax
