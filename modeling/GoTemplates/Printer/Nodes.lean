import GoTemplates.Printer.Basic

/-! # Printing declarations, statements, expressions and types

One printing function per kind of node, in the style of gofmt. The layout
choices that depend on positions go through the printer's `Layout`; those that
depend on the tree alone are made here:

* binary operators are spaced by precedence: below a cutoff computed from the
  whole operand tree there is a blank on each side, above it none, so that
  `x + y*z` shows its grouping;
* a grouped declaration aligns its specs in columns, a struct aligns its
  fields, an expanded composite literal aligns its keys;
* a short function body written on one line stays on one line.
-/

namespace GoTemplates.Syntax

open GoTemplates.Source GoTemplates.Printer GoTemplates.Text PrintM

/-- Precedence of the loosest context. -/
def lowestPrec : Nat := 0

/-- Precedence of unary operators. -/
def unaryPrec : Nat := 6

/-- Precedence of primary expressions. -/
def highestPrec : Nat := 7

/-- One nesting level less, but not below one. -/
def reduceDepth (d : Nat) : Nat := if d > 1 then d - 1 else d

/-- Whether an expression is a binary operation. -/
def Expr.isBinary : Expr → Bool
  | .binary .. => true
  | _ => false

/-- Zero when the operand is a binary operation of precedence `prec`, one otherwise. -/
def diffPrec (x : Expr) (prec : Nat) : Nat :=
  match x with
  | .binary _ _ op _ _ => if op.precedence == prec then 0 else 1
  | _ => 1

/-- What a unary operand right of a binary operator forces: `/ *`, `& &` and `& ^`
must stay apart at any precedence, `+ +` and `- -` at the additive one. -/
def unaryProblem (op : BinaryOp) (r : UnaryOp) : Nat :=
  match op, r with
  | .div, .deref | .and, .addr | .and, .xor => 5
  | .add, .plus | .sub, .minus => 4
  | _, _ => 0

/-- For the chain of binary operations printed without parentheses at this node:
whether it has precedence 4, whether it has precedence 5, and the highest
precedence that a unary right operand forces apart. -/
def walkBinary : Expr → Bool × Bool × Nat
  | .binary _ l op _ r =>
    let prec := op.precedence
    let (h4, h5, mp) := match l with
      | .binary _ _ lop _ _ =>
        if lop.precedence ≥ prec then walkBinary l else (false, false, 0)
      | _ => (false, false, 0)
    let (h4, h5, mp) := (h4 || prec == 4, h5 || prec == 5, mp)
    match r with
    | .binary _ _ rop _ _ =>
      if rop.precedence > prec then
        let (r4, r5, rp) := walkBinary r
        (h4 || r4, h5 || r5, Nat.max mp rp)
      else (h4, h5, mp)
    | .unary _ rop _ _ =>
      let p := unaryProblem op rop
      (h4, h5, if p == 5 then 5 else Nat.max mp p)
    | _ => (h4, h5, mp)
  | _ => (false, false, 0)

/-- The precedence below which a binary operator gets blanks around it. -/
def cutoff (e : Expr) (depth : Nat) : Nat :=
  let (h4, h5, mp) := walkBinary e
  if mp > 0 then mp + 1
  else match h4 && h5, depth == 1 with
    | true, true => 5
    | true, false => 4
    | false, true => 6
    | false, false => 4

/-- The keyword a spec needs, as reported in errors. -/
def Spec.kindName : Spec → String
  | .import_ .. => "import"
  | .type .. => "type"
  | .value .. => "value"

/-- Whether a spec belongs in a declaration with this keyword. -/
def Spec.fits : Spec → SpecKind → Bool
  | .import_ .., .import_ | .type .., .type | .value .., .const | .value .., .var => true
  | _, _ => false

/-- The first spec that does not fit the declaration's keyword, as an error. -/
def checkSpecs (kind : SpecKind) (specs : List Spec) : Except PrintError Unit :=
  match specs.find? (!·.fits kind) with
  | some s => .error (.specKind s.kindName kind.keyword)
  | none => .ok ()

/-- The extent of a spec for blank-line decisions: from its doc or first token to
its line comment or last token. -/
def Spec.extent : Spec → Span × Span
  | .import_ doc name path comment =>
    let first := match name with
      | some (.dot p) | some (.blank p) => p
      | some (.name n) => n.pos
      | none => path.pos
    (coverDoc doc first, coverComment path.pos comment)
  | .value doc names t _ values comment =>
    let first := (names.head?.map (·.pos)).getD Span.none
    let last := match values.getLast? with
      | some e => e.span
      | none => (t.map (·.span)).getD first
    (coverDoc doc first, coverComment last comment)
  | .type doc name _ _ t comment => (coverDoc doc name.pos, coverComment t.span comment)
where
  coverDoc (doc : Option CommentGroup) (s : Span) : Span :=
    match doc with
    | some d => d.span.cover s
    | none => s
  coverComment (s : Span) (comment : Option CommentGroup) : Span :=
    match comment with
    | some c => s.cover c.span
    | none => s

/-- The texts of a comment group joined by blanks, as a trailing comment. -/
def trailingComment (g : CommentGroup) : String :=
  " ".intercalate (g.comments.map (·.text))

/-- Writes a doc comment, one comment per line. -/
def printDoc : Option CommentGroup → PrintM Unit
  | none => pure ()
  | some g => g.comments.forM fun c => do w c.text; nl

/-- Doc comment rows of an aligned section. -/
def docRows : Option CommentGroup → List Row
  | none => []
  | some g => g.comments.map fun c => .raw c.text

/-- Writes a comma separated list of names. -/
def printNames (ids : List Ident) : PrintM Unit := w (", ".intercalate (ids.map (·.name)))

/-- A braced body: the opening brace ends its line, the body is indented one level. -/
def braced (body : PrintM Unit) : PrintM Unit := do
  w "\x7b"; nl; indentIn; body; indentOut; w "\x7d"

/-- The statements of a clause, on the lines after its colon. -/
def clauseLayout (body : PrintM Unit) : PrintM Unit := do
  nl; indentIn; body; indentOut

/-- A function body: kept on one line when it was written on one line, has at most
five statements and fits in a hundred bytes without line breaks; braced otherwise. -/
def funcBodyLayout (lb rb : Span) (count : Nat) (parts : PrintM (List String))
    (full : PrintM Unit) : PrintM Unit := do
  if (← sameLine lb rb) && count ≤ 5 then
    let body := "; ".intercalate (← parts)
    if !body.contains '\n' && body.utf8ByteSize ≤ 100 then
      if body.isEmpty then w "\x7b\x7d" else do w "\x7b "; w body; w " \x7d"
      return
  braced full

/-- Whether a statement is empty. -/
def Stmt.isEmpty : Stmt → Bool
  | .empty _ => true
  | _ => false

/-- Whether a type is a function type. -/
def TypeExpr.isFunc : TypeExpr → Bool
  | .func .. => true
  | _ => false

/-- Whether a declaration is parenthesized in this layout. -/
def grouped (lParen : Option Span) (specs : List Spec) : PrintM Bool := do
  match (← get).layout with
  | .canonical => return specs.length > 1
  | _ => return lParen.isSome

mutual

/-- Prints an expression in a context of precedence `prec1` at nesting `depth`. -/
def Expr.print (prec1 depth : Nat) : Expr → PrintM Unit
  | .ident _ id => w id.name
  | .basicLit _ lit => w lit.value
  | .funcLit _ _ sig ⟨lb, stmts, rb⟩ => do
    w "func"
    sig.print
    w " "
    funcBodyLayout lb rb stmts.length (renderStmts stmts) (stmtList none stmts)
  | .compositeLit _ t lit => do
    t.print
    lit.print
  | .index _ x _ args _ => do
    x.print highestPrec 1
    w "["
    termsPrint (depth + 1) true args
    w "]"
  | .paren _ _ x _ => do
    w "("
    x.print lowestPrec (reduceDepth depth)
    w ")"
  | .selector _ x _ sel => do
    x.print highestPrec depth
    w "."
    w sel.name
  | .slice _ x _ lo hi mx _ => do
    x.print highestPrec 1
    w "["
    let present := [lo.isSome, hi.isSome, mx.isSome].count true
    let binary := [lo, hi, mx].any fun o => (o.map Expr.isBinary).getD false
    let blanks := depth ≤ 1 && present > 1 && binary
    match lo with
    | some e => e.print lowestPrec (depth + 1)
    | none => pure ()
    if lo.isSome && blanks then w " "
    w ":"
    if hi.isSome && blanks then w " "
    match hi with
    | some e => e.print lowestPrec (depth + 1)
    | none => pure ()
    match mx with
    | some e => do
      if hi.isSome && blanks then w " "
      w ":"
      if blanks then w " "
      e.print lowestPrec (depth + 1)
    | none => pure ()
    w "]"
  | .typeAssert _ x _ _ t _ => do
    x.print highestPrec depth
    w ".("
    match t with
    | some t => t.print
    | none => w "type"
    w ")"
  | .call _ callee _ args ellipsis _ => do
    let depth := if args.length > 1 then depth + 1 else depth
    match callee with
    | .expr e => e.print highestPrec depth
    | .type t =>
      if t.isFunc then do w "("; t.print; w ")" else t.print
    w "("
    termsPrint depth true args
    if ellipsis.isSome then w "..."
    w ")"
  | .unary _ op _ x => do
    let body := fun (depth : Nat) => do
      w op.text
      match op, x with
      | .minus, .unary _ .minus _ _ | .plus, .unary _ .plus _ _ => w " "
      | _, _ => pure ()
      x.print unaryPrec depth
    if unaryPrec < prec1 then do w "("; body 1; w ")" else body depth
  | .binary span l op opPos r => do
    let node := Expr.binary span l op opPos r
    let prec := op.precedence
    let parts := fun (cut depth : Nat) => do
      l.print prec (depth + diffPrec l prec)
      let blank := decide (prec < cut)
      if blank then w " "
      w op.text
      if blank then w " "
      r.print (prec + 1) (depth + 1)
    let depth := Nat.max depth 1
    if prec < prec1 then
      let inner := Nat.max (reduceDepth depth) 1
      w "("
      parts (cutoff node inner) inner
      w ")"
    else parts (cutoff node depth) depth

/-- Prints expressions separated by commas. -/
def exprsPrint (depth : Nat) (first : Bool) : List Expr → PrintM Unit
  | [] => pure ()
  | e :: es => do
    if !first then w ", "
    e.print lowestPrec depth
    exprsPrint depth false es

/-- Prints expression or type operands separated by commas. -/
def termsPrint (depth : Nat) (first : Bool) : List Term → PrintM Unit
  | [] => pure ()
  | t :: ts => do
    if !first then w ", "
    match t with
    | .expr e => e.print lowestPrec depth
    | .type ty => ty.print
    termsPrint depth false ts

/-- Prints a composite literal's braces and elements: on one line, or one element per
line with aligned keys when the braces are placed on different lines. -/
def LiteralValue.print : LiteralValue → PrintM Unit
  | ⟨lb, els, rb⟩ => do
    if els.isEmpty then
      w "\x7b\x7d"
      return
    let expanded := (← placed lb) && (← placed rb) && !(← sameLine lb rb)
    if !expanded then
      w "\x7b"
      keyedInline true els
      w "\x7d"
    else
      w "\x7b"
      nl
      indentIn
      emitRows (← literalRows els)
      indentOut
      w "\x7d"

/-- Elements of a literal on one line. -/
def keyedInline (first : Bool) : List KeyedElement → PrintM Unit
  | [] => pure ()
  | ⟨key, _, value⟩ :: els => do
    if !first then w ", "
    match key with
    | some k => do k.print; w ": "
    | none => pure ()
    value.print
    keyedInline false els

/-- Elements of a literal as aligned rows: the key with its colon, then the value with
its comma. -/
def literalRows : List KeyedElement → PrintM (List Row)
  | [] => pure []
  | ⟨key, _, value⟩ :: els => do
    let keyCells ← match key with
      | some k => do
        let c ← render (do k.print; w ":")
        pure [c]
      | none => pure []
    let v ← render value.print
    let rest ← literalRows els
    return .cells (keyCells ++ [v ++ ","]) :: rest

/-- Prints a key or value of a literal. -/
def Element.print : Element → PrintM Unit
  | .expr e => e.print lowestPrec 1
  | .literal l => l.print

/-- Prints a type. -/
def TypeExpr.print : TypeExpr → PrintM Unit
  | .named _ pkg name _ args _ => do
    match pkg with
    | some p => do w p.name; w "."
    | none => pure ()
    w name.name
    if !args.isEmpty then
      w "["
      typesPrint true args
      w "]"
  | .pointer _ _ elem => do
    w "*"
    elem.print
  | .array _ _ len _ elem => do
    w "["
    match len with
    | .expr e => e.print lowestPrec 1
    | .ellipsis _ => w "..."
    w "]"
    elem.print
  | .slice _ _ _ elem => do
    w "[]"
    elem.print
  | .map _ _ _ k _ v => do
    w "map["
    k.print
    w "]"
    v.print
  | .chan _ dir _ _ elem => do
    w (match dir with
      | .both => "chan "
      | .send => "chan<- "
      | .recv => "<-chan ")
    elem.print
  | .struct _ _ ⟨opening, fields, closing⟩ => do
    let hasComments := fields.any fun f => f.doc.isSome || f.comment.isSome
    let mut done := false
    if !hasComments && (← sameLine opening closing) then
      match fields with
      | [] => do
        w "struct\x7b\x7d"
        done := true
      | [f] => do
        let cells ← f.cells
        if !cells.any (·.contains '\n') then
          w "struct\x7b "
          w (" ".intercalate cells)
          w " \x7d"
          done := true
      | _ => pure ()
    if !done then
      w "struct \x7b"
      nl
      indentIn
      emitRows (← fieldRows none fields)
      indentOut
      w "\x7d"
  | .interface _ _ lb elems rb => do
    let mut done := false
    if ← sameLine lb rb then
      match elems with
      | [] => do
        w "interface\x7b\x7d"
        done := true
      | [e] => do
        let text ← render e.print
        if !text.contains '\n' then
          w "interface\x7b "
          w text
          w " \x7d"
          done := true
      | _ => pure ()
    if !done then
      w "interface \x7b"
      nl
      indentIn
      elemLines elems
      indentOut
      w "\x7d"
  | .func _ _ sig => do
    w "func"
    sig.print
  | .paren _ _ t _ => do
    w "("
    t.print
    w ")"
  | .union _ terms => unionPrint true terms

/-- Prints types separated by commas. -/
def typesPrint (first : Bool) : List TypeExpr → PrintM Unit
  | [] => pure ()
  | t :: ts => do
    if !first then w ", "
    t.print
    typesPrint false ts

/-- Prints union terms separated by bars, with their tildes. -/
def unionPrint (first : Bool) : List UnionTerm → PrintM Unit
  | [] => pure ()
  | ⟨tilde, t⟩ :: ts => do
    if !first then w " | "
    if tilde.isSome then w "~"
    t.print
    unionPrint false ts

/-- Interface elements, one per line. -/
def elemLines : List InterfaceElem → PrintM Unit
  | [] => pure ()
  | e :: es => do
    e.print
    nl
    elemLines es

/-- Prints an interface element: a method name and signature, or an embedded type. -/
def InterfaceElem.print : InterfaceElem → PrintM Unit
  | .method name sig => do
    w name.name
    sig.print
  | .embed t => t.print

/-- The cells of a struct field: names, type, tag and trailing comment. -/
def Field.cells : Field → PrintM (List String)
  | ⟨_, _, names, _, t, tag, comment⟩ => do
    let nameCells ← if names.isEmpty then pure [] else do
      let c ← render (printNames names)
      pure [c]
    let typeCell ← render t.print
    let tagCells := match tag with
      | some s => [s.value]
      | none => []
    let commentCells := match comment with
      | some c => [trailingComment c]
      | none => []
    return nameCells ++ [typeCell] ++ tagCells ++ commentCells

/-- The rows of struct fields: a blank row where the source has a blank line, the
doc comment, then the field's cells. -/
def fieldRows (prevEnd : Option Span) : List Field → PrintM (List Row)
  | [] => pure []
  | f :: fs => do
    let span := f.span
    let start := match f.doc with
      | some d => d.span.cover span
      | none => span
    let blank ← match prevEnd with
      | some p => do pure (decide ((← gap p start 1) > 1))
      | none => pure false
    let cells ← f.cells
    let stop := match f.comment with
      | some c => span.cover c.span
      | none => span
    let rest ← fieldRows (some stop) fs
    return (if blank then [Row.blank] else []) ++ docRows f.doc ++ .cells cells :: rest

/-- Prints a signature: parameters, then results. -/
def Signature.print : Signature → PrintM Unit
  | ⟨_, ⟨_, params, _⟩, results⟩ => do
    w "("
    paramsPrint true params
    w ")"
    match results with
    | none => pure ()
    | some (.type t) => do
      w " "
      t.print
    | some (.params ⟨_, fields, _⟩) =>
      match fields with
      | [] => pure ()
      | [⟨_, _, [], _, t, _, _⟩] => do
        w " "
        t.print
      | f :: fs => do
        w " ("
        f.param true
        paramsPrint false fs
        w ")"

/-- Prints a parameter: names, then the type, after a comma unless it is the first. -/
def Field.param (first : Bool) : Field → PrintM Unit
  | ⟨_, _, names, ellipsis, t, _, _⟩ => do
    if !first then w ", "
    if !names.isEmpty then
      printNames names
      w " "
    if ellipsis.isSome then w "..."
    t.print

/-- Parameters separated by commas. -/
def paramsPrint (first : Bool) : List Field → PrintM Unit
  | [] => pure ()
  | f :: fs => do
    f.param first
    paramsPrint false fs

/-- Renders the statements of a body that may stay on one line, skipping empty ones. -/
def renderStmts : List Stmt → PrintM (List String)
  | [] => pure []
  | s :: ss => do
    if s.isEmpty then renderStmts ss
    else
      let text ← render s.print
      return text :: (← renderStmts ss)

/-- Statements, each on its own line, with a blank line kept where the source has one. -/
def stmtList (prev : Option Span) : List Stmt → PrintM Unit
  | [] => pure ()
  | s :: ss => do
    if s.isEmpty then stmtList prev ss
    else
      match prev with
      | some p => if (← gap p s.span 1) > 1 then nl
      | none => pure ()
      s.print
      nl
      stmtList (some s.span) ss

/-- Prints a statement. -/
def Stmt.print : Stmt → PrintM Unit
  | .empty _ => pure ()
  | .simple _ s => s.print
  | .decl _ d => d.print
  | .labeled _ label _ s => do
    indentOut
    w label.name
    w ":"
    indentIn
    if !s.isEmpty then
      nl
      s.print
  | .go _ _ call => do
    w "go "
    call.print lowestPrec 1
  | .defer _ _ call => do
    w "defer "
    call.print lowestPrec 1
  | .return_ _ _ results => do
    w "return"
    if !results.isEmpty then
      w " "
      exprsPrint 1 true results
  | .branch _ kind _ label => do
    w kind.keyword
    match label with
    | some l => do w " "; w l.name
    | none => pure ()
  | .block _ ⟨_, stmts, _⟩ => braced (stmtList none stmts)
  | .if_ _ _ init cond ⟨_, stmts, _⟩ els => do
    w "if "
    match init with
    | some i => do i.print; w "; "
    | none => pure ()
    cond.print lowestPrec 1
    w " "
    braced (stmtList none stmts)
    match els with
    | some e => do
      w " else "
      e.print
    | none => pure ()
  | .for_ _ _ header ⟨_, stmts, _⟩ => do
    w "for "
    match header with
    | .infinite => pure ()
    | .cond c => do
      c.print lowestPrec 1
      w " "
    | .clause none (some c) none => do
      c.print lowestPrec 1
      w " "
    | .clause init cond post => do
      match init with
      | some i => i.print
      | none => pure ()
      w "; "
      match cond with
      | some c => c.print lowestPrec 1
      | none => pure ()
      w "; "
      match post with
      | some p => do p.print; w " "
      | none => pure ()
    | .range lhs _ x => do
      rangeLhsPrint lhs
      w "range "
      x.print lowestPrec 1
      w " "
    braced (stmtList none stmts)
  | .switch _ _ init tag _ clauses _ => do
    w "switch "
    match init with
    | some i => do i.print; w "; "
    | none => pure ()
    match tag with
    | some t => do t.print lowestPrec 1; w " "
    | none => pure ()
    w "\x7b"
    nl
    switchClausesPrint clauses
    w "\x7d"
  | .typeSwitch _ _ init bind _ x _ _ _ _ clauses _ => do
    w "switch "
    match init with
    | some i => do i.print; w "; "
    | none => pure ()
    match bind with
    | some b => do w b.name; w " := "
    | none => pure ()
    x.print highestPrec 1
    w ".(type) "
    w "\x7b"
    nl
    switchClausesPrint clauses
    w "\x7d"
  | .select _ _ _ clauses _ => do
    w "select \x7b"
    nl
    commClausesPrint clauses
    w "\x7d"

/-- Prints the clauses of a switch. -/
def switchClausesPrint : List SwitchClause → PrintM Unit
  | [] => pure ()
  | c :: cs => do
    c.print
    switchClausesPrint cs

/-- Prints a switch clause: `case` with its items, or `default`, then its statements. -/
def SwitchClause.print : SwitchClause → PrintM Unit
  | .exprs _ _ items _ stmts => do
    if items.isEmpty then w "default:"
    else
      w "case "
      exprsPrint 1 true items
      w ":"
    clauseLayout (stmtList none stmts)
  | .types _ _ items _ stmts => do
    if items.isEmpty then w "default:"
    else
      w "case "
      typeCasesPrint true items
      w ":"
    clauseLayout (stmtList none stmts)

/-- Prints the types of a type switch case. -/
def typeCasesPrint (first : Bool) : List TypeCase → PrintM Unit
  | [] => pure ()
  | c :: cs => do
    if !first then w ", "
    match c with
    | .type t => t.print
    | .nil _ => w "nil"
    typeCasesPrint false cs

/-- Prints the clauses of a select. -/
def commClausesPrint : List CommClause → PrintM Unit
  | [] => pure ()
  | c :: cs => do
    c.print
    commClausesPrint cs

/-- Prints a select clause. -/
def CommClause.print : CommClause → PrintM Unit
  | .send _ _ ch _ v _ stmts => do
    w "case "
    ch.print lowestPrec 1
    w " <- "
    v.print lowestPrec 1
    w ":"
    clauseLayout (stmtList none stmts)
  | .recv _ _ lhs x _ stmts => do
    w "case "
    rangeLhsPrint lhs
    x.print lowestPrec 1
    w ":"
    clauseLayout (stmtList none stmts)
  | .default _ _ _ stmts => do
    w "default:"
    clauseLayout (stmtList none stmts)

/-- Prints the left side of a range clause or receive with its operator. -/
def rangeLhsPrint : Option RangeLhs → PrintM Unit
  | none => pure ()
  | some (.define names _) => do
    printNames names
    w " := "
  | some (.assign exprs _) => do
    exprsPrint 1 true exprs
    w " = "

/-- Prints a simple statement. -/
def SimpleStmt.print : SimpleStmt → PrintM Unit
  | .expr _ x => x.print lowestPrec 1
  | .send _ ch _ v => do
    ch.print lowestPrec 1
    w " <- "
    v.print lowestPrec 1
  | .incDec _ x op _ => do
    x.print highestPrec 1
    w op.text
  | .assign _ lhs op _ rhs => do
    let depth := if lhs.length > 1 && rhs.length > 1 then 2 else 1
    exprsPrint depth true lhs
    w " "
    w op.text
    w " "
    exprsPrint depth true rhs
  | .shortVarDecl _ names _ values => do
    let depth := if names.length > 1 && values.length > 1 then 2 else 1
    printNames names
    w " := "
    exprsPrint depth true values

/-- Prints a general declaration: one spec after the keyword, or a parenthesized
group of aligned specs. -/
def GenDecl.print : GenDecl → PrintM Unit
  | ⟨_, doc, _, kind, lParen, specs, _⟩ => do
    printDoc doc
    w kind.keyword
    match checkSpecs kind specs with
    | .error e => throw e
    | .ok () => pure ()
    let isGrouped ← grouped lParen specs
    let keepType := specs.any fun s => match s with
      | .value _ _ (some _) _ _ _ => true
      | _ => false
    let group : PrintM Unit := do
      w " ("
      nl
      indentIn
      emitRows (← specRows keepType none specs)
      indentOut
      w ")"
    match specs with
    | [] => if isGrouped then w " ()" else throw (.emptyDecl kind.keyword)
    | [s] =>
      if isGrouped then group
      else do
        let cells ← s.cells false
        w " "
        w (" ".intercalate (cells.filter (!·.isEmpty)))
    | _ => group

/-- The cells of a spec: names or name, type, values, trailing comment. A value spec
keeps an empty type cell when `keepType` is set or it has a comment. -/
def Spec.cells (keepType : Bool) : Spec → PrintM (List String)
  | .import_ _ name path comment => do
    let pre := match name with
      | some (.dot _) => ". "
      | some (.blank _) => "_ "
      | some (.name n) => n.name ++ " "
      | none => ""
    return [pre ++ path.value] ++ (comment.map trailingComment).toList
  | .value _ names t _ values comment => do
    let nameCell ← render (printNames names)
    let hasComment := comment.isSome
    let typeCells ← match t with
      | some t => do
        let c ← render t.print
        pure [c]
      | none => pure (if keepType || hasComment then [""] else [])
    let valueCells ← if !values.isEmpty then do
        let v ← render (exprsPrint 1 true values)
        pure ["= " ++ v]
      else pure (if hasComment then [""] else [])
    return nameCell :: typeCells ++ valueCells ++ (comment.map trailingComment).toList
  | .type _ name tps assign t comment => do
    let head ← render do
      w name.name
      match tps with
      | some tp => tp.print
      | none => pure ()
    let ty ← render t.print
    let tyCell := if assign.isSome then "= " ++ ty else ty
    return [head, tyCell] ++ (comment.map trailingComment).toList

/-- The rows of a grouped declaration's specs. -/
def specRows (keepType : Bool) (prevEnd : Option Span) : List Spec → PrintM (List Row)
  | [] => pure []
  | s :: ss => do
    let (start, stop) := s.extent
    let blank ← match prevEnd with
      | some p => do pure (decide ((← gap p start 1) > 1))
      | none => pure false
    let cells ← s.cells keepType
    let rest ← specRows keepType (some stop) ss
    return (if blank then [Row.blank] else []) ++ docRows s.doc ++ .cells cells :: rest

/-- Prints a type parameter list. -/
def TypeParams.print : TypeParams → PrintM Unit
  | ⟨_, _, decls, _⟩ => do
    w "["
    typeParamDeclsPrint true decls
    w "]"

/-- Prints type parameter declarations separated by commas. -/
def typeParamDeclsPrint (first : Bool) : List TypeParamDecl → PrintM Unit
  | [] => pure ()
  | ⟨_, names, c⟩ :: ds => do
    if !first then w ", "
    printNames names
    w " "
    c.print
    typeParamDeclsPrint false ds

end

end GoTemplates.Syntax
