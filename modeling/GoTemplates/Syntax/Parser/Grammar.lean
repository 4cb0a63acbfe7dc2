import GoTemplates.Syntax.Parser.State

/-! # The Go grammar

Recursive descent over the token array, one function per production. Where
the grammar is ambiguous the choices are those of Go's own parser: composite
literals are off in control clause headers, and a bracket after a type name
in a type declaration opens a type parameter list unless it holds a lone
constant. An expression may turn out to be a type (`[]int(x)`, `*T`); such
operands are parsed as terms and checked where an expression is required.

Every production takes a step bound and hands one less to what it calls.
Each step either consumes a token or descends one level, so a bound linear
in the number of tokens is never reached.
-/

namespace GoTemplates.Syntax

open GoTemplates.Source ParseM

/-- Binary operators by their token. -/
def binaryOpOf : Token → Option BinaryOp
  | .punct .lOr => some .lOr | .punct .lAnd => some .lAnd | .punct .eqEq => some .eq
  | .punct .notEq => some .notEq | .punct .lt => some .lt | .punct .le => some .ltEq
  | .punct .gt => some .gt | .punct .ge => some .gtEq | .punct .plus => some .add
  | .punct .minus => some .sub | .punct .pipe => some .or | .punct .caret => some .xor
  | .punct .star => some .mul | .punct .slash => some .div | .punct .percent => some .rem
  | .punct .shl => some .shl | .punct .shr => some .shr | .punct .amp => some .and
  | .punct .andNot => some .andNot
  | _ => none

/-- Unary operators by their token. -/
def unaryOpOf : Token → Option UnaryOp
  | .punct .plus => some .plus | .punct .minus => some .minus | .punct .bang => some .not
  | .punct .caret => some .xor | .punct .amp => some .addr | .punct .star => some .deref
  | .punct .arrow => some .recv
  | _ => none

/-- Assignment operators by their token. -/
def assignOpOf : Token → Option AssignOp
  | .punct .assign => some .assign | .punct .addAssign => some .add
  | .punct .subAssign => some .sub | .punct .mulAssign => some .mul
  | .punct .divAssign => some .div | .punct .modAssign => some .rem
  | .punct .andAssign => some .and | .punct .orAssign => some .or
  | .punct .xorAssign => some .xor | .punct .shlAssign => some .shl
  | .punct .shrAssign => some .shr | .punct .andNotAssign => some .andNot
  | _ => none

/-- The named type `name` or `pkg.name`, spanning the identifiers. -/
def namedOfIdent (pkg : Option Ident) (name : Ident) : TypeExpr :=
  let span := match pkg with
    | some p => p.pos.cover name.pos
    | none => name.pos
  .named span pkg name none [] none

mutual

/-- Reads an expression that was parsed before it was known to be a type: `T`,
`pkg.T`, `T[A, B]`, `*T` or `(T)`. -/
def Expr.toType? : Expr → Option TypeExpr
  | .ident _ n => some (namedOfIdent none n)
  | .selector _ (.ident _ pkg) _ sel => some (namedOfIdent (some pkg) sel)
  | .index span base lb args rb => do
    let (pkg, name) ← match base with
      | .ident _ n => some (none, n)
      | .selector _ (.ident _ p) _ sel => some (some p, sel)
      | _ => none
    let types ← termsToTypes? args
    some (.named span pkg name (some lb) types (some rb))
  | .unary span .deref opPos x => do
    let elem ← x.toType?
    some (.pointer span opPos elem)
  | .paren span lp x rp => do
    let t ← x.toType?
    some (.paren span lp t rp)
  | _ => none

/-- Reads index arguments as type arguments. -/
def termsToTypes? : List Term → Option (List TypeExpr)
  | [] => some []
  | .type t :: ts => (termsToTypes? ts).map (t :: ·)
  | .expr e :: ts => do
    let t ← e.toType?
    let rest ← termsToTypes? ts
    some (t :: rest)

end

namespace Parser

/-- One entry of a parameter list before grouping; without a type it is a lone
identifier whose role depends on the entries after it. -/
structure ParamEntry where
  names : List Ident
  ellipsis : Option Span
  type : Option TypeExpr
  span : Span

/-- Groups parameter entries into fields: lone identifiers before an entry with a
type are its leading names; lone identifiers at the end are unnamed parameters of
that type name. -/
def groupParams (entries : List ParamEntry) : List Field :=
  let step := fun (acc : Array Field × List Ident × Option Nat) (e : ParamEntry) =>
    let (out, pending, pendingStart) := acc
    match e.type with
    | some t =>
      let start := pendingStart.getD e.span.start
      let f : Field := ⟨⟨start, e.span.stop⟩, none, pending ++ e.names, e.ellipsis, t, none, none⟩
      (out.push f, [], none)
    | none =>
      let pendingStart := if pending.isEmpty then some e.span.start else pendingStart
      (out, pending ++ e.names, pendingStart)
  let (out, pending, _) := entries.foldl step (#[], [], none)
  let rest := pending.map fun n =>
    (⟨n.pos, none, [], none, namedOfIdent none n, none, none⟩ : Field)
  out.toList ++ rest

/-- Requires an expression where the operand may have been a type. -/
def operandExpr : Term → ParseM Expr
  | .expr e => pure e
  | .type t => failAt t.span "expected expression, found type"

/-- A string literal, interpreted or raw. -/
def stringLit : ParseM StringLit := do
  match ← tok with
  | .stringLit s | .rawStringLit s => return ⟨s, ← bump⟩
  | _ => failExpected "string literal"

/-- Whether `{` after the operand opens a composite literal. -/
def isLiteralType : Term → ParseM Bool
  | .type (.array ..) | .type (.slice ..) | .type (.map ..) | .type (.struct ..) => pure true
  | .type _ => pure false
  | .expr e => do
    if (← get).exprLev < 0 then return false
    match e with
    | .ident .. | .selector _ (.ident ..) _ _ | .index .. => return true
    | _ => return false

/-- The names on the left of `:=`, all of which must be identifiers. -/
def identsOf : List Expr → ParseM (List Ident)
  | [] => pure []
  | .ident _ n :: es => do return n :: (← identsOf es)
  | e :: _ => failAt e.span "non-name on left side of :="

/-- The condition of an `if`, `for` or `switch`. -/
def condOf : Option SimpleStmt → ParseM Expr
  | none => failExpected "condition"
  | some (.expr _ e) => pure e
  | some s => failAt s.span "expected boolean expression"

/-- `x.(type)` or `v := x.(type)` as a switch tag. -/
def typeSwitchGuard? (s : SimpleStmt) : Option (Option Ident × Option Span × Expr × Span × Span × Span) :=
  let assert? := fun (e : Expr) => match e with
    | .typeAssert _ x dp lp none rp => some (x, dp, lp, rp)
    | _ => none
  match s with
  | .expr _ e => (assert? e).map fun (x, dp, lp, rp) => (none, none, x, dp, lp, rp)
  | .shortVarDecl _ [name] op [v] =>
    (assert? v).map fun (x, dp, lp, rp) => (some name, some op, x, dp, lp, rp)
  | _ => none

/-- Where a simple statement may be a label or a range clause. -/
inductive StmtMode where
  | basic | labelOk | rangeOk
  deriving DecidableEq

/-- What a simple statement turned out to be. -/
inductive SimpleResult where
  | stmt (s : SimpleStmt)
  | range (lhs : Option RangeLhs) (rangePos : Span) (x : Expr)
  | label (id : Ident) (colonPos : Span)

/-- The parser ran past its step bound. -/
def outOfSteps {α : Type} : ParseM α := do failAt (← span) "input too deeply nested"

/-- Whether a bracket after a type name opens a type parameter list. -/
def startsTypeParams : ParseM Bool := do
  if !(← atPunct .lBrack) then return false
  match ← peek 1 with
  | .ident _ => return (← peek 2) != .punct .rBrack
  | _ => return false

set_option maxHeartbeats 400000 in
mutual

/-- A type, one nesting level deeper. -/
def parseType : Nat → ParseM TypeExpr
  | 0 => outOfSteps
  | n + 1 => nested (typeInner n)

/-- A type at the current token. -/
def typeInner : Nat → ParseM TypeExpr
  | 0 => outOfSteps
  | n + 1 => do
    let start ← start
    match ← tok with
    | .ident _ => typeName n
    | .punct .star => do
      let star ← bump
      let elem ← parseType n
      return .pointer (← since start) star elem
    | .punct .lBrack => do
      let lb ← bump
      if ← atPunct .rBrack then
        let rb ← bump
        let elem ← parseType n
        return .slice (← since start) lb rb elem
      else
        let isEllipsis := (← atPunct .ellipsis) && (← peek 1) == .punct .rBrack
        let len ← if isEllipsis then ArrayLength.ellipsis <$> bump
          else ArrayLength.expr <$> deeper (parseExpr n)
        let rb ← expect (.punct .rBrack)
        let elem ← parseType n
        return .array (← since start) lb len rb elem
    | .keyword .map => do
      let mp ← bump
      let lb ← expect (.punct .lBrack)
      let key ← parseType n
      let rb ← expect (.punct .rBrack)
      let value ← parseType n
      return .map (← since start) mp lb key rb value
    | .keyword .chan => do
      let cp ← bump
      let ap ← eat (.punct .arrow)
      let elem ← parseType n
      let dir := if ap.isSome then ChanDir.send else ChanDir.both
      return .chan (← since start) dir cp ap elem
    | .punct .arrow => do
      let ap ← bump
      let cp ← expect (.keyword .chan)
      let elem ← parseType n
      return .chan (← since start) .recv cp (some ap) elem
    | .keyword .struct => structType n start
    | .keyword .interface => interfaceType n start
    | .keyword .func => do
      let fp ← bump
      let sig ← signature n
      return .func (← since start) fp sig
    | .punct .lParen => do
      let lp ← bump
      let t ← parseType n
      let rp ← expect (.punct .rParen)
      return .paren (← since start) lp t rp
    | _ => failExpected "type"

/-- `T`, `pkg.T`, optionally instantiated: `T[int]`. -/
def typeName : Nat → ParseM TypeExpr
  | 0 => outOfSteps
  | n + 1 => do
    let start ← start
    let first ← ident
    let (pkg, name) ← if (← eat (.punct .dot)).isSome then do
        let name ← ident
        pure (some first, name)
      else pure (none, first)
    if ← atPunct .lBrack then
      let l ← bump
      let a ← parseType n
      let args ← typeArgs n #[a]
      let r ← expect (.punct .rBrack)
      return .named (← since start) pkg name (some l) args.toList (some r)
    else
      return .named (← since start) pkg name none [] none

/-- Further type arguments after a comma; a trailing comma is allowed. -/
def typeArgs : Nat → Array TypeExpr → ParseM (Array TypeExpr)
  | 0, _ => outOfSteps
  | n + 1, acc => do
    if (← eat (.punct .comma)).isNone then return acc
    if ← atPunct .rBrack then return acc
    let t ← parseType n
    typeArgs n (acc.push t)

/-- A constraint or interface element: `~int | string`; a single plain term is that type. -/
def constraint : Nat → ParseM TypeExpr
  | 0 => outOfSteps
  | n + 1 => do
    let start ← start
    let terms ← unionTerms n #[]
    match terms.toList with
    | [⟨none, t⟩] => return t
    | ts => return .union (← since start) ts

/-- The terms of a union, separated by `|`. -/
def unionTerms : Nat → Array UnionTerm → ParseM (Array UnionTerm)
  | 0, _ => outOfSteps
  | n + 1, acc => do
    let tilde ← eat (.punct .tilde)
    let t ← parseType n
    let acc := acc.push ⟨tilde, t⟩
    if (← eat (.punct .pipe)).isSome then unionTerms n acc else return acc

/-- A bracketed type parameter list. -/
def typeParams : Nat → ParseM TypeParams
  | 0 => outOfSteps
  | n + 1 => do
    let start ← start
    let lb ← expect (.punct .lBrack)
    let decls ← typeParamDecls n #[]
    let rb ← expect (.punct .rBrack)
    return ⟨← since start, lb, decls.toList, rb⟩

/-- The declarations of a type parameter list. -/
def typeParamDecls : Nat → Array TypeParamDecl → ParseM (Array TypeParamDecl)
  | 0, _ => outOfSteps
  | n + 1, acc => do
    if ← atPunct .rBrack then return acc
    let ds ← start
    let names ← identList
    let c ← constraint n
    let acc := acc.push ⟨← since ds, names, c⟩
    if (← eat (.punct .comma)).isSome then typeParamDecls n acc else return acc

/-- Parameters, then results: a list or a single type. -/
def signature : Nat → ParseM Signature
  | 0 => outOfSteps
  | n + 1 => do
    let start ← start
    let params ← parameters n
    let results ← match ← tok with
      | .punct .lParen => do
        let l ← parameters n
        pure (some (Results.params l))
      | .ident _ | .punct .lBrack | .punct .star | .keyword .struct | .keyword .map
      | .keyword .chan | .keyword .func | .keyword .interface | .punct .arrow => do
        let t ← parseType n
        pure (some (Results.type t))
      | _ => pure none
    return ⟨← since start, params, results⟩

/-- A parenthesized parameter list. -/
def parameters : Nat → ParseM FieldList
  | 0 => outOfSteps
  | n + 1 => do
    let opening ← expect (.punct .lParen)
    let entries ← paramEntries n #[]
    let closing ← expect (.punct .rParen)
    return ⟨opening, groupParams entries.toList, closing⟩

/-- The entries of a parameter list. -/
def paramEntries : Nat → Array ParamEntry → ParseM (Array ParamEntry)
  | 0, _ => outOfSteps
  | n + 1, acc => do
    if ← atPunct .rParen then return acc
    let start ← start
    let t0 ← tok
    let t1 ← peek 1
    let (names, ell, type) ← match t0, t1 with
      | .ident _, .punct .comma | .ident _, .punct .rParen => do
        let id ← ident
        pure ([id], none, none)
      | .ident _, .punct .dot => do
        let t ← parseType n
        pure ([], none, some t)
      | .ident _, _ => do
        let id ← ident
        let e ← eat (.punct .ellipsis)
        let t ← parseType n
        pure ([id], e, some t)
      | _, _ => do
        let e ← eat (.punct .ellipsis)
        let t ← parseType n
        pure ([], e, some t)
    let acc := acc.push ⟨names, ell, type, ← since start⟩
    if (← eat (.punct .comma)).isSome then paramEntries n acc else return acc

/-- `struct { ... }`. -/
def structType : Nat → Nat → ParseM TypeExpr
  | 0, _ => outOfSteps
  | n + 1, start => do
    let sp ← bump
    let opening ← expect (.punct .lBrace)
    let fields ← fieldDecls n #[]
    let closing ← expect (.punct .rBrace)
    return .struct (← since start) sp ⟨opening, fields.toList, closing⟩

/-- The fields of a struct type. -/
def fieldDecls : Nat → Array Field → ParseM (Array Field)
  | 0, _ => outOfSteps
  | n + 1, acc => do
    if (← atPunct .rBrace) || (← atTok .eof) then return acc
    let f ← fieldDecl n
    expectSemi
    fieldDecls n (acc.push f)

/-- A struct field: names and a type, or an embedded type, with optional tag. -/
def fieldDecl : Nat → ParseM Field
  | 0 => outOfSteps
  | n + 1 => do
    let start ← start
    let doc ← takeDoc start
    let t0 ← tok
    let t1 ← peek 1
    let (names, type) ← match t0, t1 with
      | .ident _, .punct .dot | .ident _, .semi | .ident _, .punct .rBrace
      | .ident _, .stringLit _ | .ident _, .rawStringLit _ => do
        let t ← typeName n
        pure ([], t)
      | .ident _, _ => do
        let names ← identList
        let t ← parseType n
        pure (names, t)
      | .punct .star, _ => do
        let t ← parseType n
        pure ([], t)
      | _, _ => failExpected "field name or embedded type"
    let tag ← match ← tok with
      | .stringLit _ | .rawStringLit _ => some <$> stringLit
      | _ => pure none
    let comment ← takeLineComment (← prevEnd)
    return ⟨← since start, doc, names, none, type, tag, comment⟩

/-- `interface { ... }`. -/
def interfaceType : Nat → Nat → ParseM TypeExpr
  | 0, _ => outOfSteps
  | n + 1, start => do
    let ip ← bump
    let lb ← expect (.punct .lBrace)
    let elems ← interfaceElems n #[]
    let rb ← expect (.punct .rBrace)
    return .interface (← since start) ip lb elems.toList rb

/-- The elements of an interface type: methods and embedded constraints. -/
def interfaceElems : Nat → Array InterfaceElem → ParseM (Array InterfaceElem)
  | 0, _ => outOfSteps
  | n + 1, acc => do
    if (← atPunct .rBrace) || (← atTok .eof) then return acc
    let t0 ← tok
    let t1 ← peek 1
    let e ← match t0, t1 with
      | .ident _, .punct .lParen => do
        let name ← ident
        let sig ← signature n
        pure (InterfaceElem.method name sig)
      | _, _ => InterfaceElem.embed <$> constraint n
    expectSemi
    interfaceElems n (acc.push e)

/-- An expression. -/
def parseExpr : Nat → ParseM Expr
  | 0 => outOfSteps
  | n + 1 => do
    let x ← binaryExpr n 1
    operandExpr x

/-- A nonempty comma separated expression list. -/
def exprList : Nat → ParseM (List Expr)
  | 0 => outOfSteps
  | n + 1 => do
    let first ← parseExpr n
    return (← moreExprs n #[first]).toList

/-- Further expressions after commas. -/
def moreExprs : Nat → Array Expr → ParseM (Array Expr)
  | 0, _ => outOfSteps
  | n + 1, acc => do
    if (← eat (.punct .comma)).isSome then
      let e ← parseExpr n
      moreExprs n (acc.push e)
    else return acc

/-- A call argument or index operand, which may be a type. -/
def typeOrExpr : Nat → ParseM Term
  | 0 => outOfSteps
  | n + 1 => binaryExpr n 1

/-- Binary operators of at least precedence `prec1`, climbing. -/
def binaryExpr : Nat → Nat → ParseM Term
  | 0, _ => outOfSteps
  | n + 1, prec1 => do
    let start ← start
    let x ← unaryExpr n
    binaryRest n prec1 start x

/-- The operators and right operands after a left operand. -/
def binaryRest : Nat → Nat → Nat → Term → ParseM Term
  | 0, _, _, _ => outOfSteps
  | n + 1, prec1, start, x => do
    match binaryOpOf (← tok) with
    | none => return x
    | some op =>
      if op.precedence < prec1 then return x
      let opPos ← bump
      let left ← operandExpr x
      let right ← binaryExpr n (op.precedence + 1)
      let right ← operandExpr right
      binaryRest n prec1 start (.expr (.binary (← since start) left op opPos right))

/-- A unary expression, one nesting level deeper. -/
def unaryExpr : Nat → ParseM Term
  | 0 => outOfSteps
  | n + 1 => nested (unaryInner n)

/-- A unary expression at the current token. -/
def unaryInner : Nat → ParseM Term
  | 0 => outOfSteps
  | n + 1 => do
    let start ← start
    match unaryOpOf (← tok) with
    | none => primaryExpr n
    | some op =>
      let opPos ← bump
      if op == .recv && (← atKw .chan) then
        let cp ← bump
        let elem ← parseType n
        let chanType := TypeExpr.chan (← since start) .recv cp (some opPos) elem
        primarySuffixes n (.type chanType) start
      else
        let operand ← unaryExpr n
        match op, operand with
        | .deref, .type elem => return .type (.pointer (← since start) opPos elem)
        | _, _ => do
          let e ← operandExpr operand
          return .expr (.unary (← since start) op opPos e)

/-- An operand followed by selectors, indexes, calls and composite literals. -/
def primaryExpr : Nat → ParseM Term
  | 0 => outOfSteps
  | n + 1 => do
    let start ← start
    let x ← operand n
    primarySuffixes n x start

/-- Selectors, indexes, calls and composite literals after an operand. -/
def primarySuffixes : Nat → Term → Nat → ParseM Term
  | 0, _, _ => outOfSteps
  | n + 1, x, start => do
    match ← tok with
    | .punct .dot => do
      let x ← selectorOrAssert n x start
      primarySuffixes n x start
    | .punct .lBrack => do
      let x ← indexOrSlice n x start
      primarySuffixes n x start
    | .punct .lParen => do
      let x ← callExpr n x start
      primarySuffixes n x start
    | .punct .lBrace => do
      if ← isLiteralType x then
        let x ← compositeLit n x start
        primarySuffixes n x start
      else return x
    | _ => return x

/-- A literal, identifier, parenthesized operand, function literal or type. -/
def operand : Nat → ParseM Term
  | 0 => outOfSteps
  | n + 1 => do
    let start ← start
    let lit := fun (k : LitKind) (s : String) => do
      let pos ← bump
      return Term.expr (.basicLit pos ⟨k, s, pos⟩)
    match ← tok with
    | .intLit s => lit .int s
    | .floatLit s => lit .float s
    | .imagLit s => lit .imag s
    | .runeLit s => lit .rune s
    | .stringLit s | .rawStringLit s => lit .string s
    | .ident _ => do
      let id ← ident
      return .expr (.ident id.pos id)
    | .punct .lParen => do
      let lp ← bump
      let inner ← deeper (binaryExpr n 1)
      let rp ← expect (.punct .rParen)
      let span ← since start
      match inner with
      | .expr e => return .expr (.paren span lp e rp)
      | .type t => return .type (.paren span lp t rp)
    | .keyword .func => do
      let fp ← bump
      let sig ← signature n
      if ← atPunct .lBrace then
        let body ← funcBody n
        return .expr (.funcLit (← since start) fp sig body)
      else return .type (.func (← since start) fp sig)
    | .punct .lBrack | .keyword .map | .keyword .struct | .keyword .chan | .keyword .interface =>
      Term.type <$> parseType n
    | _ => failExpected "expression"

/-- `.name`, `.(T)` or `.(type)`. -/
def selectorOrAssert : Nat → Term → Nat → ParseM Term
  | 0, _, _ => outOfSteps
  | n + 1, x, start => do
    let dp ← bump
    let e ← operandExpr x
    match ← tok with
    | .ident _ => do
      let sel ← ident
      return .expr (.selector (← since start) e dp sel)
    | .punct .lParen => do
      let lp ← bump
      let ty ← if (← eat (.keyword .type)).isSome then pure none else some <$> parseType n
      let rp ← expect (.punct .rParen)
      return .expr (.typeAssert (← since start) e dp lp ty rp)
    | _ => failExpected "selector or type assertion"

/-- `[i]`, `[a, b]` (an instantiation) or a slice `[lo:hi:max]`. -/
def indexOrSlice : Nat → Term → Nat → ParseM Term
  | 0, _, _ => outOfSteps
  | n + 1, x, start => do
    let e ← operandExpr x
    let lb ← bump
    let inner ← deeper (indexInner n)
    let rb ← expect (.punct .rBrack)
    match inner with
    | .inl (lo, hi, mx) => return .expr (.slice (← since start) e lb lo hi mx rb)
    | .inr args => return .expr (.index (← since start) e lb args rb)

/-- What stands between the brackets of an index or slice. -/
def indexInner : Nat → ParseM ((Option Expr × Option Expr × Option Expr) ⊕ List Term)
  | 0 => outOfSteps
  | n + 1 => do
    let first ← if ← atPunct .colon then pure none else some <$> typeOrExpr n
    if ← atPunct .colon then
      let lo ← match first with
        | none => pure none
        | some (.expr e) => pure (some e)
        | some (.type t) => failAt t.span "expected slice index"
      discard bump
      let hi ← if (← atPunct .colon) || (← atPunct .rBrack) then pure none
        else some <$> parseExpr n
      let mx ← if (← eat (.punct .colon)).isSome then some <$> parseExpr n else pure none
      return .inl (lo, hi, mx)
    else
      let args ← indexArgs n (match first with | some a => #[a] | none => #[])
      return .inr args.toList

/-- Further index arguments; a trailing comma is allowed. -/
def indexArgs : Nat → Array Term → ParseM (Array Term)
  | 0, _ => outOfSteps
  | n + 1, acc => do
    if (← eat (.punct .comma)).isNone then return acc
    if ← atPunct .rBrack then return acc
    let a ← typeOrExpr n
    indexArgs n (acc.push a)

/-- A call: arguments in parentheses, the last optionally followed by `...`. -/
def callExpr : Nat → Term → Nat → ParseM Term
  | 0, _, _ => outOfSteps
  | n + 1, x, start => do
    let lp ← bump
    let (args, ell) ← deeper (callArgs n #[] none)
    let rp ← expect (.punct .rParen)
    return .expr (.call (← since start) x lp args.toList ell rp)

/-- The arguments of a call. -/
def callArgs : Nat → Array Term → Option Span → ParseM (Array Term × Option Span)
  | 0, _, _ => outOfSteps
  | n + 1, acc, ell => do
    if ← atPunct .rParen then return (acc, ell)
    let a ← typeOrExpr n
    let ell ← match ← eat (.punct .ellipsis) with
      | some p => pure (some p)
      | none => pure ell
    if (← eat (.punct .comma)).isSome then callArgs n (acc.push a) ell
    else return (acc.push a, ell)

/-- A composite literal after its type. -/
def compositeLit : Nat → Term → Nat → ParseM Term
  | 0, _, _ => outOfSteps
  | n + 1, x, start => do
    let ty ← match x with
      | .type t => pure t
      | .expr e => match e.toType? with
        | some t => pure t
        | none => failAt e.span "invalid composite literal type"
    let lit ← literalValue n
    return .expr (.compositeLit (← since start) ty lit)

/-- The braced elements of a composite literal. -/
def literalValue : Nat → ParseM LiteralValue
  | 0 => outOfSteps
  | n + 1 => do
    let lb ← expect (.punct .lBrace)
    let elems ← deeper (literalElems n #[])
    let rb ← expect (.punct .rBrace)
    return ⟨lb, elems.toList, rb⟩

/-- Elements of a composite literal, each with an optional key. -/
def literalElems : Nat → Array KeyedElement → ParseM (Array KeyedElement)
  | 0, _ => outOfSteps
  | n + 1, acc => do
    if ← atPunct .rBrace then return acc
    let first ← element n
    let el ← match ← eat (.punct .colon) with
      | some cp => do
        let v ← element n
        pure (⟨some first, some cp, v⟩ : KeyedElement)
      | none => pure (⟨none, none, first⟩ : KeyedElement)
    let acc := acc.push el
    if (← eat (.punct .comma)).isSome then literalElems n acc else return acc

/-- A key or value: a nested literal or an expression. -/
def element : Nat → ParseM Element
  | 0 => outOfSteps
  | n + 1 => do
    if ← atPunct .lBrace then Element.literal <$> nested (literalValue n)
    else Element.expr <$> parseExpr n

/-- A function body, where composite literals are allowed again. -/
def funcBody : Nat → ParseM Block
  | 0 => outOfSteps
  | n + 1 => withExprLev 0 (block n)

/-- A braced statement list. -/
def block : Nat → ParseM Block
  | 0 => outOfSteps
  | n + 1 => do
    let lb ← expect (.punct .lBrace)
    let stmts ← stmtList n
    let rb ← expect (.punct .rBrace)
    return ⟨lb, stmts, rb⟩

/-- Statements up to `}`, `case`, `default` or the end, one nesting level deeper. -/
def stmtList : Nat → ParseM (List Stmt)
  | 0 => outOfSteps
  | n + 1 => nested (stmtsFrom n #[])

/-- The statements of a list, skipping empty ones. -/
def stmtsFrom : Nat → Array Stmt → ParseM (List Stmt)
  | 0, _ => outOfSteps
  | n + 1, acc => do
    match ← tok with
    | .punct .rBrace | .keyword .case_ | .keyword .default | .eof => return acc.toList
    | .semi => do
      discard bump
      stmtsFrom n acc
    | _ => do
      let s ← stmt n
      expectSemi
      stmtsFrom n (acc.push s)

/-- A statement. -/
def stmt : Nat → ParseM Stmt
  | 0 => outOfSteps
  | n + 1 => do
    let start ← start
    match ← tok with
    | .keyword .const | .keyword .type | .keyword .var => do
      let d ← genDecl n
      return .decl (← since start) d
    | .keyword .go => do
      let gp ← bump
      let c ← parseExpr n
      return .go (← since start) gp c
    | .keyword .defer => do
      let dp ← bump
      let c ← parseExpr n
      return .defer (← since start) dp c
    | .keyword .return_ => do
      let rp ← bump
      let rs ← if (← atTok .semi) || (← atPunct .rBrace) then pure [] else exprList n
      return .return_ (← since start) rp rs
    | .keyword .break_ => branchStmt n start .break_
    | .keyword .continue_ => branchStmt n start .continue_
    | .keyword .goto => branchStmt n start .goto
    | .keyword .fallthrough => branchStmt n start .fallthrough
    | .punct .lBrace => do
      let b ← block n
      return .block (← since start) b
    | .keyword .if_ => ifStmt n
    | .keyword .for_ => forStmt n start
    | .keyword .switch => switchStmt n start
    | .keyword .select => selectStmt n start
    | _ => do
      match ← simpleStmt n .labelOk with
      | .stmt s => return .simple (← since start) s
      | .label lbl cp => do
        let inner ← if ← atPunct .rBrace then do
            let at_ ← ParseM.start
            pure (Stmt.empty (Span.emptyAt at_))
          else nested (stmt n)
        return .labeled (← since start) lbl cp inner
      | .range _ rp _ => failAt rp "unexpected range"

/-- `break`, `continue`, `goto` or `fallthrough`, the first three with an optional label. -/
def branchStmt : Nat → Nat → BranchKind → ParseM Stmt
  | 0, _, _ => outOfSteps
  | _ + 1, start, kind => do
    let pos ← bump
    let label ← match kind, ← tok with
      | .fallthrough, _ => pure none
      | _, .ident _ => some <$> ident
      | _, _ => pure none
    return .branch (← since start) kind pos label

/-- A simple statement, or in the right mode a label or range clause. -/
def simpleStmt : Nat → StmtMode → ParseM SimpleResult
  | 0, _ => outOfSteps
  | n + 1, mode => do
    let start ← start
    if mode == .rangeOk && (← atKw .range) then
      let rp ← bump
      let x ← parseExpr n
      return .range none rp x
    let lhs ← exprList n
    let t ← tok
    match t with
    | .punct .define => do
      let op ← bump
      if mode == .rangeOk && (← atKw .range) then
        let names ← identsOf lhs
        let rp ← bump
        let x ← parseExpr n
        return .range (some (.define names op)) rp x
      let names ← identsOf lhs
      let values ← exprList n
      return .stmt (.shortVarDecl (← since start) names op values)
    | _ =>
      match assignOpOf t with
      | some aop => do
        let opPos ← bump
        if mode == .rangeOk && aop == .assign && (← atKw .range) then
          let rp ← bump
          let x ← parseExpr n
          return .range (some (.assign lhs opPos)) rp x
        let rhs ← exprList n
        return .stmt (.assign (← since start) lhs aop opPos rhs)
      | none =>
        match lhs with
        | [e] =>
          match t with
          | .punct .colon =>
            if mode == .labelOk then
              match e with
              | .ident _ lbl => do
                let cp ← bump
                return .label lbl cp
              | _ => failExpected "label"
            else return .stmt (.expr (← since start) e)
          | .punct .arrow => do
            let ap ← bump
            let v ← parseExpr n
            return .stmt (.send (← since start) e ap v)
          | .punct .inc => do
            let p ← bump
            return .stmt (.incDec (← since start) e .inc p)
          | .punct .dec => do
            let p ← bump
            return .stmt (.incDec (← since start) e .dec p)
          | _ => return .stmt (.expr (← since start) e)
        | _ => failExpected "':=' or '='"

/-- A simple statement where neither label nor range may stand. -/
def simpleStmtOnly : Nat → ParseM SimpleStmt
  | 0 => outOfSteps
  | n + 1 => do
    match ← simpleStmt n .basic with
    | .stmt s => return s
    | _ => failExpected "simple statement"

/-- The header of `if` or `switch`: `[init;] x`, with composite literals off. -/
def controlHeader : Nat → ParseM (Option SimpleStmt × Option SimpleStmt)
  | 0 => outOfSteps
  | n + 1 => withExprLev (-1) do
    if ← atPunct .lBrace then return (none, none)
    let first ← if ← atTok .semi then pure none else some <$> simpleStmtOnly n
    if (← eat .semi).isNone then return (none, first)
    let second ← if ← atPunct .lBrace then pure none else some <$> simpleStmtOnly n
    return (first, second)

/-- `if [init;] cond { ... } [else ...]`. -/
def ifStmt : Nat → ParseM Stmt
  | 0 => outOfSteps
  | n + 1 => do
    let start ← start
    let ip ← expect (.keyword .if_)
    if ← atPunct .lBrace then failAt (← span) "missing condition in if statement"
    let (init, cond) ← controlHeader n
    let cond ← condOf cond
    let thenBlock ← block n
    let elseStmt ← if (← eat (.keyword .else_)).isSome then
        match ← tok with
        | .keyword .if_ => some <$> nested (ifStmt n)
        | .punct .lBrace => do
          let bs ← ParseM.start
          let b ← block n
          pure (some (Stmt.block (← since bs) b))
        | _ => failExpected "if statement or block"
      else pure none
    return .if_ (← since start) ip init cond thenBlock elseStmt

/-- `for` with its header and body. -/
def forStmt : Nat → Nat → ParseM Stmt
  | 0, _ => outOfSteps
  | n + 1, start => do
    let fp ← bump
    let header ← withExprLev (-1) (forHeader n)
    let body ← block n
    return .for_ (← since start) fp header body

/-- What follows `for`: nothing, a condition, a three-part clause or a range. -/
def forHeader : Nat → ParseM ForHeader
  | 0 => outOfSteps
  | n + 1 => do
    if ← atPunct .lBrace then return .infinite
    let first ← if ← atTok .semi then pure (Sum.inr none)
      else match ← simpleStmt n .rangeOk with
        | .range lhs rp x => pure (Sum.inl (ForHeader.range lhs rp x))
        | .stmt s => pure (Sum.inr (some s))
        | .label _ cp => failAt cp "unexpected ':'"
    match first with
    | .inl h => return h
    | .inr first =>
      if (← eat .semi).isNone then return .cond (← condOf first)
      let cond ← if ← atTok .semi then pure none else some <$> parseExpr n
      discard (expect .semi)
      let post ← if ← atPunct .lBrace then pure none else some <$> simpleStmtOnly n
      return .clause first cond post

/-- An expression switch or a type switch. -/
def switchStmt : Nat → Nat → ParseM Stmt
  | 0, _ => outOfSteps
  | n + 1, start => do
    let sp ← bump
    let (init, tag) ← controlHeader n
    let guard := tag.bind typeSwitchGuard?
    let lb ← expect (.punct .lBrace)
    let clauses ← switchClauses n guard.isSome #[]
    let rb ← expect (.punct .rBrace)
    match guard with
    | some (bind, dp, x, dotPos, lp, rp) =>
      return .typeSwitch (← since start) sp init bind dp x dotPos lp rp lb clauses.toList rb
    | none => do
      let tagExpr ← match tag with
        | some t => some <$> condOf (some t)
        | none => pure none
      return .switch (← since start) sp init tagExpr lb clauses.toList rb

/-- The clauses of a switch. -/
def switchClauses : Nat → Bool → Array SwitchClause → ParseM (Array SwitchClause)
  | 0, _, _ => outOfSteps
  | n + 1, isType, acc => do
    let isCase ← atKw .case_
    let isDefault ← atKw .default
    if !(isCase || isDefault) then return acc
    let start ← start
    let cp ← bump
    let clause ← if isType then do
        let items ← if isCase then typeCases n #[] else pure #[]
        let colon ← expect (.punct .colon)
        let stmts ← stmtList n
        pure (SwitchClause.types (← since start) cp items.toList colon stmts)
      else do
        let items ← if isCase then exprList n else pure []
        let colon ← expect (.punct .colon)
        let stmts ← stmtList n
        pure (SwitchClause.exprs (← since start) cp items colon stmts)
    switchClauses n isType (acc.push clause)

/-- The types, or `nil`, of a type switch case. -/
def typeCases : Nat → Array TypeCase → ParseM (Array TypeCase)
  | 0, _ => outOfSteps
  | n + 1, acc => do
    let item ← match ← tok with
      | .ident "nil" => TypeCase.nil <$> bump
      | _ => TypeCase.type <$> parseType n
    let acc := acc.push item
    if (← eat (.punct .comma)).isSome then typeCases n acc else return acc

/-- `select { ... }`. -/
def selectStmt : Nat → Nat → ParseM Stmt
  | 0, _ => outOfSteps
  | n + 1, start => do
    let sp ← bump
    let lb ← expect (.punct .lBrace)
    let clauses ← commClauses n #[]
    let rb ← expect (.punct .rBrace)
    return .select (← since start) sp lb clauses.toList rb

/-- The clauses of a `select`. -/
def commClauses : Nat → Array CommClause → ParseM (Array CommClause)
  | 0, _ => outOfSteps
  | n + 1, acc => do
    let isCase ← atKw .case_
    let isDefault ← atKw .default
    if !(isCase || isDefault) then return acc
    let start ← start
    if isDefault then
      let dp ← bump
      let colon ← expect (.punct .colon)
      let stmts ← stmtList n
      commClauses n (acc.push (.default (← since start) dp colon stmts))
    else
      let cp ← bump
      let comm ← commStmt n
      let colon ← expect (.punct .colon)
      let stmts ← stmtList n
      let span ← since start
      let clause := match comm with
        | .inl (ch, ap, v) => CommClause.send span cp ch ap v colon stmts
        | .inr (lhs, x) => CommClause.recv span cp lhs x colon stmts
      commClauses n (acc.push clause)

/-- The communication of a `select` case: a send, or a receive with optional left side. -/
def commStmt : Nat → ParseM ((Expr × Span × Expr) ⊕ (Option RangeLhs × Expr))
  | 0 => outOfSteps
  | n + 1 => do
    let s ← simpleStmtOnly n
    let single := fun (l : List Expr) => match l with
      | [e] => pure e
      | _ => failAt s.span "select case must be a single receive"
    match s with
    | .send _ ch ap v => return .inl (ch, ap, v)
    | .expr _ x => return .inr (none, x)
    | .shortVarDecl _ names op vs => do
      let x ← single vs
      return .inr (some (.define names op), x)
    | .assign _ lhs .assign op rhs => do
      let x ← single rhs
      return .inr (some (.assign lhs op), x)
    | _ => failAt s.span "select case must be receive or send"

/-- An `import`, `const`, `type` or `var` declaration, with or without parentheses. -/
def genDecl : Nat → ParseM GenDecl
  | 0 => outOfSteps
  | n + 1 => do
    let start ← start
    let doc ← takeDoc start
    let kind ← match ← tok with
      | .keyword .import_ => pure SpecKind.import_
      | .keyword .const => pure SpecKind.const
      | .keyword .type => pure SpecKind.type
      | .keyword .var => pure SpecKind.var
      | _ => failExpected "declaration"
    let kw ← bump
    match ← eat (.punct .lParen) with
    | some lp => do
      let specs ← groupSpecs n kind #[]
      let rp ← expect (.punct .rParen)
      return ⟨← since start, doc, kw, kind, some lp, specs.toList, some rp⟩
    | none => do
      let s ← spec n kind none
      return ⟨← since start, doc, kw, kind, none, [s], none⟩

/-- The specs of a parenthesized declaration, each with its own doc comment. -/
def groupSpecs : Nat → SpecKind → Array Spec → ParseM (Array Spec)
  | 0, _, _ => outOfSteps
  | n + 1, kind, acc => do
    if (← atPunct .rParen) || (← atTok .eof) then return acc
    let doc ← takeDoc (← ParseM.start)
    let s ← spec n kind doc
    expectSemi
    groupSpecs n kind (acc.push s)

/-- One spec of a declaration of the given kind, with its line comment. -/
def spec : Nat → SpecKind → Option CommentGroup → ParseM Spec
  | 0, _, _ => outOfSteps
  | n + 1, kind, doc => do
    let s ← match kind with
      | .import_ => do
        let name ← match ← tok with
          | .punct .dot => do pure (some (ImportName.dot (← bump)))
          | .ident "_" => do pure (some (ImportName.blank (← bump)))
          | .ident _ => do pure (some (ImportName.name (← ident)))
          | _ => pure none
        let path ← stringLit
        pure (Spec.import_ doc name path none)
      | .const | .var => do
        let names ← identList
        let ty ← match ← tok with
          | .punct .assign | .semi | .punct .rParen => pure none
          | _ => some <$> parseType n
        let ap ← eat (.punct .assign)
        let values ← if ap.isSome then exprList n else pure []
        if kind == .var && ty.isNone && values.isEmpty then
          failAt (← span) "missing variable type or initialization"
        pure (Spec.value doc names ty ap values none)
      | .type => do
        let name ← ident
        let tp ← if ← startsTypeParams then some <$> typeParams n else pure none
        let ap ← eat (.punct .assign)
        let ty ← parseType n
        pure (Spec.type doc name tp ap ty none)
    let comment ← takeLineComment (← prevEnd)
    return s.withComment comment

/-- A function or method declaration. -/
def funcDecl : Nat → ParseM FuncDecl
  | 0 => outOfSteps
  | n + 1 => do
    let start ← start
    let doc ← takeDoc start
    let fp ← expect (.keyword .func)
    let recv ← if ← atPunct .lParen then some <$> receiver n else pure none
    let name ← ident
    let tp ← if recv.isNone && (← atPunct .lBrack) then some <$> typeParams n else pure none
    let sig ← signature n
    let body ← if ← atPunct .lBrace then some <$> funcBody n else pure none
    return ⟨← since start, doc, fp, recv, name, tp, sig, body⟩

/-- A method receiver: a parameter list with exactly one field. -/
def receiver : Nat → ParseM Receiver
  | 0 => outOfSteps
  | n + 1 => do
    let list ← parameters n
    match list.fields with
    | [f] => return ⟨list.opening, f.names.head?, f.type, list.closing⟩
    | _ => failAt (list.opening.cover list.closing) "method has multiple receivers"

end

end Parser

end GoTemplates.Syntax
