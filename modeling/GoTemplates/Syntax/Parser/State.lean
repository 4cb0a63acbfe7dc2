import GoTemplates.Syntax.Lexer
import GoTemplates.Syntax.Tree

/-! # Parser state

The parser walks the token array with a cursor. Beside the cursor it keeps
the comment groups of the file and marks each one used once it is attached
to a node as a doc comment (on the line above, with nothing between) or a
line comment (starting on the line the node ends on). It also tracks the
expression level, below zero in control clause headers where `T {` opens a
block, and the nesting depth, which is bounded.
-/

namespace GoTemplates.Syntax

open GoTemplates.Source

/-- A syntax error, or a lexical fault, at a span. -/
structure Diag where
  span : Span
  message : String
  deriving Repr, Inhabited

/-- A comment group with what attaching it needs to know. -/
structure GroupInfo where
  group : CommentGroup
  start : Nat
  stop : Nat
  firstLine : Nat
  lastLine : Nat
  /-- The group starts on a line after some token (`x := 1 // like this`). -/
  trailing : Bool
  used : Bool := false

/-- The parser's state: tokens and cursor, comment groups, and the two levels. -/
structure ParseState where
  src : String
  toks : Array Lexeme
  pos : Nat := 0
  lines : LineIndex
  groups : Array GroupInfo := #[]
  /-- Below zero inside control clause headers, where `T {` opens a block. -/
  exprLev : Int := 0
  nestLev : Nat := 0

/-- Parsing: state threaded through, stopping at the first error. -/
abbrev ParseM := StateT ParseState (Except Diag)

/-- Nesting deeper than this is refused. -/
def maxNesting : Nat := 256

namespace ParseState

/-- The lexeme at an index; past the end, the end of input. -/
def lexemeAt (st : ParseState) (i : Nat) : Lexeme :=
  st.toks.getD i ⟨st.src.utf8ByteSize, .eof, st.src.utf8ByteSize⟩

/-- Whether a real token (not an inserted separator, not the end) starts in `[from, to)`. -/
def tokenBetween (st : ParseState) (lo hi : Nat) : Bool :=
  st.toks.any fun l => lo ≤ l.start && l.start < hi && l.start < l.stop && l.token != .eof

/-- Whether the last real token that ends at or before `offset` ends on `line`. -/
def tokenBeforeOnLine (st : ParseState) (offset line : Nat) : Bool :=
  let last := st.toks.foldl
    (fun acc l => if l.stop ≤ offset && l.start < l.stop then some l else acc) none
  match last with
  | some l => st.lines.line (l.stop - 1) == line
  | none => false

end ParseState

/-- Groups raw comments into runs: a comment joins the one before it when no token
stands between them and it starts on the line where that one ends, or on the next
line when the run does not trail a token. -/
def groupComments (src : String) (st : ParseState) (raw : List CommentMark) :
    Array GroupInfo :=
  -- a run is its latest comment and the earlier ones, latest first
  let step := fun (acc : List (CommentMark × List CommentMark) × Option (CommentMark × Bool))
      (c : CommentMark) =>
    let (runs, prev) := acc
    let line := st.lines.line c.span.start
    let trailing := st.tokenBeforeOnLine c.span.start line
    let joins := match prev with
      | some (p, pTrailing) =>
        let pLast := st.lines.line (p.span.stop - 1)
        !st.tokenBetween p.span.stop c.span.start &&
          (line == pLast || (line == pLast + 1 && !pTrailing))
      | none => false
    let runs := match runs, joins with
      | (latest, earlier) :: rs, true => (c, latest :: earlier) :: rs
      | rs, _ => (c, []) :: rs
    let flag := if joins then (prev.map (·.2)).getD false else trailing
    (runs, some (c, flag))
  let (runs, _) := raw.foldl step ([], none)
  let bytes := src.toUTF8
  let text := fun (s : Span) =>
    let t := (String.fromUTF8? (bytes.extract s.start s.stop)).getD ""
    String.ofList ((t.toList.reverse.dropWhile (· == '\r')).reverse)
  (runs.reverse.map fun (latest, earlier) =>
    let run := (latest :: earlier).reverse
    let comments := run.map fun c => ({ kind := c.kind, text := text c.span, span := c.span } : Comment)
    let first := (run.head?.map (·.span)).getD Span.none
    let last := (run.getLast?.map (·.span)).getD Span.none
    let span := first.cover last
    let firstLine := st.lines.line first.start
    ({ group := ⟨comments, span, by simp [comments, run]⟩, start := span.start, stop := span.stop,
       firstLine,
       lastLine := st.lines.line (span.stop - 1),
       trailing := st.tokenBeforeOnLine first.start firstLine } : GroupInfo)).toArray

namespace ParseM

/-- The current lexeme. -/
def current : ParseM Lexeme := do
  let st ← get
  return st.lexemeAt st.pos

/-- The current token. -/
def tok : ParseM Token := return (← current).token

/-- The token `n` places ahead. -/
def peek (n : Nat) : ParseM Token := do
  let st ← get
  return (st.lexemeAt (st.pos + n)).token

/-- The span of the current token. -/
def span : ParseM Span := do
  let l ← current
  return ⟨l.start, l.stop⟩

/-- Where the current token starts. -/
def start : ParseM Nat := return (← current).start

/-- Where the last consumed token ends. -/
def prevEnd : ParseM Nat := do
  let st ← get
  if st.pos == 0 then return 0 else return (st.lexemeAt (st.pos - 1)).stop

/-- The span from `start` to the end of the last consumed token. -/
def since (start : Nat) : ParseM Span := do
  return ⟨start, max (← prevEnd) start⟩

/-- Consumes the current token, unless it is the end of input, and returns its span. -/
def bump : ParseM Span := do
  let s ← span
  let t ← tok
  if t != .eof then modify fun st => { st with pos := st.pos + 1 }
  return s

/-- Whether the current token is `t`. -/
def atTok (t : Token) : ParseM Bool := return (← tok) == t

/-- Whether the current token is the punctuation `p`. -/
def atPunct (p : Punct) : ParseM Bool := atTok (.punct p)

/-- Whether the current token is the keyword `k`. -/
def atKw (k : Keyword) : ParseM Bool := atTok (.keyword k)

/-- The error that the current token is not what was expected. -/
def unexpected (expected : String) : ParseM Diag := do
  return ⟨← span, "expected " ++ expected ++ ", found " ++ (← tok).describe⟩

/-- Fails with a message at a span. -/
def failAt {α : Type} (s : Span) (message : String) : ParseM α :=
  throw ⟨s, message⟩

/-- Fails because the current token is not what was expected. -/
def failExpected {α : Type} (expected : String) : ParseM α := do
  throw (← unexpected expected)

/-- Consumes `t` if it is the current token. -/
def eat (t : Token) : ParseM (Option Span) := do
  if (← atTok t) then return some (← bump) else return none

/-- Consumes `t`, which must be the current token. -/
def expect (t : Token) : ParseM Span := do
  if (← atTok t) then bump else failExpected t.describe

/-- A statement or declaration ends: a separator, or before `)`, `}` or the end. -/
def expectSemi : ParseM Unit := do
  match ← tok with
  | .semi => discard bump
  | .punct .rParen | .punct .rBrace | .eof => pure ()
  | _ => failExpected "newline or ';'"

/-- An identifier. -/
def ident : ParseM Ident := do
  match ← tok with
  | .ident name => return ⟨name, ← bump⟩
  | _ => failExpected "identifier"

/-- Identifiers separated by commas; each round takes an identifier, so `fuel`
rounds of the token count suffice. -/
def identListFrom : Nat → Array Ident → ParseM (Array Ident)
  | 0, acc => return acc
  | fuel + 1, acc => do
    if (← eat (.punct .comma)).isSome then identListFrom fuel (acc.push (← ident))
    else return acc

/-- A nonempty comma separated identifier list. -/
def identList : ParseM (List Ident) := do
  let first ← ident
  let n := (← get).toks.size
  return (← identListFrom n #[first]).toList

/-- Runs `p` one nesting level deeper, failing past the bound. -/
def nested {α : Type} (p : ParseM α) : ParseM α := do
  if (← get).nestLev ≥ maxNesting then failAt (← span) "exceeded max nesting depth"
  modify fun st => { st with nestLev := st.nestLev + 1 }
  let r ← p
  modify fun st => { st with nestLev := st.nestLev - 1 }
  return r

/-- Runs `p` with the expression level set to `lev`, then restores it. -/
def withExprLev {α : Type} (lev : Int) (p : ParseM α) : ParseM α := do
  let saved := (← get).exprLev
  modify fun st => { st with exprLev := lev }
  let r ← p
  modify fun st => { st with exprLev := saved }
  return r

/-- Runs `p` one expression level higher. -/
def deeper {α : Type} (p : ParseM α) : ParseM α := do
  let lev := (← get).exprLev
  withExprLev (lev + 1) p

/-- The doc comment of a node starting at `start`: the unused, non-trailing group
that ends on the line just above, with no token between. -/
def takeDoc (start : Nat) : ParseM (Option CommentGroup) := do
  let st ← get
  let line := st.lines.line start
  let i := (st.groups.toList.filter (·.stop ≤ start)).length
  if i == 0 then return none
  match st.groups[i - 1]? with
  | none => return none
  | some g =>
    if g.used || g.trailing || g.lastLine + 1 != line || st.tokenBetween g.stop start then
      return none
    set { st with groups := st.groups.set! (i - 1) { g with used := true } }
    return some g.group

/-- The line comment of a node ending at `stop`: the first unused, trailing group
that starts on the node's last line, with no token between. -/
def takeLineComment (stop : Nat) : ParseM (Option CommentGroup) := do
  let st ← get
  let line := st.lines.line (stop - 1)
  let i := (st.groups.toList.filter (·.start < stop)).length
  match st.groups[i]? with
  | none => return none
  | some g =>
    if g.used || !g.trailing || g.firstLine != line || st.tokenBetween stop g.start then
      return none
    set { st with groups := st.groups.set! i { g with used := true } }
    return some g.group

end ParseM

end GoTemplates.Syntax
