import GoTemplates.Syntax.Tree
import GoTemplates.Text.Blank

/-! # Printer state and aligned rows

The printer writes text with a current indentation: the first text written on
a line is preceded by one tab per level. Where a construct must be measured
before it is placed (a cell of an aligned section, a one-line body), it is
rendered into a fresh buffer at the current indentation and returned as text.

Positions steer the layout only through lines. A `Layout` says how lines are
read: from the source's line table, all on one line, or not at all.

Runs of rows of cells are aligned the way gofmt's tab writer does it: a column
block is a maximal range of consecutive rows that have a cell in that column
followed by another cell; every cell of the block is padded to the widest one
plus one space, and a block whose cells are all empty takes no room.
-/

namespace GoTemplates.Printer

open GoTemplates.Source GoTemplates.Syntax GoTemplates.Text

/-- How node positions are read for layout. -/
inductive Layout where
  /-- Positions from the source, placed by its line table: blank lines (at most
  one) and one-line bodies stay as written. -/
  | source (lines : LineIndex)
  /-- Every position lies on one and the same line. -/
  | oneLine
  /-- There are no positions: bodies are expanded, literals stay on one line, and
  a declaration is parenthesized exactly when it has more than one spec. -/
  | canonical

/-- A tree that cannot be printed. -/
inductive PrintError where
  /-- An unparenthesized declaration without specs. -/
  | emptyDecl (kind : String)
  /-- A spec that does not belong to its declaration's keyword. -/
  | specKind (spec kind : String)
  deriving DecidableEq, Repr

/-- The message of a print error. -/
def PrintError.message : PrintError → String
  | .emptyDecl kind => kind ++ " declaration without specs must be parenthesized"
  | .specKind spec kind => spec ++ " spec inside a " ++ kind ++ " declaration"

/-- The printer's state: the layout, the text so far, indentation and whether a
line has just begun. -/
structure PrintState where
  layout : Layout
  out : String := ""
  indent : Nat := 0
  atLineStart : Bool := true

/-- Printing: state threaded through, stopping at the first error. -/
abbrev PrintM := StateT PrintState (Except PrintError)

/-- One line of an aligned section. -/
inductive Row where
  /-- Cells; all but the last take part in alignment. -/
  | cells (cs : List String)
  | raw (text : String)
  | blank

namespace PrintM

/-- Writes text, indenting first when a line has just begun; empty text writes nothing. -/
def w (s : String) : PrintM Unit := do
  if s.isEmpty then return
  let st ← get
  let pre := if st.atLineStart then String.ofList (List.replicate st.indent '\t') else ""
  set { st with out := st.out ++ pre ++ s, atLineStart := false }

/-- Ends the line. -/
def nl : PrintM Unit :=
  modify fun st => { st with out := st.out.push '\n', atLineStart := true }

/-- Changes the indentation. -/
def indentBy (f : Nat → Nat) : PrintM Unit :=
  modify fun st => { st with indent := f st.indent }

/-- One level deeper. -/
def indentIn : PrintM Unit := indentBy (· + 1)

/-- One level shallower. -/
def indentOut : PrintM Unit := indentBy (· - 1)

/-- The text `act` writes, rendered at the current indentation as if in the middle of
a line, and not written. The indentation is not restored. -/
def render (act : PrintM Unit) : PrintM String := do
  let saved ← get
  set { saved with out := "", atLineStart := false }
  act
  let st ← get
  set { st with out := saved.out, atLineStart := saved.atLineStart }
  return st.out

/-- The line a span starts on, when the layout has lines and the span is placed. -/
def startLine? (s : Span) : PrintM (Option Nat) := do
  match (← get).layout with
  | .source lines => return if s.isValid then some (lines.line s.start) else none
  | .oneLine => return some 1
  | .canonical => return none

/-- The line a span ends on, when the layout has lines and the span is placed. -/
def endLine? (s : Span) : PrintM (Option Nat) := do
  match (← get).layout with
  | .source lines =>
    return if s.isValid then some (lines.line (max s.stop (s.start + 1) - 1)) else none
  | .oneLine => return some 1
  | .canonical => return none

/-- Whether two spans start on the same line; never without lines. -/
def sameLine (a b : Span) : PrintM Bool := do
  match ← startLine? a, ← startLine? b with
  | some x, some y => return x == y
  | _, _ => return false

/-- Whether a span has a position. -/
def placed (s : Span) : PrintM Bool := do
  match (← get).layout with
  | .source _ => return s.isValid
  | .oneLine => return true
  | .canonical => return false

/-- Line ends between two constructs: the source distance clamped to `min..2`, or
`min` without lines. -/
def gap (prevEnd nextStart : Span) (min : Nat) : PrintM Nat := do
  match ← endLine? prevEnd, ← startLine? nextStart with
  | some a, some b => return Nat.max min (Nat.min (b - a) 2)
  | _, _ => return min

end PrintM

/-- The number of characters of a text. -/
def charCount (s : String) : Nat := s.length

/-- Whether a row has a cell followed by another one in column `col`. -/
def terminatedAt (row : List String) (col : Nat) : Bool := row.length - 1 > col

/-- One row of the scan for runs: the runs closed so far (latest first) and the start of
the open run. A terminated row opens a run or extends the open one; any other row closes
the open run. -/
def runScanStep (rows : Array (List String)) (col : Nat) :
    List (Nat × Nat) × Option Nat → Nat → List (Nat × Nat) × Option Nat
  | (runs, none), i => if terminatedAt (rows.getD i []) col then (runs, some i) else (runs, none)
  | (runs, some s), i =>
    if terminatedAt (rows.getD i []) col then (runs, some s) else ((s, i) :: runs, none)

/-- The maximal runs `[start, stop)` of rows in `[lo, hi)` that are terminated at `col`. -/
def terminatedRuns (rows : Array (List String)) (lo hi col : Nat) : List (Nat × Nat) :=
  let (runs, open_) := (List.range' lo (hi - lo)).foldl (runScanStep rows col) ([], none)
  let runs := match open_ with
    | some s => (s, hi) :: runs
    | none => runs
  runs.reverse

/-- Sets the width of column `col` for rows `[lo, hi)`. -/
def setWidths (widths : Array (Array Nat)) (lo hi col width : Nat) : Array (Array Nat) :=
  (List.range' lo (hi - lo)).foldl (fun ws i => ws.modify i (·.set! col width)) widths

/-- Column widths of the rows in `[lo, hi)` from column `col` on; `fuel` bounds the
number of columns. -/
def formatBlock (rows : Array (List String)) :
    Nat → Array (Array Nat) → Nat → Nat → Nat → Array (Array Nat)
  | 0, widths, _, _, _ => widths
  | fuel + 1, widths, lo, hi, col =>
    (terminatedRuns rows lo hi col).foldl (fun widths (s, e) =>
      let width := (List.range' s (e - s)).foldl
        (fun m i => Nat.max m (charCount (((rows.getD i []).drop col).headD ""))) 0
      let padded := if width == 0 then 0 else width + 1
      formatBlock rows fuel (setWidths widths s e col padded) s e (col + 1)) widths

/-- The padded width of every aligned cell of a run of rows. -/
def columnWidths (rows : Array (List String)) : Array (Array Nat) :=
  let widths := rows.map fun r => Array.replicate (r.length - 1) 0
  let cols := rows.foldl (fun m r => Nat.max m r.length) 0
  formatBlock rows (cols + 1) widths 0 rows.size 0

/-- A row's cells joined with their padding; the last cell is not padded. -/
def alignedLine (cells : List String) (widths : Array Nat) : String :=
  let rec go : Nat → List String → String
    | _, [] => ""
    | _, [c] => c
    | i, c :: cs =>
      c ++ String.ofList (List.replicate (widths.getD i 0 - charCount c) ' ') ++ go (i + 1) cs
  go 0 cells

namespace PrintM

/-- Writes a run of aligned rows, each ending its line. -/
def flushRun (run : Array (List String)) : PrintM Unit := do
  let widths := columnWidths run
  for (cells, i) in run.toList.zipIdx do
    w (trimBlankEnd (alignedLine cells (widths.getD i #[])))
    nl

/-- Writes rows, each ending its line; rows of cells without line breaks are aligned
in runs. -/
def emitRows (rows : List Row) : PrintM Unit := do
  let mut run : Array (List String) := #[]
  for row in rows do
    match row with
    | .cells cs =>
      if cs.any (·.contains '\n') then
        flushRun run
        run := #[]
        w (" ".intercalate (cs.filter (!·.isEmpty)))
        nl
      else
        run := run.push cs
    | .raw text =>
      flushRun run
      run := #[]
      w text
      nl
    | .blank =>
      flushRun run
      run := #[]
      nl
  flushRun run

end PrintM

end GoTemplates.Printer
