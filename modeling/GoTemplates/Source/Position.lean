/-! # Source positions

A span is a pair of byte offsets into the source text. The span with stop
offset zero is the absent position: nodes the specializer builds, or whose
positions were cleared, carry it, and layout treats them canonically.

A line table lists the offsets at which lines begin, and turns an offset into
a one-based line and a one-based byte column by a binary search of those offsets.
-/

namespace GoTemplates.Source

/-- Byte offsets `[start, stop)` into the source text. -/
structure Span where
  start : Nat
  stop : Nat
  deriving Repr, BEq, DecidableEq, Inhabited

namespace Span

/-- The absent position. -/
def none : Span := ⟨0, 0⟩

/-- A span is absent when it stops at offset zero. -/
def isNone (s : Span) : Bool := s.stop == 0

/-- A span that is present. -/
def isValid (s : Span) : Bool := s.stop != 0

/-- The empty span at an offset. -/
def emptyAt (n : Nat) : Span := ⟨n, n⟩

/-- The smallest span covering both; an absent side is ignored. -/
def cover (a b : Span) : Span :=
  if a.isNone then b
  else if b.isNone then a
  else ⟨min a.start b.start, max a.stop b.stop⟩

end Span

/-- The halving loop of a binary search for `x`: of the `size` entries from `base` on, the
first half is passed over when the entry just after it is at most `x`. -/
def searchLoop (a : Array Nat) (x base size : Nat) : Nat :=
  if size ≤ 1 then base
  else
    let half := size / 2
    let mid := base + half
    searchLoop a x (if x < a.getD mid 0 then base else mid) (size - half)
termination_by size

/-- Binary search of a sorted array, as the standard library searches a slice: `ok i` when
the entry at `i` is `x`, and otherwise `error i`, `i` being the index at which inserting
`x` keeps the order. -/
def binarySearch (a : Array Nat) (x : Nat) : Except Nat Nat :=
  if a.size = 0 then .error 0
  else
    let base := searchLoop a x 0 a.size
    let y := a.getD base 0
    if y = x then .ok base else .error (if y < x then base + 1 else base)

/-- Offsets at which the lines of a text begin: zero, then one past each line feed. -/
structure LineIndex where
  starts : Array Nat
  deriving Inhabited

namespace LineIndex

/-- Line starts of a text, counting only line feeds as line ends. -/
def ofString (src : String) : LineIndex :=
  let step := fun (acc : Array Nat × Nat) (b : UInt8) =>
    (if b == 10 then acc.1.push (acc.2 + 1) else acc.1, acc.2 + 1)
  ⟨(src.toUTF8.data.foldl step (#[0], 0)).1⟩

/-- The one-based line of an offset: the line that starts there, or the line before the
start that the search would insert it at. -/
def line (t : LineIndex) (offset : Nat) : Nat :=
  match binarySearch t.starts offset with
  | .ok i => i + 1
  | .error i => i

/-- The one-based line and byte column of an offset. -/
def lineCol (t : LineIndex) (offset : Nat) : Nat × Nat :=
  let l := t.line offset
  let start := t.starts.getD (l - 1) 0
  (l, offset - start + 1)

end LineIndex

end GoTemplates.Source
