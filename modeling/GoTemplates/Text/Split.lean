/-! # Splitting character lists

Small operations on character lists that the text grammars of mappings and
package paths are written with: the parts around the first or last occurrence
of a separator, removing a known prefix or suffix, replacing a character, and
cutting a text at byte offsets.
-/

namespace GoTemplates.Text

/-- The rest of `s` after the prefix `p`, if `s` starts with it. -/
def dropPrefix? (p s : List Char) : Option (List Char) :=
  if p.isPrefixOf s then some (s.drop p.length) else none

/-- What stands before the suffix `p` in `s`, if `s` ends with it. -/
def dropSuffix? (p s : List Char) : Option (List Char) :=
  if p.reverse.isPrefixOf s.reverse then some (s.take (s.length - p.length)) else none

/-- Character index of the last occurrence of a nonempty `sep` in `s`. -/
def lastIndexOf? (sep s : List Char) : Option Nat :=
  (List.range (s.length + 1)).foldl
    (fun acc i => if sep.isPrefixOf (s.drop i) then some i else acc) none

/-- The parts before and after the last occurrence of `sep`. -/
def splitLast? (sep s : List Char) : Option (List Char × List Char) :=
  (lastIndexOf? sep s).map fun i => (s.take i, s.drop (i + sep.length))

/-- The parts before and after the first occurrence of the character `c`. -/
def splitFirst? (c : Char) (s : List Char) : Option (List Char × List Char) :=
  match s.idxOf? c with
  | some i => some (s.take i, s.drop (i + 1))
  | none => none

/-- Every occurrence of the character `c` replaced by the text `r`. -/
def replaceChar (c : Char) (r : List Char) (s : List Char) : List Char :=
  s.flatMap fun x => if x = c then r else [x]

/-- The text between two byte offsets of `s`; empty when an offset falls inside a
character. -/
def byteSlice (s : String) (lo hi : Nat) : String :=
  (String.fromUTF8? (s.toUTF8.extract lo hi)).getD ""

end GoTemplates.Text
