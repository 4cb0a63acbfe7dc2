/-! # Substring replacement

A replacer holds `(old, new)` pairs in the order they were added and never an
empty old text. It reads a text from left to right: where the first pair
whose old text starts the rest applies, its new text is written and reading
goes on after the old text; where none applies, one character is copied.
Replacements neither overlap nor are read again.
-/

namespace GoTemplates.Text

/-- Replacement pairs over characters, old texts all nonempty. -/
structure Replacer where
  pairs : List (List Char × List Char)
  deriving Inhabited

namespace Replacer

/-- The replacer with no pairs. -/
def empty : Replacer := ⟨[]⟩

/-- Adds a pair after the others; a pair with an empty old text is dropped. -/
def push (r : Replacer) (old new : String) : Replacer :=
  if old.isEmpty then r else ⟨r.pairs ++ [(old.toList, new.toList)]⟩

/-- No pair was kept. -/
def isEmpty (r : Replacer) : Bool := r.pairs.isEmpty

/-- The new text of the first pair whose nonempty old text starts `s`, and the rest after it. -/
def firstMatch : List (List Char × List Char) → List Char → Option (List Char × List Char)
  | [], _ => none
  | ([], _) :: ps, s => firstMatch ps s
  | (o :: os, n) :: ps, s =>
    if (o :: os).isPrefixOf s then some (n, s.drop (os.length + 1)) else firstMatch ps s

theorem firstMatch_rest_lt {ps : List (List Char × List Char)} {s n r : List Char}
    (h : firstMatch ps s = some (n, r)) : r.length < s.length := by
  induction ps with
  | nil => simp [firstMatch] at h
  | cons p ps ih =>
    obtain ⟨o, n'⟩ := p
    cases o with
    | nil => exact ih (by simpa [firstMatch] using h)
    | cons c os =>
      simp only [firstMatch] at h
      split at h
      · rename_i hp
        simp only [Option.some.injEq, Prod.mk.injEq] at h
        obtain ⟨-, rfl⟩ := h
        have hlen := List.IsPrefix.length_le (List.isPrefixOf_iff_prefix.mp hp)
        simp only [List.length_cons] at hlen
        simp only [List.length_drop]
        omega
      · exact ih h

/-- Replaces old texts by new ones in a character list, left to right. -/
def scan (ps : List (List Char × List Char)) : List Char → List Char
  | [] => []
  | c :: cs =>
    match hm : firstMatch ps (c :: cs) with
    | some (n, r) =>
      have : r.length < cs.length + 1 := firstMatch_rest_lt hm
      n ++ scan ps r
    | none => c :: scan ps cs
termination_by s => s.length

/-- Applies the replacer to a text. -/
def apply (r : Replacer) (s : String) : String :=
  String.ofList (scan r.pairs s.toList)

end Replacer

end GoTemplates.Text
