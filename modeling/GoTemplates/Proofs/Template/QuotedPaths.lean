import GoTemplates.Template.ImportPath

/-! # Quoted import paths

The specializer writes the path of each import it adds as an interpreted string
literal, and reorganizing the imports reads every path back from its literal. Quoting
doubles the backslashes first and escapes the quotes second; taken together, the two
passes write each character of the path on its own (`quoted_escapes_each_char`), so
reading the body back undoes them character by character, and every path comes back
whatever quotes, backslashes or backticks it holds (`unquote_quote`).
-/

namespace GoTemplates.Template

open GoTemplates.Text

/-- How one character of a path is written inside a quoted literal. -/
def escapeChar (c : Char) : List Char :=
  if c = '\\' then ['\\', '\\'] else if c = '"' then ['\\', '"'] else [c]

theorem replaceChar_nil (c : Char) (r : List Char) : replaceChar c r [] = [] := rfl

theorem replaceChar_cons (c x : Char) (r xs : List Char) :
    replaceChar c r (x :: xs) = (if x = c then r else [x]) ++ replaceChar c r xs := by
  simp only [replaceChar, List.flatMap_cons]

theorem replaceChar_append (c : Char) (r xs ys : List Char) :
    replaceChar c r (xs ++ ys) = replaceChar c r xs ++ replaceChar c r ys := by
  simp only [replaceChar, List.flatMap_append]

/-- Escaping the backslashes and then the quotes writes each character on its own: the
backslashes the first pass adds are no quotes, so the second pass leaves them be. -/
theorem quoted_escapes_each_char (s : List Char) :
    replaceChar '"' ['\\', '"'] (replaceChar '\\' ['\\', '\\'] s) = s.flatMap escapeChar := by
  induction s with
  | nil => rfl
  | cons x xs ih =>
    rw [replaceChar_cons, replaceChar_append, ih, List.flatMap_cons]
    by_cases hb : x = '\\'
    · subst hb; rfl
    · by_cases hq : x = '"'
      · subst hq; rfl
      · simp [escapeChar, replaceChar_cons, replaceChar_nil, hb, hq]

/-- Reading a literal's body takes back the escape of its first character. -/
theorem unescapeBody_escapeChar (c : Char) (rest : List Char) :
    unescapeBody (escapeChar c ++ rest) = (unescapeBody rest).map (c :: ·) := by
  by_cases hb : c = '\\'
  · subst hb; simp [escapeChar, unescapeBody]
  · by_cases hq : c = '"'
    · subst hq; simp [escapeChar, unescapeBody]
    · -- a plain character is read as itself, whatever follows it
      cases rest with
      | nil => simp [escapeChar, unescapeBody, hb, hq]
      | cons d ds => simp [escapeChar, unescapeBody, hb, hq]

theorem unescapeBody_escaped (s : List Char) : unescapeBody (s.flatMap escapeChar) = some s := by
  induction s with
  | nil => rfl
  | cons c cs ih => rw [List.flatMap_cons, unescapeBody_escapeChar, ih, Option.map_some]

/-- A quoted literal is the escaped path between two quotes. -/
theorem quote_toList (path : String) :
    (quote path).toList = '"' :: path.toList.flatMap escapeChar ++ ['"'] := by
  simp only [quote, String.toList_ofList, quoted_escapes_each_char]

/-- Reading a quoted path gives the path back. -/
theorem unquote_quote (path : String) : unquote (quote path) = some path := by
  have hraw : dropPrefix? ['`'] (quote path).toList = none := by
    simp [quote_toList, dropPrefix?]
  have hbody : ((dropPrefix? ['"'] (quote path).toList).bind (dropSuffix? ['"'])) =
      some (path.toList.flatMap escapeChar) := by
    simp [quote_toList, dropPrefix?, dropSuffix?]
  simp only [unquote, hraw, Option.bind_none, hbody, unescapeBody_escaped, Option.map_some,
    String.ofList_toList]

end GoTemplates.Template
