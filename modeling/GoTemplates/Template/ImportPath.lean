import GoTemplates.Text.Split

/-! # Import paths

The package name an import is assumed to bind when it names none, and the
string literals that hold import paths: reading one back accepts a raw
literal, or an interpreted one whose only escapes are `\\` and `\"`.
-/

namespace GoTemplates.Template

open GoTemplates.Text

/-- A path element such as `v2` that marks a major version. -/
def isMajorVersion (elem : List Char) : Bool :=
  match elem with
  | 'v' :: n => !n.isEmpty && n.all Char.isDigit
  | _ => false

/-- The package name an unaliased import of `path` binds: the last path element,
or the one before a major version element, without a `go-` prefix, cut at the
first `.` or `-`. -/
def assumedPackageName (path : String) : String :=
  let elems := (path.toList.splitOn '/').reverse
  let last := match elems with
    | l :: p :: _ => if isMajorVersion l then p else l
    | [l] => l
    | [] => []
  let last := (dropPrefix? ['g', 'o', '-'] last).getD last
  String.ofList (last.takeWhile fun c => c != '.' && c != '-')

/-- Reads the characters of an interpreted literal's body, accepting only `\\` and `\"`. -/
def unescapeBody : List Char → Option (List Char)
  | [] => some []
  | '\\' :: c :: rest =>
    if c == '\\' || c == '"' then (unescapeBody rest).map (c :: ·) else none
  | ['\\'] => none
  | c :: rest => (unescapeBody rest).map (c :: ·)

/-- The value of a raw or interpreted string literal that holds an import path. -/
def unquote (lit : String) : Option String :=
  let cs := lit.toList
  let raw := (dropPrefix? ['`'] cs).bind (dropSuffix? ['`'])
  match raw with
  | some body => some (String.ofList body)
  | none =>
    match (dropPrefix? ['"'] cs).bind (dropSuffix? ['"']) with
    | some body => (unescapeBody body).map String.ofList
    | none => none

/-- An interpreted string literal holding `path`: each backslash is doubled, then each
quote is preceded by a backslash. -/
def quote (path : String) : String :=
  let escaped := replaceChar '"' ['\\', '"'] (replaceChar '\\' ['\\', '\\'] path.toList)
  String.ofList ('"' :: escaped ++ ['"'])

end GoTemplates.Template
