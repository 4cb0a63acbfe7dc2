import GoTemplates.Syntax.Parse
import GoTemplates.Syntax.Walk
import GoTemplates.Syntax.Resolve
import GoTemplates.Template.ImportPath
import GoTemplates.Text.Split
import GoTemplates.Text.Blank

/-! # Organizing the imports of generated code

Generated code is re-read, and its import declarations are replaced by a single
one that keeps only the imports in use. An import is in use when its name
qualifies something: the base of a selector `name.x` that is not bound to a
declaration of the file, or the package of a type `name.T`. An unaliased import
is known by the name assumed from its path; dot and blank imports are always
kept. Repeated imports are written once.

One import is written `import "path"`; several are written as a parenthesized
block, the standard library first (paths whose first element has no dot), then
a blank line and the others, each group sorted by path. The text before the
first import declaration (and its doc comment) and after the last one is kept
as it is.
-/

namespace GoTemplates.Syntax

/-- The import declarations of a file, in order. -/
def SourceFile.importDecls (file : SourceFile) : List GenDecl :=
  file.decls.filterMap fun d => match d with
    | .gen g => if g.kind == .import_ then some g else none
    | .func _ => none

/-- Where the text of a declaration begins: at its doc comment when it has one. -/
def GenDecl.startWithDoc (g : GenDecl) : Nat :=
  match g.doc with
  | some d => d.span.start
  | none => g.span.start

end GoTemplates.Syntax

namespace GoTemplates.Specialize

open GoTemplates.Syntax GoTemplates.Template GoTemplates.Text

/-- Generated code whose imports cannot be organized. -/
inductive ImportError where
  | parse (failure : ParseFailure)
  | path (literal : String)
  deriving Repr

/-- The message of an import error. -/
def ImportError.message : ImportError → String
  | .parse f => "generated code does not parse: " ++ f.message
  | .path literal => "could not unquote import path " ++ literal

/-- One import as it is written: its name (an alias, `.` or `_`), its path and the
literal the path was written as. -/
structure ImportLine where
  name : Option String
  path : String
  literal : String
  deriving DecidableEq, Repr

/-- The text of an import line. -/
def ImportLine.render (l : ImportLine) : String :=
  match l.name with
  | some n => n ++ " " ++ l.literal
  | none => l.literal

/-- Whether an import is of the standard library: no dot in its first path element. -/
def ImportLine.isStd (l : ImportLine) : Bool :=
  !((l.path.splitOn "/").headD "").contains '.'

/-- Sorts import lines by path, keeping the order of equal paths. -/
def sortByPath (lines : List ImportLine) : List ImportLine :=
  lines.mergeSort fun a b => decide (a.path ≤ b.path)

/-- The import declaration of the kept lines. -/
def renderImportBlock (lines : List ImportLine) : String :=
  match lines with
  | [only] => "import " ++ only.render
  | _ =>
    let std := sortByPath (lines.filter (·.isStd))
    let other := sortByPath (lines.filter (!·.isStd))
    let row := fun (l : ImportLine) => "\t" ++ l.render ++ "\n"
    let gap := if !std.isEmpty && !other.isEmpty then "\n" else ""
    "import (\n" ++ String.join (std.map row) ++ gap ++ String.join (other.map row) ++ ")"

/-- The package names that qualify something in a file. -/
def usedQualifiers (file : SourceFile) (bindings : Bindings) : List String :=
  file.visits.filterMap fun v => match v.qualifier with
    | .selectorBase b => if (bindings.lookup b.pos).isSome then none else some b.name
    | .typePackage p => some p.name
    | .none => none

/-- The import lines of specs that are kept, each once where it first occurs. -/
def keptLines (used : List String) : List Spec → Except ImportError (List ImportLine)
  | [] => .ok []
  | .import_ _ name path _ :: specs => do
    let literal := path.value
    let p ← match unquote literal with
      | some p => .ok p
      | none => .error (.path literal)
    let (n, keep) := match name with
      | some (.dot _) => (some ".", true)
      | some (.blank _) => (some "_", true)
      | some (.name id) => (some id.name, used.contains id.name)
      | none => (none, used.contains (assumedPackageName p))
    let rest ← keptLines used specs
    let line : ImportLine := ⟨n, p, literal⟩
    return if keep then line :: rest.erase line else rest
  | _ :: specs => keptLines used specs

/-- The text without the line ends at its start. -/
def dropLeadingLineEnds (s : String) : String :=
  String.ofList (s.toList.dropWhile fun c => c == '\n' || c == '\r')

/-- Reorganizes the imports of a file: unused ones are dropped and the rest written as
one declaration. A file without imports is returned as it is. -/
def organizeImports (filename text : String) : Except ImportError String := do
  let pf ← match parseFile text filename with
    | .ok pf => .ok pf
    | .error f => .error (.parse f)
  let file := pf.file
  let importDecls := file.importDecls
  match importDecls.head?, importDecls.getLast? with
  | some first, some last =>
    let used := usedQualifiers file file.resolve
    let lines ← keptLines used (importDecls.flatMap (·.specs))
    let head := byteSlice text 0 first.startWithDoc
    let rest := dropLeadingLineEnds (byteSlice text last.span.stop text.utf8ByteSize)
    if lines.isEmpty then
      return if rest.isEmpty then trimBlankEnd head ++ "\n" else head ++ rest
    return head ++ renderImportBlock lines ++ "\n" ++ (if rest.isEmpty then "" else "\n" ++ rest)
  | _, _ => return text

end GoTemplates.Specialize
