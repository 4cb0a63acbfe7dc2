import GoTemplates.Specialize.Closure
import GoTemplates.Specialize.Rename
import GoTemplates.Specialize.Imports
import GoTemplates.Template.Mapping
import GoTemplates.Template.ImportPath
import GoTemplates.Syntax.Parse
import GoTemplates.Printer.File

/-! # Generating a specialized file

Specializing a Go file for a type mapping writes a new file that holds the
declarations depending on the mapped placeholder types, renamed for the
concrete types, and nothing else:

1. the file is parsed and its import paths are read;
2. each concrete type is given a qualifier: the local name of an import of its
   package if the file has one, else the package alias, importing the package;
3. placeholders are registered and the closure of their dependants computed;
4. the retained declarations are renamed and written as types, constants,
   variables and functions, each group in source order, each spec as its own
   declaration under the import declaration;
5. the file is printed canonically and its imports organized.
-/

namespace GoTemplates.Specialize

open GoTemplates.Syntax GoTemplates.Source GoTemplates.Template GoTemplates.Printer

/-- Why a file could not be specialized. -/
inductive SpecializeError where
  | parse (failure : ParseFailure)
  | importPath (literal : String)
  | print (e : PrintError)
  | imports (e : ImportError)

/-- The message of a specialization error. -/
def SpecializeError.message : SpecializeError → String
  | .parse f => "parsing file failed: " ++ f.message
  | .importPath l => "could not unquote import path " ++ l
  | .print e => "printing file failed: " ++ e.message
  | .imports e => "formatting file failed: " ++ e.message

/-- Options of a run: the package clause of the output, and whether it starts with
the generated code header. -/
structure Options where
  packageName : Option String := none
  header : Bool := false

/-- The first line of a generated file when the header is asked for. -/
def generatedHeader : String := "// Code generated by reify. DO NOT EDIT."

/-- An import of the input file with its unquoted path. -/
structure Imported where
  name : Option ImportName
  literal : StringLit
  path : String

/-- Whether an import is a blank import, which makes none of the package's names usable. -/
def Imported.isBlank (i : Imported) : Bool :=
  match i.name with
  | some (.blank _) => true
  | _ => false

/-- An import the output needs and the input lacks. -/
structure NewImport where
  path : String
  /-- The name the package is referred to by. -/
  localName : String
  /-- Whether the local name is written as the import's name. -/
  named : Bool

/-- The imports of a file, in order; an import path that does not unquote is an error. -/
def importsOf (file : SourceFile) : Except SpecializeError (List Imported) :=
  file.decls.foldlM (fun acc d => match d with
    | .gen g => g.specs.foldlM (fun acc s => match s with
      | .import_ _ name lit _ => match unquote lit.value with
        | some path => .ok (acc ++ [⟨name, lit, path⟩])
        | none => .error (.importPath lit.value)
      | _ => .ok acc) acc
    | .func _ => .ok acc) []

/-- The last element of an import path. -/
def lastPathElement (path : String) : String :=
  ((path.splitOn "/").getLast?).getD path

/-- The qualifier of a concrete type with an import path, and the imports to add:
an existing usable import's local name (none for a dot import), else the local name
of an import already added, else the package alias, adding the import. -/
def qualifierFor (c : ConcreteType) (imported : List Imported) (injected : List NewImport) :
    Option String × List NewImport :=
  match imported.find? (fun i => i.path == c.pkgPath && !i.isBlank) with
  | some i =>
    let q := match i.name with
      | some (.dot _) => none
      | some (.name n) => some n.name
      | _ => some c.packageAlias
    (q, injected)
  | none =>
    match injected.find? (·.path == c.pkgPath) with
    | some n => (some n.localName, injected)
    | none =>
      let named := c.isAliasedImport && c.packageAlias != lastPathElement c.pkgPath
      (some c.packageAlias, injected ++ [⟨c.pkgPath, c.packageAlias, named⟩])

/-- The replacement of each placeholder, in mapping order, and the imports to add. -/
def planImports (m : TypeMapping) (imported : List Imported) :
    List (String × Replacement) × List NewImport :=
  m.entries.foldl (fun (rs, injected) (placeholder, c) =>
    let (q, injected) := if c.hasImport then qualifierFor c imported injected else (none, injected)
    (rs ++ [(placeholder, .concrete q c.typeName c.isPointer)], injected)) ([], [])

/-- The retained entries in output order: by kind, then by source position. -/
def keptEntries (t : DeclTable) (ctx : Retention) : List TableEntry :=
  (t.entries.toList.filter (ctx.isRetained ·.key)).mergeSort fun a b =>
    a.kind.rank < b.kind.rank || (a.kind.rank == b.kind.rank && a.key ≤ b.key)

/-- A declaration made by the specializer, with no position and no parentheses of its own. -/
def freshDecl (kind : SpecKind) (doc : Option CommentGroup) (specs : List Spec) : GenDecl :=
  ⟨Span.none, doc, Span.none, kind, none, specs, none⟩

/-- The import declaration of the output: the added imports, then the input's, without
their comments; none if there are no imports at all. -/
def importDecl (injected : List NewImport) (imported : List Imported) : Option TopDecl :=
  let added := injected.map fun n =>
    Spec.import_ none (if n.named then some (.name (freshIdent n.localName)) else none)
      ⟨quote n.path, Span.none⟩ none
  let kept := imported.map fun i => Spec.import_ none i.name i.literal none
  match added ++ kept with
  | [] => none
  | specs => some (.gen (freshDecl .import_ none specs))

/-- The output declaration of a retained entry: a function as it is, a spec as a
declaration of its own carrying the entry's doc. -/
def outputDecl (ρ : Renaming) (e : TableEntry) : TopDecl :=
  match e.site with
  | .func f => .func (ρ.funcDecl f)
  | .spec g s => .gen (freshDecl g.kind (ρ.optGroup e.doc) [ρ.spec (s.withDoc none)])

/-- The output file. -/
def assemble (ρ : Renaming) (name : Ident) (kept : List TableEntry)
    (injected : List NewImport) (imported : List Imported) : SourceFile :=
  let imports := (importDecl injected imported).toList
  { doc := none, packagePos := Span.none, name, decls := imports ++ kept.map (outputDecl ρ),
    comments := [] }

/-- Specializes a Go file for a type mapping. The file name only appears in error
messages. -/
def specialize (src filename : String) (mapping : TypeMapping) (opts : Options) :
    Except SpecializeError String := do
  let parsed ← (parseFile src filename).mapError .parse
  let file := parsed.file
  let imported ← importsOf file
  let (replacements, injected) := planImports mapping imported
  let bindings := file.resolve
  let table := DeclTable.collect file
  let ctx := collectDependants bindings table (registerPlaceholders table replacements {})
  let ρ : Renaming := ⟨bindings, ctx⟩
  let kept := keptEntries table ctx.prunePlaceholders
  let name := (opts.packageName.map freshIdent).getD file.name
  let out := assemble ρ name kept injected imported
  let printed ← (printFile out .canonical).mapError .print
  let organized ← (organizeImports filename printed).mapError .imports
  return if opts.header then generatedHeader ++ "\n\n" ++ organized else organized

end GoTemplates.Specialize
