import GoTemplates.Text.IdentClass
import GoTemplates.Text.Quoted
import GoTemplates.Text.Blank
import GoTemplates.Text.Split

/-! # Type mappings

A type mapping pairs placeholder type names with the concrete types that
replace them, written `Placeholder=Concrete,...`. A concrete type is one of

* `Name`, a type of the package being generated;
* `import/path.Name`, whose package name is the last element of the path;
* `("import/path")alias.Name`, with the package name spelled out;

each optionally preceded by `*` for a pointer to it. Reading a concrete type
and writing it back are inverse on what reading accepts.
-/

namespace GoTemplates.Template

open GoTemplates.Text

/-- The type that replaces one placeholder. -/
structure ConcreteType where
  /-- Import path of the defining package, empty for the package being generated. -/
  pkgPath : String := ""
  /-- The name the package is referred to by. -/
  packageAlias : String := ""
  typeName : String
  isPointer : Bool := false
  /-- The package name was written out with the `("path")alias.Name` form. -/
  isAliasedImport : Bool := false
  deriving Repr, BEq, Inhabited

/-- Why a concrete type specification is refused. -/
inductive ConcreteTypeError where
  | typeName (name : String) (offset : Nat)
  | packageName (name : String) (offset : Nat)
  | unclosed (spec : String)
  | emptyPath (spec : String)
  deriving Repr, BEq

namespace ConcreteTypeError

/-- The message of a refused specification. -/
def message : ConcreteTypeError → String
  | typeName n o => s!"invalid type: {quoted n} (at {o})"
  | packageName n o => s!"invalid package name: {quoted n} (at {o})"
  | unclosed s => s!"invalid type specification {quoted s}: missing closing \")"
  | emptyPath s => s!"invalid type specification {quoted s}: empty import path"

end ConcreteTypeError

namespace ConcreteType

/-- The type names an import. -/
def hasImport (t : ConcreteType) : Bool := !t.pkgPath.isEmpty

/-- Checks the type name, then a nonempty package name, against the identifier grammar. -/
def validate (t : ConcreteType) : Except ConcreteTypeError ConcreteType :=
  match identifierFault t.typeName with
  | some o => .error (.typeName t.typeName o)
  | none =>
    if t.packageAlias.isEmpty then .ok t
    else match identifierFault t.packageAlias with
      | some o => .error (.packageName t.packageAlias o)
      | none => .ok t

/-- Reads a concrete type specification. -/
def parse (spec : String) : Except ConcreteTypeError ConcreteType :=
  let (isPointer, s) := match spec.toList with
    | '*' :: rest => (true, rest)
    | cs => (false, cs)
  match splitLast? ['.'] s with
  | none => validate { typeName := String.ofList s, isPointer }
  | some (pkg, name) =>
    let parts : Except ConcreteTypeError (List Char × List Char × Bool) :=
      match dropPrefix? ['(', '"'] pkg with
      | some quotedPart =>
        match splitLast? ['"', ')'] quotedPart with
        | some (path, pkgName) => .ok (path, pkgName, true)
        | none => .error (.unclosed spec)
      | none =>
        match splitLast? ['/'] pkg with
        | some (_, pkgName) => .ok (pkg, pkgName, false)
        | none => .ok (pkg, pkg, false)
    match parts with
    | .error e => .error e
    | .ok (path, pkgName, aliased) =>
      if path.isEmpty then .error (.emptyPath spec)
      else validate
        { pkgPath := String.ofList path, packageAlias := String.ofList pkgName,
          typeName := String.ofList name, isPointer, isAliasedImport := aliased }

/-- Writes a concrete type the way a specification spells it. -/
def render (t : ConcreteType) : String :=
  let star := if t.isPointer then "*" else ""
  let pkg :=
    if t.isAliasedImport then "(\"" ++ t.pkgPath ++ "\")" ++ t.packageAlias ++ "."
    else if t.hasImport then t.pkgPath ++ "."
    else ""
  star ++ pkg ++ t.typeName

end ConcreteType

/-- Why a type mapping is refused. -/
inductive MappingError where
  | malformed (pair : String)
  | placeholder (pair name : String)
  | duplicate (name : String)
  | concrete (pair : String) (cause : ConcreteTypeError)
  deriving Repr, BEq

namespace MappingError

/-- The message of a refused mapping. -/
def message : MappingError → String
  | malformed p => s!"invalid mapping {quoted p}, expected Type=ConcreteType"
  | placeholder p n => s!"invalid mapping {quoted p}, {quoted n} is not a valid identifier"
  | duplicate n => s!"duplicate mapping for template type {n}"
  | concrete p e => s!"in mapping {quoted p}: {e.message}"

end MappingError

/-- Placeholder names with their concrete types, in the order given. -/
structure TypeMapping where
  entries : List (String × ConcreteType)
  deriving Inhabited

namespace TypeMapping

/-- The concrete type of a placeholder. -/
def find? (m : TypeMapping) (placeholder : String) : Option ConcreteType :=
  (m.entries.find? (·.1 == placeholder)).map (·.2)

/-- Adds a placeholder that is not mapped yet. -/
def insert (m : TypeMapping) (placeholder : String) (t : ConcreteType) :
    Except MappingError TypeMapping :=
  if (m.find? placeholder).isSome then .error (.duplicate placeholder)
  else .ok ⟨m.entries ++ [(placeholder, t)]⟩

/-- Reads one trimmed `Placeholder=Concrete` pair into the mapping. -/
def addPair (m : TypeMapping) (pair : String) : Except MappingError TypeMapping :=
  match splitFirst? '=' pair.toList with
  | none => .error (.malformed pair)
  | some (name, spec) =>
    let name := String.ofList name
    if !isIdentifier name then .error (.placeholder pair name)
    else match ConcreteType.parse (String.ofList spec) with
      | .error e => .error (.concrete pair e)
      | .ok t => m.insert name t

/-- Reads a comma separated list of pairs, each trimmed of white space. -/
def parse (s : String) : Except MappingError TypeMapping :=
  ((s.toList.splitOn ',').map fun p => trimBlank (String.ofList p)).foldlM addPair ⟨[]⟩

end TypeMapping

end GoTemplates.Template
