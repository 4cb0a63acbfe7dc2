import GoTemplates.Syntax.Walk
import GoTemplates.Specialize.Context

/-! # The declaration table

The top level declarations the closure runs over, in source order: each spec
of a `type`, `const` or `var` declaration on its own, and each function and
method. Each entry knows its kind, where it is, its names, the base type name
of a method receiver, and its doc comment: the spec's own, or its group's.
The table also maps every declared name to the entry declaring it.
-/

namespace GoTemplates.Specialize

open GoTemplates.Syntax GoTemplates.Source

/-- Where a top level declaration is: a spec with its group, or a function. -/
inductive DeclSite where
  | spec (group : GenDecl) (spec : Spec)
  | func (f : FuncDecl)

/-- Every node of a declaration's subtree in pre-order. -/
def DeclSite.visits : DeclSite → List Visit
  | .spec _ s => s.visits 0 (.one .root)
  | .func f => f.visits 0 (.one .root)

/-- The identifiers of a declaration's subtree: names, and identifier expressions. -/
def DeclSite.idents (site : DeclSite) : List Ident :=
  site.visits.filterMap (·.ident)

/-- One top level declaration. -/
structure TableEntry where
  kind : DeclKind
  site : DeclSite
  /-- The offset of the first defining name. -/
  key : Nat
  names : List Ident
  /-- The base type name of a method receiver. -/
  receiver : Option Ident
  /-- The spec's own doc comment, or its group's. -/
  doc : Option CommentGroup

/-- The top level declarations in source order, and the entry of each declared name. -/
structure DeclTable where
  entries : Array TableEntry := #[]
  owners : Std.TreeMap Nat Nat := {}

/-- `T` in `T`, `*T`, `(T)` and `T[P]`. -/
def receiverBase : TypeExpr → Option Ident
  | .pointer _ _ elem => receiverBase elem
  | .paren _ _ t _ => receiverBase t
  | .named _ none name _ _ _ => some name
  | _ => none

namespace DeclTable

/-- Adds an entry and its names. -/
def add (t : DeclTable) (e : TableEntry) : DeclTable :=
  let idx := t.entries.size
  { entries := t.entries.push e
    owners := e.names.foldl (fun m n => m.insert n.pos.start idx) t.owners }

/-- The entries of one general declaration, one per type or value spec. -/
def groupEntries (g : GenDecl) : List TableEntry :=
  let kind? : Option DeclKind := match g.kind with
    | .import_ => none
    | .type => some .type
    | .const => some .const
    | .var => some .var
  match kind? with
  | none => []
  | some kind => g.specs.filterMap fun s =>
    let names := match s with
      | .type _ name .. => [name]
      | .value _ names .. => names
      | .import_ .. => []
    match names with
    | [] => none
    | first :: _ => some ⟨kind, .spec g s, first.pos.start, names, none, s.doc.or g.doc⟩

/-- The entry of a function or method. -/
def funcEntry (f : FuncDecl) : TableEntry :=
  ⟨.func, .func f, f.name.pos.start, [f.name], f.recv.bind (receiverBase ·.type), f.doc⟩

/-- The table of a file. -/
def collect (file : SourceFile) : DeclTable :=
  file.decls.foldl (fun t d => match d with
    | .func f => t.add (funcEntry f)
    | .gen g => (groupEntries g).foldl add t) {}

/-- The entry that declares the name at an offset. -/
def owner (t : DeclTable) (key : Nat) : Option Nat := t.owners[key]?

/-- The key of an entry. -/
def keyAt (t : DeclTable) (idx : Nat) : Option Nat := (t.entries[idx]?).map (·.key)

end DeclTable

end GoTemplates.Specialize
