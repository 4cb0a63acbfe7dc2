import GoTemplates.Printer.Nodes

/-! # Printing a file

A file is its doc comment, the package clause and the declarations. Two line
ends separate the package clause from the first declaration, and a declaration
from one of another keyword or with a doc comment; otherwise one, or two where
the layout shows a blank line between them.
-/

namespace GoTemplates.Syntax

open GoTemplates.Source GoTemplates.Printer PrintM

/-- Prints a function or method declaration. -/
def FuncDecl.print (f : FuncDecl) : PrintM Unit := do
  printDoc f.doc
  w "func "
  match f.recv with
  | some r => do
    w "("
    match r.name with
    | some n => do w n.name; w " "
    | none => pure ()
    r.type.print
    w ") "
  | none => pure ()
  w f.name.name
  match f.typeParams with
  | some tp => tp.print
  | none => pure ()
  f.signature.print
  match f.body with
  | some ⟨lb, stmts, rb⟩ => do
    w " "
    funcBodyLayout lb rb stmts.length (renderStmts stmts) (stmtList none stmts)
  | none => pure ()

/-- The keyword of a top level declaration, where it starts (with its doc), where it
ends, and whether it has a doc comment. -/
def TopDecl.extent : TopDecl → String × Span × Span × Bool
  | .gen d => (d.kind.keyword, Spec.extent.coverDoc d.doc d.span, d.span, d.doc.isSome)
  | .func f => ("func", Spec.extent.coverDoc f.doc f.span, f.span, f.doc.isSome)

/-- Prints a top level declaration. -/
def TopDecl.print : TopDecl → PrintM Unit
  | .gen d => d.print
  | .func f => f.print

/-- Prints a whole file, ending with a line end. -/
def SourceFile.print (f : SourceFile) : PrintM Unit := do
  printDoc f.doc
  w "package "
  w f.name.name
  let mut prev : Option (String × Span) := none
  for d in f.decls do
    let (cls, start, stop, hasDoc) := d.extent
    let newlines ← match prev with
      | none => pure 2
      | some (prevCls, prevEnd) => gap prevEnd start (if prevCls != cls || hasDoc then 2 else 1)
    for _ in List.range newlines do nl
    d.print
    prev := some (cls, stop)
  nl

end GoTemplates.Syntax

namespace GoTemplates.Printer

open GoTemplates.Syntax

/-- The text of a file in a layout. -/
def printFile (f : SourceFile) (layout : Layout) : Except PrintError String :=
  (f.print.run { layout }).map (·.2.out)

end GoTemplates.Printer
