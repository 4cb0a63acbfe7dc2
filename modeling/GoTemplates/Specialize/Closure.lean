import GoTemplates.Specialize.Table
import GoTemplates.Syntax.Resolve

/-! # The dependency closure

A declaration is a dependant when an identifier inside it is bound to a
package level declaration that is retained. Starting from the placeholders,
dependants are retained until a pass over the whole table adds nothing.
A method is retained under its own name and brings its receiver type along;
any other dependant is retained with its names renamed through the replacer.
Methods of a placeholder belong to the placeholder and are never retained.

Every pass that changes anything marks a new declaration seen, so the table
size bounds the number of passes, and also the depth of adding a receiver.
-/

namespace GoTemplates.Specialize

open GoTemplates.Syntax GoTemplates.Source

/-- Registers the type declarations that have a replacement as placeholders, in
declaration order. -/
def registerPlaceholders (t : DeclTable) (replacements : List (String × Replacement))
    (ctx : Retention) : Retention :=
  t.entries.foldl (fun ctx e =>
    if e.kind != .type then ctx
    else match e.names.head? with
      | some n => match replacements.lookup n.name with
        | some r => ctx.addPlaceholder e.key n.name r
        | none => ctx
      | none => ctx) ctx

/-- Whether the occurrence at a span is bound to a package level declaration whose
entry is retained. -/
def refersToRetained (b : Bindings) (t : DeclTable) (ctx : Retention) (pos : Span) : Bool :=
  match b.lookup pos with
  | some bd =>
    bd.isPackageLevel && match (t.owner bd.key).bind t.keyAt with
      | some k => ctx.isRetained k
      | none => false
  | none => false

/-- Whether a declaration depends on a retained one; never for a placeholder's method. -/
def isDependant (b : Bindings) (t : DeclTable) (ctx : Retention) (e : TableEntry) : Bool :=
  let placeholderMethod := match e.receiver with
    | some recv => match b.lookup recv.pos with
      | some bd => ctx.isPlaceholder bd.key
      | none => false
    | none => false
  !placeholderMethod && e.site.idents.any fun id => refersToRetained b t ctx id.pos

/-- Retains an entry: a method under its own name, followed by its receiver type if
that is unseen; anything else renamed. -/
def addDependant (b : Bindings) (t : DeclTable) : Nat → Retention → Nat → Retention
  | 0, ctx, _ => ctx
  | fuel + 1, ctx, idx =>
    match t.entries[idx]? with
    | none => ctx
    | some e =>
      match e.kind, e.receiver with
      | .func, some recv =>
        let ctx := ctx.retain e.key .func
        match (b.lookup recv.pos).bind (t.owner ·.key) with
        | some o => match t.keyAt o with
          | some k => if ctx.isVisited k then ctx else addDependant b t fuel ctx o
          | none => ctx
        | none => ctx
      | _, _ => ctx.retainRenamed e.key e.kind (e.names.map fun n => (n.pos.start, n.name))

/-- One pass over the table, adding each unseen dependant as it is met; also says
whether anything was added. -/
def closurePass (b : Bindings) (t : DeclTable) (ctx : Retention) : Retention × Bool :=
  (List.range t.entries.size).foldl (fun (ctx, changed) idx =>
    match t.entries[idx]? with
    | some e =>
      if ctx.isVisited e.key || !isDependant b t ctx e then (ctx, changed)
      else (addDependant b t (t.entries.size + 1) ctx idx, true)
    | none => (ctx, changed)) (ctx, false)

/-- Passes until one adds nothing, at most `fuel` of them. -/
def closeOver (b : Bindings) (t : DeclTable) : Nat → Retention → Retention
  | 0, ctx => ctx
  | fuel + 1, ctx =>
    let (ctx, changed) := closurePass b t ctx
    if changed then closeOver b t fuel ctx else ctx

/-- The retained declarations grown to their closure. -/
def collectDependants (b : Bindings) (t : DeclTable) (ctx : Retention) : Retention :=
  closeOver b t (t.entries.size + 1) ctx

end GoTemplates.Specialize
