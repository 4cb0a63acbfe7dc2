import GoTemplates.Text.Replace
import GoTemplates.Text.CaseMap
import Std.Data.TreeMap
import Std.Data.TreeSet

/-! # Specialization state

Declarations are identified by the offset of their defining identifier, value
specs by their first name. A run keeps which declarations are retained and
with what kind, which are placeholders, what each renamed declaration is
written as, which declarations the closure has seen, and the replacer that
renames names and comments.

A placeholder `P` replaced by a type named `N` contributes two pairs to the
replacer, in the order placeholders are declared: `p` to `n` and `P` to `N`
(first letters lowered, then raised), so that `zeroNumber` becomes `zeroInt64`
and `NumberDAO` becomes `Int64DAO`.
-/

namespace GoTemplates.Specialize

open GoTemplates.Text

/-- The kind of a top level declaration; output is written in this order. -/
inductive DeclKind where
  | type | const | var | func
  deriving DecidableEq, Repr, Inhabited

/-- The position of a kind in the output order. -/
def DeclKind.rank : DeclKind → Nat
  | .type => 0 | .const => 1 | .var => 2 | .func => 3

/-- What references to a retained declaration become. -/
inductive Replacement where
  /-- A plain identifier of the generated package. -/
  | ident (name : String)
  /-- The concrete type standing in for a placeholder, qualified by a package name
  unless it is local, predeclared or dot-imported. -/
  | concrete (qualifier : Option String) (name : String) (pointer : Bool)
  deriving DecidableEq, Repr, Inhabited

namespace Replacement

/-- The name written at a defining occurrence. -/
def name : Replacement → String
  | .ident n | .concrete _ n _ => n

/-- The package qualifier, if any. -/
def qualifier : Replacement → Option String
  | .ident _ => none
  | .concrete q _ _ => q

/-- Whether the replacement is a pointer type. -/
def pointer : Replacement → Bool
  | .ident _ => false
  | .concrete _ _ p => p

/-- Whether the replacement is a bare identifier, which can take the place of a
name without changing the node around it. -/
def isIdent (r : Replacement) : Bool := r.qualifier.isNone && !r.pointer

end Replacement

/-- The state of one specialization run. -/
structure Retention where
  retained : Std.TreeMap Nat DeclKind := {}
  placeholders : Std.TreeSet Nat := {}
  renames : Std.TreeMap Nat Replacement := {}
  visited : Std.TreeSet Nat := {}
  replacer : Replacer := Replacer.empty

namespace Retention

/-- Records a placeholder type: its name pairs join the replacer, and it is retained
(so that references to it make dependants), renamed, and seen. -/
def addPlaceholder (ctx : Retention) (key : Nat) (placeholder : String)
    (r : Replacement) : Retention :=
  let replacer := (ctx.replacer.push (lowerFirst placeholder) (lowerFirst r.name)).push
    (upperFirst placeholder) (upperFirst r.name)
  { retained := ctx.retained.insert key .type
    placeholders := ctx.placeholders.insert key
    renames := ctx.renames.insert key r
    visited := ctx.visited.insert key
    replacer }

/-- Retains a declaration without renaming it. -/
def retain (ctx : Retention) (key : Nat) (kind : DeclKind) : Retention :=
  { ctx with retained := ctx.retained.insert key kind, visited := ctx.visited.insert key }

/-- Retains a declaration and renames each of its names through the replacer. -/
def retainRenamed (ctx : Retention) (key : Nat) (kind : DeclKind)
    (names : List (Nat × String)) : Retention :=
  let ctx := ctx.retain key kind
  names.foldl (fun ctx (nameKey, n) =>
    { ctx with renames := ctx.renames.insert nameKey (.ident (ctx.replacer.apply n)) }) ctx

/-- Drops the placeholders from the retained declarations once renaming is planned. -/
def prunePlaceholders (ctx : Retention) : Retention :=
  { ctx with retained := ctx.retained.filter fun key _ => !ctx.placeholders.contains key }

/-- Whether a declaration is retained. -/
def isRetained (ctx : Retention) (key : Nat) : Bool := ctx.retained.contains key

/-- Whether a declaration is a placeholder. -/
def isPlaceholder (ctx : Retention) (key : Nat) : Bool := ctx.placeholders.contains key

/-- Whether the closure has seen a declaration. -/
def isVisited (ctx : Retention) (key : Nat) : Bool := ctx.visited.contains key

/-- What a declaration is renamed to. -/
def renameOf (ctx : Retention) (key : Nat) : Option Replacement := ctx.renames[key]?

end Retention

end GoTemplates.Specialize
