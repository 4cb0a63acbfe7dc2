import Std.Data.HashMap

/-! # Interning strings

Identifiers, literal texts and comment texts are interned: each distinct string gets
one symbol, its index among the strings interned so far, and two occurrences are the
same identifier exactly when their symbols are equal.

A string is found through buckets keyed by a hash of it. The hash function is drawn at
random for each interner; here it is any function, so strings whose hashes collide share
a bucket and are told apart by comparing them. A bucket lists the symbols of its strings
in the order they were interned.
-/

namespace GoTemplates.Syntax

/-- An interned string: its index among the strings interned so far. -/
@[ext] structure Symbol where
  index : Nat
  deriving DecidableEq, Repr

/-- The strings by symbol, and the symbols by the hash of their string. -/
structure Interner where
  /-- The hash function the buckets are keyed by. -/
  hash : String → UInt64
  strings : Array String := #[]
  buckets : Std.HashMap UInt64 (Array Symbol) := {}

namespace Interner

/-- An interner with nothing interned. -/
def new (hash : String → UInt64) : Interner := { hash }

/-- Whether a symbol stands for the string `s`. -/
def names (t : Interner) (s : String) (sym : Symbol) : Bool :=
  t.strings[sym.index]? == some s

/-- The symbol of `s`; a string not yet interned is added under the next index and to
the bucket of its hash. -/
def intern (t : Interner) (s : String) : Symbol × Interner :=
  let h := t.hash s
  let entry := t.buckets.getD h #[]
  match entry.find? (t.names s) with
  | some sym => (sym, t)
  | none =>
    let sym : Symbol := ⟨t.strings.size⟩
    (sym, { t with strings := t.strings.push s, buckets := t.buckets.insert h (entry.push sym) })

/-- The symbol of `s` if it was interned, without interning it. -/
def get (t : Interner) (s : String) : Option Symbol :=
  t.buckets[t.hash s]?.bind fun entry => entry.find? (t.names s)

/-- The string of a symbol; a symbol the interner never handed out stands for the empty
string. -/
def resolve (t : Interner) (sym : Symbol) : String :=
  t.strings.getD sym.index ""

/-- Interns the strings one after another, giving the symbol of each. -/
def internAll (t : Interner) : List String → List Symbol × Interner
  | [] => ([], t)
  | s :: ss =>
    let (sym, t) := t.intern s
    let (syms, t) := t.internAll ss
    (sym :: syms, t)

end Interner

end GoTemplates.Syntax
