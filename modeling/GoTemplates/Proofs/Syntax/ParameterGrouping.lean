import GoTemplates.Syntax.Parse
import GoTemplates.Syntax.Walk
import Mathlib.Data.String.Basic

/-! # Grouping parameter entries into fields

The parser reads a parameter list entry by entry, with one token of lookahead. An
identifier followed by `,` or `)` is a bare entry: it may be the name of a parameter or
the name of its type, and the entries after it decide. An identifier followed by `.`
starts a qualified type, and one followed by anything else is a name, its type coming
after it. `groupParams` then makes each run of bare entries the leading names of the
next entry that has a type, and each bare entry after the last such entry an unnamed
parameter of that type name.

`groupShapes` is that grouping as a recursion on the entries (`groupParams_shapes`), read
for the names, the ellipsis and the type of each field. Go reads a list in which no entry
has the form `name Type` as types, one unnamed parameter each; the grouping agrees with
that exactly when no bare entry comes before an entry with a type
(`groupParams_unnamed_iff`).
-/

namespace GoTemplates.Syntax

open GoTemplates.Source

/-- What a parameter is: its names, its ellipsis and its type. -/
abbrev ParamShape := List Ident × Option Span × TypeExpr

/-- The parameter a field declares. -/
def Field.shape (f : Field) : ParamShape := (f.names, f.ellipsis, f.type)

namespace Parser

/-- One step of the grouping, as `groupParams` folds it over the entries: the fields so
far, the names of the bare entries since the last entry with a type, and where the first
of them starts. -/
def groupStep (acc : Array Field × List Ident × Option Nat) (e : ParamEntry) :
    Array Field × List Ident × Option Nat :=
  let (out, pending, pendingStart) := acc
  match e.type with
  | some t =>
    let start := pendingStart.getD e.span.start
    let f : Field := ⟨⟨start, e.span.stop⟩, none, pending ++ e.names, e.ellipsis, t, none, none⟩
    (out.push f, [], none)
  | none =>
    let pendingStart := if pending.isEmpty then some e.span.start else pendingStart
    (out, pending ++ e.names, pendingStart)

/-- The unnamed parameter that a bare entry left at the end stands for. -/
def typeNameField (n : Ident) : Field := ⟨n.pos, none, [], none, namedOfIdent none n, none, none⟩

theorem groupParams_eq_foldl (entries : List ParamEntry) :
    groupParams entries =
      (entries.foldl groupStep (#[], [], none)).1.toList ++
        (entries.foldl groupStep (#[], [], none)).2.1.map typeNameField :=
  rfl

/-- The grouping as a recursion on the entries, after the bare names `pending`. -/
def groupShapes (pending : List Ident) : List ParamEntry → List ParamShape
  | [] => pending.map fun n => ([], none, namedOfIdent none n)
  | e :: es =>
    match e.type with
    | some t => (pending ++ e.names, e.ellipsis, t) :: groupShapes [] es
    | none => groupShapes (pending ++ e.names) es

/-- Folding from any accumulator gives its fields, then the recursion's from its pending
names. -/
theorem foldl_groupStep_shapes : ∀ (es : List ParamEntry) (out : Array Field)
    (pending : List Ident) (ps : Option Nat),
    (es.foldl groupStep (out, pending, ps)).1.toList.map Field.shape ++
        (es.foldl groupStep (out, pending, ps)).2.1.map (Field.shape ∘ typeNameField) =
      out.toList.map Field.shape ++ groupShapes pending es
  | [], out, pending, ps => by
    simp [groupShapes, Field.shape, typeNameField, Function.comp_def]
  | e :: es, out, pending, ps => by
    rw [List.foldl_cons]
    cases ht : e.type with
    | some t =>
      have hstep : groupStep (out, pending, ps) e = (out.push
          ⟨⟨ps.getD e.span.start, e.span.stop⟩, none, pending ++ e.names, e.ellipsis, t, none,
            none⟩, [], none) := by
        simp [groupStep, ht]
      rw [hstep, foldl_groupStep_shapes es]
      simp [groupShapes, ht, Field.shape]
    | none =>
      obtain ⟨ps', hstep⟩ : ∃ ps', groupStep (out, pending, ps) e = (out, pending ++ e.names, ps') :=
        ⟨_, by unfold groupStep; rw [ht]⟩
      rw [hstep, foldl_groupStep_shapes es]
      simp [groupShapes, ht]

/-- The parameters `groupParams` makes are those of the recursion. -/
theorem groupParams_shapes (entries : List ParamEntry) :
    (groupParams entries).map Field.shape = groupShapes [] entries := by
  have h := foldl_groupStep_shapes entries #[] [] none
  rw [groupParams_eq_foldl, List.map_append, List.map_map]
  simpa using h

/-- How Go reads an entry of a list without names: its type, a bare entry being the name of
a type. -/
def ParamEntry.typeShapes (e : ParamEntry) : List ParamShape :=
  match e.type with
  | some t => [([], e.ellipsis, t)]
  | none => e.names.map fun n => ([], none, namedOfIdent none n)

/-- After the bare names `pending`, the grouping reads the rest as unnamed types exactly
when no bare entry with a name comes before an entry with a type, and nothing pending does. -/
theorem groupShapes_unnamed_iff : ∀ (pending : List Ident) (es : List ParamEntry),
    (∀ e ∈ es, e.type.isSome → e.names = []) →
    (groupShapes pending es =
        pending.map (fun n => ([], none, namedOfIdent none n)) ++ es.flatMap ParamEntry.typeShapes ↔
      (pending ≠ [] → ∀ e ∈ es, e.type = none) ∧
        es.Pairwise fun b e => b.type = none → b.names ≠ [] → e.type = none)
  | pending, [], _ => by simp [groupShapes]
  | pending, e :: es, hnamed => by
    have hrest : ∀ x ∈ es, x.type.isSome → x.names = [] := fun x hx =>
      hnamed x (List.mem_cons_of_mem e hx)
    rw [List.pairwise_cons]
    cases ht : e.type with
    | some t =>
      have hnone : e.names = [] := hnamed e List.mem_cons_self (by simp [ht])
      cases pending with
      | nil =>
        -- the typed entry stands alone, as Go reads it
        simpa [groupShapes, ParamEntry.typeShapes, ht, hnone] using
          groupShapes_unnamed_iff [] es hrest
      | cons n ns =>
        -- the pending names become the typed entry's names: the first parameter is named
        simp [groupShapes, ht]
    | none =>
      -- a bare entry joins the pending names
      have ih := groupShapes_unnamed_iff (pending ++ e.names) es hrest
      simp only [groupShapes, ht, List.map_append, List.append_assoc] at ih ⊢
      rw [List.flatMap_cons, ParamEntry.typeShapes, ht, ih]
      simp only [ne_eq, List.append_eq_nil_iff, List.mem_cons, forall_eq_or_imp, ht,
        true_and]
      constructor
      · rintro ⟨hpend, hpair⟩
        exact ⟨fun hp => hpend fun h => hp h.1, fun x hx _ hn => hpend (fun h => hn h.2) x hx,
          hpair⟩
      · rintro ⟨hpend, hnames, hpair⟩
        refine ⟨fun hne => ?_, hpair⟩
        by_cases hp : pending = []
        · exact fun x hx => hnames x hx trivial fun hn => hne ⟨hp, hn⟩
        · exact hpend hp

/-- A parameter list in which no entry has the form `name Type` groups into Go's reading of
it, one unnamed parameter per type, exactly when every bare identifier comes after every
entry with a type. -/
theorem groupParams_unnamed_iff {entries : List ParamEntry}
    (hnamed : ∀ e ∈ entries, e.type.isSome → e.names = []) :
    (groupParams entries).map Field.shape = entries.flatMap ParamEntry.typeShapes ↔
      entries.Pairwise fun b e => b.type = none → b.names ≠ [] → e.type = none := by
  rw [groupParams_shapes]
  simpa using groupShapes_unnamed_iff [] entries hnamed

/-- In `func(int, *T)` no entry has the form `name Type`, so Go reads two unnamed
parameters. The bare `int` comes before the entry `*T`, and the walk of the parsed file
shows one parameter named `int` of type `*T`. An instantiated generic type `List[int]`
standing alone is read as a name and an array type, and the list does not parse. -/
theorem bare_type_name_before_typed_entry :
    ((parseFile "package p\n\nvar v func(int, *T)\n" "in.go").toOption.map fun pf =>
        pf.file.visits.map Visit.line) =
      some ["0 Root[-1] File", "1 Name[-1] Ident p", "1 Decls[0] GenDecl", "2 Specs[0] Spec",
        "3 Names[0] Ident v", "3 Type[-1] Type", "4 Type[-1] Signature", "5 Params[0] Field",
        "6 Names[0] Ident int", "6 Type[-1] Type", "7 Elt[-1] Type", "8 Name[-1] Ident T"] ∧
    ((parseFile "package p\n\nvar v func(List[int])\n" "in.go").mapError ParseFailure.message).map
        (fun _ => ()) = .error "in.go:3:21: expected type, found ')'" :=
  ⟨by decide +kernel, by decide +kernel⟩

end Parser

end GoTemplates.Syntax
