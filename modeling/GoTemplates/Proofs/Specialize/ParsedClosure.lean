import GoTemplates.Proofs.Specialize.ClosureRun
import GoTemplates.Proofs.Syntax.DeclaredNames
import Mathlib.Data.List.Flatten

/-! # The closure over a parsed file

The declaration table of a parsed file lists each name the file declares once,
since the parser reads the names from distinct identifier tokens. So the table
is well formed, and registering the placeholders and growing the closure over
it ends in the least closed set of entries, with the renames the closure
promises.
-/

namespace GoTemplates.Specialize

open GoTemplates.Syntax

namespace DeclTable

/-- Keeping some specs, each as an entry with the spec's names, keeps the names in order. -/
theorem filterMap_positions_sublist {F : Spec → Option TableEntry}
    (hF : ∀ s e, F s = some e → e.positions = s.nameStarts) (specs : List Spec) :
    ((specs.filterMap F).flatMap TableEntry.positions).Sublist
      (specs.flatMap Spec.nameStarts) := by
  induction specs with
  | nil => exact List.Sublist.slnil
  | cons s specs ih =>
    rw [List.filterMap_cons, List.flatMap_cons]
    cases hs : F s with
    | none => exact ih.trans (List.sublist_append_right _ _)
    | some e =>
      rw [List.flatMap_cons, hF s e hs]
      exact ih.append_left _

/-- A general declaration's entries name its type and value specs' names. -/
theorem groupEntries_positions_sublist (g : GenDecl) :
    ((groupEntries g).flatMap TableEntry.positions).Sublist g.nameStarts := by
  unfold groupEntries GenDecl.nameStarts
  split
  · exact List.nil_sublist _
  all_goals
    refine filterMap_positions_sublist (fun s e h => ?_) _
    -- an entry names what its spec declares
    cases s <;> dsimp only at h
    case import_ => cases h
    case type => cases h; rfl
    case value => split at h <;> cases h; rfl

theorem declEntries_positions_sublist (d : TopDecl) :
    ((declEntries d).flatMap TableEntry.positions).Sublist d.nameStarts := by
  cases d with
  | gen g => exact groupEntries_positions_sublist g
  | func f => simp [declEntries, funcEntry, TableEntry.positions, TopDecl.nameStarts]

theorem positions_foldl_add (es : List TableEntry) (t : DeclTable) :
    (es.foldl add t).positions = t.positions ++ es.flatMap TableEntry.positions := by
  induction es generalizing t with
  | nil => simp
  | cons e es ih => simp [ih, positions_add]

/-- The names of a file's table are among the names its declarations declare, in order. -/
theorem collect_positions_sublist (file : SourceFile) :
    (collect file).positions.Sublist (file.decls.flatMap TopDecl.nameStarts) := by
  rw [collect_eq, positions_foldl_add, List.flatMap_assoc]
  simpa [positions] using
    List.Sublist.flatMap_right _ fun d _ => declEntries_positions_sublist d

/-- The table of a parsed file is well formed. -/
theorem collect_wellFormed_of_parse {src filename : String} {pf : ParsedFile}
    (h : parseFile src filename = .ok pf) : (collect pf.file).WellFormed := by
  have hlt := (parseFile_nameStarts_pairwise h).sublist (collect_positions_sublist pf.file)
  exact collect_wellFormed _ (hlt.imp Nat.ne_of_lt)

end DeclTable

/-- For every parsed file and every replacement table, registering the placeholders and
growing the closure retains exactly the least set of entries closed under the three
rules; a method is never renamed, every other retained entry but a placeholder has each of
its names renamed through the replacer, and pruning drops exactly the placeholders. -/
theorem retained_least_closed {src filename : String} {pf : ParsedFile}
    (h : parseFile src filename = .ok pf) (reps : List (String × Replacement)) :
    let t := DeclTable.collect pf.file
    let ctx := registerPlaceholders t reps {}
    ClosureOutcome pf.file.resolve t reps ctx.replacer (collectDependants pf.file.resolve t ctx) :=
  collectDependants_outcome (DeclTable.collect_wellFormed_of_parse h)

/-- A template with one placeholder type and a variable of it parses, and its closure has
the outcome above. -/
theorem retained_least_closed_placeholder :
    ∃ pf, parseFile "package p\n\ntype T struct{}\n\nvar x = T{}\n" "t.go" = .ok pf ∧
      let t := DeclTable.collect pf.file
      let reps := [("T", Replacement.concrete (some "q") "T" true)]
      let ctx := registerPlaceholders t reps {}
      ClosureOutcome pf.file.resolve t reps ctx.replacer
        (collectDependants pf.file.resolve t ctx) := by
  have hok : (parseFile "package p\n\ntype T struct{}\n\nvar x = T{}\n" "t.go").isOk = true := by
    decide +kernel
  cases h : parseFile "package p\n\ntype T struct{}\n\nvar x = T{}\n" "t.go" with
  | error e => simp [h, Except.isOk, Except.toBool] at hok
  | ok pf => exact ⟨pf, rfl, retained_least_closed h _⟩

end GoTemplates.Specialize
