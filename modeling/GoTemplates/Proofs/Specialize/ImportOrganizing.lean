import GoTemplates.Proofs.Specialize.ImportNames
import Mathlib.Data.String.Basic

/-! # The text of organized imports

Reorganizing the imports of a file that parses and has import declarations reads
every import spec of those declarations in order. It fails on the first one whose
path literal does not read back (an interpreted literal with an escape other than
`\\` and `\"`). Otherwise it writes one line per kept import, each line once where it
first occurs (`List.eraseDups` of the kept lines): dot and blank imports, and imports
whose name qualifies something in the file.

The lines stand between the text before the first import declaration (its doc comment
included) and the text after the last one, less its leading line ends. One line is
written `import X`. More are written as a parenthesized block: the standard library's
lines, a blank line when both groups are present, then the others, each group a
stable sort by path. Without kept lines the two texts are joined. When nothing follows
the imports, the head is trimmed and ended by a line end.

Main statement: `organizeImports_eq_organized`.
-/

namespace GoTemplates.Specialize

open GoTemplates.Syntax GoTemplates.Template GoTemplates.Text

/-! ## First occurrences -/

section FirstOccurrences

variable {α : Type} [BEq α] [LawfulBEq α]

theorem nodup_eraseDups (xs : List α) : xs.eraseDups.Nodup := by
  match xs with
  | [] => exact List.nodup_nil
  | x :: xs =>
    rw [List.eraseDups_cons, List.nodup_cons]
    refine ⟨fun hx => ?_, nodup_eraseDups _⟩
    simp at hx
termination_by xs.length
decreasing_by exact Nat.lt_succ_of_le (List.length_filter_le _ _)

/-- Keeping first occurrences commutes with a filter. -/
theorem eraseDups_filter (p : α → Bool) (xs : List α) :
    (xs.filter p).eraseDups = xs.eraseDups.filter p := by
  match xs with
  | [] => rfl
  | x :: xs =>
    have ih := eraseDups_filter p (xs.filter fun b => !b == x)
    rw [List.eraseDups_cons]
    cases hx : p x with
    | true =>
      rw [List.filter_cons_of_pos hx, List.filter_cons_of_pos hx, List.eraseDups_cons, ← ih,
        List.filter_filter, List.filter_filter]
      simp only [Bool.and_comm]
    | false =>
      -- what passes the filter is not `x`, so taking the copies of `x` out first changes nothing
      have hdrop : (xs.filter fun b => !b == x).filter p = xs.filter p := by
        rw [List.filter_filter]
        apply List.filter_congr
        intro b _
        cases hb : p b with
        | false => simp
        | true =>
          have hbx : b ≠ x := fun h => by simp [h, hx] at hb
          simp [hbx]
      rw [List.filter_cons_of_neg (by simp [hx]), List.filter_cons_of_neg (by simp [hx]), ← ih,
        hdrop]
termination_by xs.length
decreasing_by exact Nat.lt_succ_of_le (List.length_filter_le _ _)

/-- The first occurrences of `x :: xs`: `x`, then those of `xs` other than `x`. This is
how reorganizing builds its lines, from the last spec to the first. -/
theorem eraseDups_cons_eq_erase (x : α) (xs : List α) :
    (x :: xs).eraseDups = x :: xs.eraseDups.erase x := by
  rw [List.eraseDups_cons, eraseDups_filter, (nodup_eraseDups xs).erase_eq_filter]
  rfl

end FirstOccurrences

/-! ## The kept lines -/

/-- The line an import spec is written as when it is kept: its written name, the path
its literal reads back to, and the literal. None for a spec that is no import, whose
path does not read back or that is not kept. -/
def keptImportLine (used : List String) : Spec → Option ImportLine
  | .import_ _ name lit _ => (unquote lit.value).bind fun p =>
      if importKept used name p then some ⟨writtenName name, p, lit.value⟩ else none
  | .value .. | .type .. => none

/-- The literal of the first import spec whose path does not read back. -/
def unreadablePath : List Spec → Option String
  | [] => none
  | .import_ _ _ lit _ :: specs =>
    if unquote lit.value = none then some lit.value else unreadablePath specs
  | .value .. :: specs | .type .. :: specs => unreadablePath specs

/-- Reading the specs fails on the first path that does not read back; otherwise it
gives the kept lines, each once where it first occurs. -/
theorem keptLines_eq (used : List String) (specs : List Spec) :
    keptLines used specs = match unreadablePath specs with
      | some lit => .error (.path lit)
      | none => .ok (specs.filterMap (keptImportLine used)).eraseDups := by
  induction specs with
  | nil => rfl
  | cons s specs ih =>
    cases s with
    | import_ doc name lit cm =>
      rw [keptLines_import]
      cases hp : unquote lit.value with
      | none => simp [unreadablePath, hp]
      | some p =>
        simp only [unreadablePath, hp, reduceCtorEq, if_false, ih]
        cases unreadablePath specs with
        | some lit' => rfl
        | none =>
          -- a kept line goes first, and its later copies are dropped
          cases hk : importKept used name p with
          | false => simp [Except.map, keptImportLine, hp, hk]
          | true => simp [Except.map, keptImportLine, hp, hk, eraseDups_cons_eq_erase]
    | value _ _ _ _ _ _ | type _ _ _ _ _ _ =>
      simpa [keptLines, unreadablePath, keptImportLine, List.filterMap_cons] using ih

/-! ## The names in use -/

/-- A name qualifies something in a file: it is the package of a qualified type, or an
identifier that is the base of a selector and that no binding resolves. -/
def Qualifies (file : SourceFile) (bindings : Bindings) (n : String) : Prop :=
  ∃ v ∈ file.visits, (∃ p, v.qualifier = .typePackage p ∧ p.name = n) ∨
    ∃ b, v.qualifier = .selectorBase b ∧ bindings.lookup b.pos = none ∧ b.name = n

theorem mem_usedQualifiers (file : SourceFile) (bindings : Bindings) (n : String) :
    n ∈ usedQualifiers file bindings ↔ Qualifies file bindings n := by
  simp only [usedQualifiers, List.mem_filterMap, Qualifies]
  refine exists_congr fun v => and_congr_right fun _ => ?_
  cases v.qualifier with
  | none => simp
  | selectorBase b => cases h : bindings.lookup b.pos <;> simp [h]
  | typePackage p => simp

/-! ## The import block -/

/-- `sorted` is `lines` sorted by path, the lines of one path in their order. -/
structure SortedByPath (sorted lines : List ImportLine) : Prop where
  perm : sorted.Perm lines
  pairwise : sorted.Pairwise fun a b => a.path ≤ b.path
  stable : ∀ p, sorted.filter (·.path == p) = lines.filter (·.path == p)

theorem sortByPath_sortedByPath (lines : List ImportLine) :
    SortedByPath (sortByPath lines) lines := by
  have trans : ∀ a b c : ImportLine, decide (a.path ≤ b.path) = true →
      decide (b.path ≤ c.path) = true → decide (a.path ≤ c.path) = true := by
    intro a b c hab hbc
    simp only [decide_eq_true_eq] at hab hbc ⊢
    exact le_trans hab hbc
  have total : ∀ a b : ImportLine,
      (decide (a.path ≤ b.path) || decide (b.path ≤ a.path)) = true := by
    intro a b
    simpa using le_total a.path b.path
  have hperm : (sortByPath lines).Perm lines := List.mergeSort_perm _ _
  refine ⟨hperm, (List.pairwise_mergeSort trans total lines).imp (by simp), fun p => ?_⟩
  -- the lines of one path are sorted already, so the sort keeps them as a sublist, and
  -- being as many they are all of the sorted lines of that path
  have hsame : (lines.filter (·.path == p)).Pairwise
      fun a b => decide (a.path ≤ b.path) = true := by
    refine List.pairwise_of_forall_mem_list fun a ha b hb => ?_
    simp only [List.mem_filter, beq_iff_eq] at ha hb
    simp [ha.2, hb.2]
  have hsub : (lines.filter (·.path == p)).Sublist ((sortByPath lines).filter (·.path == p)) := by
    have h := (List.sublist_mergeSort trans total hsame List.filter_sublist).filter (·.path == p)
    rwa [List.filter_filter, List.filter_congr (fun a _ => Bool.and_self _)] at h
  exact (hsub.eq_of_length (hperm.filter _).length_eq.symm).symm

/-- One line of a parenthesized import declaration. -/
def importRow (l : ImportLine) : String := "\t" ++ l.render ++ "\n"

/-- The import declaration of `lines`: `import X` for one line; for more, a parenthesized
block of one line each, those of the standard library sorted by path, a blank line when
both groups are present, then the others sorted by path. -/
def ImportBlock : List ImportLine → String → Prop
  | [only], block => block = "import " ++ only.render
  | lines, block => ∃ std other, SortedByPath std (lines.filter (·.isStd)) ∧
      SortedByPath other (lines.filter (!·.isStd)) ∧
      block = "import (\n" ++ String.join (std.map importRow) ++
        (if std ≠ [] ∧ other ≠ [] then "\n" else "") ++ String.join (other.map importRow) ++ ")"

theorem importBlock_renderImportBlock (lines : List ImportLine) :
    ImportBlock lines (renderImportBlock lines) := by
  match lines with
  | [only] => rfl
  | [] | _ :: _ :: _ =>
    refine ⟨_, _, sortByPath_sortedByPath _, sortByPath_sortedByPath _, ?_⟩
    delta importRow
    simp [renderImportBlock]

/-! ## The organized text -/

/-- The text reorganizing writes around the kept lines: their import declaration between
the head and the rest, with a blank line before a rest; without lines, head and rest
joined, or the head trimmed and ended by a line end when no rest follows. -/
def Organized (head rest : String) : List ImportLine → String → Prop
  | [], out => out = if rest.isEmpty then trimBlankEnd head ++ "\n" else head ++ rest
  | line :: lines, out => ∃ block, ImportBlock (line :: lines) block ∧
      out = head ++ block ++ "\n" ++ if rest.isEmpty then "" else "\n" ++ rest

theorem organized_stitched (head rest : String) (lines : List ImportLine) :
    Organized head rest lines
      (if lines.isEmpty then (if rest.isEmpty then trimBlankEnd head ++ "\n" else head ++ rest)
        else head ++ renderImportBlock lines ++ "\n" ++
          (if rest.isEmpty then "" else "\n" ++ rest)) := by
  cases lines with
  | nil => rfl
  | cons line lines => exact ⟨_, importBlock_renderImportBlock _, rfl⟩

/-- Reorganizing a file that parses and has import declarations fails on the first
path of an import that does not read back. Otherwise it writes the kept lines, each once
where it first occurs, as one import declaration between the text before the first
declaration of imports and the text after the last: a line is kept for a dot or a
blank import, or when the name the import is known by qualifies something in the file. -/
theorem organizeImports_eq_organized {filename text : String} {pf : ParsedFile}
    (hparse : parseFile text filename = .ok pf) (hne : pf.file.importDecls ≠ []) :
    let specs := pf.file.importDecls.flatMap (·.specs)
    let used := usedQualifiers pf.file pf.file.resolve
    let head := byteSlice text 0 (pf.file.importDecls.head hne).startWithDoc
    let rest := dropLeadingLineEnds
      (byteSlice text (pf.file.importDecls.getLast hne).span.stop text.utf8ByteSize)
    (∀ n, n ∈ used ↔ Qualifies pf.file pf.file.resolve n) ∧
    match unreadablePath specs with
    | some lit => organizeImports filename text = .error (.path lit)
    | none => ∃ out, organizeImports filename text = .ok out ∧
        Organized head rest (specs.filterMap (keptImportLine used)).eraseDups out := by
  intro specs used head rest
  refine ⟨mem_usedQualifiers pf.file pf.file.resolve, ?_⟩
  have hfirst : pf.file.importDecls.head? = some (pf.file.importDecls.head hne) :=
    List.head?_eq_some_head hne
  have hlast : pf.file.importDecls.getLast? = some (pf.file.importDecls.getLast hne) :=
    List.getLast?_eq_some_getLast hne
  simp only [organizeImports, hparse, hfirst, hlast, keptLines_eq, bind, Except.bind, pure,
    Except.pure]
  cases unreadablePath specs with
  | some lit => simp only
  | none =>
    simp only
    exact ⟨_, (apply_ite Except.ok _ _ _).symm, organized_stitched head rest _⟩

/-- A parse that evaluates to a file with import declarations. -/
theorem exists_parsed_of_imports (text filename : String)
    (h : ((parseFile text filename).toOption.map fun pf => pf.file.importDecls.isEmpty) =
      some false) :
    ∃ pf, parseFile text filename = .ok pf ∧ pf.file.importDecls ≠ [] := by
  cases hp : parseFile text filename with
  | error f => simp [hp, Except.toOption] at h
  | ok pf => exact ⟨pf, rfl, by simpa [hp, Except.toOption] using h⟩

/-- A file importing `os`, `fmt` and `example.com/x`, of which it uses the last two. -/
theorem three_imports_organized :
    let text := "package p\n\nimport (\n\t\"os\"\n\t\"fmt\"\n\t\"example.com/x\"\n)\n\n" ++
      "func f() { fmt.Println(x.Y) }\n"
    ∃ pf, parseFile text "in.go" = .ok pf ∧ ∃ hne : pf.file.importDecls ≠ [],
      let specs := pf.file.importDecls.flatMap (·.specs)
      let used := usedQualifiers pf.file pf.file.resolve
      let head := byteSlice text 0 (pf.file.importDecls.head hne).startWithDoc
      let rest := dropLeadingLineEnds
        (byteSlice text (pf.file.importDecls.getLast hne).span.stop text.utf8ByteSize)
      (∀ n, n ∈ used ↔ Qualifies pf.file pf.file.resolve n) ∧
      match unreadablePath specs with
      | some lit => organizeImports "in.go" text = .error (.path lit)
      | none => ∃ out, organizeImports "in.go" text = .ok out ∧
          Organized head rest (specs.filterMap (keptImportLine used)).eraseDups out := by
  dsimp only
  refine (exists_parsed_of_imports _ _ ?_).elim fun pf h =>
    ⟨pf, h.1, h.2, organizeImports_eq_organized h.1 h.2⟩
  decide +kernel

/-- A file that parses and imports a path written with the escape `\n`: the path does
not read back, so the file's imports are not reorganized. -/
theorem escaped_import_path_unorganized :
    (∃ pf, parseFile "package p\n\nimport \"a\\n\"\n" "in.go" = .ok pf ∧
      pf.file.importDecls ≠ []) ∧
    (organizeImports "in.go" "package p\n\nimport \"a\\n\"\n").mapError ImportError.message =
      .error "could not unquote import path \"a\\n\"" :=
  ⟨exists_parsed_of_imports _ _ (by decide +kernel), by decide +kernel⟩

/-- Reorganizing its own result can fail. The rest after the last import declaration is cut
where that declaration ends, so a `;` written after it on the same line opens the rest, which
the layout puts after a blank line; there the `;` stands where a declaration is expected. -/
theorem reorganizing_semicolon_rest_fails :
    (organizeImports "in.go" "package p; import \"fmt\"; func f() { fmt.Println() }").mapError
        ImportError.message = .ok "package p; import \"fmt\"\n\n; func f() { fmt.Println() }" ∧
    (organizeImports "in.go" "package p; import \"fmt\"\n\n; func f() { fmt.Println() }").mapError
        ImportError.message =
      .error "generated code does not parse: in.go:3:1: expected declaration, found newline or ';'" :=
  ⟨by decide +kernel, by decide +kernel⟩

end GoTemplates.Specialize
