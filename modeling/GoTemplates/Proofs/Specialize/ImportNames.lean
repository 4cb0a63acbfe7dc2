import GoTemplates.Specialize.Generate

/-! # The names imports are known by

Each mapped type of another package is written with a qualifier, and the plan relies
on an import of the package for it: one of the input, or one the output adds.
Reorganizing the generated imports knows an import by its explicit name or, when it
has none, by the name assumed from its path, and keeps it only when that name
qualifies something.

So the import the plan relies on survives in every file that uses the qualifier
exactly when it is written with a name or the qualifier is the assumed name
(`qualifier_import_kept_iff`). For an unaliased package the plan writes the last path
element, which the assumed name skips when it is a major version (`.../pgx/v5` is
known as `pgx`) and cuts at a dot or a dash: there the import is lost.
-/

namespace GoTemplates.Specialize

open GoTemplates.Syntax GoTemplates.Template

/-! ## Which imports reorganizing keeps -/

/-- The name reorganizing the imports knows an import by: its explicit name, or the
name assumed from its path; none for a dot or blank import. -/
def knownName : Option ImportName → String → Option String
  | some (.name id), _ => some id.name
  | none, path => some (assumedPackageName path)
  | some (.dot _), _ | some (.blank _), _ => none

/-- Whether reorganizing keeps an import, given the names that qualify something: a
dot or blank import always, another when the name it is known by is among them. -/
def importKept (used : List String) (name : Option ImportName) (path : String) : Bool :=
  match knownName name path with
  | some n => used.contains n
  | none => true

/-- The name an import line is written with: an alias, `.` or `_`. -/
def writtenName : Option ImportName → Option String
  | some (.dot _) => some "."
  | some (.blank _) => some "_"
  | some (.name id) => some id.name
  | none => none

/-- One import spec read by reorganizing: its path is unquoted, and its line is kept
when the import is. -/
theorem keptLines_import (used : List String) (doc : Option CommentGroup)
    (name : Option ImportName) (lit : StringLit) (cm : Option CommentGroup)
    (specs : List Spec) :
    keptLines used (.import_ doc name lit cm :: specs) =
      match unquote lit.value with
      | none => .error (.path lit.value)
      | some p => (keptLines used specs).map fun rest =>
          let line : ImportLine := ⟨writtenName name, p, lit.value⟩
          if importKept used name p then line :: rest.erase line else rest := by
  cases hp : unquote lit.value with
  | none => simp only [keptLines, hp]; rfl
  | some p =>
    rcases name with _ | _ | _ | _ <;>
      simp [keptLines, hp, bind, Except.bind, pure, Except.pure, Except.map, importKept,
        knownName, writtenName]

theorem mem_keep_iff {α : Type} [DecidableEq α] {line l : α} {rest : List α}
    {kept : Bool} :
    l ∈ (if kept then line :: rest.erase line else rest) ↔
      (kept ∧ l = line) ∨ l ∈ rest := by
  cases kept with
  | false => simp
  | true =>
    by_cases hl : l = line
    · simp [hl]
    · simp [hl, List.mem_erase_of_ne hl]

theorem nodup_keep {α : Type} [DecidableEq α] {line : α} {rest : List α} (kept : Bool)
    (h : rest.Nodup) : (if kept then line :: rest.erase line else rest).Nodup := by
  cases kept with
  | false => simpa using h
  | true => simpa using ⟨h.not_mem_erase, h.erase line⟩

/-- Reorganizing writes the line of each kept import, once: an import spec whose path
reads back and that `importKept` keeps. -/
theorem keptLines_spec {used : List String} {specs : List Spec} {lines : List ImportLine}
    (h : keptLines used specs = .ok lines) :
    lines.Nodup ∧ ∀ l : ImportLine, l ∈ lines ↔ ∃ doc name lit cm,
      Spec.import_ doc name lit cm ∈ specs ∧ l = ⟨writtenName name, l.path, lit.value⟩ ∧
        unquote lit.value = some l.path ∧ importKept used name l.path = true := by
  induction specs generalizing lines with
  | nil =>
    obtain rfl : lines = [] := by simpa [keptLines] using h.symm
    simp
  | cons s specs ih =>
    cases s with
    | import_ doc name lit cm =>
      rw [keptLines_import] at h
      cases hp : unquote lit.value with
      | none => simp [hp] at h
      | some p =>
        cases hr : keptLines used specs with
        | error e => simp [hp, hr, Except.map] at h
        | ok rest =>
          simp only [hp, hr, Except.map, Except.ok.injEq] at h
          subst h
          obtain ⟨hnodup, hmem⟩ := ih hr
          refine ⟨nodup_keep _ hnodup, fun l => ?_⟩
          -- the spec at the head is the first disjunct, the rest come from the tail
          have hhead :
              (importKept used name p = true ∧ l = ⟨writtenName name, p, lit.value⟩) ↔
              (l = ⟨writtenName name, l.path, lit.value⟩ ∧ unquote lit.value = some l.path ∧
                importKept used name l.path = true) := by
            rw [hp]
            constructor
            · rintro ⟨hk, rfl⟩
              exact ⟨rfl, rfl, hk⟩
            · rintro ⟨hl, hpl, hk⟩
              obtain rfl : p = l.path := Option.some.inj hpl
              exact ⟨hk, hl⟩
          rw [mem_keep_iff, hmem, hhead]
          constructor
          · rintro (hl | ⟨d, n, li, c, hin, hl⟩)
            · exact ⟨doc, name, lit, cm, List.mem_cons_self, hl⟩
            · exact ⟨d, n, li, c, List.mem_cons_of_mem _ hin, hl⟩
          · rintro ⟨d, n, li, c, hin, hl⟩
            rcases List.mem_cons.mp hin with heq | hin
            · obtain ⟨rfl, rfl, rfl, rfl⟩ := Spec.import_.inj heq
              exact .inl hl
            · exact .inr ⟨d, n, li, c, hin, hl⟩
    | value _ _ _ _ _ _ | type _ _ _ _ _ _ =>
      obtain ⟨hnodup, hmem⟩ := ih h
      exact ⟨hnodup, fun l => by simp [hmem]⟩

/-! ## The import a qualifier relies on -/

/-- An import the output adds, as the name it is written with and its path. -/
def NewImport.declared (n : NewImport) : Option ImportName × String :=
  (if n.named then some (.name (freshIdent n.localName)) else none, n.path)

/-- The imports of the output's import declaration (`importDecl`), as names and paths:
those added, then the input's. -/
def declaredImports (injected : List NewImport) (imported : List Imported) :
    List (Option ImportName × String) :=
  injected.map NewImport.declared ++ imported.map fun i => (i.name, i.path)

/-- Each import of `declaredImports` is a spec of the output's import declaration, written
with its name and a literal of its path: the quoted path of an added import, the input's
own literal otherwise. -/
theorem importDecl_declares (injected : List NewImport) (imported : List Imported)
    {d : Option ImportName × String} (hd : d ∈ declaredImports injected imported) :
    ∃ g, importDecl injected imported = some (.gen g) ∧ ∃ lit,
      Spec.import_ none d.1 lit none ∈ g.specs ∧
        (lit.value = quote d.2 ∨ ∃ i ∈ imported, lit = i.literal ∧ i.path = d.2) := by
  let added := injected.map fun n =>
    Spec.import_ none (if n.named then some (.name (freshIdent n.localName)) else none)
      ⟨quote n.path, Source.Span.none⟩ none
  let kept := imported.map fun i => Spec.import_ none i.name i.literal none
  -- the declaration holds the specs of both lists, and the lists are not both empty
  have hdecl :
      importDecl injected imported = some (.gen (freshDecl .import_ none (added ++ kept))) := by
    have hne : added ++ kept ≠ [] := by
      simp only [declaredImports, List.mem_append, List.mem_map] at hd
      rcases hd with ⟨n, hn, -⟩ | ⟨i, hi, -⟩
      · simp [added, List.ne_nil_of_mem hn]
      · simp [kept, List.ne_nil_of_mem hi]
    simp only [importDecl]
    split
    · next h => exact absurd h hne
    · rfl
  refine ⟨_, hdecl, ?_⟩
  simp only [declaredImports, List.mem_append, List.mem_map] at hd
  rcases hd with ⟨n, hn, rfl⟩ | ⟨i, hi, rfl⟩
  · refine ⟨⟨quote n.path, Source.Span.none⟩, ?_, .inl rfl⟩
    exact List.mem_append_left _ (List.mem_map.mpr ⟨n, hn, rfl⟩)
  · refine ⟨i.literal, ?_, .inr ⟨i, hi, rfl, rfl⟩⟩
    exact List.mem_append_right _ (List.mem_map.mpr ⟨i, hi, rfl⟩)

/-- Whether an import is a dot import, whose names are used unqualified. -/
def Imported.isDot (i : Imported) : Bool :=
  match i.name with
  | some (.dot _) => true
  | _ => false

/-- An import provides the qualifier `q` of a package as the plan sees it: it imports
the package and is written with the name `q`, or with no name. -/
def Provides (q path : String) : Option ImportName × String → Prop
  | (some (.name id), p) => p = path ∧ id.name = q
  | (none, p) => p = path
  | (some (.dot _), _) | (some (.blank _), _) => False

/-- The qualifier `q` the plan gives a mapped type `c`: none exactly for a type of the
generated package or of a package that the input dot-imports, and otherwise a name
that an import of the package in the output provides. -/
structure QualifierPlanned (imported : List Imported) (injected : List NewImport)
    (c : ConcreteType) (q : Option String) : Prop where
  none_iff : q = none ↔ (c.hasImport = false ∨
    (imported.find? fun i => i.path == c.pkgPath && !i.isBlank).any Imported.isDot = true)
  provided : ∀ name, q = some name →
    ∃ d ∈ declaredImports injected imported, Provides name c.pkgPath d

/-- Adding imports keeps every import the plan relied on. -/
theorem QualifierPlanned.mono {imported : List Imported} {injected injected' : List NewImport}
    {c : ConcreteType} {q : Option String} (h : QualifierPlanned imported injected c q)
    (hpre : injected <+: injected') : QualifierPlanned imported injected' c q := by
  refine ⟨h.none_iff, fun name hq => ?_⟩
  obtain ⟨d, hd, hprov⟩ := h.provided name hq
  refine ⟨d, ?_, hprov⟩
  simp only [declaredImports, List.mem_append] at hd ⊢
  exact hd.imp_left ((hpre.map NewImport.declared).subset ·)

/-- An added import provides the name it was added under. -/
theorem NewImport.provides (n : NewImport) : Provides n.localName n.path n.declared := by
  cases h : n.named <;> simp [NewImport.declared, Provides, h, freshIdent]

/-- The qualifier of one mapped type of another package, and the imports after it. -/
theorem qualifierFor_planned (c : ConcreteType) (imported : List Imported)
    (injected : List NewImport) (hc : c.hasImport = true) :
    injected <+: (qualifierFor c imported injected).2 ∧
      QualifierPlanned imported (qualifierFor c imported injected).2 c
        (qualifierFor c imported injected).1 := by
  unfold qualifierFor
  cases hf : imported.find? (fun i => i.path == c.pkgPath && !i.isBlank) with
  | some i =>
    -- the input's first usable import of the package is reused
    have hsel : i.path = c.pkgPath ∧ i.isBlank = false := by simpa using List.find?_some hf
    have hd : (i.name, i.path) ∈ declaredImports injected imported := by
      simp only [declaredImports, List.mem_append, List.mem_map]
      exact .inr ⟨i, List.mem_of_find?_eq_some hf, rfl⟩
    refine ⟨List.prefix_refl _, ?_⟩
    -- the qualifier is the import's name, none for a dot import, the alias if unnamed
    rcases hname : i.name with _ | ⟨_ | _ | id⟩
    · refine ⟨by simp [hc, hf, Imported.isDot, hname], fun name hq => ?_⟩
      obtain rfl : c.packageAlias = name := by simpa [hname] using hq
      exact ⟨_, hd, by simpa [Provides, hname] using hsel.1⟩
    · exact ⟨by simp [hf, Imported.isDot, hname], by simp [hname]⟩
    · simp [Imported.isBlank, hname] at hsel
    · refine ⟨by simp [hc, hf, Imported.isDot, hname], fun name hq => ?_⟩
      obtain rfl : id.name = name := by simpa [hname] using hq
      exact ⟨_, hd, by simpa [Provides, hname] using hsel.1⟩
  | none =>
    cases hn : injected.find? (·.path == c.pkgPath) with
    | some n =>
      -- an import added for an earlier type of the package is reused
      have hpath : n.path = c.pkgPath := by simpa using List.find?_some hn
      refine ⟨List.prefix_refl _, by simp [hc, hf], ?_⟩
      rintro name ⟨⟩
      refine ⟨n.declared, ?_, hpath ▸ n.provides⟩
      simp only [declaredImports, List.mem_append, List.mem_map]
      exact .inl ⟨n, List.mem_of_find?_eq_some hn, rfl⟩
    | none =>
      -- the package is imported anew, under its alias
      refine ⟨List.prefix_append _ _, by simp [hc, hf], ?_⟩
      rintro name ⟨⟩
      let n : NewImport := ⟨c.pkgPath, c.packageAlias,
        c.isAliasedImport && c.packageAlias != lastPathElement c.pkgPath⟩
      refine ⟨n.declared, ?_, n.provides⟩
      show n.declared ∈ declaredImports (injected ++ [n]) imported
      exact List.mem_append_left _ (List.mem_map_of_mem (by simp))

/-- One entry of the plan: its replacement is appended and its import added. -/
def planStep (imported : List Imported) :
    List (String × Replacement) × List NewImport → String × ConcreteType →
      List (String × Replacement) × List NewImport
  | (rs, injected), (placeholder, c) =>
    let (q, injected) :=
      if c.hasImport then qualifierFor c imported injected else (none, injected)
    (rs ++ [(placeholder, .concrete q c.typeName c.isPointer)], injected)

theorem planImports_eq_foldl (m : TypeMapping) (imported : List Imported) :
    planImports m imported = m.entries.foldl (planStep imported) ([], []) := rfl

/-- One entry of the plan appends a replacement of the entry's type, with a planned
qualifier, and only adds imports. -/
theorem planStep_planned (imported : List Imported) (rs : List (String × Replacement))
    (injected : List NewImport) (x : String) (c : ConcreteType) :
    ∃ q injected', planStep imported (rs, injected) (x, c) =
        (rs ++ [(x, .concrete q c.typeName c.isPointer)], injected') ∧
      injected <+: injected' ∧ QualifierPlanned imported injected' c q := by
  cases hc : c.hasImport with
  | false =>
    refine ⟨none, injected, by simp [planStep, hc], List.prefix_refl _, by simp [hc], ?_⟩
    rintro name ⟨⟩
  | true =>
    obtain ⟨hpre, hplanned⟩ := qualifierFor_planned c imported injected hc
    exact ⟨_, _, by simp [planStep, hc], hpre, hplanned⟩

/-- The plan of a list of entries, from any start: the replacements already made are
kept, one is appended per entry in order, and each entry's qualifier is planned
against the imports at the end. -/
theorem foldl_planStep (imported : List Imported) (es : List (String × ConcreteType))
    (rs : List (String × Replacement)) (injected : List NewImport) :
    let plan := es.foldl (planStep imported) (rs, injected)
    injected <+: plan.2 ∧ ∃ new, plan.1 = rs ++ new ∧ new.length = es.length ∧
      ∀ (k : Nat) (x : String) (c : ConcreteType), es[k]? = some (x, c) → ∃ q,
        new[k]? = some (x, Replacement.concrete q c.typeName c.isPointer) ∧
          QualifierPlanned imported plan.2 c q := by
  induction es generalizing rs injected with
  | nil => exact ⟨List.prefix_refl _, [], by simp, rfl, by simp⟩
  | cons e es ih =>
    obtain ⟨x, c⟩ := e
    obtain ⟨q, injected', hstep, hpre, hplanned⟩ := planStep_planned imported rs injected x c
    obtain ⟨hpre', new, hnew, hlen, hk⟩ :=
      ih (rs ++ [(x, .concrete q c.typeName c.isPointer)]) injected'
    simp only [List.foldl_cons, hstep]
    refine ⟨hpre.trans hpre', (x, .concrete q c.typeName c.isPointer) :: new,
      by simp [hnew], by simp [hlen], ?_⟩
    -- the head entry is planned by this step, the others by the rest of the fold
    rintro (_ | k) x' c' he
    · obtain ⟨rfl, rfl⟩ : x = x' ∧ c = c' := by simpa using he
      exact ⟨q, rfl, hplanned.mono hpre'⟩
    · exact hk k x' c' he

/-- The plan of a mapping: one replacement per entry, in order, of the entry's type,
with a planned qualifier. -/
theorem planImports_planned (m : TypeMapping) (imported : List Imported) :
    (planImports m imported).1.length = m.entries.length ∧
      ∀ (k : Nat) (x : String) (c : ConcreteType), m.entries[k]? = some (x, c) → ∃ q,
        (planImports m imported).1[k]? = some (x, Replacement.concrete q c.typeName c.isPointer) ∧
          QualifierPlanned imported (planImports m imported).2 c q := by
  obtain ⟨-, new, hnew, hlen, hk⟩ := foldl_planStep imported m.entries [] []
  rw [planImports_eq_foldl, hnew]
  exact ⟨by simpa using hlen, by simpa using hk⟩

/-! ## When the import survives -/

/-- The exact condition: the import that provides a qualifier is kept in every file
that uses the qualifier exactly when it is written with a name or the qualifier is the
name assumed from the package's path. -/
theorem provides_kept_iff {q path : String} {d : Option ImportName × String}
    (h : Provides q path d) :
    (∀ used : List String, q ∈ used → importKept used d.1 d.2 = true) ↔
      (d.1.isSome ∨ q = assumedPackageName path) := by
  obtain ⟨name, p⟩ := d
  rcases name with _ | ⟨_ | _ | id⟩
  · -- unnamed: known by the assumed name, which must be the qualifier
    obtain rfl : p = path := h
    simp only [importKept, knownName, List.contains_iff_mem, Option.isSome_none,
      Bool.false_eq_true, false_or]
    constructor
    · intro hall
      exact (List.mem_singleton.mp (hall [q] (List.mem_singleton_self q))).symm
    · rintro rfl used hq
      exact hq
  · exact absurd h id
  · exact absurd h id
  · -- named: known by its name, which is the qualifier
    obtain ⟨rfl, rfl⟩ := h
    simp [importKept, knownName]

/-- The import each qualifier relies on: for an entry of a mapping that the plan writes
with a qualifier, the output declares an import of the entry's package that provides
the qualifier, and reorganizing keeps that import in every file that uses the
qualifier exactly when it is written with a name or the qualifier is the name assumed
from the path. -/
theorem qualifier_import_kept_iff (m : TypeMapping) (imported : List Imported) {k : Nat}
    {x : String} {c : ConcreteType} {r : Replacement} {q : String}
    (he : m.entries[k]? = some (x, c)) (hr : (planImports m imported).1[k]? = some (x, r))
    (hq : r.qualifier = some q) :
    ∃ d ∈ declaredImports (planImports m imported).2 imported, Provides q c.pkgPath d ∧
      ((∀ used : List String, q ∈ used → importKept used d.1 d.2 = true) ↔
        (d.1.isSome ∨ q = assumedPackageName c.pkgPath)) := by
  obtain ⟨-, hplan⟩ := planImports_planned m imported
  obtain ⟨q', hr', hplanned⟩ := hplan k x c he
  -- the replacement at the entry's position is the planned one
  obtain rfl : r = .concrete q' c.typeName c.isPointer := by simpa [hr] using hr'
  obtain ⟨d, hd, hprov⟩ := hplanned.provided q hq
  exact ⟨d, hd, hprov, provides_kept_iff hprov⟩

/-- The plan for a type of `github.com/jackc/pgx/v5` relies on the import it adds, with
no name, for the qualifier `v5`; the path's assumed name is `pgx`. -/
theorem versioned_path_qualifier_provider :
    let c : ConcreteType :=
      { pkgPath := "github.com/jackc/pgx/v5", packageAlias := "v5", typeName := "Conn" }
    let m : TypeMapping := ⟨[("T", c)]⟩
    m.entries[0]? = some ("T", c) ∧
      (planImports m []).1[0]? = some ("T", .concrete (some "v5") "Conn" false) ∧
      ∃ d ∈ declaredImports (planImports m []).2 [], Provides "v5" c.pkgPath d ∧
        ((∀ used : List String, "v5" ∈ used → importKept used d.1 d.2 = true) ↔
          (d.1.isSome ∨ "v5" = assumedPackageName c.pkgPath)) := by
  intro c m
  have hr : (planImports m []).1[0]? = some ("T", .concrete (some "v5") "Conn" false) := by
    decide
  exact ⟨rfl, hr, qualifier_import_kept_iff m [] rfl hr rfl⟩

/-- The mapping `T=github.com/jackc/pgx/v5.Conn` qualifies the type by `v5` and adds the
package's import with no name; reorganizing knows that import as `pgx` and drops it
from a file that uses only `v5`. -/
theorem versioned_path_import_dropped :
    ∃ c, ConcreteType.parse "github.com/jackc/pgx/v5.Conn" = .ok c ∧
      (planImports ⟨[("T", c)]⟩ []).1 = [("T", .concrete (some "v5") "Conn" false)] ∧
      declaredImports (planImports ⟨[("T", c)]⟩ []).2 [] =
        [(none, "github.com/jackc/pgx/v5")] ∧
      importKept ["v5"] none "github.com/jackc/pgx/v5" = false :=
  ⟨_, rfl, by decide, rfl, by decide⟩

end GoTemplates.Specialize
