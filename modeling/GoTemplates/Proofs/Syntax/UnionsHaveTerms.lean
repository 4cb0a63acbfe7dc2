import GoTemplates.Proofs.Syntax.ParsedUnions
import GoTemplates.Syntax.Parse

/-! # Every union the parser builds has a term

A union is built in one place only, `constraint`, from the terms `unionTerms` collected,
and `unionTerms` takes a term before it looks for a `|`. Every other production builds
its result from what the productions it calls returned, and from tokens. So every result
of every production satisfies `NonemptyUnions`, by induction on the step bound
(`unionsHaveTerms`), and so does every parsed file (`parseFile_nonemptyUnions`).

`Gives m P` says that whatever `m` succeeds with satisfies `P`; it ignores the state, as
the property is one of the trees alone.
-/

namespace GoTemplates.Syntax

open GoTemplates.Source

/-! ## The property on lists -/

namespace NonemptyUnions

/-- A property given by recursion on a list holds of every element. -/
theorem iff_forall {α : Type} {L : List α → Prop} {p : α → Prop} (hnil : L [])
    (hcons : ∀ x l, L (x :: l) ↔ p x ∧ L l) : ∀ l, L l ↔ ∀ x ∈ l, p x
  | [] => by simp [hnil]
  | x :: l => by rw [hcons, iff_forall hnil hcons l, List.forall_mem_cons]

theorem push_of_iff {α : Type} {L : List α → Prop} {p : α → Prop} (hL : ∀ l, L l ↔ ∀ x ∈ l, p x)
    {acc : Array α} {x : α} (hacc : L acc.toList) (hx : p x) : L (acc.push x).toList := by
  rw [hL] at hacc ⊢
  intro y hy
  rw [Array.toList_push, List.mem_append, List.mem_singleton] at hy
  rcases hy with hy | rfl
  · exact hacc y hy
  · exact hx

theorem exprs_iff : ∀ l, exprs l ↔ ∀ e ∈ l, expr e := iff_forall trivial fun _ _ => Iff.rfl
theorem terms_iff : ∀ l, terms l ↔ ∀ t ∈ l, term t := iff_forall trivial fun _ _ => Iff.rfl
theorem typeExprs_iff : ∀ l, typeExprs l ↔ ∀ t ∈ l, typeExpr t :=
  iff_forall trivial fun _ _ => Iff.rfl
theorem interfaceElems_iff : ∀ l, interfaceElems l ↔ ∀ e ∈ l, interfaceElem e :=
  iff_forall trivial fun _ _ => Iff.rfl
theorem keyedElements_iff : ∀ l, keyedElements l ↔ ∀ e ∈ l, keyedElement e :=
  iff_forall trivial fun _ _ => Iff.rfl
theorem stmts_iff : ∀ l, stmts l ↔ ∀ s ∈ l, stmt s := iff_forall trivial fun _ _ => Iff.rfl
theorem switchClauses_iff : ∀ l, switchClauses l ↔ ∀ c ∈ l, switchClause c :=
  iff_forall trivial fun _ _ => Iff.rfl
theorem commClauses_iff : ∀ l, commClauses l ↔ ∀ c ∈ l, commClause c :=
  iff_forall trivial fun _ _ => Iff.rfl
theorem specList_iff : ∀ l, specList l ↔ ∀ s ∈ l, spec s := iff_forall trivial fun _ _ => Iff.rfl
theorem unionTerms_iff : ∀ l, unionTerms l ↔ ∀ u ∈ l, typeExpr u.type :=
  iff_forall trivial fun ⟨_, _⟩ _ => Iff.rfl
theorem fields_iff : ∀ l, fields l ↔ ∀ f ∈ l, typeExpr f.type :=
  iff_forall trivial fun ⟨_, _, _, _, _, _, _⟩ _ => Iff.rfl
theorem typeParamDecls_iff : ∀ l, typeParamDecls l ↔ ∀ d ∈ l, typeExpr d.constraint :=
  iff_forall trivial fun ⟨_, _, _⟩ _ => Iff.rfl
theorem typeCases_iff : ∀ l, typeCases l ↔ ∀ c ∈ l, typeCases [c] :=
  iff_forall trivial fun c _ => by cases c <;> simp [typeCases]

/-- What a simple statement turned out to be has unions with terms. -/
def simpleResult : Parser.SimpleResult → Prop
  | .stmt s => simpleStmt s
  | .range lhs _ x => optRangeLhs lhs ∧ expr x
  | .label .. => True

/-- What stands between the brackets of an index or slice has unions with terms. -/
def indexInner : (Option Expr × Option Expr × Option Expr) ⊕ List Term → Prop
  | .inl (lo, hi, mx) => optExpr lo ∧ optExpr hi ∧ optExpr mx
  | .inr args => terms args

/-- The communication of a select case has unions with terms. -/
def commStmt : (Expr × Span × Expr) ⊕ (Option RangeLhs × Expr) → Prop
  | .inl (ch, _, v) => expr ch ∧ expr v
  | .inr (lhs, x) => optRangeLhs lhs ∧ expr x

/-- A parameter entry's type, if it has one, has unions with terms. -/
def paramEntry (e : Parser.ParamEntry) : Prop := optType e.type

end NonemptyUnions

open NonemptyUnions

/-! ## Trees made from trees -/

mutual

/-- An expression read as a type keeps its unions. -/
theorem Expr.toType?_nonemptyUnions : ∀ (e : Expr) {t : TypeExpr}, NonemptyUnions.expr e →
    e.toType? = some t → NonemptyUnions.typeExpr t
  | .ident _ _, _, _, h => by cases h; trivial
  | .selector _ x _ _, _, _, h => by cases x <;> cases h <;> trivial
  | .index _ _ _ args _, _, ⟨_, ha⟩, h => by
    simp only [Expr.toType?] at h
    -- the base is a name or a qualified name; anything else is no type
    split at h <;> simp only [Option.bind_eq_bind, Option.bind_some, Option.bind_none,
      Option.bind_eq_some_iff, Option.some.injEq, reduceCtorEq] at h
    all_goals
      obtain ⟨types, htypes, rfl⟩ := h
      exact termsToTypes?_nonemptyUnions args ha htypes
  | .unary _ op _ x, _, hx, h => by
    cases op
    case deref =>
      simp only [Expr.toType?, Option.bind_eq_bind, Option.bind_eq_some_iff, Option.some.injEq] at h
      obtain ⟨elem, helem, rfl⟩ := h
      exact Expr.toType?_nonemptyUnions x (t := elem) hx helem
    all_goals cases h
  | .paren _ _ x _, _, hx, h => by
    simp only [Expr.toType?, Option.bind_eq_bind, Option.bind_eq_some_iff, Option.some.injEq] at h
    obtain ⟨t, ht, rfl⟩ := h
    exact Expr.toType?_nonemptyUnions x (t := t) hx ht
  | .basicLit .., _, _, h | .funcLit .., _, _, h | .compositeLit .., _, _, h | .slice .., _, _, h
  | .typeAssert .., _, _, h | .call .., _, _, h | .binary .., _, _, h => by cases h

/-- Index arguments read as types keep their unions. -/
theorem termsToTypes?_nonemptyUnions : ∀ (ts : List Term) {types : List TypeExpr},
    NonemptyUnions.terms ts → termsToTypes? ts = some types → NonemptyUnions.typeExprs types
  | [], _, _, h => by cases h; trivial
  | .type t :: ts, _, ⟨ht, hts⟩, h => by
    simp only [termsToTypes?, Option.map_eq_some_iff] at h
    obtain ⟨rest, hrest, rfl⟩ := h
    exact ⟨ht, termsToTypes?_nonemptyUnions ts hts hrest⟩
  | .expr e :: ts, _, ⟨he, hts⟩, h => by
    simp only [termsToTypes?, Option.bind_eq_bind, Option.bind_eq_some_iff, Option.some.injEq] at h
    obtain ⟨t, ht, rest, hrest, rfl⟩ := h
    exact ⟨Expr.toType?_nonemptyUnions e he ht, termsToTypes?_nonemptyUnions ts hts hrest⟩

end

/-- A fold keeps a property that each of its steps keeps. -/
theorem foldl_keeps {α β : Type} {f : β → α → β} {I : β → Prop} {p : α → Prop}
    (hf : ∀ b x, I b → p x → I (f b x)) :
    ∀ (l : List α) (b : β), I b → (∀ x ∈ l, p x) → ∀ r, l.foldl f b = r → I r
  | [], _, hb, _, _, hr => hr ▸ hb
  | x :: l, b, hb, hl, r, hr =>
    foldl_keeps hf l (f b x) (hf b x hb (hl x List.mem_cons_self))
      (fun y hy => hl y (List.mem_cons_of_mem _ hy)) r hr

/-- Grouping parameter entries into fields keeps the unions of their types. -/
theorem fields_groupParams {entries : List Parser.ParamEntry} (h : ∀ e ∈ entries, paramEntry e) :
    NonemptyUnions.fields (Parser.groupParams entries) := by
  unfold Parser.groupParams
  dsimp only
  rw [fields_iff, List.forall_mem_append]
  refine ⟨?_, ?_⟩
  · -- every field the fold makes takes the type of an entry
    refine foldl_keeps
      (I := fun acc : Array Field × List Ident × Option Nat => ∀ f ∈ acc.1.toList, typeExpr f.type)
      ?_ entries _ (by simp) h _ rfl
    intro acc e hacc he
    split
    · next t ht =>
      intro f hf
      rw [Array.toList_push, List.mem_append, List.mem_singleton] at hf
      rcases hf with hf | rfl
      · exact hacc f hf
      · unfold paramEntry at he
        rw [ht] at he
        exact he
    · exact hacc
  · -- the lone names at the end are named types
    simp only [List.mem_map]
    rintro _ ⟨n, -, rfl⟩
    trivial

/-- The operand of a type switch keeps the unions of the statement it was read from. -/
theorem expr_of_typeSwitchGuard {s : SimpleStmt} {bind : Option Ident} {dp : Option Span} {x : Expr}
    {dotPos lp rp : Span} (hs : NonemptyUnions.simpleStmt s)
    (h : Parser.typeSwitchGuard? s = some (bind, dp, x, dotPos, lp, rp)) : NonemptyUnions.expr x := by
  unfold Parser.typeSwitchGuard? at h
  split at h
  · next e =>
    cases e <;> simp only [Option.map_eq_some_iff, reduceCtorEq, false_and, exists_false] at h
    rename_i t _
    cases t <;> simp only [Option.some.injEq, Prod.mk.injEq, reduceCtorEq, false_and,
      exists_false] at h
    obtain ⟨_, rfl, -, -, rfl, -⟩ := h
    exact hs.1
  · next name op v =>
    cases v <;> simp only [Option.map_eq_some_iff, reduceCtorEq, false_and, exists_false] at h
    rename_i t _
    cases t <;> simp only [Option.some.injEq, Prod.mk.injEq, reduceCtorEq, false_and,
      exists_false] at h
    obtain ⟨_, rfl, -, -, rfl, -⟩ := h
    exact hs.1.1
  · cases h

theorem spec_withComment {s : Spec} (c : Option CommentGroup) (hs : NonemptyUnions.spec s) :
    NonemptyUnions.spec (s.withComment c) := by
  cases s <;> exact hs

/-! ## Results of parser steps -/

namespace ParseM

/-- Whatever `m` succeeds with satisfies `P`. -/
def Gives {α : Type} (m : ParseM α) (P : α → Prop) : Prop :=
  ∀ ⦃st : ParseState⦄ ⦃a : α⦄ ⦃st' : ParseState⦄, m.run st = .ok (a, st') → P a

section Gives

variable {α β : Type} {P : β → Prop}

theorem Gives.bind {m : ParseM α} {Q : α → Prop} {k : α → ParseM β} (hm : Gives m Q)
    (hk : ∀ a, Q a → Gives (k a) P) : Gives (m >>= k) P := by
  intro st b st'' h
  rw [StateT.run_bind] at h
  cases hx : m.run st with
  | error e => rw [hx] at h; cases h
  | ok p =>
    obtain ⟨a, st'⟩ := p
    rw [hx] at h
    exact hk a (hm hx) h

/-- A step whose result the rest does not need. -/
theorem Gives.bind_any {m : ParseM α} {k : α → ParseM β} (hk : ∀ a, Gives (k a) P) :
    Gives (m >>= k) P :=
  Gives.bind (Q := fun _ => True) (fun _ _ _ _ => trivial) fun a _ => hk a

theorem Gives.pure {b : β} (h : P b) : Gives (pure b : ParseM β) P := by
  intro st b' st' hrun
  simp only [StateT.run_pure] at hrun
  cases hrun
  exact h

theorem Gives.map {m : ParseM α} {Q : α → Prop} {f : α → β} (hm : Gives m Q)
    (hf : ∀ a, Q a → P (f a)) : Gives (f <$> m) P := by
  rw [← bind_pure_comp]
  exact hm.bind fun a ha => .pure (hf a ha)

theorem Gives.map_any {m : ParseM α} {f : α → β} (hf : ∀ a, P (f a)) : Gives (f <$> m) P :=
  Gives.map (Q := fun _ => True) (fun _ _ _ _ => trivial) fun a _ => hf a

theorem Gives.mono {m : ParseM β} {Q : β → Prop} (hm : Gives m Q) (h : ∀ b, Q b → P b) :
    Gives m P :=
  fun _ _ _ hrun => h _ (hm hrun)

theorem Gives.throw (d : Diag) : Gives (throw d : ParseM β) P := by
  intro st b st' hrun
  cases hrun

theorem Gives.failAt (s : Span) (message : String) : Gives (failAt s message : ParseM β) P :=
  Gives.throw _

theorem Gives.failExpected (expected : String) : Gives (failExpected expected : ParseM β) P :=
  Gives.bind_any fun _ => .throw _

theorem Gives.outOfSteps : Gives (Parser.outOfSteps : ParseM β) P :=
  Gives.bind_any fun _ => .failAt _ _

theorem Gives.nested {p : ParseM β} (hp : Gives p P) : Gives (nested p) P := by
  unfold ParseM.nested
  refine .bind_any fun _ => ?_
  split
  · exact .bind_any fun _ => .failAt _ _
  · exact .bind_any fun _ => hp.bind fun _ hb => .bind_any fun _ => .pure hb

theorem Gives.withExprLev {p : ParseM β} (lev : Int) (hp : Gives p P) :
    Gives (withExprLev lev p) P := by
  unfold ParseM.withExprLev
  exact .bind_any fun _ => .bind_any fun _ => hp.bind fun _ hb => .bind_any fun _ => .pure hb

theorem Gives.deeper {p : ParseM β} (hp : Gives p P) : Gives (deeper p) P := by
  unfold ParseM.deeper
  exact .bind_any fun _ => hp.withExprLev _

theorem Gives.ite {c : Prop} [Decidable c] {a b : ParseM β} (ha : Gives a P) (hb : Gives b P) :
    Gives (if c then a else b) P := by
  split
  · exact ha
  · exact hb

end Gives

end ParseM

namespace Parser

open ParseM

theorem Gives.operandExpr : ∀ {x : Term}, NonemptyUnions.term x →
    Gives (operandExpr x) NonemptyUnions.expr
  | .expr _, h => .pure h
  | .type _, _ => .failAt _ _

theorem Gives.condOf : ∀ {s : Option SimpleStmt}, NonemptyUnions.optSimpleStmt s →
    Gives (condOf s) NonemptyUnions.expr
  | none, _ => .failExpected _
  | some (.expr _ _), h => .pure h
  | some (.send ..), _ | some (.incDec ..), _ | some (.assign ..), _
  | some (.shortVarDecl ..), _ => .failAt _ _

/-- The operand of a type switch keeps the unions of its header. -/
theorem expr_of_guard {tag : Option SimpleStmt} {bind : Option Ident} {dp : Option Span} {x : Expr}
    {dotPos lp rp : Span} (ht : NonemptyUnions.optSimpleStmt tag)
    (h : tag.bind typeSwitchGuard? = some (bind, dp, x, dotPos, lp, rp)) : NonemptyUnions.expr x := by
  cases tag with
  | none => cases h
  | some s => exact expr_of_typeSwitchGuard ht h

/-- Every result of every production at step bound `n` has unions with terms. -/
structure UnionsHaveTerms (n : Nat) : Prop where
  parseType : Gives (parseType n) NonemptyUnions.typeExpr
  typeInner : Gives (typeInner n) NonemptyUnions.typeExpr
  typeName : Gives (typeName n) NonemptyUnions.typeExpr
  typeArgs : ∀ acc, NonemptyUnions.typeExprs acc.toList →
    Gives (typeArgs n acc) fun r => NonemptyUnions.typeExprs r.toList
  constraint : Gives (constraint n) NonemptyUnions.typeExpr
  unionTerms : ∀ acc, NonemptyUnions.unionTerms acc.toList →
    Gives (unionTerms n acc) fun r => r.toList ≠ [] ∧ NonemptyUnions.unionTerms r.toList
  typeParams : Gives (typeParams n) NonemptyUnions.typeParams
  typeParamDecls : ∀ acc, NonemptyUnions.typeParamDecls acc.toList →
    Gives (typeParamDecls n acc) fun r => NonemptyUnions.typeParamDecls r.toList
  signature : Gives (signature n) NonemptyUnions.signature
  parameters : Gives (parameters n) NonemptyUnions.fieldList
  paramEntries : ∀ acc, (∀ e ∈ acc.toList, NonemptyUnions.paramEntry e) →
    Gives (paramEntries n acc) fun r => ∀ e ∈ r.toList, NonemptyUnions.paramEntry e
  structType : ∀ start, Gives (structType n start) NonemptyUnions.typeExpr
  fieldDecls : ∀ acc, NonemptyUnions.fields acc.toList →
    Gives (fieldDecls n acc) fun r => NonemptyUnions.fields r.toList
  fieldDecl : Gives (fieldDecl n) fun f => NonemptyUnions.typeExpr f.type
  interfaceType : ∀ start, Gives (interfaceType n start) NonemptyUnions.typeExpr
  interfaceElems : ∀ acc, NonemptyUnions.interfaceElems acc.toList →
    Gives (interfaceElems n acc) fun r => NonemptyUnions.interfaceElems r.toList
  parseExpr : Gives (parseExpr n) NonemptyUnions.expr
  exprList : Gives (exprList n) NonemptyUnions.exprs
  moreExprs : ∀ acc, NonemptyUnions.exprs acc.toList →
    Gives (moreExprs n acc) fun r => NonemptyUnions.exprs r.toList
  typeOrExpr : Gives (typeOrExpr n) NonemptyUnions.term
  binaryExpr : ∀ prec, Gives (binaryExpr n prec) NonemptyUnions.term
  binaryRest : ∀ prec start x, NonemptyUnions.term x →
    Gives (binaryRest n prec start x) NonemptyUnions.term
  unaryExpr : Gives (unaryExpr n) NonemptyUnions.term
  unaryInner : Gives (unaryInner n) NonemptyUnions.term
  primaryExpr : Gives (primaryExpr n) NonemptyUnions.term
  primarySuffixes : ∀ x start, NonemptyUnions.term x →
    Gives (primarySuffixes n x start) NonemptyUnions.term
  operand : Gives (operand n) NonemptyUnions.term
  selectorOrAssert : ∀ x start, NonemptyUnions.term x →
    Gives (selectorOrAssert n x start) NonemptyUnions.term
  indexOrSlice : ∀ x start, NonemptyUnions.term x →
    Gives (indexOrSlice n x start) NonemptyUnions.term
  indexInner : Gives (indexInner n) NonemptyUnions.indexInner
  indexArgs : ∀ acc, NonemptyUnions.terms acc.toList →
    Gives (indexArgs n acc) fun r => NonemptyUnions.terms r.toList
  callExpr : ∀ x start, NonemptyUnions.term x → Gives (callExpr n x start) NonemptyUnions.term
  callArgs : ∀ acc ell, NonemptyUnions.terms acc.toList →
    Gives (callArgs n acc ell) fun r => NonemptyUnions.terms r.1.toList
  compositeLit : ∀ x start, NonemptyUnions.term x →
    Gives (compositeLit n x start) NonemptyUnions.term
  literalValue : Gives (literalValue n) NonemptyUnions.literal
  literalElems : ∀ acc, NonemptyUnions.keyedElements acc.toList →
    Gives (literalElems n acc) fun r => NonemptyUnions.keyedElements r.toList
  element : Gives (element n) NonemptyUnions.element
  funcBody : Gives (funcBody n) NonemptyUnions.block
  block : Gives (block n) NonemptyUnions.block
  stmtList : Gives (stmtList n) NonemptyUnions.stmts
  stmtsFrom : ∀ acc, NonemptyUnions.stmts acc.toList → Gives (stmtsFrom n acc) NonemptyUnions.stmts
  stmt : Gives (stmt n) NonemptyUnions.stmt
  branchStmt : ∀ start kind, Gives (branchStmt n start kind) NonemptyUnions.stmt
  simpleStmt : ∀ mode, Gives (simpleStmt n mode) NonemptyUnions.simpleResult
  simpleStmtOnly : Gives (simpleStmtOnly n) NonemptyUnions.simpleStmt
  controlHeader : Gives (controlHeader n) fun r =>
    NonemptyUnions.optSimpleStmt r.1 ∧ NonemptyUnions.optSimpleStmt r.2
  ifStmt : Gives (ifStmt n) NonemptyUnions.stmt
  forStmt : ∀ start, Gives (forStmt n start) NonemptyUnions.stmt
  forHeader : Gives (forHeader n) NonemptyUnions.forHeader
  switchStmt : ∀ start, Gives (switchStmt n start) NonemptyUnions.stmt
  switchClauses : ∀ isType acc, NonemptyUnions.switchClauses acc.toList →
    Gives (switchClauses n isType acc) fun r => NonemptyUnions.switchClauses r.toList
  typeCases : ∀ acc, NonemptyUnions.typeCases acc.toList →
    Gives (typeCases n acc) fun r => NonemptyUnions.typeCases r.toList
  selectStmt : ∀ start, Gives (selectStmt n start) NonemptyUnions.stmt
  commClauses : ∀ acc, NonemptyUnions.commClauses acc.toList →
    Gives (commClauses n acc) fun r => NonemptyUnions.commClauses r.toList
  commStmt : Gives (commStmt n) NonemptyUnions.commStmt
  genDecl : Gives (genDecl n) NonemptyUnions.genDecl
  groupSpecs : ∀ kind acc, NonemptyUnions.specList acc.toList →
    Gives (groupSpecs n kind acc) fun r => NonemptyUnions.specList r.toList
  spec : ∀ kind doc, Gives (spec n kind doc) NonemptyUnions.spec
  funcDecl : Gives (funcDecl n) NonemptyUnions.funcDecl
  receiver : Gives (receiver n) fun r => NonemptyUnions.typeExpr r.type

section Succ

/-! ## One production at bound `n + 1` from all of them at bound `n` -/

variable {n : Nat} (ih : UnionsHaveTerms n)
include ih

theorem parseType_gives_succ : Gives (parseType (n + 1)) NonemptyUnions.typeExpr := by
  rw [Parser.parseType.eq_2]
  exact ih.typeInner.nested

theorem typeInner_gives_succ : Gives (typeInner (n + 1)) NonemptyUnions.typeExpr := by
  rw [Parser.typeInner.eq_2]
  refine .bind_any fun _ => .bind_any fun _ => ?_
  split
  · exact ih.typeName
  · -- `*T`
    exact .bind_any fun _ => ih.parseType.bind fun _ h => .bind_any fun _ => .pure h
  · -- `[]T` and `[N]T`
    refine .bind_any fun _ => .bind_any fun _ => ?_
    split
    · exact .bind_any fun _ => ih.parseType.bind fun _ h => .bind_any fun _ => .pure h
    -- the length, `...` or an expression, and then the element type
    refine .bind_any fun _ => .bind_any fun _ => ?_
    dsimp only
    split
    case' isTrue =>
      refine Gives.bind (Q := NonemptyUnions.arrayLength) (.map_any fun _ => trivial) fun _ hl => ?_
    case' isFalse =>
      refine Gives.bind (Q := NonemptyUnions.arrayLength) (ih.parseExpr.deeper.map fun _ h => h)
        fun _ hl => ?_
    all_goals
      exact .bind_any fun _ => ih.parseType.bind fun _ h => .bind_any fun _ => .pure ⟨hl, h⟩
  · -- `map[K]V`
    exact .bind_any fun _ => .bind_any fun _ => ih.parseType.bind fun _ hk =>
      .bind_any fun _ => ih.parseType.bind fun _ hv => .bind_any fun _ => .pure ⟨hk, hv⟩
  · -- `chan T` and `chan<- T`
    exact .bind_any fun _ => .bind_any fun _ => ih.parseType.bind fun _ h =>
      .bind_any fun _ => .pure h
  · -- `<-chan T`
    exact .bind_any fun _ => .bind_any fun _ => ih.parseType.bind fun _ h =>
      .bind_any fun _ => .pure h
  · exact ih.structType _
  · exact ih.interfaceType _
  · exact .bind_any fun _ => ih.signature.bind fun _ h => .bind_any fun _ => .pure h
  · exact .bind_any fun _ => ih.parseType.bind fun _ h => .bind_any fun _ => .bind_any fun _ =>
      .pure h
  · exact .failExpected _

theorem typeName_gives_succ : Gives (typeName (n + 1)) NonemptyUnions.typeExpr := by
  rw [Parser.typeName.eq_2]
  refine .bind_any fun _ => .bind_any fun _ => .bind_any fun _ => ?_
  extract_lets jp
  -- the qualifier is read, and then the type arguments if a bracket follows
  have hjp : ∀ x, Gives (jp x) NonemptyUnions.typeExpr := by
    rintro ⟨pkg, name⟩
    refine .bind_any fun _ => .ite ?_ (.bind_any fun _ => .pure trivial)
    exact .bind_any fun _ => ih.parseType.bind fun a ha => (ih.typeArgs #[a] ⟨ha, trivial⟩).bind
      fun _ hargs => .bind_any fun _ => .bind_any fun _ => .pure hargs
  split
  · exact .bind_any fun _ => .bind_any fun _ => hjp _
  · exact .bind_any fun _ => hjp _

theorem typeArgs_gives_succ (acc : Array TypeExpr) (hacc : NonemptyUnions.typeExprs acc.toList) :
    Gives (typeArgs (n + 1) acc) fun r => NonemptyUnions.typeExprs r.toList := by
  rw [Parser.typeArgs.eq_2]
  refine .bind_any fun _ => .ite (.pure hacc) (.bind_any fun _ => .ite (.pure hacc) ?_)
  exact ih.parseType.bind fun _ ht => ih.typeArgs _ (push_of_iff typeExprs_iff hacc ht)

theorem constraint_gives_succ : Gives (constraint (n + 1)) NonemptyUnions.typeExpr := by
  rw [Parser.constraint.eq_2]
  refine .bind_any fun _ => (ih.unionTerms #[] trivial).bind fun terms h => ?_
  obtain ⟨hne, hts⟩ := h
  split
  · -- a single plain term is that type
    next t heq =>
    rw [heq] at hts
    exact .pure hts.1
  · exact .bind_any fun _ => .pure ⟨hne, hts⟩

theorem unionTerms_gives_succ (acc : Array UnionTerm) (hacc : NonemptyUnions.unionTerms acc.toList) :
    Gives (unionTerms (n + 1) acc) fun r => r.toList ≠ [] ∧ NonemptyUnions.unionTerms r.toList := by
  rw [Parser.unionTerms.eq_2]
  refine .bind_any fun tilde => ih.parseType.bind fun t ht => ?_
  -- the term just read makes the union nonempty, whether or not a `|` follows
  have hpush : NonemptyUnions.unionTerms (acc.push ⟨tilde, t⟩).toList :=
    push_of_iff unionTerms_iff hacc ht
  exact .bind_any fun _ => .ite (ih.unionTerms _ hpush) (.pure ⟨by simp, hpush⟩)

theorem typeParams_gives_succ : Gives (typeParams (n + 1)) NonemptyUnions.typeParams := by
  rw [Parser.typeParams.eq_2]
  exact .bind_any fun _ => .bind_any fun _ => (ih.typeParamDecls #[] trivial).bind fun _ h =>
    .bind_any fun _ => .bind_any fun _ => .pure h

theorem typeParamDecls_gives_succ (acc : Array TypeParamDecl)
    (hacc : NonemptyUnions.typeParamDecls acc.toList) :
    Gives (typeParamDecls (n + 1) acc) fun r => NonemptyUnions.typeParamDecls r.toList := by
  rw [Parser.typeParamDecls.eq_2]
  refine .bind_any fun _ => .ite (.pure hacc) ?_
  refine .bind_any fun _ => .bind_any fun names => ih.constraint.bind fun c hc => .bind_any fun s => ?_
  have hpush : NonemptyUnions.typeParamDecls (acc.push ⟨s, names, c⟩).toList :=
    push_of_iff typeParamDecls_iff hacc hc
  exact .bind_any fun _ => .ite (ih.typeParamDecls _ hpush) (.pure hpush)

theorem signature_gives_succ : Gives (signature (n + 1)) NonemptyUnions.signature := by
  rw [Parser.signature.eq_2]
  refine .bind_any fun _ => ih.parameters.bind fun _ hp => .bind_any fun _ => ?_
  extract_lets jp
  have hjp : ∀ r, NonemptyUnions.optResults r → Gives (jp r) NonemptyUnions.signature :=
    fun _ hr => .bind_any fun _ => .pure ⟨hp, hr⟩
  split
  · -- a parameter list of results
    exact ih.parameters.bind fun _ hl => .bind (.pure hl) hjp
  all_goals first
    | exact ih.parseType.bind fun _ ht => .bind (.pure ht) hjp
    | exact .bind (.pure trivial) hjp

theorem parameters_gives_succ : Gives (parameters (n + 1)) NonemptyUnions.fieldList := by
  rw [Parser.parameters.eq_2]
  exact .bind_any fun _ => (ih.paramEntries #[] (by simp)).bind fun _ h =>
    .bind_any fun _ => .pure (fields_groupParams h)

theorem paramEntries_gives_succ (acc : Array ParamEntry) (hacc : ∀ e ∈ acc.toList, paramEntry e) :
    Gives (paramEntries (n + 1) acc) fun r => ∀ e ∈ r.toList, paramEntry e := by
  rw [Parser.paramEntries.eq_2]
  refine .bind_any fun _ => .ite (.pure hacc) ?_
  refine .bind_any fun _ => .bind_any fun _ => .bind_any fun _ => ?_
  extract_lets jp
  -- every entry is pushed with the type it was read with, if any
  have hjp : ∀ x : List Ident × Option Span × Option TypeExpr, NonemptyUnions.optType x.2.2 →
      Gives (jp x) fun r => ∀ e ∈ r.toList, paramEntry e := by
    rintro ⟨names, ell, type⟩ hx
    refine .bind_any fun s => ?_
    have hpush : ∀ e ∈ (acc.push ⟨names, ell, type, s⟩).toList, paramEntry e :=
      push_of_iff (fun _ => Iff.rfl) hacc hx
    exact .bind_any fun _ => .ite (ih.paramEntries _ hpush) (.pure hpush)
  split
  · exact .bind_any fun _ => .bind (.pure trivial) hjp
  · exact .bind_any fun _ => .bind (.pure trivial) hjp
  · exact ih.parseType.bind fun _ ht => .bind (.pure ht) hjp
  · exact .bind_any fun _ => .bind_any fun _ => ih.parseType.bind fun _ ht => .bind (.pure ht) hjp
  · exact .bind_any fun _ => ih.parseType.bind fun _ ht => .bind (.pure ht) hjp

theorem structType_gives_succ (start : Nat) :
    Gives (structType (n + 1) start) NonemptyUnions.typeExpr := by
  rw [Parser.structType.eq_2]
  exact .bind_any fun _ => .bind_any fun _ => (ih.fieldDecls #[] trivial).bind fun _ h =>
    .bind_any fun _ => .bind_any fun _ => .pure h

theorem fieldDecls_gives_succ (acc : Array Field) (hacc : NonemptyUnions.fields acc.toList) :
    Gives (fieldDecls (n + 1) acc) fun r => NonemptyUnions.fields r.toList := by
  rw [Parser.fieldDecls.eq_2]
  refine .bind_any fun _ => .bind_any fun _ => .ite (.pure hacc) ?_
  exact ih.fieldDecl.bind fun _ hf => .bind_any fun _ => ih.fieldDecls _ (push_of_iff fields_iff hacc hf)

theorem fieldDecl_gives_succ : Gives (fieldDecl (n + 1)) fun f => NonemptyUnions.typeExpr f.type := by
  rw [Parser.fieldDecl.eq_2]
  refine .bind_any fun _ => .bind_any fun _ => .bind_any fun _ => .bind_any fun _ => ?_
  extract_lets jp
  -- the tag and the comment after the type do not change it
  have hjp : ∀ x : List Ident × TypeExpr, NonemptyUnions.typeExpr x.2 →
      Gives (jp x) fun f => NonemptyUnions.typeExpr f.type := by
    rintro ⟨names, type⟩ ht
    refine .bind_any fun _ => ?_
    split <;> exact .bind_any fun _ => .bind_any fun _ => .bind_any fun _ => .bind_any fun _ => .pure ht
  split
  all_goals first
    | exact ih.typeName.bind fun _ ht => .bind (.pure ht) hjp
    | exact .bind_any fun _ => ih.parseType.bind fun _ ht => .bind (.pure ht) hjp
    | exact ih.parseType.bind fun _ ht => .bind (.pure ht) hjp
    | exact .bind (.failExpected _) hjp

theorem interfaceType_gives_succ (start : Nat) :
    Gives (interfaceType (n + 1) start) NonemptyUnions.typeExpr := by
  rw [Parser.interfaceType.eq_2]
  exact .bind_any fun _ => .bind_any fun _ => (ih.interfaceElems #[] trivial).bind fun _ h =>
    .bind_any fun _ => .bind_any fun _ => .pure h

theorem interfaceElems_gives_succ (acc : Array InterfaceElem)
    (hacc : NonemptyUnions.interfaceElems acc.toList) :
    Gives (interfaceElems (n + 1) acc) fun r => NonemptyUnions.interfaceElems r.toList := by
  rw [Parser.interfaceElems.eq_2]
  refine .bind_any fun _ => .bind_any fun _ => .ite (.pure hacc) ?_
  refine .bind_any fun _ => .bind_any fun _ => ?_
  extract_lets jp
  have hjp : ∀ e, NonemptyUnions.interfaceElem e →
      Gives (jp e) fun r => NonemptyUnions.interfaceElems r.toList :=
    fun _ he => .bind_any fun _ => ih.interfaceElems _ (push_of_iff interfaceElems_iff hacc he)
  split
  · -- a method
    exact .bind_any fun _ => ih.signature.bind fun _ hs => .bind (.pure hs) hjp
  · -- an embedded constraint
    exact .bind (ih.constraint.map fun _ h => h) hjp

theorem parseExpr_gives_succ : Gives (parseExpr (n + 1)) NonemptyUnions.expr := by
  rw [Parser.parseExpr.eq_2]
  exact (ih.binaryExpr 1).bind fun _ hx => Gives.operandExpr hx

theorem exprList_gives_succ : Gives (exprList (n + 1)) NonemptyUnions.exprs := by
  rw [Parser.exprList.eq_2]
  exact ih.parseExpr.bind fun first hf => (ih.moreExprs #[first] ⟨hf, trivial⟩).bind fun _ h => .pure h

theorem moreExprs_gives_succ (acc : Array Expr) (hacc : NonemptyUnions.exprs acc.toList) :
    Gives (moreExprs (n + 1) acc) fun r => NonemptyUnions.exprs r.toList := by
  rw [Parser.moreExprs.eq_2]
  refine .bind_any fun _ => .ite ?_ (.pure hacc)
  exact ih.parseExpr.bind fun _ he => ih.moreExprs _ (push_of_iff exprs_iff hacc he)

theorem typeOrExpr_gives_succ : Gives (typeOrExpr (n + 1)) NonemptyUnions.term := by
  rw [Parser.typeOrExpr.eq_2]
  exact ih.binaryExpr 1

theorem binaryExpr_gives_succ (prec : Nat) : Gives (binaryExpr (n + 1) prec) NonemptyUnions.term := by
  rw [Parser.binaryExpr.eq_2]
  exact .bind_any fun _ => ih.unaryExpr.bind fun _ hx => ih.binaryRest _ _ _ hx

theorem binaryRest_gives_succ (prec start : Nat) (x : Term) (hx : NonemptyUnions.term x) :
    Gives (binaryRest (n + 1) prec start x) NonemptyUnions.term := by
  rw [Parser.binaryRest.eq_2]
  refine .bind_any fun _ => ?_
  split
  · exact .pure hx
  · -- both operands are expressions with unions that have terms
    refine .ite (.pure hx) (.bind_any fun _ => (Gives.operandExpr hx).bind fun _ hl => ?_)
    exact (ih.binaryExpr _).bind fun _ hr => (Gives.operandExpr hr).bind fun _ hr' =>
      .bind_any fun _ => ih.binaryRest _ _ _ ⟨hl, hr'⟩

theorem unaryExpr_gives_succ : Gives (unaryExpr (n + 1)) NonemptyUnions.term := by
  rw [Parser.unaryExpr.eq_2]
  exact ih.unaryInner.nested

theorem unaryInner_gives_succ : Gives (unaryInner (n + 1)) NonemptyUnions.term := by
  rw [Parser.unaryInner.eq_2]
  refine .bind_any fun _ => .bind_any fun _ => ?_
  split
  · exact ih.primaryExpr
  refine .bind_any fun _ => .bind_any fun _ => .ite ?_ ?_
  · -- `<-chan T`, which may go on with suffixes
    exact .bind_any fun _ => ih.parseType.bind fun _ he => .bind_any fun _ => ih.primarySuffixes _ _ he
  · refine ih.unaryExpr.bind fun operand ho => ?_
    split
    · -- `*T` is a pointer type
      exact .bind_any fun _ => .pure ho
    · exact (Gives.operandExpr ho).bind fun _ he => .bind_any fun _ => .pure he

theorem primaryExpr_gives_succ : Gives (primaryExpr (n + 1)) NonemptyUnions.term := by
  rw [Parser.primaryExpr.eq_2]
  exact .bind_any fun _ => ih.operand.bind fun _ hx => ih.primarySuffixes _ _ hx

theorem primarySuffixes_gives_succ (x : Term) (start : Nat) (hx : NonemptyUnions.term x) :
    Gives (primarySuffixes (n + 1) x start) NonemptyUnions.term := by
  rw [Parser.primarySuffixes.eq_2]
  refine .bind_any fun _ => ?_
  split
  · exact (ih.selectorOrAssert x start hx).bind fun _ h => ih.primarySuffixes _ _ h
  · exact (ih.indexOrSlice x start hx).bind fun _ h => ih.primarySuffixes _ _ h
  · exact (ih.callExpr x start hx).bind fun _ h => ih.primarySuffixes _ _ h
  · exact .bind_any fun _ =>
      .ite ((ih.compositeLit x start hx).bind fun _ h => ih.primarySuffixes _ _ h) (.pure hx)
  · exact .pure hx

theorem operand_gives_succ : Gives (operand (n + 1)) NonemptyUnions.term := by
  rw [Parser.operand.eq_2]
  refine .bind_any fun _ => ?_
  extract_lets lit
  have hlit : ∀ k s, Gives (lit k s) NonemptyUnions.term := fun _ _ => .bind_any fun _ => .pure trivial
  refine .bind_any fun _ => ?_
  split
  any_goals exact hlit _ _
  any_goals exact ih.parseType.map fun _ h => h
  · -- a name
    exact .bind_any fun _ => .pure trivial
  · -- a parenthesized expression or type
    refine .bind_any fun _ => (ih.binaryExpr 1).deeper.bind fun inner hi => ?_
    refine .bind_any fun _ => .bind_any fun _ => ?_
    cases inner <;> exact .pure hi
  · -- a function literal or a function type
    refine .bind_any fun _ => ih.signature.bind fun _ hs => .bind_any fun _ => .ite ?_ ?_
    · exact ih.funcBody.bind fun _ hb => .bind_any fun _ => .pure ⟨hs, hb⟩
    · exact .bind_any fun _ => .pure hs
  · exact .failExpected _

theorem selectorOrAssert_gives_succ (x : Term) (start : Nat) (hx : NonemptyUnions.term x) :
    Gives (selectorOrAssert (n + 1) x start) NonemptyUnions.term := by
  rw [Parser.selectorOrAssert.eq_2]
  refine .bind_any fun _ => (Gives.operandExpr hx).bind fun _ he => .bind_any fun _ => ?_
  split
  · exact .bind_any fun _ => .bind_any fun _ => .pure he
  · -- a type assertion, whose type is absent in `.(type)`
    refine .bind_any fun _ => .bind_any fun _ => ?_
    extract_lets jp
    have hjp : ∀ ty, NonemptyUnions.optType ty → Gives (jp ty) NonemptyUnions.term :=
      fun _ ht => .bind_any fun _ => .bind_any fun _ => .pure ⟨he, ht⟩
    exact .ite (.bind (.pure trivial) hjp) (.bind (ih.parseType.map fun _ h => h) hjp)
  · exact .failExpected _

theorem indexOrSlice_gives_succ (x : Term) (start : Nat) (hx : NonemptyUnions.term x) :
    Gives (indexOrSlice (n + 1) x start) NonemptyUnions.term := by
  rw [Parser.indexOrSlice.eq_2]
  refine (Gives.operandExpr hx).bind fun _ he => .bind_any fun _ => ih.indexInner.deeper.bind
    fun inner hi => .bind_any fun _ => ?_
  rcases inner with ⟨lo, hi', mx⟩ | args
  · exact .bind_any fun _ => .pure ⟨he, hi⟩
  · exact .bind_any fun _ => .pure ⟨he, hi⟩

theorem indexInner_gives_succ : Gives (indexInner (n + 1)) NonemptyUnions.indexInner := by
  rw [Parser.indexInner.eq_2]
  refine .bind_any fun _ => ?_
  extract_lets -underBinder jp
  -- after the first operand, if any, comes a slice or the rest of the index arguments
  have hjp : ∀ first : Option Term, NonemptyUnions.terms first.toList →
      Gives (jp first) NonemptyUnions.indexInner := by
    intro first hfirst
    refine .bind_any fun _ => .ite ?_ ?_
    · extract_lets jlo
      have hlo : ∀ lo, NonemptyUnions.optExpr lo → Gives (jlo lo) NonemptyUnions.indexInner := by
        intro lo hlo
        refine .bind_any fun _ => .bind_any fun _ => .bind_any fun _ => ?_
        extract_lets jhi
        have hhi : ∀ hi, NonemptyUnions.optExpr hi → Gives (jhi hi) NonemptyUnions.indexInner := by
          intro hi hhi
          refine .bind_any fun _ => ?_
          extract_lets jmx
          have hmx : ∀ mx, NonemptyUnions.optExpr mx → Gives (jmx mx) NonemptyUnions.indexInner :=
            fun _ hmx => .pure ⟨hlo, hhi, hmx⟩
          exact .ite (.bind (ih.parseExpr.map fun _ h => h) hmx) (.bind (.pure trivial) hmx)
        exact .ite (.bind (.pure trivial) hhi) (.bind (ih.parseExpr.map fun _ h => h) hhi)
      -- the first operand is the low bound, and must be an expression
      rcases first with _ | _ | _
      · exact .bind (.pure trivial) hlo
      · exact .bind (.pure hfirst.1) hlo
      · exact .bind (.failAt _ _) hlo
    · refine (ih.indexArgs _ ?_).bind fun _ h => .pure h
      rcases first with _ | _ <;> exact hfirst
  exact .ite (.bind (.pure trivial) hjp) (.bind (ih.typeOrExpr.map fun _ h => And.intro h trivial) hjp)

theorem indexArgs_gives_succ (acc : Array Term) (hacc : NonemptyUnions.terms acc.toList) :
    Gives (indexArgs (n + 1) acc) fun r => NonemptyUnions.terms r.toList := by
  rw [Parser.indexArgs.eq_2]
  refine .bind_any fun _ => .ite (.pure hacc) (.bind_any fun _ => .ite (.pure hacc) ?_)
  exact ih.typeOrExpr.bind fun _ ht => ih.indexArgs _ (push_of_iff terms_iff hacc ht)

theorem callExpr_gives_succ (x : Term) (start : Nat) (hx : NonemptyUnions.term x) :
    Gives (callExpr (n + 1) x start) NonemptyUnions.term := by
  rw [Parser.callExpr.eq_2]
  refine .bind_any fun _ => (ih.callArgs #[] none trivial).deeper.bind fun r hr => ?_
  obtain ⟨args, ell⟩ := r
  exact .bind_any fun _ => .bind_any fun _ => .pure ⟨hx, hr⟩

theorem callArgs_gives_succ (acc : Array Term) (ell : Option Span)
    (hacc : NonemptyUnions.terms acc.toList) :
    Gives (callArgs (n + 1) acc ell) fun r => NonemptyUnions.terms r.1.toList := by
  rw [Parser.callArgs.eq_2]
  refine .bind_any fun _ => .ite (.pure hacc) (ih.typeOrExpr.bind fun a ha => .bind_any fun _ => ?_)
  extract_lets jp
  have hpush : NonemptyUnions.terms (acc.push a).toList := push_of_iff terms_iff hacc ha
  have hjp : ∀ ell', Gives (jp ell') fun r => NonemptyUnions.terms r.1.toList :=
    fun _ => .bind_any fun _ => .ite (ih.callArgs _ _ hpush) (.pure hpush)
  split <;> exact .bind_any hjp

theorem compositeLit_gives_succ (x : Term) (start : Nat) (hx : NonemptyUnions.term x) :
    Gives (compositeLit (n + 1) x start) NonemptyUnions.term := by
  -- the type of the literal is the term itself, or the expression read as a type
  have hlit : ∀ ty, NonemptyUnions.typeExpr ty → Gives (do
      let lit ← literalValue n
      let s ← since start
      pure (Term.expr (Expr.compositeLit s ty lit))) NonemptyUnions.term :=
    fun _ hty => ih.literalValue.bind fun _ hl => .bind_any fun _ => .pure ⟨hty, hl⟩
  cases x with
  | type t =>
    rw [Parser.compositeLit.eq_2]
    exact .bind (.pure hx) hlit
  | expr e =>
    rw [Parser.compositeLit.eq_3]
    split
    · next t ht => exact .bind (.pure (Expr.toType?_nonemptyUnions e hx ht)) hlit
    · exact .bind (.failAt _ _) hlit

theorem literalValue_gives_succ : Gives (literalValue (n + 1)) NonemptyUnions.literal := by
  rw [Parser.literalValue.eq_2]
  exact .bind_any fun _ => (ih.literalElems #[] trivial).deeper.bind fun _ h =>
    .bind_any fun _ => .pure h

theorem literalElems_gives_succ (acc : Array KeyedElement)
    (hacc : NonemptyUnions.keyedElements acc.toList) :
    Gives (literalElems (n + 1) acc) fun r => NonemptyUnions.keyedElements r.toList := by
  rw [Parser.literalElems.eq_2]
  refine .bind_any fun _ => .ite (.pure hacc) (ih.element.bind fun first hf => .bind_any fun _ => ?_)
  extract_lets jp
  have hjp : ∀ el, NonemptyUnions.keyedElement el →
      Gives (jp el) fun r => NonemptyUnions.keyedElements r.toList := by
    intro el hel
    have hpush := push_of_iff keyedElements_iff hacc hel
    exact .bind_any fun _ => .ite (ih.literalElems _ hpush) (.pure hpush)
  split
  · -- a key and its value
    exact ih.element.bind fun _ hv => .bind (.pure ⟨hf, hv⟩) hjp
  · exact .bind (.pure ⟨trivial, hf⟩) hjp

theorem element_gives_succ : Gives (element (n + 1)) NonemptyUnions.element := by
  rw [Parser.element.eq_2]
  exact .bind_any fun _ => .ite (ih.literalValue.nested.map fun _ h => h) (ih.parseExpr.map fun _ h => h)

theorem funcBody_gives_succ : Gives (funcBody (n + 1)) NonemptyUnions.block := by
  rw [Parser.funcBody.eq_2]
  exact ih.block.withExprLev 0

theorem block_gives_succ : Gives (block (n + 1)) NonemptyUnions.block := by
  rw [Parser.block.eq_2]
  exact .bind_any fun _ => ih.stmtList.bind fun _ h => .bind_any fun _ => .pure h

theorem stmtList_gives_succ : Gives (stmtList (n + 1)) NonemptyUnions.stmts := by
  rw [Parser.stmtList.eq_2]
  exact (ih.stmtsFrom #[] trivial).nested

theorem stmtsFrom_gives_succ (acc : Array Stmt) (hacc : NonemptyUnions.stmts acc.toList) :
    Gives (stmtsFrom (n + 1) acc) NonemptyUnions.stmts := by
  rw [Parser.stmtsFrom.eq_2]
  refine .bind_any fun _ => ?_
  split
  any_goals exact .pure hacc
  · -- an empty statement is skipped
    exact .bind_any fun _ => ih.stmtsFrom _ hacc
  · exact ih.stmt.bind fun _ hs => .bind_any fun _ => ih.stmtsFrom _ (push_of_iff stmts_iff hacc hs)

theorem stmt_gives_succ : Gives (stmt (n + 1)) NonemptyUnions.stmt := by
  rw [Parser.stmt.eq_2]
  refine .bind_any fun _ => .bind_any fun _ => ?_
  split
  -- `const`, `type` and `var` declarations
  case' h_1 | h_2 | h_3 => exact ih.genDecl.bind fun _ h => .bind_any fun _ => .pure h
  -- `go` and `defer` with their call
  case' h_4 | h_5 => exact .bind_any fun _ => ih.parseExpr.bind fun _ h => .bind_any fun _ => .pure h
  case' h_7 | h_8 | h_9 | h_10 => exact ih.branchStmt _ _
  case h_11 => exact ih.block.bind fun _ h => .bind_any fun _ => .pure h
  case h_12 => exact ih.ifStmt
  case h_13 => exact ih.forStmt _
  case h_14 => exact ih.switchStmt _
  case h_15 => exact ih.selectStmt _
  case h_6 =>
    -- `return` with its results, if any
    refine .bind_any fun _ => .bind_any fun _ => .bind_any fun _ => ?_
    extract_lets jp
    have hjp : ∀ rs, NonemptyUnions.exprs rs → Gives (jp rs) NonemptyUnions.stmt :=
      fun _ h => .bind_any fun _ => .pure h
    exact .ite (.bind (.pure trivial) hjp) (ih.exprList.bind hjp)
  case h_16 =>
    -- a simple statement, or a label and the statement it labels
    refine (ih.simpleStmt .labelOk).bind fun r hr => ?_
    split
    · exact .bind_any fun _ => .pure hr
    · refine .bind_any fun _ => ?_
      extract_lets jp
      have hjp : ∀ inner, NonemptyUnions.stmt inner → Gives (jp inner) NonemptyUnions.stmt :=
        fun _ h => .bind_any fun _ => .pure h
      exact .ite (.bind_any fun _ => .bind (.pure trivial) hjp) (.bind ih.stmt.nested hjp)
    · exact .failAt _ _

omit ih in
theorem branchStmt_gives_succ (start : Nat) (kind : BranchKind) :
    Gives (branchStmt (n + 1) start kind) NonemptyUnions.stmt := by
  rw [Parser.branchStmt.eq_2]
  refine .bind_any fun _ => .bind_any fun _ => ?_
  extract_lets jp
  have hjp : ∀ label, Gives (jp label) NonemptyUnions.stmt := fun _ => .bind_any fun _ => .pure trivial
  split <;> exact .bind_any hjp

theorem simpleStmt_gives_succ (mode : StmtMode) :
    Gives (simpleStmt (n + 1) mode) NonemptyUnions.simpleResult := by
  rw [Parser.simpleStmt.eq_2]
  refine .bind_any fun _ => .bind_any fun _ => .ite ?_ ?_
  · -- `range x`
    exact .bind_any fun _ => ih.parseExpr.bind fun _ hx => .pure ⟨trivial, hx⟩
  refine ih.exprList.bind fun lhs hl => .bind_any fun t => ?_
  split
  · -- `:=` before a range clause or the values of a short variable declaration
    refine .bind_any fun _ => .bind_any fun _ => .ite ?_ ?_
    · exact .bind_any fun _ => .bind_any fun _ => ih.parseExpr.bind fun _ hx => .pure ⟨trivial, hx⟩
    · exact .bind_any fun _ => ih.exprList.bind fun _ hv => .bind_any fun _ => .pure hv
  split
  · -- `=` before a range clause, or an assignment
    refine .bind_any fun _ => .bind_any fun _ => .ite ?_ ?_
    · exact .bind_any fun _ => ih.parseExpr.bind fun _ hx => .pure ⟨hl, hx⟩
    · exact ih.exprList.bind fun _ hr => .bind_any fun _ => .pure ⟨hl, hr⟩
  split
  · -- one expression: a label, a send, an increment or decrement, or an expression statement
    obtain ⟨he, -⟩ := hl
    split
    · refine .ite ?_ (.bind_any fun _ => .pure he)
      split
      · exact .bind_any fun _ => .pure trivial
      · exact .failExpected _
    · exact .bind_any fun _ => ih.parseExpr.bind fun _ hv => .bind_any fun _ => .pure ⟨he, hv⟩
    · exact .bind_any fun _ => .bind_any fun _ => .pure he
    · exact .bind_any fun _ => .bind_any fun _ => .pure he
    · exact .bind_any fun _ => .pure he
  · exact .failExpected _

theorem simpleStmtOnly_gives_succ : Gives (simpleStmtOnly (n + 1)) NonemptyUnions.simpleStmt := by
  rw [Parser.simpleStmtOnly.eq_2]
  refine (ih.simpleStmt .basic).bind fun _ hr => ?_
  split
  · exact .pure hr
  · exact .failExpected _

theorem controlHeader_gives_succ : Gives (controlHeader (n + 1)) fun r =>
    NonemptyUnions.optSimpleStmt r.1 ∧ NonemptyUnions.optSimpleStmt r.2 := by
  rw [Parser.controlHeader.eq_2]
  refine Gives.withExprLev _ (.bind_any fun _ => .ite (.pure ⟨trivial, trivial⟩) (.bind_any fun _ => ?_))
  extract_lets -underBinder jp
  -- the statement before `;`, if any, and the one after it
  have hjp : ∀ first, NonemptyUnions.optSimpleStmt first → Gives (jp first) fun r =>
      NonemptyUnions.optSimpleStmt r.1 ∧ NonemptyUnions.optSimpleStmt r.2 := by
    intro first hf
    refine .bind_any fun _ => .ite (.pure ⟨trivial, hf⟩) (.bind_any fun _ => ?_)
    extract_lets jsecond
    have hsecond : ∀ second, NonemptyUnions.optSimpleStmt second → Gives (jsecond second) fun r =>
        NonemptyUnions.optSimpleStmt r.1 ∧ NonemptyUnions.optSimpleStmt r.2 :=
      fun _ h => .pure ⟨hf, h⟩
    exact .ite (.bind (.pure trivial) hsecond) (.bind (ih.simpleStmtOnly.map fun _ h => h) hsecond)
  exact .ite (.bind (.pure trivial) hjp) (.bind (ih.simpleStmtOnly.map fun _ h => h) hjp)

theorem ifStmt_gives_succ : Gives (ifStmt (n + 1)) NonemptyUnions.stmt := by
  rw [Parser.ifStmt.eq_2]
  refine .bind_any fun _ => .bind_any fun _ => .bind_any fun _ => ?_
  extract_lets -underBinder jp
  have hjp : ∀ u, Gives (jp u) NonemptyUnions.stmt := by
    intro u
    refine ih.controlHeader.bind fun r hr => ?_
    obtain ⟨init, cond⟩ := r
    obtain ⟨hi, hc⟩ := hr
    refine (Gives.condOf hc).bind fun _ hcond => ih.block.bind fun _ hb => .bind_any fun _ => ?_
    extract_lets jelse
    -- the `else` branch, if any, is an `if` statement or a block
    have helse : ∀ e, NonemptyUnions.optStmt e → Gives (jelse e) NonemptyUnions.stmt :=
      fun _ he => .bind_any fun _ => .pure ⟨hi, hcond, hb, he⟩
    refine .ite (.bind_any fun _ => ?_) (.bind (.pure trivial) helse)
    split
    · exact .bind (ih.ifStmt.nested.map fun _ h => h) helse
    · exact .bind_any fun _ => ih.block.bind fun _ hb' => .bind_any fun _ => .bind (.pure hb') helse
    · exact .bind (.failExpected _) helse
  exact .ite (.bind_any fun _ => .bind_any hjp) (hjp ())

theorem forStmt_gives_succ (start : Nat) : Gives (forStmt (n + 1) start) NonemptyUnions.stmt := by
  rw [Parser.forStmt.eq_2]
  exact .bind_any fun _ => (ih.forHeader.withExprLev _).bind fun _ hh => ih.block.bind fun _ hb =>
    .bind_any fun _ => .pure ⟨hh, hb⟩

theorem forHeader_gives_succ : Gives (forHeader (n + 1)) NonemptyUnions.forHeader := by
  rw [Parser.forHeader.eq_2]
  refine .bind_any fun _ => .ite (.pure trivial) (.bind_any fun _ => ?_)
  extract_lets -underBinder jp
  -- a range clause is the whole header; a statement is a condition or the start of a clause
  have hjp : ∀ first : ForHeader ⊕ Option SimpleStmt,
      first.elim NonemptyUnions.forHeader NonemptyUnions.optSimpleStmt →
      Gives (jp first) NonemptyUnions.forHeader := by
    rintro (h | first) hf
    · exact .pure hf
    refine .bind_any fun _ => .ite ((Gives.condOf hf).bind fun _ hc => .pure hc) (.bind_any fun _ => ?_)
    extract_lets jcond
    have hcond : ∀ cond, NonemptyUnions.optExpr cond → Gives (jcond cond) NonemptyUnions.forHeader := by
      intro cond hc
      refine .bind_any fun _ => .bind_any fun _ => ?_
      extract_lets jpost
      have hpost : ∀ post, NonemptyUnions.optSimpleStmt post →
          Gives (jpost post) NonemptyUnions.forHeader :=
        fun _ hp => .pure ⟨hf, hc, hp⟩
      exact .ite (.bind (.pure trivial) hpost) (.bind (ih.simpleStmtOnly.map fun _ h => h) hpost)
    exact .ite (.bind (.pure trivial) hcond) (.bind (ih.parseExpr.map fun _ h => h) hcond)
  refine .ite (.bind (.pure trivial) hjp) ((ih.simpleStmt .rangeOk).bind fun _ hr => ?_)
  split
  · exact .bind (.pure hr) hjp
  · exact .bind (.pure hr) hjp
  · exact .bind (.failAt _ _) hjp

theorem switchStmt_gives_succ (start : Nat) : Gives (switchStmt (n + 1) start) NonemptyUnions.stmt := by
  rw [Parser.switchStmt.eq_2]
  refine .bind_any fun _ => ih.controlHeader.bind fun r hr => ?_
  obtain ⟨init, tag⟩ := r
  obtain ⟨hi, ht⟩ := hr
  refine .bind_any fun _ => (ih.switchClauses _ #[] trivial).bind fun _ hcs => .bind_any fun _ => ?_
  split
  · -- a type switch, whose operand comes from the header
    next heq => exact .bind_any fun _ => .pure ⟨hi, expr_of_guard ht heq, hcs⟩
  · extract_lets jp
    have hjp : ∀ tagExpr, NonemptyUnions.optExpr tagExpr → Gives (jp tagExpr) NonemptyUnions.stmt :=
      fun _ htag => .bind_any fun _ => .pure ⟨hi, htag, hcs⟩
    split
    · exact .bind ((Gives.condOf ht).map fun _ h => h) hjp
    · exact .bind (.pure trivial) hjp

theorem switchClauses_gives_succ (isType : Bool) (acc : Array SwitchClause)
    (hacc : NonemptyUnions.switchClauses acc.toList) :
    Gives (switchClauses (n + 1) isType acc) fun r => NonemptyUnions.switchClauses r.toList := by
  rw [Parser.switchClauses.eq_2]
  refine .bind_any fun _ => .bind_any fun _ => .ite (.pure hacc) (.bind_any fun _ => .bind_any fun _ => ?_)
  extract_lets -underBinder jp jtypes jexprs
  have hjp : ∀ c, NonemptyUnions.switchClause c →
      Gives (jp c) fun r => NonemptyUnions.switchClauses r.toList :=
    fun _ hc => ih.switchClauses _ _ (push_of_iff switchClauses_iff hacc hc)
  split
  · -- a type switch clause lists types
    have hitems : ∀ items : Array TypeCase, NonemptyUnions.typeCases items.toList →
        Gives (jtypes items) fun r => NonemptyUnions.switchClauses r.toList :=
      fun _ hi => .bind_any fun _ => ih.stmtList.bind fun _ hs => .bind_any fun _ =>
        .bind (.pure ⟨hi, hs⟩) hjp
    exact .ite ((ih.typeCases #[] trivial).bind hitems) (.bind (.pure trivial) hitems)
  · have hitems : ∀ items, NonemptyUnions.exprs items →
        Gives (jexprs items) fun r => NonemptyUnions.switchClauses r.toList :=
      fun _ hi => .bind_any fun _ => ih.stmtList.bind fun _ hs => .bind_any fun _ =>
        .bind (.pure ⟨hi, hs⟩) hjp
    exact .ite (ih.exprList.bind hitems) (.bind (.pure trivial) hitems)

theorem typeCases_gives_succ (acc : Array TypeCase) (hacc : NonemptyUnions.typeCases acc.toList) :
    Gives (typeCases (n + 1) acc) fun r => NonemptyUnions.typeCases r.toList := by
  rw [Parser.typeCases.eq_2]
  refine .bind_any fun _ => ?_
  extract_lets jp
  have hjp : ∀ item, NonemptyUnions.typeCases [item] →
      Gives (jp item) fun r => NonemptyUnions.typeCases r.toList := by
    intro item hi
    have hpush := push_of_iff typeCases_iff hacc hi
    exact .bind_any fun _ => .ite (ih.typeCases _ hpush) (.pure hpush)
  split
  · exact .bind (.map_any fun _ => trivial) hjp
  · exact .bind (ih.parseType.map fun _ h => And.intro h trivial) hjp

theorem selectStmt_gives_succ (start : Nat) : Gives (selectStmt (n + 1) start) NonemptyUnions.stmt := by
  rw [Parser.selectStmt.eq_2]
  exact .bind_any fun _ => .bind_any fun _ => (ih.commClauses #[] trivial).bind fun _ h =>
    .bind_any fun _ => .bind_any fun _ => .pure h

theorem commClauses_gives_succ (acc : Array CommClause) (hacc : NonemptyUnions.commClauses acc.toList) :
    Gives (commClauses (n + 1) acc) fun r => NonemptyUnions.commClauses r.toList := by
  rw [Parser.commClauses.eq_2]
  refine .bind_any fun _ => .bind_any fun _ => .ite (.pure hacc) (.bind_any fun _ => .ite ?_ ?_)
  · exact .bind_any fun _ => .bind_any fun _ => ih.stmtList.bind fun _ hs => .bind_any fun _ =>
      ih.commClauses _ (push_of_iff commClauses_iff hacc hs)
  · refine .bind_any fun _ => ih.commStmt.bind fun comm hc => .bind_any fun _ =>
      ih.stmtList.bind fun _ hs => .bind_any fun _ => ih.commClauses _ (push_of_iff commClauses_iff hacc ?_)
    -- the clause is a send or a receive, as its communication is
    rcases comm with ⟨ch, ap, v⟩ | ⟨lhs, x⟩
    · exact ⟨hc.1, hc.2, hs⟩
    · exact ⟨hc.1, hc.2, hs⟩

theorem commStmt_gives_succ : Gives (commStmt (n + 1)) NonemptyUnions.commStmt := by
  rw [Parser.commStmt.eq_2]
  refine ih.simpleStmtOnly.bind fun s hs => ?_
  extract_lets single
  have hsingle : ∀ l, NonemptyUnions.exprs l → Gives (single l) NonemptyUnions.expr := by
    intro l hl
    simp only [single]
    split
    · exact .pure hl.1
    · exact .failAt _ _
  split
  · exact .pure hs
  · exact .pure ⟨trivial, hs⟩
  · exact (hsingle _ hs).bind fun _ hx => .pure ⟨trivial, hx⟩
  · exact (hsingle _ hs.2).bind fun _ hx => .pure ⟨hs.1, hx⟩
  · exact .failAt _ _

theorem genDecl_gives_succ : Gives (genDecl (n + 1)) NonemptyUnions.genDecl := by
  rw [Parser.genDecl.eq_2]
  refine .bind_any fun _ => .bind_any fun _ => .bind_any fun _ => ?_
  extract_lets jp
  -- whatever the kind, the specs that follow keep their unions
  have hjp : ∀ kind, Gives (jp kind) NonemptyUnions.genDecl := by
    intro kind
    refine .bind_any fun _ => .bind_any fun _ => ?_
    split
    · -- a parenthesized group of specs
      exact (ih.groupSpecs _ #[] trivial).bind fun _ hs => .bind_any fun _ => .bind_any fun _ =>
        .pure hs
    · exact (ih.spec _ _).bind fun _ hs => .bind_any fun _ => .pure ⟨hs, trivial⟩
  split <;> exact .bind_any hjp

theorem groupSpecs_gives_succ (kind : SpecKind) (acc : Array Spec)
    (hacc : NonemptyUnions.specList acc.toList) :
    Gives (groupSpecs (n + 1) kind acc) fun r => NonemptyUnions.specList r.toList := by
  rw [Parser.groupSpecs.eq_2]
  refine .bind_any fun _ => .bind_any fun _ => .ite (.pure hacc) ?_
  exact .bind_any fun _ => .bind_any fun _ => (ih.spec _ _).bind fun _ hs => .bind_any fun _ =>
    ih.groupSpecs _ _ (push_of_iff specList_iff hacc hs)

theorem spec_gives_succ (kind : SpecKind) (doc : Option CommentGroup) :
    Gives (spec (n + 1) kind doc) NonemptyUnions.spec := by
  -- the line comment after a spec keeps its unions
  have comment : ∀ s : Spec, NonemptyUnions.spec s → Gives (do
      let stop ← prevEnd
      let comment ← takeLineComment stop
      pure (s.withComment comment)) NonemptyUnions.spec :=
    fun _ hs => .bind_any fun _ => .bind_any fun c => .pure (spec_withComment c hs)
  cases kind
  case import_ =>
    rw [Parser.spec.eq_2]
    refine .bind_any fun _ => ?_
    extract_lets jp
    have hjp : ∀ name, Gives (jp name) NonemptyUnions.spec := fun _ =>
      .bind_any fun _ => .bind (.pure trivial) comment
    split
    · exact .bind_any fun _ => .bind_any fun _ => hjp _
    · exact .bind_any fun _ => .bind_any fun _ => hjp _
    · exact .bind_any fun _ => .bind_any fun _ => hjp _
    · exact .bind_any fun _ => hjp _
  case type =>
    rw [Parser.spec.eq_5]
    refine .bind_any fun _ => .bind_any fun _ => ?_
    extract_lets jp
    have hjp : ∀ tp, NonemptyUnions.optTypeParams tp → Gives (jp tp) NonemptyUnions.spec :=
      fun _ htp => .bind_any fun _ => ih.parseType.bind fun _ ht => .bind (.pure ⟨htp, ht⟩) comment
    exact .ite (.bind (ih.typeParams.map fun _ h => h) hjp) (.bind (.pure trivial) hjp)
  -- `const` and `var` share the value spec
  all_goals
    first | rw [Parser.spec.eq_3] | rw [Parser.spec.eq_4]
    refine .bind_any fun _ => .bind_any fun _ => ?_
    extract_lets jty
    have hty : ∀ ty, NonemptyUnions.optType ty → Gives (jty ty) NonemptyUnions.spec := by
      intro ty hty
      refine .bind_any fun _ => ?_
      extract_lets jvalues
      -- a `var` with neither type nor values fails, which keeps the property
      have hvalues : ∀ values, NonemptyUnions.exprs values →
          Gives (jvalues values) NonemptyUnions.spec := fun _ hv =>
        .ite (.bind_any fun _ => .bind_any fun _ => .bind (.pure ⟨hty, hv⟩) comment)
          (.bind (.pure ⟨hty, hv⟩) comment)
      exact .ite (ih.exprList.bind hvalues) (.bind (.pure trivial) hvalues)
    split
    · exact .bind (.pure trivial) hty
    · exact .bind (.pure trivial) hty
    · exact .bind (.pure trivial) hty
    · exact .bind (ih.parseType.map fun _ h => h) hty

theorem funcDecl_gives_succ : Gives (funcDecl (n + 1)) NonemptyUnions.funcDecl := by
  rw [Parser.funcDecl.eq_2]
  refine .bind_any fun _ => .bind_any fun _ => .bind_any fun _ => .bind_any fun _ => ?_
  extract_lets jrecv
  -- the receiver, the type parameters and the body are each optional
  have hrecv : ∀ recv, (∀ r ∈ recv, NonemptyUnions.typeExpr r.type) →
      Gives (jrecv recv) NonemptyUnions.funcDecl := by
    intro recv hr
    refine .bind_any fun _ => .bind_any fun _ => ?_
    extract_lets jtp
    have htp : ∀ tp, NonemptyUnions.optTypeParams tp → Gives (jtp tp) NonemptyUnions.funcDecl := by
      intro tp ht
      refine ih.signature.bind fun _ hs => .bind_any fun _ => ?_
      extract_lets jbody
      have hbody : ∀ body, (∀ b ∈ body, NonemptyUnions.block b) →
          Gives (jbody body) NonemptyUnions.funcDecl :=
        fun _ hb => .bind_any fun _ => .pure ⟨hr, ht, hs, hb⟩
      exact .ite (.bind (ih.funcBody.map fun _ h => by rintro _ ⟨⟩; exact h) hbody)
        (.bind (.pure (by simp)) hbody)
    exact .ite (.bind (ih.typeParams.map fun _ h => h) htp) (.bind (.pure trivial) htp)
  exact .ite (.bind (ih.receiver.map fun _ h => by rintro _ ⟨⟩; exact h) hrecv)
    (.bind (.pure (by simp)) hrecv)

theorem receiver_gives_succ : Gives (receiver (n + 1)) fun r => NonemptyUnions.typeExpr r.type := by
  rw [Parser.receiver.eq_2]
  refine ih.parameters.bind fun list hl => ?_
  split
  · next f hf =>
    have hfields : NonemptyUnions.fields list.fields := by cases list; exact hl
    exact .pure ((fields_iff _).mp hfields f (by simp [hf]))
  · exact .failAt _ _

end Succ


theorem unionsHaveTerms_zero : UnionsHaveTerms 0 := by
  constructor <;> intros <;>
    simp only [
      Parser.parseType, Parser.typeInner, Parser.typeName, Parser.typeArgs,
      Parser.constraint, Parser.unionTerms, Parser.typeParams, Parser.typeParamDecls,
      Parser.signature, Parser.parameters, Parser.paramEntries, Parser.structType,
      Parser.fieldDecls, Parser.fieldDecl, Parser.interfaceType, Parser.interfaceElems,
      Parser.parseExpr, Parser.exprList, Parser.moreExprs, Parser.typeOrExpr,
      Parser.binaryExpr, Parser.binaryRest, Parser.unaryExpr, Parser.unaryInner,
      Parser.primaryExpr, Parser.primarySuffixes, Parser.operand, Parser.selectorOrAssert,
      Parser.indexOrSlice, Parser.indexInner, Parser.indexArgs, Parser.callExpr,
      Parser.callArgs, Parser.compositeLit, Parser.literalValue, Parser.literalElems,
      Parser.element, Parser.funcBody, Parser.block, Parser.stmtList, Parser.stmtsFrom,
      Parser.stmt, Parser.branchStmt, Parser.simpleStmt, Parser.simpleStmtOnly,
      Parser.controlHeader, Parser.ifStmt, Parser.forStmt, Parser.forHeader,
      Parser.switchStmt, Parser.switchClauses, Parser.typeCases, Parser.selectStmt,
      Parser.commClauses, Parser.commStmt, Parser.genDecl, Parser.groupSpecs, Parser.spec,
      Parser.funcDecl, Parser.receiver] <;>
    exact Gives.outOfSteps

theorem unionsHaveTerms_succ {n : Nat} (ih : UnionsHaveTerms n) : UnionsHaveTerms (n + 1) :=
  ⟨parseType_gives_succ ih, typeInner_gives_succ ih, typeName_gives_succ ih, typeArgs_gives_succ
    ih, constraint_gives_succ ih, unionTerms_gives_succ ih, typeParams_gives_succ ih,
    typeParamDecls_gives_succ ih, signature_gives_succ ih, parameters_gives_succ ih,
    paramEntries_gives_succ ih, structType_gives_succ ih, fieldDecls_gives_succ ih,
    fieldDecl_gives_succ ih, interfaceType_gives_succ ih, interfaceElems_gives_succ ih,
    parseExpr_gives_succ ih, exprList_gives_succ ih, moreExprs_gives_succ ih,
    typeOrExpr_gives_succ ih, binaryExpr_gives_succ ih, binaryRest_gives_succ ih,
    unaryExpr_gives_succ ih, unaryInner_gives_succ ih, primaryExpr_gives_succ ih,
    primarySuffixes_gives_succ ih, operand_gives_succ ih, selectorOrAssert_gives_succ ih,
    indexOrSlice_gives_succ ih, indexInner_gives_succ ih, indexArgs_gives_succ ih,
    callExpr_gives_succ ih, callArgs_gives_succ ih, compositeLit_gives_succ ih,
    literalValue_gives_succ ih, literalElems_gives_succ ih, element_gives_succ ih,
    funcBody_gives_succ ih, block_gives_succ ih, stmtList_gives_succ ih, stmtsFrom_gives_succ
    ih, stmt_gives_succ ih, branchStmt_gives_succ, simpleStmt_gives_succ ih,
    simpleStmtOnly_gives_succ ih, controlHeader_gives_succ ih, ifStmt_gives_succ ih,
    forStmt_gives_succ ih, forHeader_gives_succ ih, switchStmt_gives_succ ih,
    switchClauses_gives_succ ih, typeCases_gives_succ ih, selectStmt_gives_succ ih,
    commClauses_gives_succ ih, commStmt_gives_succ ih, genDecl_gives_succ ih,
    groupSpecs_gives_succ ih, spec_gives_succ ih, funcDecl_gives_succ ih, receiver_gives_succ
    ih⟩

/-- Every production, at every step bound, gives results whose unions have terms. -/
theorem unionsHaveTerms : ∀ n, UnionsHaveTerms n
  | 0 => unionsHaveTerms_zero
  | n + 1 => unionsHaveTerms_succ (unionsHaveTerms n)

end Parser

/-! ## Files -/

section Files

open Parser ParseM

theorem importDecls_gives : ∀ (n : Nat) (acc : Array TopDecl),
    (∀ d ∈ acc.toList, NonemptyUnions.topDecl d) →
      Gives (importDecls n acc) fun r => ∀ d ∈ r.toList, NonemptyUnions.topDecl d
  | 0, _, _ => by
    rw [importDecls.eq_1]
    exact .outOfSteps
  | n + 1, acc, hacc => by
    rw [importDecls.eq_2]
    refine .bind_any fun _ => .ite (.pure hacc) ?_
    exact (unionsHaveTerms n).genDecl.bind fun _ hd => .bind_any fun _ =>
      importDecls_gives n _ (push_of_iff (fun _ => Iff.rfl) hacc hd)

theorem topDecls_gives : ∀ (n : Nat) (acc : Array TopDecl),
    (∀ d ∈ acc.toList, NonemptyUnions.topDecl d) →
      Gives (topDecls n acc) fun r => ∀ d ∈ r.toList, NonemptyUnions.topDecl d
  | 0, _, _ => by
    rw [topDecls.eq_1]
    exact .outOfSteps
  | n + 1, acc, hacc => by
    rw [topDecls.eq_2]
    refine .bind_any fun _ => .ite (.pure hacc) (.bind_any fun _ => ?_)
    extract_lets jp
    -- a declaration read, with or without its semicolon, is added to the rest
    have hjp : ∀ d, NonemptyUnions.topDecl d →
        Gives (jp d) fun r => ∀ d ∈ r.toList, NonemptyUnions.topDecl d := fun _ hd =>
      have hrest := topDecls_gives n _ (push_of_iff (fun _ => Iff.rfl) hacc hd)
      .bind_any fun _ => .ite (.bind_any fun _ => hrest) hrest
    have g := unionsHaveTerms n
    split
    · exact .bind (g.genDecl.map fun _ h => h) hjp
    · exact .bind (g.genDecl.map fun _ h => h) hjp
    · exact .bind (g.genDecl.map fun _ h => h) hjp
    · exact .bind (g.funcDecl.map fun _ h => h) hjp
    · exact .bind_any fun _ => .bind (.failAt _ _) hjp
    · exact .bind (.failExpected _) hjp

/-- Every union of a file the parser returns has a term. -/
theorem sourceFile_gives (fuel : Nat) : Gives (sourceFile fuel) NonemptyUnions.file := by
  unfold sourceFile
  refine .bind_any fun _ => .bind_any fun _ => .bind_any fun _ => .bind_any fun _ =>
    .bind_any fun _ => ?_
  exact (importDecls_gives fuel #[] (by simp)).bind fun _ hi => (topDecls_gives fuel _ hi).bind
    fun _ hd => .bind_any fun _ => .pure hd

theorem parseFile_nonemptyUnions {src filename : String} {pf : ParsedFile}
    (h : parseFile src filename = .ok pf) : NonemptyUnions.file pf.file := by
  unfold parseFile at h
  extract_lets lines lexed stop toks st0 st at h
  split at h
  · cases h
  split at h
  case h_2 => cases h
  rename_i file st' hrun
  cases h
  exact sourceFile_gives _ hrun

end Files

end GoTemplates.Syntax
