import GoTemplates.Proofs.Syntax.StepBound
import GoTemplates.Proofs.Syntax.Productions

/-! # Every production fits its step bound

Each production at bound `n + 1` calls others at bound `n`. It fits, from a state with `t`
tokens left, when `64 * t` and a spare of `c` steps stay within its bound. A call made before
any token is taken needs a smaller spare than its caller's, and a call after one is taken has
64 steps more to spend, so the spares below, from 1 to 14, are one rank of the productions
that do not take a token before they call. Productions that always take a token move `1`,
loops and lists that may stop at once move `0`; a loop goes round again only after taking
one, at `bound - 1` with one token less.
-/

namespace GoTemplates.Syntax

namespace Parser

open ParseM

/-- Every production at step bound `n` fits it, with its spare and its least move. -/
structure StepBudget (n : Nat) : Prop where
  parseType : Fits n 3 1 (parseType n)
  typeInner : Fits n 2 1 (typeInner n)
  typeName : Fits n 1 1 (typeName n)
  typeArgs : ∀ acc, Fits n 1 0 (typeArgs n acc)
  constraint : Fits n 5 1 (constraint n)
  unionTerms : ∀ acc, Fits n 4 1 (unionTerms n acc)
  typeParams : Fits n 1 1 (typeParams n)
  typeParamDecls : ∀ acc, Fits n 1 0 (typeParamDecls n acc)
  signature : Fits n 2 1 (signature n)
  parameters : Fits n 1 1 (parameters n)
  paramEntries : ∀ acc, Fits n 4 0 (paramEntries n acc)
  structType : ∀ start, FitsPast n (structType n start)
  fieldDecls : ∀ acc, Fits n 5 0 (fieldDecls n acc)
  fieldDecl : Fits n 4 1 (fieldDecl n)
  interfaceType : ∀ start, FitsPast n (interfaceType n start)
  interfaceElems : ∀ acc, Fits n 6 0 (interfaceElems n acc)
  parseExpr : Fits n 9 1 (parseExpr n)
  exprList : Fits n 10 1 (exprList n)
  moreExprs : ∀ acc, Fits n 1 0 (moreExprs n acc)
  typeOrExpr : Fits n 9 1 (typeOrExpr n)
  binaryExpr : ∀ prec, Fits n 8 1 (binaryExpr n prec)
  binaryRest : ∀ prec start x, Fits n 1 0 (binaryRest n prec start x)
  unaryExpr : Fits n 7 1 (unaryExpr n)
  unaryInner : Fits n 6 1 (unaryInner n)
  primaryExpr : Fits n 5 1 (primaryExpr n)
  primarySuffixes : ∀ x start, Fits n 3 0 (primarySuffixes n x start)
  operand : Fits n 4 1 (operand n)
  selectorOrAssert : ∀ x start, FitsPast n (selectorOrAssert n x start)
  indexOrSlice : ∀ x start, FitsPast n (indexOrSlice n x start)
  indexInner : Fits n 10 0 (indexInner n)
  indexArgs : ∀ acc, Fits n 1 0 (indexArgs n acc)
  callExpr : ∀ x start, FitsPast n (callExpr n x start)
  callArgs : ∀ acc ell, Fits n 10 0 (callArgs n acc ell)
  compositeLit : ∀ x start, Fits n 2 1 (compositeLit n x start)
  literalValue : Fits n 1 1 (literalValue n)
  literalElems : ∀ acc, Fits n 11 0 (literalElems n acc)
  element : Fits n 10 1 (element n)
  funcBody : Fits n 2 1 (funcBody n)
  block : Fits n 1 1 (block n)
  stmtList : Fits n 14 0 (stmtList n)
  stmtsFrom : ∀ acc, Fits n 13 0 (stmtsFrom n acc)
  stmt : Fits n 12 1 (stmt n)
  branchStmt : ∀ start kind, FitsPast n (branchStmt n start kind)
  simpleStmt : ∀ mode, Fits n 11 1 (simpleStmt n mode)
  simpleStmtOnly : Fits n 12 1 (simpleStmtOnly n)
  controlHeader : Fits n 13 0 (controlHeader n)
  ifStmt : Fits n 1 1 (ifStmt n)
  forStmt : ∀ start, FitsPast n (forStmt n start)
  forHeader : Fits n 13 0 (forHeader n)
  switchStmt : ∀ start, FitsPast n (switchStmt n start)
  switchClauses : ∀ isType acc, Fits n 1 0 (switchClauses n isType acc)
  typeCases : ∀ acc, Fits n 4 1 (typeCases n acc)
  selectStmt : ∀ start, FitsPast n (selectStmt n start)
  commClauses : ∀ acc, Fits n 1 0 (commClauses n acc)
  commStmt : Fits n 13 1 (commStmt n)
  genDecl : Fits n 2 1 (genDecl n)
  groupSpecs : ∀ kind acc, Fits n 2 0 (groupSpecs n kind acc)
  spec : ∀ kind doc, Fits n 1 1 (spec n kind doc)
  funcDecl : Fits n 1 1 (funcDecl n)
  receiver : Fits n 2 1 (receiver n)

section Succ

/-! ## One production at bound `n + 1` from all of them at bound `n` -/

variable {n : Nat} (ih : StepBudget n)
include ih

theorem parseType_fits_succ : Fits (n + 1) 3 1 (parseType (n + 1)) := by
  intro st hb
  rw [Parser.parseType.eq_2]
  exact ih.typeInner.nested st (by omega)

theorem typeInner_fits_succ : Fits (n + 1) 2 1 (typeInner (n + 1)) := by
  intro st hb
  rw [Parser.typeInner.eq_2]
  simp only [runs_bind, runs_start, runs_tok]
  split
  · exact ih.typeName st (by omega)
  · -- `*T`
    next heq =>
    simp only [runs_bind, runs_since, runs_pure]
    refine runs_bump_of_tok heq (by decide) fun _ st₁ h₁ => ?_
    exact (ih.parseType st₁ (by omega)).mono fun _ _ h₂ => by omega
  · -- `[]T` and `[N]T`
    next heq =>
    simp only [runs_bind, runs_ite, runs_map, runs_atPunct, runs_peek, runs_since, runs_pure]
    refine runs_bump_of_tok heq (by decide) fun _ st₁ h₁ => ?_
    split
    · refine runs_bump_moves fun _ st₂ h₂ => ?_
      exact (ih.parseType st₂ (by omega)).mono fun _ _ h₃ => by omega
    -- the length, `...` or an expression, and then the element type
    split
    case' isTrue => refine runs_bump_moves fun _ st₂ h₂ => ?_
    case' isFalse => refine (ih.parseExpr.deeper st₁ (by omega)).mono fun _ st₂ h₂ => ?_
    all_goals
      refine runs_expect (by decide) fun _ st₃ h₃ => ?_
      exact (ih.parseType st₃ (by omega)).mono fun _ _ h₄ => by omega
  · -- `map[K]V`
    next heq =>
    simp only [runs_bind, runs_since, runs_pure]
    refine runs_bump_of_tok heq (by decide) fun _ st₁ h₁ => ?_
    refine runs_expect (by decide) fun _ st₂ h₂ => ?_
    refine (ih.parseType st₂ (by omega)).mono fun _ st₃ h₃ => ?_
    refine runs_expect (by decide) fun _ st₄ h₄ => ?_
    exact (ih.parseType st₄ (by omega)).mono fun _ _ h₅ => by omega
  · -- `chan T` and `chan<- T`
    next heq =>
    simp only [runs_bind, runs_since, runs_pure]
    refine runs_bump_of_tok heq (by decide) fun _ st₁ h₁ => ?_
    refine runs_eat_moves _ fun _ st₂ h₂ => ?_
    exact (ih.parseType st₂ (by omega)).mono fun _ _ h₃ => by omega
  · -- `<-chan T`
    next heq =>
    simp only [runs_bind, runs_since, runs_pure]
    refine runs_bump_of_tok heq (by decide) fun _ st₁ h₁ => ?_
    refine runs_expect (by decide) fun _ st₂ h₂ => ?_
    exact (ih.parseType st₂ (by omega)).mono fun _ _ h₃ => by omega
  · next heq => exact ih.structType _ st (by rw [heq]; decide) (by omega)
  · next heq => exact ih.interfaceType _ st (by rw [heq]; decide) (by omega)
  · -- `func(...)`
    next heq =>
    simp only [runs_bind, runs_since, runs_pure]
    refine runs_bump_of_tok heq (by decide) fun _ st₁ h₁ => ?_
    exact (ih.signature st₁ (by omega)).mono fun _ _ h₂ => by omega
  · -- `(T)`
    next heq =>
    simp only [runs_bind, runs_since, runs_pure]
    refine runs_bump_of_tok heq (by decide) fun _ st₁ h₁ => ?_
    refine (ih.parseType st₁ (by omega)).mono fun _ st₂ h₂ => ?_
    exact runs_expect (by decide) fun _ _ h₃ => by omega
  · exact runs_failExpected _

theorem typeName_fits_succ : Fits (n + 1) 1 1 (typeName (n + 1)) := by
  intro st hb
  rw [Parser.typeName.eq_2]
  simp only [runs_bind, runs_ite, runs_pure, runs_start, runs_atPunct, runs_since]
  refine runs_ident fun _ st₁ h₁ => ?_
  refine runs_eat_moves _ fun _ st₂ h₂ => ?_
  split
  case' isTrue =>
    -- `pkg.T`: the name after the dot
    refine runs_ident fun _ st₃ h₃ => ?_
  -- the type arguments
  all_goals
    split
    · refine runs_bump_moves fun _ st₄ h₄ => ?_
      refine (ih.parseType st₄ (by omega)).mono fun _ st₅ h₅ => ?_
      refine (ih.typeArgs _ st₅ (by omega)).mono fun _ st₆ h₆ => ?_
      exact runs_expect (by decide) fun _ _ h₇ => by omega
    · omega

theorem typeArgs_fits_succ (acc : Array TypeExpr) : Fits (n + 1) 1 0 (typeArgs (n + 1) acc) := by
  intro st hb
  rw [Parser.typeArgs.eq_2]
  simp only [runs_bind, runs_ite, runs_pure, runs_atPunct]
  refine runs_eat_isNone (by decide) (by omega) fun st₁ h₁ => ?_
  split
  · omega
  · refine (ih.parseType st₁ (by omega)).mono fun _ st₂ h₂ => ?_
    exact (ih.typeArgs _ st₂ (by omega)).mono fun _ _ h₃ => by omega

theorem constraint_fits_succ : Fits (n + 1) 5 1 (constraint (n + 1)) := by
  intro st hb
  rw [Parser.constraint.eq_2]
  simp only [runs_bind, runs_start]
  refine (ih.unionTerms _ st (by omega)).mono fun _ st₁ h₁ => ?_
  split
  · simp only [runs_pure]
    omega
  · simp only [runs_bind, runs_since, runs_pure]
    omega

theorem unionTerms_fits_succ (acc : Array UnionTerm) :
    Fits (n + 1) 4 1 (unionTerms (n + 1) acc) := by
  intro st hb
  rw [Parser.unionTerms.eq_2]
  simp only [runs_bind, runs_ite, runs_pure]
  refine runs_eat_moves _ fun _ st₁ h₁ => ?_
  refine (ih.parseType st₁ (by omega)).mono fun _ st₂ h₂ => ?_
  refine runs_eat_isSome (by decide) (fun st₃ h₃ => ?_) (by omega)
  exact (ih.unionTerms _ st₃ (by omega)).mono fun _ _ h₄ => by omega

theorem typeParams_fits_succ : Fits (n + 1) 1 1 (typeParams (n + 1)) := by
  intro st hb
  rw [Parser.typeParams.eq_2]
  simp only [runs_bind, runs_start, runs_since, runs_pure]
  refine runs_expect (by decide) fun _ st₁ h₁ => ?_
  refine (ih.typeParamDecls _ st₁ (by omega)).mono fun _ st₂ h₂ => ?_
  exact runs_expect (by decide) fun _ _ h₃ => by omega

theorem typeParamDecls_fits_succ (acc : Array TypeParamDecl) :
    Fits (n + 1) 1 0 (typeParamDecls (n + 1) acc) := by
  intro st hb
  rw [Parser.typeParamDecls.eq_2]
  simp only [runs_bind, runs_ite, runs_pure, runs_atPunct, runs_start, runs_since]
  split
  · omega
  · refine runs_identList fun _ st₁ h₁ => ?_
    refine (ih.constraint st₁ (by omega)).mono fun _ st₂ h₂ => ?_
    refine runs_eat_isSome (by decide) (fun st₃ h₃ => ?_) (by omega)
    exact (ih.typeParamDecls _ st₃ (by omega)).mono fun _ _ h₄ => by omega

theorem signature_fits_succ : Fits (n + 1) 2 1 (signature (n + 1)) := by
  intro st hb
  rw [Parser.signature.eq_2]
  simp only [runs_bind, runs_start, runs_tok]
  refine (ih.parameters st (by omega)).mono fun _ st₁ h₁ => ?_
  -- the results: a parameter list, a single type, or none
  split <;> simp only [runs_bind, runs_since, runs_pure] <;> first
    | exact (ih.parameters st₁ (by omega)).mono fun _ _ h₂ => by omega
    | exact (ih.parseType st₁ (by omega)).mono fun _ _ h₂ => by omega
    | omega

theorem parameters_fits_succ : Fits (n + 1) 1 1 (parameters (n + 1)) := by
  intro st hb
  rw [Parser.parameters.eq_2]
  simp only [runs_bind, runs_pure]
  refine runs_expect (by decide) fun _ st₁ h₁ => ?_
  refine (ih.paramEntries _ st₁ (by omega)).mono fun _ st₂ h₂ => ?_
  exact runs_expect (by decide) fun _ _ h₃ => by omega

theorem paramEntries_fits_succ (acc : Array ParamEntry) :
    Fits (n + 1) 4 0 (paramEntries (n + 1) acc) := by
  intro st hb
  rw [Parser.paramEntries.eq_2]
  simp only [runs_bind, runs_ite, runs_pure, runs_atPunct, runs_start, runs_tok, runs_peek]
  split
  · omega
  -- the entry: a name and a type, a type, a qualified type, or a lone name
  split <;> simp only [runs_bind, runs_ite, runs_pure, runs_since] <;> first
    | refine runs_ident fun _ st₁ h₁ => runs_eat_moves _ fun _ st₂ h₂ =>
        (ih.parseType st₂ (by omega)).mono fun _ st₃ h₃ => ?_
    | refine runs_eat_moves _ fun _ st₁ h₁ => (ih.parseType st₁ (by omega)).mono fun _ st₂ h₂ => ?_
    | refine (ih.parseType st (by omega)).mono fun _ st₁ h₁ => ?_
    | refine runs_ident fun _ st₁ h₁ => ?_
  -- the next entry, after a comma
  all_goals
    refine runs_eat_isSome (by decide) (fun st₄ h₄ => ?_) (by omega)
    exact (ih.paramEntries _ st₄ (by omega)).mono fun _ _ h₅ => by omega

theorem structType_fits_succ (start : Nat) : FitsPast (n + 1) (structType (n + 1) start) := by
  intro st htok hb
  rw [Parser.structType.eq_2]
  simp only [runs_bind, runs_since, runs_pure]
  refine runs_bump_of_tok rfl htok fun _ st₁ h₁ => ?_
  refine runs_expect (by decide) fun _ st₂ h₂ => ?_
  refine (ih.fieldDecls _ st₂ (by omega)).mono fun _ st₃ h₃ => ?_
  exact runs_expect (by decide) fun _ _ h₄ => by omega

theorem fieldDecls_fits_succ (acc : Array Field) : Fits (n + 1) 5 0 (fieldDecls (n + 1) acc) := by
  intro st hb
  rw [Parser.fieldDecls.eq_2]
  simp only [runs_bind, runs_ite, runs_pure, runs_atPunct, runs_atTok]
  split
  · omega
  · refine (ih.fieldDecl st (by omega)).mono fun _ st₁ h₁ => ?_
    refine runs_expectSemi fun st₂ h₂ => ?_
    exact (ih.fieldDecls _ st₂ (by omega)).mono fun _ _ h₃ => by omega

theorem fieldDecl_fits_succ : Fits (n + 1) 4 1 (fieldDecl (n + 1)) := by
  intro st hb
  rw [Parser.fieldDecl.eq_2]
  simp only [runs_bind, runs_start, runs_tok, runs_peek]
  refine runs_takeDoc _ fun _ st₁ h₁ => ?_
  -- the names and type: an embedded type name, named fields, or an embedded pointer
  split <;> simp only [runs_bind, runs_pure, runs_tok] <;> first
    | refine (ih.typeName st₁ (by omega)).mono fun _ st₂ h₂ => ?_
    | refine runs_identList fun _ st₂ h₂ => (ih.parseType st₂ (by omega)).mono fun _ st₃ h₃ => ?_
    | refine (ih.parseType st₁ (by omega)).mono fun _ st₂ h₂ => ?_
    | exact runs_failExpected _
  -- the tag and the line comment
  all_goals
    split <;> simp only [runs_bind, runs_map, runs_prevEnd, runs_since, runs_pure] <;> first
      | refine runs_stringLit fun _ st₄ h₄ => runs_takeLineComment _ fun _ _ h₅ => by omega
      | exact runs_takeLineComment _ fun _ _ h₅ => by omega

theorem interfaceType_fits_succ (start : Nat) :
    FitsPast (n + 1) (interfaceType (n + 1) start) := by
  intro st htok hb
  rw [Parser.interfaceType.eq_2]
  simp only [runs_bind, runs_since, runs_pure]
  refine runs_bump_of_tok rfl htok fun _ st₁ h₁ => ?_
  refine runs_expect (by decide) fun _ st₂ h₂ => ?_
  refine (ih.interfaceElems _ st₂ (by omega)).mono fun _ st₃ h₃ => ?_
  exact runs_expect (by decide) fun _ _ h₄ => by omega

theorem interfaceElems_fits_succ (acc : Array InterfaceElem) :
    Fits (n + 1) 6 0 (interfaceElems (n + 1) acc) := by
  intro st hb
  rw [Parser.interfaceElems.eq_2]
  simp only [runs_bind, runs_ite, runs_pure, runs_atPunct, runs_atTok, runs_tok, runs_peek]
  split
  · omega
  -- a method, or an embedded constraint
  split
  case' h_1 =>
    simp only [runs_bind, runs_pure]
    refine runs_ident fun _ st₁ h₁ => (ih.signature st₁ (by omega)).mono fun _ st₂ h₂ => ?_
  case' h_2 =>
    simp only [runs_bind, runs_map]
    refine (ih.constraint st (by omega)).mono fun _ st₂ h₂ => ?_
  all_goals
    refine runs_expectSemi fun st₃ h₃ => ?_
    exact (ih.interfaceElems _ st₃ (by omega)).mono fun _ _ h₄ => by omega

theorem parseExpr_fits_succ : Fits (n + 1) 9 1 (parseExpr (n + 1)) := by
  intro st hb
  rw [Parser.parseExpr.eq_2]
  simp only [runs_bind]
  refine (ih.binaryExpr 1 st (by omega)).mono fun x st₁ h₁ => ?_
  exact runs_operandExpr x fun _ => h₁

theorem exprList_fits_succ : Fits (n + 1) 10 1 (exprList (n + 1)) := by
  intro st hb
  rw [Parser.exprList.eq_2]
  simp only [runs_bind, runs_pure]
  refine (ih.parseExpr st (by omega)).mono fun _ st₁ h₁ => ?_
  exact (ih.moreExprs _ st₁ (by omega)).mono fun _ _ h₂ => by omega

theorem moreExprs_fits_succ (acc : Array Expr) : Fits (n + 1) 1 0 (moreExprs (n + 1) acc) := by
  intro st hb
  rw [Parser.moreExprs.eq_2]
  simp only [runs_bind, runs_ite, runs_pure]
  refine runs_eat_isSome (by decide) (fun st₁ h₁ => ?_) (by omega)
  refine (ih.parseExpr st₁ (by omega)).mono fun _ st₂ h₂ => ?_
  exact (ih.moreExprs _ st₂ (by omega)).mono fun _ _ h₃ => by omega

theorem typeOrExpr_fits_succ : Fits (n + 1) 9 1 (typeOrExpr (n + 1)) := by
  intro st hb
  rw [Parser.typeOrExpr.eq_2]
  exact ih.binaryExpr 1 st (by omega)

theorem binaryExpr_fits_succ (prec : Nat) : Fits (n + 1) 8 1 (binaryExpr (n + 1) prec) := by
  intro st hb
  rw [Parser.binaryExpr.eq_2]
  simp only [runs_bind, runs_start]
  refine (ih.unaryExpr st (by omega)).mono fun _ st₁ h₁ => ?_
  exact (ih.binaryRest _ _ _ st₁ (by omega)).mono fun _ _ h₂ => by omega

theorem binaryRest_fits_succ (prec start : Nat) (x : Term) :
    Fits (n + 1) 1 0 (binaryRest (n + 1) prec start x) := by
  intro st hb
  rw [Parser.binaryRest.eq_2]
  simp only [runs_bind, runs_tok]
  split
  · simp only [runs_pure]
    omega
  · next op hop =>
    simp only [runs_bind, runs_ite, runs_pure, runs_since]
    split
    · omega
    -- an operator is not the end of input
    refine runs_bump_of_tok rfl (fun heof => by rw [heof] at hop; cases hop) fun _ st₁ h₁ => ?_
    refine runs_operandExpr x fun _ => ?_
    refine (ih.binaryExpr _ st₁ (by omega)).mono fun y st₂ h₂ => ?_
    refine runs_operandExpr y fun _ => ?_
    exact (ih.binaryRest _ _ _ st₂ (by omega)).mono fun _ _ h₃ => by omega

theorem unaryExpr_fits_succ : Fits (n + 1) 7 1 (unaryExpr (n + 1)) := by
  intro st hb
  rw [Parser.unaryExpr.eq_2]
  exact ih.unaryInner.nested st (by omega)

theorem unaryInner_fits_succ : Fits (n + 1) 6 1 (unaryInner (n + 1)) := by
  intro st hb
  rw [Parser.unaryInner.eq_2]
  simp only [runs_bind, runs_start, runs_tok]
  split
  · exact ih.primaryExpr st (by omega)
  · next op hop =>
    simp only [runs_bind, runs_ite, runs_atKw, runs_since]
    -- an operator is not the end of input
    refine runs_bump_of_tok rfl (fun heof => by rw [heof] at hop; cases hop) fun _ st₁ h₁ => ?_
    split
    · -- `<-chan T`, a channel type after all
      refine runs_bump_moves fun _ st₂ h₂ => ?_
      refine (ih.parseType st₂ (by omega)).mono fun _ st₃ h₃ => ?_
      exact (ih.primarySuffixes _ _ st₃ (by omega)).mono fun _ _ h₄ => by omega
    · refine (ih.unaryExpr st₁ (by omega)).mono fun _ st₂ h₂ => ?_
      split
      · simp only [runs_bind, runs_since, runs_pure]
        omega
      · simp only [runs_bind, runs_since, runs_pure]
        exact runs_operandExpr _ fun _ => by omega

theorem primaryExpr_fits_succ : Fits (n + 1) 5 1 (primaryExpr (n + 1)) := by
  intro st hb
  rw [Parser.primaryExpr.eq_2]
  simp only [runs_bind, runs_start]
  refine (ih.operand st (by omega)).mono fun _ st₁ h₁ => ?_
  exact (ih.primarySuffixes _ _ st₁ (by omega)).mono fun _ _ h₂ => by omega

theorem primarySuffixes_fits_succ (x : Term) (start : Nat) :
    Fits (n + 1) 3 0 (primarySuffixes (n + 1) x start) := by
  intro st hb
  rw [Parser.primarySuffixes.eq_2]
  simp only [runs_bind, runs_tok]
  -- each suffix takes its opening token before the next round
  split
  case' h_1 heq =>
    simp only [runs_bind]
    refine (ih.selectorOrAssert _ _ st (by rw [heq]; decide) (by omega)).mono fun _ st₁ h₁ => ?_
  case' h_2 heq =>
    simp only [runs_bind]
    refine (ih.indexOrSlice _ _ st (by rw [heq]; decide) (by omega)).mono fun _ st₁ h₁ => ?_
  case' h_3 heq =>
    simp only [runs_bind]
    refine (ih.callExpr _ _ st (by rw [heq]; decide) (by omega)).mono fun _ st₁ h₁ => ?_
  case' h_4 =>
    -- a composite literal, when the operand can be its type
    simp only [runs_bind, runs_ite, runs_pure]
    refine runs_isLiteralType x fun _ => ?_
    split
    · refine (ih.compositeLit _ _ st (by omega)).mono fun _ st₁ h₁ => ?_
      exact (ih.primarySuffixes _ _ st₁ (by omega)).mono fun _ _ h₂ => by omega
    · omega
  case' h_5 =>
    simp only [runs_pure]
    omega
  all_goals exact (ih.primarySuffixes _ _ _ (by omega)).mono fun _ _ h₂ => by omega

theorem operand_fits_succ : Fits (n + 1) 4 1 (operand (n + 1)) := by
  intro st hb
  rw [Parser.operand.eq_2]
  simp only [runs_bind, runs_start, runs_tok]
  split
  case' h_1 s heq | h_2 s heq | h_3 s heq | h_4 s heq | h_5 s heq | h_6 s heq =>
    -- a basic literal takes its token
    simp only [runs_bind, runs_pure]
    exact runs_bump_of_tok heq Token.noConfusion fun _ _ h => h
  case' h_7 =>
    simp only [runs_bind, runs_pure]
    exact runs_ident fun _ _ h => h
  case' h_8 heq =>
    -- `(x)`, one expression level deeper
    simp only [runs_bind, runs_since]
    refine runs_bump_of_tok heq (by decide) fun _ st₁ h₁ => ?_
    refine ((ih.binaryExpr 1).deeper st₁ (by omega)).mono fun _ st₂ h₂ => ?_
    refine runs_expect (by decide) fun _ st₃ h₃ => ?_
    split
    · simp only [runs_pure]
      omega
    · simp only [runs_pure]
      omega
  case' h_9 heq =>
    -- a function literal, or a function type
    simp only [runs_bind, runs_ite, runs_atPunct, runs_since, runs_pure]
    refine runs_bump_of_tok heq (by decide) fun _ st₁ h₁ => ?_
    refine (ih.signature st₁ (by omega)).mono fun _ st₂ h₂ => ?_
    split
    · exact (ih.funcBody st₂ (by omega)).mono fun _ _ h₃ => by omega
    · omega
  case' h_10 | h_11 | h_12 | h_13 | h_14 =>
    -- a composite or channel type
    exact runs_map.mpr (ih.parseType st (by omega))
  case' h_15 => exact runs_failExpected _

theorem selectorOrAssert_fits_succ (x : Term) (start : Nat) :
    FitsPast (n + 1) (selectorOrAssert (n + 1) x start) := by
  intro st htok hb
  rw [Parser.selectorOrAssert.eq_2]
  simp only [runs_bind, runs_tok]
  refine runs_bump_of_tok rfl htok fun _ st₁ h₁ => ?_
  refine runs_operandExpr x fun _ => ?_
  split
  · simp only [runs_bind, runs_since, runs_pure]
    exact runs_ident fun _ _ h₂ => by omega
  · -- `.(T)` or `.(type)`
    simp only [runs_bind, runs_ite, runs_map, runs_pure, runs_since]
    refine runs_bump_moves fun _ st₂ h₂ => ?_
    refine runs_eat_moves _ fun _ st₃ h₃ => ?_
    split
    case' isFalse => refine (ih.parseType st₃ (by omega)).mono fun _ st₄ h₄ => ?_
    all_goals exact runs_expect (by decide) fun _ _ h₅ => by omega
  · exact runs_failExpected _

theorem indexOrSlice_fits_succ (x : Term) (start : Nat) :
    FitsPast (n + 1) (indexOrSlice (n + 1) x start) := by
  intro st htok hb
  rw [Parser.indexOrSlice.eq_2]
  simp only [runs_bind]
  refine runs_operandExpr x fun _ => ?_
  refine runs_bump_of_tok rfl htok fun _ st₁ h₁ => ?_
  refine (ih.indexInner.deeper st₁ (by omega)).mono fun _ st₂ h₂ => ?_
  refine runs_expect (by decide) fun _ st₃ h₃ => ?_
  split
  · simp only [runs_bind, runs_since, runs_pure]
    omega
  · simp only [runs_bind, runs_since, runs_pure]
    omega

theorem indexInner_fits_succ : Fits (n + 1) 10 0 (indexInner (n + 1)) := by
  intro st hb
  rw [Parser.indexInner.eq_2]
  simp only [runs_bind, runs_ite, runs_map, runs_pure, runs_discard, runs_atPunct]
  -- a slice starts at once, or after the first index or argument
  split
  case' isFalse =>
    refine (ih.typeOrExpr st (by omega)).mono fun _ st₁ h₁ => ?_
    split
    case' isFalse => exact (ih.indexArgs _ st₁ (by omega)).mono fun _ _ h₂ => by omega
    case' isTrue =>
      -- the low bound of a slice must be an expression
      split <;> simp only [runs_bind, runs_ite, runs_map, runs_pure, runs_discard, runs_atPunct]
      case' h_3 => exact runs_failAt _ (by decide)
  -- a slice: past the colon, the high bound and the max
  all_goals
    refine runs_bump_moves fun _ st₂ h₂ => ?_
    split
    case' isFalse => refine (ih.parseExpr st₂ (by omega)).mono fun _ st₃ h₃ => ?_
    all_goals
      refine runs_eat_isSome (by decide) (fun st₄ h₄ => ?_) (by omega)
      exact (ih.parseExpr st₄ (by omega)).mono fun _ _ h₅ => by omega

theorem indexArgs_fits_succ (acc : Array Term) : Fits (n + 1) 1 0 (indexArgs (n + 1) acc) := by
  intro st hb
  rw [Parser.indexArgs.eq_2]
  simp only [runs_bind, runs_ite, runs_pure, runs_atPunct]
  refine runs_eat_isNone (by decide) (by omega) fun st₁ h₁ => ?_
  split
  · omega
  · refine (ih.typeOrExpr st₁ (by omega)).mono fun _ st₂ h₂ => ?_
    exact (ih.indexArgs _ st₂ (by omega)).mono fun _ _ h₃ => by omega

theorem callExpr_fits_succ (x : Term) (start : Nat) :
    FitsPast (n + 1) (callExpr (n + 1) x start) := by
  intro st htok hb
  rw [Parser.callExpr.eq_2]
  simp only [runs_bind]
  refine runs_bump_of_tok rfl htok fun _ st₁ h₁ => ?_
  refine ((ih.callArgs _ _).deeper st₁ (by omega)).mono fun _ st₂ h₂ => ?_
  simp only [runs_since, runs_pure]
  exact runs_expect (by decide) fun _ _ h₃ => by omega

theorem callArgs_fits_succ (acc : Array Term) (ell : Option Source.Span) :
    Fits (n + 1) 10 0 (callArgs (n + 1) acc ell) := by
  intro st hb
  rw [Parser.callArgs.eq_2]
  simp only [runs_bind, runs_ite, runs_pure, runs_atPunct]
  split
  · omega
  refine (ih.typeOrExpr st (by omega)).mono fun _ st₁ h₁ => ?_
  -- an optional `...`, then the next argument after a comma
  refine runs_eat_moves _ fun _ st₂ h₂ => ?_
  split <;> simp only [runs_bind, runs_ite, runs_pure] <;>
    refine runs_eat_isSome (by decide) (fun st₃ h₃ => ?_) (by omega) <;>
    exact (ih.callArgs _ _ st₃ (by omega)).mono fun _ _ h₄ => by omega

theorem compositeLit_fits_succ (x : Term) (start : Nat) :
    Fits (n + 1) 2 1 (compositeLit (n + 1) x start) := by
  intro st hb
  -- the type, read back from an expression operand
  cases x
  case' type => rw [Parser.compositeLit.eq_2]
  case' expr =>
    rw [Parser.compositeLit.eq_3]
    split
    case' h_2 => exact runs_failAt _ (by decide)
  all_goals
    simp only [runs_bind, runs_pure, runs_since]
    exact (ih.literalValue st (by omega)).mono fun _ _ h₁ => by omega

theorem literalValue_fits_succ : Fits (n + 1) 1 1 (literalValue (n + 1)) := by
  intro st hb
  rw [Parser.literalValue.eq_2]
  simp only [runs_bind, runs_pure]
  refine runs_expect (by decide) fun _ st₁ h₁ => ?_
  refine ((ih.literalElems _).deeper st₁ (by omega)).mono fun _ st₂ h₂ => ?_
  exact runs_expect (by decide) fun _ _ h₃ => by omega

theorem literalElems_fits_succ (acc : Array KeyedElement) :
    Fits (n + 1) 11 0 (literalElems (n + 1) acc) := by
  intro st hb
  rw [Parser.literalElems.eq_2]
  simp only [runs_bind, runs_ite, runs_pure, runs_atPunct]
  split
  · omega
  refine (ih.element st (by omega)).mono fun _ st₁ h₁ => ?_
  -- the value after a key's colon
  refine runs_eat_moves _ fun _ st₂ h₂ => ?_
  split
  case' h_1 =>
    simp only [runs_bind, runs_ite, runs_pure]
    refine (ih.element st₂ (by omega)).mono fun _ st₃ h₃ => ?_
  case' h_2 => simp only [runs_bind, runs_ite, runs_pure]
  -- the next element, after a comma
  all_goals
    refine runs_eat_isSome (by decide) (fun st₄ h₄ => ?_) (by omega)
    exact (ih.literalElems _ st₄ (by omega)).mono fun _ _ h₅ => by omega

theorem element_fits_succ : Fits (n + 1) 10 1 (element (n + 1)) := by
  intro st hb
  rw [Parser.element.eq_2]
  simp only [runs_bind, runs_ite, runs_map, runs_atPunct]
  split
  · exact ih.literalValue.nested st (by omega)
  · exact ih.parseExpr st (by omega)

end Succ

end Parser

end GoTemplates.Syntax
