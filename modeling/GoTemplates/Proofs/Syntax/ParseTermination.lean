import GoTemplates.Proofs.Syntax.StepBudget
import GoTemplates.Proofs.Syntax.DeclaredNames

/-! # Parsing never runs out of steps

The statements and declarations of the grammar fit their step bound as the types and
expressions do, so by induction on the bound every production fits it. A file has at most as
many tokens left as its token array holds, so the bound `parseFile` gives, 64 steps a token,
is never reached: parsing ends with a file or with a syntax error, never with the failure of
running out of steps, and the nesting level is back where it started when it ends.
-/

namespace GoTemplates.Syntax

namespace Parser

open ParseM

section Succ

variable {n : Nat} (ih : StepBudget n)
include ih

theorem funcBody_fits_succ : Fits (n + 1) 2 1 (funcBody (n + 1)) := by
  intro st hb
  rw [Parser.funcBody.eq_2]
  exact ih.block.withExprLev 0 st (by omega)

theorem block_fits_succ : Fits (n + 1) 1 1 (block (n + 1)) := by
  intro st hb
  rw [Parser.block.eq_2]
  simp only [runs_bind, runs_pure]
  refine runs_expect (by decide) fun _ st₁ h₁ => ?_
  refine (ih.stmtList st₁ (by omega)).mono fun _ st₂ h₂ => ?_
  exact runs_expect (by decide) fun _ _ h₃ => by omega

theorem stmtList_fits_succ : Fits (n + 1) 14 0 (stmtList (n + 1)) := by
  intro st hb
  rw [Parser.stmtList.eq_2]
  exact (ih.stmtsFrom _).nested st (by omega)

theorem stmtsFrom_fits_succ (acc : Array Stmt) : Fits (n + 1) 13 0 (stmtsFrom (n + 1) acc) := by
  intro st hb
  rw [Parser.stmtsFrom.eq_2]
  simp only [runs_bind, runs_tok]
  split
  -- the end of the list: `}`, `case`, `default` or the end of input
  case' h_1 | h_2 | h_3 | h_4 =>
    simp only [runs_pure]
    omega
  case' h_5 heq =>
    -- an empty statement
    simp only [runs_bind, runs_discard]
    refine runs_bump_of_tok heq (by decide) fun _ st₁ h₁ => ?_
    exact (ih.stmtsFrom _ st₁ (by omega)).mono fun _ _ h₂ => by omega
  case' h_6 =>
    simp only [runs_bind]
    refine (ih.stmt st (by omega)).mono fun _ st₁ h₁ => ?_
    refine runs_expectSemi fun st₂ h₂ => ?_
    exact (ih.stmtsFrom _ st₂ (by omega)).mono fun _ _ h₃ => by omega

theorem stmt_fits_succ : Fits (n + 1) 12 1 (stmt (n + 1)) := by
  intro st hb
  rw [Parser.stmt.eq_2]
  simp only [runs_bind, runs_start, runs_tok]
  split
  case' h_1 | h_2 | h_3 =>
    -- a declaration
    simp only [runs_bind, runs_since, runs_pure]
    exact ih.genDecl st (by omega)
  case' h_4 heq | h_5 heq =>
    -- `go` and `defer`
    simp only [runs_bind, runs_since, runs_pure]
    refine runs_bump_of_tok heq (by decide) fun _ st₁ h₁ => ?_
    exact (ih.parseExpr st₁ (by omega)).mono fun _ _ h₂ => by omega
  case' h_6 heq =>
    -- `return`, with results unless the statement ends
    simp only [runs_bind, runs_ite, runs_atTok, runs_atPunct, runs_since, runs_pure]
    refine runs_bump_of_tok heq (by decide) fun _ st₁ h₁ => ?_
    split
    · omega
    · exact (ih.exprList st₁ (by omega)).mono fun _ _ h₂ => by omega
  case' h_7 heq | h_8 heq | h_9 heq | h_10 heq =>
    exact ih.branchStmt _ _ st (by rw [heq]; decide) (by omega)
  case' h_11 =>
    simp only [runs_bind, runs_since, runs_pure]
    exact ih.block st (by omega)
  case' h_12 => exact ih.ifStmt st (by omega)
  case' h_13 heq => exact ih.forStmt _ st (by rw [heq]; decide) (by omega)
  case' h_14 heq => exact ih.switchStmt _ st (by rw [heq]; decide) (by omega)
  case' h_15 heq => exact ih.selectStmt _ st (by rw [heq]; decide) (by omega)
  case' h_16 =>
    -- a simple statement, or a labeled one
    simp only [runs_bind]
    refine (ih.simpleStmt _ st (by omega)).mono fun _ st₁ h₁ => ?_
    split
    · simp only [runs_bind, runs_since, runs_pure]
      omega
    · simp only [runs_bind, runs_ite, runs_atPunct, runs_start, runs_since, runs_pure]
      split
      · omega
      · exact (ih.stmt.nested st₁ (by omega)).mono fun _ _ h₂ => by omega
    · exact runs_failAt _ (by decide)

omit ih in
theorem branchStmt_fits_succ (start : Nat) (kind : BranchKind) :
    FitsPast (n + 1) (branchStmt (n + 1) start kind) := by
  intro st htok hb
  rw [Parser.branchStmt.eq_2]
  simp only [runs_bind, runs_tok]
  refine runs_bump_of_tok rfl htok fun _ st₁ h₁ => ?_
  -- the label, where one may stand
  split <;> simp only [runs_bind, runs_map, runs_since, runs_pure] <;> first
    | omega
    | exact runs_ident fun _ _ h₂ => by omega

theorem simpleStmt_fits_succ (mode : StmtMode) : Fits (n + 1) 11 1 (simpleStmt (n + 1) mode) := by
  intro st hb
  rw [Parser.simpleStmt.eq_2]
  simp only [runs_bind, runs_ite, runs_pure, runs_start, runs_atKw, runs_tok]
  split
  · -- a range clause with no left side
    refine runs_bump_moves fun _ st₁ h₁ => ?_
    exact (ih.parseExpr st₁ (by omega)).mono fun _ _ h₂ => by omega
  refine (ih.exprList st (by omega)).mono fun lhs st₁ h₁ => ?_
  split
  · -- a short variable declaration, or a range clause with `:=`
    simp only [runs_bind, runs_ite, runs_pure, runs_atKw, runs_since]
    refine runs_bump_moves fun _ st₂ h₂ => ?_
    split
    · refine runs_identsOf lhs fun _ => runs_bump_moves fun _ st₃ h₃ => ?_
      exact (ih.parseExpr st₃ (by omega)).mono fun _ _ h₄ => by omega
    · refine runs_identsOf lhs fun _ => ?_
      exact (ih.exprList st₂ (by omega)).mono fun _ _ h₃ => by omega
  split
  · -- an assignment, or a range clause with `=`
    simp only [runs_bind, runs_ite, runs_pure, runs_atKw, runs_since]
    refine runs_bump_moves fun _ st₂ h₂ => ?_
    split
    · refine runs_bump_moves fun _ st₃ h₃ => ?_
      exact (ih.parseExpr st₃ (by omega)).mono fun _ _ h₄ => by omega
    · exact (ih.exprList st₂ (by omega)).mono fun _ _ h₃ => by omega
  split
  · -- one expression: a label, a send, an increment or decrement, or an expression statement
    split <;> simp only [runs_bind, runs_ite, runs_pure, runs_since] <;> first
      | omega
      | exact runs_bump_moves fun _ _ h₂ => by omega
      | exact runs_bump_moves fun _ st₂ h₂ => (ih.parseExpr st₂ (by omega)).mono fun _ _ h₃ => by omega
      | (split
         · split
           · simp only [runs_bind, runs_pure]
             exact runs_bump_moves fun _ _ h₂ => by omega
           · exact runs_failExpected _
         · omega)
  · exact runs_failExpected _

theorem simpleStmtOnly_fits_succ : Fits (n + 1) 12 1 (simpleStmtOnly (n + 1)) := by
  intro st hb
  rw [Parser.simpleStmtOnly.eq_2]
  simp only [runs_bind]
  refine (ih.simpleStmt _ st (by omega)).mono fun _ st₁ h₁ => ?_
  split <;> first
    | (simp only [runs_pure]; omega)
    | exact runs_failExpected _

theorem controlHeader_fits_succ : Fits (n + 1) 13 0 (controlHeader (n + 1)) := by
  intro st hb
  rw [Parser.controlHeader.eq_2]
  refine Fits.withExprLev _ (fun st hb => ?_) st hb
  simp only [runs_bind, runs_ite, runs_map, runs_pure, runs_atPunct, runs_atTok]
  split
  · omega
  -- the first simple statement, unless the header starts with `;`
  split
  case' isFalse => refine (ih.simpleStmtOnly st (by omega)).mono fun _ st₁ h₁ => ?_
  -- after `;`, the second
  all_goals
    refine runs_eat_isNone (by decide) (by omega) fun st₂ h₂ => ?_
    split
    · omega
    · exact (ih.simpleStmtOnly st₂ (by omega)).mono fun _ _ h₃ => by omega

theorem ifStmt_fits_succ : Fits (n + 1) 1 1 (ifStmt (n + 1)) := by
  intro st hb
  rw [Parser.ifStmt.eq_2]
  simp only [runs_bind, runs_ite, runs_pure, runs_start, runs_atPunct, runs_span, runs_since]
  refine runs_expect (by decide) fun _ st₁ h₁ => ?_
  split
  · exact runs_failAt _ (by decide)
  refine (ih.controlHeader st₁ (by omega)).mono fun _ st₂ h₂ => ?_
  refine runs_condOf _ fun _ => ?_
  refine (ih.block st₂ (by omega)).mono fun _ st₃ h₃ => ?_
  -- the `else` branch: an `if` one nesting level deeper, or a block
  refine runs_eat_isSome (by decide) (fun st₄ h₄ => ?_) (by omega)
  simp only [runs_tok]
  split
  · simp only [runs_bind, runs_map, runs_since, runs_pure]
    exact (ih.ifStmt.nested st₄ (by omega)).mono fun _ _ h₅ => by omega
  · simp only [runs_bind, runs_start, runs_since, runs_pure]
    exact (ih.block st₄ (by omega)).mono fun _ _ h₅ => by omega
  · exact runs_failExpected _

theorem forStmt_fits_succ (start : Nat) : FitsPast (n + 1) (forStmt (n + 1) start) := by
  intro st htok hb
  rw [Parser.forStmt.eq_2]
  simp only [runs_bind, runs_since, runs_pure]
  refine runs_bump_of_tok rfl htok fun _ st₁ h₁ => ?_
  refine (ih.forHeader.withExprLev (-1) st₁ (by omega)).mono fun _ st₂ h₂ => ?_
  exact (ih.block st₂ (by omega)).mono fun _ _ h₃ => by omega

theorem forHeader_fits_succ : Fits (n + 1) 13 0 (forHeader (n + 1)) := by
  intro st hb
  rw [Parser.forHeader.eq_2]
  simp only [runs_bind, runs_ite, runs_map, runs_discard, runs_pure, runs_atPunct, runs_atTok]
  split
  · omega
  split
  case' isFalse =>
    -- a range clause, or a first simple statement
    refine (ih.simpleStmt _ st (by omega)).mono fun _ st₁ h₁ => ?_
    split <;> simp only [runs_bind, runs_ite, runs_map, runs_discard, runs_pure, runs_atPunct,
      runs_atTok]
    case' h_1 => omega
    case' h_3 => exact runs_failAt _ (by decide)
  -- a condition alone, or a clause: the condition and the post statement after `;`
  all_goals
    refine runs_eat_isNone (by decide) (runs_condOf _ fun _ => by omega) fun st₂ h₂ => ?_
    split
    case' isFalse => refine (ih.parseExpr st₂ (by omega)).mono fun _ st₃ h₃ => ?_
    all_goals
      refine runs_expect (by decide) fun _ st₄ h₄ => ?_
      split
      · omega
      · exact (ih.simpleStmtOnly st₄ (by omega)).mono fun _ _ h₅ => by omega

theorem switchStmt_fits_succ (start : Nat) : FitsPast (n + 1) (switchStmt (n + 1) start) := by
  intro st htok hb
  rw [Parser.switchStmt.eq_2]
  simp only [runs_bind]
  refine runs_bump_of_tok rfl htok fun _ st₁ h₁ => ?_
  refine (ih.controlHeader st₁ (by omega)).mono fun _ st₂ h₂ => ?_
  refine runs_expect (by decide) fun _ st₃ h₃ => ?_
  refine (ih.switchClauses _ _ st₃ (by omega)).mono fun _ st₄ h₄ => ?_
  refine runs_expect (by decide) fun _ st₅ h₅ => ?_
  -- a type switch, or an expression switch with its tag
  split
  · simp only [runs_bind, runs_since, runs_pure]
    omega
  · split
    · simp only [runs_bind, runs_map, runs_since, runs_pure]
      exact runs_condOf _ fun _ => by omega
    · simp only [runs_bind, runs_since, runs_pure]
      omega

theorem switchClauses_fits_succ (isType : Bool) (acc : Array SwitchClause) :
    Fits (n + 1) 1 0 (switchClauses (n + 1) isType acc) := by
  intro st hb
  rw [Parser.switchClauses.eq_2]
  simp only [runs_bind, runs_ite, runs_pure, runs_atKw, runs_start, runs_since]
  split
  · omega
  · next hclause =>
    -- `case` or `default` is not the end of input
    refine runs_bump_of_tok rfl (fun heof => by simp [heof] at hclause) fun _ st₁ h₁ => ?_
    split
    case' isTrue =>
      split
      case' isTrue => refine (ih.typeCases _ st₁ (by omega)).mono fun _ st₂ h₂ => ?_
    case' isFalse =>
      split
      case' isTrue => refine (ih.exprList st₁ (by omega)).mono fun _ st₂ h₂ => ?_
    -- the colon, the statements, and the next clause
    all_goals
      refine runs_expect (by decide) fun _ st₃ h₃ => ?_
      refine (ih.stmtList st₃ (by omega)).mono fun _ st₄ h₄ => ?_
      exact (ih.switchClauses _ _ st₄ (by omega)).mono fun _ _ h₅ => by omega

theorem typeCases_fits_succ (acc : Array TypeCase) : Fits (n + 1) 4 1 (typeCases (n + 1) acc) := by
  intro st hb
  rw [Parser.typeCases.eq_2]
  simp only [runs_bind, runs_tok]
  -- `nil`, or a type
  split
  case' h_1 heq =>
    simp only [runs_bind, runs_map, runs_ite, runs_pure]
    refine runs_bump_of_tok heq (by decide) fun _ st₁ h₁ => ?_
  case' h_2 =>
    simp only [runs_bind, runs_map, runs_ite, runs_pure]
    refine (ih.parseType st (by omega)).mono fun _ st₁ h₁ => ?_
  -- the next case, after a comma
  all_goals
    refine runs_eat_isSome (by decide) (fun st₂ h₂ => ?_) (by omega)
    exact (ih.typeCases _ st₂ (by omega)).mono fun _ _ h₃ => by omega

theorem selectStmt_fits_succ (start : Nat) : FitsPast (n + 1) (selectStmt (n + 1) start) := by
  intro st htok hb
  rw [Parser.selectStmt.eq_2]
  simp only [runs_bind, runs_since, runs_pure]
  refine runs_bump_of_tok rfl htok fun _ st₁ h₁ => ?_
  refine runs_expect (by decide) fun _ st₂ h₂ => ?_
  refine (ih.commClauses _ st₂ (by omega)).mono fun _ st₃ h₃ => ?_
  exact runs_expect (by decide) fun _ _ h₄ => by omega

theorem commClauses_fits_succ (acc : Array CommClause) :
    Fits (n + 1) 1 0 (commClauses (n + 1) acc) := by
  intro st hb
  rw [Parser.commClauses.eq_2]
  simp only [runs_bind, runs_ite, runs_pure, runs_atKw, runs_start, runs_since]
  split
  · omega
  · next hclause =>
    split
    · -- `default:` and its statements
      refine runs_bump_moves fun _ st₁ h₁ => ?_
      refine runs_expect (by decide) fun _ st₂ h₂ => ?_
      refine (ih.stmtList st₂ (by omega)).mono fun _ st₃ h₃ => ?_
      exact (ih.commClauses _ st₃ (by omega)).mono fun _ _ h₄ => by omega
    · -- `case`, its communication, and its statements
      refine runs_bump_of_tok rfl (fun heof => by simp [heof] at hclause) fun _ st₁ h₁ => ?_
      refine (ih.commStmt st₁ (by omega)).mono fun _ st₂ h₂ => ?_
      refine runs_expect (by decide) fun _ st₃ h₃ => ?_
      refine (ih.stmtList st₃ (by omega)).mono fun _ st₄ h₄ => ?_
      exact (ih.commClauses _ st₄ (by omega)).mono fun _ _ h₅ => by omega

theorem commStmt_fits_succ : Fits (n + 1) 13 1 (commStmt (n + 1)) := by
  intro st hb
  rw [Parser.commStmt.eq_2]
  simp only [runs_bind]
  refine (ih.simpleStmtOnly st (by omega)).mono fun _ st₁ h₁ => ?_
  -- a send, or a receive with an optional left side of one value
  split <;> first
    | exact runs_failAt _ (by decide)
    | (simp only [runs_pure]; omega)
    | (simp only [runs_bind, runs_pure]
       split
       · simp only [runs_pure]
         omega
       · exact runs_failAt _ (by decide))

theorem genDecl_fits_succ : Fits (n + 1) 2 1 (genDecl (n + 1)) := by
  intro st hb
  rw [Parser.genDecl.eq_2]
  simp only [runs_bind, runs_start, runs_tok]
  refine runs_takeDoc _ fun _ st₁ h₁ => ?_
  -- the keyword names the kind
  split <;> simp only [runs_bind, runs_pure] <;> first
    | exact runs_failExpected _
    | refine runs_bump_moves fun _ st₂ h₂ => ?_
  -- a parenthesized group of specs, or a single spec
  all_goals
    refine runs_eat (by decide) (fun _ st₃ h₃ => ?_) ?_
    · simp only [runs_bind, runs_since, runs_pure]
      refine (ih.groupSpecs _ _ st₃ (by omega)).mono fun _ st₄ h₄ => ?_
      exact runs_expect (by decide) fun _ _ h₅ => by omega
    · simp only [runs_bind, runs_since, runs_pure]
      exact (ih.spec _ _ _ (by omega)).mono fun _ _ h₃ => by omega

theorem groupSpecs_fits_succ (kind : SpecKind) (acc : Array Spec) :
    Fits (n + 1) 2 0 (groupSpecs (n + 1) kind acc) := by
  intro st hb
  rw [Parser.groupSpecs.eq_2]
  simp only [runs_bind, runs_ite, runs_pure, runs_atPunct, runs_atTok, runs_start]
  split
  · omega
  · refine runs_takeDoc _ fun _ st₁ h₁ => ?_
    refine (ih.spec _ _ st₁ (by omega)).mono fun _ st₂ h₂ => ?_
    refine runs_expectSemi fun st₃ h₃ => ?_
    exact (ih.groupSpecs _ _ st₃ (by omega)).mono fun _ _ h₄ => by omega

theorem spec_fits_succ (kind : SpecKind) (doc : Option CommentGroup) :
    Fits (n + 1) 1 1 (spec (n + 1) kind doc) := by
  intro st hb
  cases kind
  case' import_ =>
    rw [Parser.spec.eq_2]
    simp only [runs_bind, runs_tok]
    -- an optional name, then the path
    split <;> simp only [runs_bind, runs_pure, runs_prevEnd] <;> first
      | refine runs_bump_moves fun _ st₁ h₁ => ?_
      | refine runs_ident fun _ st₁ h₁ => ?_
      | skip
    all_goals refine runs_stringLit fun _ st₂ h₂ => ?_
  case' type =>
    rw [Parser.spec.eq_5]
    simp only [runs_bind, runs_ite, runs_map, runs_pure, runs_prevEnd]
    -- the name, its type parameters, and the type after an optional `=`
    refine runs_ident fun _ st₁ h₁ => runs_startsTypeParams fun _ => ?_
    split
    case' isTrue => refine (ih.typeParams st₁ (by omega)).mono fun _ st₂ h₂ => ?_
    all_goals
      refine runs_eat_moves _ fun _ st₃ h₃ => ?_
      refine (ih.parseType st₃ (by omega)).mono fun _ st₄ h₄ => ?_
  case' const | var =>
    simp only [Parser.spec.eq_3, Parser.spec.eq_4]
    simp only [runs_bind, runs_tok]
    -- the names, a type unless `=` or the end of the spec follows, and the values after `=`
    refine runs_identList fun _ st₁ h₁ => ?_
    split <;> simp only [runs_bind, runs_ite, runs_map, runs_pure, runs_span, runs_prevEnd] <;>
      first
      | refine (ih.parseType st₁ (by omega)).mono fun _ st₂ h₂ => ?_
      | skip
    all_goals
      refine runs_eat_moves _ fun _ st₃ h₃ => ?_
      split
      case' isTrue => refine (ih.exprList st₃ (by omega)).mono fun _ st₄ h₄ => ?_
      -- a variable needs a type or a value
      all_goals
        split
        case' isTrue => exact runs_failAt _ (by decide)
  -- the line comment
  all_goals exact runs_takeLineComment _ fun _ _ h => by omega

theorem funcDecl_fits_succ : Fits (n + 1) 1 1 (funcDecl (n + 1)) := by
  intro st hb
  rw [Parser.funcDecl.eq_2]
  simp only [runs_bind, runs_ite, runs_map, runs_pure, runs_start, runs_atPunct, runs_since]
  refine runs_takeDoc _ fun _ st₁ h₁ => ?_
  refine runs_expect (by decide) fun _ st₂ h₂ => ?_
  -- the receiver
  split
  case' isTrue => refine (ih.receiver st₂ (by omega)).mono fun _ st₃ h₃ => ?_
  -- the name and the type parameters of a function
  all_goals
    refine runs_ident fun _ st₄ h₄ => ?_
    split
    case' isTrue => refine (ih.typeParams st₄ (by omega)).mono fun _ st₅ h₅ => ?_
    -- the signature and the body
    all_goals
      refine (ih.signature _ (by omega)).mono fun _ st₆ h₆ => ?_
      split
      · exact (ih.funcBody st₆ (by omega)).mono fun _ _ h₇ => by omega
      · omega

theorem receiver_fits_succ : Fits (n + 1) 2 1 (receiver (n + 1)) := by
  intro st hb
  rw [Parser.receiver.eq_2]
  simp only [runs_bind]
  refine (ih.parameters st (by omega)).mono fun _ st₁ h₁ => ?_
  split
  · simp only [runs_pure]
    omega
  · exact runs_failAt _ (by decide)

end Succ

/-- At bound zero a production gives up, but no state leaves it room: every spare is one
or more. -/
theorem stepBudget_zero : StepBudget 0 := by
  constructor <;> intros <;> first
    | exact Fits.zero (by decide)
    | exact FitsPast.zero

theorem stepBudget_succ {n : Nat} (ih : StepBudget n) : StepBudget (n + 1) :=
  ⟨parseType_fits_succ ih, typeInner_fits_succ ih, typeName_fits_succ ih,
    typeArgs_fits_succ ih, constraint_fits_succ ih, unionTerms_fits_succ ih,
    typeParams_fits_succ ih, typeParamDecls_fits_succ ih, signature_fits_succ ih,
    parameters_fits_succ ih, paramEntries_fits_succ ih, structType_fits_succ ih,
    fieldDecls_fits_succ ih, fieldDecl_fits_succ ih, interfaceType_fits_succ ih,
    interfaceElems_fits_succ ih, parseExpr_fits_succ ih, exprList_fits_succ ih,
    moreExprs_fits_succ ih, typeOrExpr_fits_succ ih, binaryExpr_fits_succ ih,
    binaryRest_fits_succ ih, unaryExpr_fits_succ ih, unaryInner_fits_succ ih,
    primaryExpr_fits_succ ih, primarySuffixes_fits_succ ih, operand_fits_succ ih,
    selectorOrAssert_fits_succ ih, indexOrSlice_fits_succ ih, indexInner_fits_succ ih,
    indexArgs_fits_succ ih, callExpr_fits_succ ih, callArgs_fits_succ ih,
    compositeLit_fits_succ ih, literalValue_fits_succ ih, literalElems_fits_succ ih,
    element_fits_succ ih, funcBody_fits_succ ih, block_fits_succ ih, stmtList_fits_succ ih,
    stmtsFrom_fits_succ ih, stmt_fits_succ ih, branchStmt_fits_succ, simpleStmt_fits_succ ih,
    simpleStmtOnly_fits_succ ih, controlHeader_fits_succ ih, ifStmt_fits_succ ih,
    forStmt_fits_succ ih, forHeader_fits_succ ih, switchStmt_fits_succ ih,
    switchClauses_fits_succ ih, typeCases_fits_succ ih, selectStmt_fits_succ ih,
    commClauses_fits_succ ih, commStmt_fits_succ ih, genDecl_fits_succ ih,
    groupSpecs_fits_succ ih, spec_fits_succ ih, funcDecl_fits_succ ih, receiver_fits_succ ih⟩

/-- Every production fits every step bound. -/
theorem stepBudget : ∀ n, StepBudget n
  | 0 => stepBudget_zero
  | n + 1 => stepBudget_succ (stepBudget n)

end Parser

open ParseM Parser

/-- The import declarations fit the bound with one rank above a declaration's. -/
theorem importDecls_fits : ∀ (n : Nat) (acc : Array TopDecl), Fits n 3 0 (importDecls n acc)
  | 0, _ => Fits.zero (by decide)
  | n + 1, acc => by
    intro st hb
    rw [importDecls.eq_2]
    simp only [runs_bind, runs_ite, runs_pure, runs_atKw]
    split
    · omega
    · refine ((stepBudget n).genDecl st (by omega)).mono fun _ st₁ h₁ => ?_
      refine runs_expectSemi fun st₂ h₂ => ?_
      exact (importDecls_fits n _ st₂ (by omega)).mono fun _ _ h₃ => by omega

/-- The declarations after the imports fit the bound as the imports do. -/
theorem topDecls_fits : ∀ (n : Nat) (acc : Array TopDecl), Fits n 3 0 (topDecls n acc)
  | 0, _ => Fits.zero (by decide)
  | n + 1, acc => by
    intro st hb
    rw [topDecls.eq_2]
    simp only [runs_bind, runs_ite, runs_pure, runs_atTok, runs_tok]
    split
    · omega
    split
    case' h_1 | h_2 | h_3 =>
      simp only [runs_bind, runs_map, runs_ite, runs_atTok]
      refine ((stepBudget n).genDecl st (by omega)).mono fun _ st₁ h₁ => ?_
    case' h_4 =>
      simp only [runs_bind, runs_map, runs_ite, runs_atTok]
      refine ((stepBudget n).funcDecl st (by omega)).mono fun _ st₁ h₁ => ?_
    -- a late import, and anything else, fails
    case' h_5 =>
      simp only [runs_bind, runs_span]
      exact runs_failAt _ (by decide)
    case' h_6 => exact runs_failExpected _
    -- the separator unless at the end, and the next declaration
    all_goals
      split
      · refine runs_expectSemi fun st₂ h₂ => ?_
        exact (topDecls_fits n _ st₂ (by omega)).mono fun _ _ h₃ => by omega
      · exact (topDecls_fits n _ _ (by omega)).mono fun _ _ h₃ => by omega

/-- A file, parsed at a bound of 64 steps for each token left, never runs out of steps. -/
theorem sourceFile_fits {fuel : Nat} {st : ParseState} (h : 64 * st.left ≤ fuel) :
    Runs (sourceFile fuel) st fun _ st' => Moves 1 st st' := by
  unfold sourceFile
  simp only [runs_bind, runs_pure, runs_start, runs_get]
  refine runs_takeDoc _ fun _ st₁ h₁ => ?_
  refine runs_expect (by decide) fun _ st₂ h₂ => ?_
  refine runs_ident fun _ st₃ h₃ => ?_
  refine runs_expectSemi fun st₄ h₄ => ?_
  refine (importDecls_fits fuel _ st₄ (by omega)).mono fun _ st₅ h₅ => ?_
  exact (topDecls_fits fuel _ st₅ (by omega)).mono fun _ _ h₆ => by omega

/-- From any state, a file parsed at the bound `parseFile` gives its token array does not run
out of steps, and ends at the nesting level it started at: no state has more tokens left than
its array holds. -/
theorem sourceFile_within_bound (st : ParseState) :
    Runs (sourceFile (parseFuel st.toks.size)) st fun _ st' => st'.nestLev = st.nestLev :=
  (sourceFile_fits (by unfold parseFuel ParseState.left; omega)).mono fun _ _ h => h.2

/-- At the bound, `nested` fails with its own message before it runs its body or raises the
level. -/
theorem nested_run_of_le {α : Type} (p : ParseM α) {st : ParseState}
    (h : maxNesting ≤ st.nestLev) :
    (nested p).run st = .error ⟨⟨(st.lexemeAt st.pos).start, (st.lexemeAt st.pos).stop⟩,
      "exceeded max nesting depth"⟩ := by
  unfold nested
  rw [StateT.run_bind, StateT.run_get]
  simp only [except_pure, except_ok_bind]
  rw [if_pos h]
  rfl

theorem LexFault.message_ne_runOut (f : LexFault) : f.message ≠ runOutMessage := by
  cases f <;> decide

theorem ParseFailure.message_of_mem_make {filename : String} {lines : Source.LineIndex}
    {diags : List Diag} {e : Located} (h : e ∈ (ParseFailure.make filename lines diags).errors) :
    ∃ d ∈ diags, e.message = d.message := by
  unfold ParseFailure.make at h
  simp only [List.mem_map] at h
  obtain ⟨d, hd, rfl⟩ := h
  exact ⟨d, hd, rfl⟩

/-- A file that does not parse reports its lexical faults or its syntax error, never the
failure of running out of steps. -/
theorem parseFile_error_ne_runOut {src filename : String} {failure : ParseFailure}
    (h : parseFile src filename = .error failure) :
    ∀ e ∈ failure.errors, e.message ≠ runOutMessage := by
  intro e he
  unfold parseFile at h
  extract_lets lines lexed stop toks st0 st at h
  split at h
  · -- the lexical faults
    cases h
    obtain ⟨d, hd, hmsg⟩ := ParseFailure.message_of_mem_make he
    simp only [List.mem_map] at hd
    obtain ⟨l, -, rfl⟩ := hd
    rw [hmsg]
    exact LexFault.message_ne_runOut l.fault
  · -- the syntax error
    have hrun := sourceFile_within_bound st
    unfold Runs at hrun
    split at h
    · cases h
    · next d hd =>
      cases h
      obtain ⟨d', hd', hmsg⟩ := ParseFailure.message_of_mem_make he
      rw [List.mem_singleton] at hd'
      rw [hmsg, hd']
      rw [hd] at hrun
      exact hrun

/-- Parsing never runs out of its step bound. Every production, from a state whose tokens
leave it room, neither runs out nor moves back, and one that must take a token takes one;
from any state a file parsed at the bound `parseFile` gives either fails with an error of its
own or ends at the nesting level it started at; `nested` refuses to go past `maxNesting`; and
a file that does not parse reports a lexical or a syntax error. -/
theorem parse_never_runs_out :
    (∀ n, Parser.StepBudget n) ∧
    (∀ st : ParseState,
      (∀ d, (sourceFile (parseFuel st.toks.size)).run st = .error d →
        d.message ≠ "input too deeply nested") ∧
      ∀ file st', (sourceFile (parseFuel st.toks.size)).run st = .ok (file, st') →
        st'.nestLev = st.nestLev) ∧
    (∀ {α : Type} (p : ParseM α) (st : ParseState), maxNesting ≤ st.nestLev →
      ∃ d, (nested p).run st = .error d ∧ d.message = "exceeded max nesting depth") ∧
    ∀ src filename failure, parseFile src filename = .error failure →
      ∀ e ∈ failure.errors, e.message ≠ "input too deeply nested" := by
  refine ⟨stepBudget, fun st => ?_, fun p _ h => ⟨_, nested_run_of_le p h, rfl⟩,
    fun _ _ _ h => parseFile_error_ne_runOut h⟩
  have hrun := sourceFile_within_bound st
  unfold Runs at hrun
  constructor
  · intro d hd
    rw [hd] at hrun
    exact hrun
  · intro file st' hok
    rw [hok] at hrun
    exact hrun

end GoTemplates.Syntax
