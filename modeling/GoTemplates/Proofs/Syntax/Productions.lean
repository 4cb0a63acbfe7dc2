import GoTemplates.Proofs.Syntax.Progress

/-! # Every production moves forwards

Each production of the grammar keeps the tokens and moves the cursor only
forwards, and a declaration returns only names it reads from the input. The
productions call each other at a smaller step bound, so these properties are
proved for all of them together by induction on the bound: at bound zero each
one gives up at once, and at `n + 1` each is a chain of primitives and
productions at bound `n`, one lemma per production, following its code.
-/

namespace GoTemplates.Syntax

/-- The offsets of the names a spec declares: none for an import. -/
def Spec.nameStarts : Spec → List Nat
  | .import_ .. => []
  | .value _ names .. => names.map (·.pos.start)
  | .type _ name .. => [name.pos.start]

@[simp] theorem Spec.nameStarts_withComment (s : Spec) (c : Option CommentGroup) :
    (s.withComment c).nameStarts = s.nameStarts := by
  cases s <;> rfl

/-- The offsets of the names a general declaration declares, spec by spec. -/
def GenDecl.nameStarts (g : GenDecl) : List Nat := g.specs.flatMap Spec.nameStarts

namespace Parser

open ParseM

/-- Every production at step bound `n` keeps the tokens and moves the cursor only forwards,
and a declaration returns only names it reads. -/
structure GrammarAdvances (n : Nat) : Prop where
  parseType : Advances (parseType n)
  typeInner : Advances (typeInner n)
  typeName : Advances (typeName n)
  typeArgs : ∀ acc, Advances (typeArgs n acc)
  constraint : Advances (constraint n)
  unionTerms : ∀ acc, Advances (unionTerms n acc)
  typeParams : Advances (typeParams n)
  typeParamDecls : ∀ acc, Advances (typeParamDecls n acc)
  signature : Advances (signature n)
  parameters : Advances (parameters n)
  paramEntries : ∀ acc, Advances (paramEntries n acc)
  structType : ∀ start, Advances (structType n start)
  fieldDecls : ∀ acc, Advances (fieldDecls n acc)
  fieldDecl : Advances (fieldDecl n)
  interfaceType : ∀ start, Advances (interfaceType n start)
  interfaceElems : ∀ acc, Advances (interfaceElems n acc)
  parseExpr : Advances (parseExpr n)
  exprList : Advances (exprList n)
  moreExprs : ∀ acc, Advances (moreExprs n acc)
  typeOrExpr : Advances (typeOrExpr n)
  binaryExpr : ∀ prec, Advances (binaryExpr n prec)
  binaryRest : ∀ prec start x, Advances (binaryRest n prec start x)
  unaryExpr : Advances (unaryExpr n)
  unaryInner : Advances (unaryInner n)
  primaryExpr : Advances (primaryExpr n)
  primarySuffixes : ∀ x start, Advances (primarySuffixes n x start)
  operand : Advances (operand n)
  selectorOrAssert : ∀ x start, Advances (selectorOrAssert n x start)
  indexOrSlice : ∀ x start, Advances (indexOrSlice n x start)
  indexInner : Advances (indexInner n)
  indexArgs : ∀ acc, Advances (indexArgs n acc)
  callExpr : ∀ x start, Advances (callExpr n x start)
  callArgs : ∀ acc ell, Advances (callArgs n acc ell)
  compositeLit : ∀ x start, Advances (compositeLit n x start)
  literalValue : Advances (literalValue n)
  literalElems : ∀ acc, Advances (literalElems n acc)
  element : Advances (element n)
  funcBody : Advances (funcBody n)
  block : Advances (block n)
  stmtList : Advances (stmtList n)
  stmtsFrom : ∀ acc, Advances (stmtsFrom n acc)
  stmt : Advances (stmt n)
  branchStmt : ∀ start kind, Advances (branchStmt n start kind)
  simpleStmt : ∀ mode, Advances (simpleStmt n mode)
  simpleStmtOnly : Advances (simpleStmtOnly n)
  controlHeader : Advances (controlHeader n)
  ifStmt : Advances (ifStmt n)
  forStmt : ∀ start, Advances (forStmt n start)
  forHeader : Advances (forHeader n)
  switchStmt : ∀ start, Advances (switchStmt n start)
  switchClauses : ∀ isType acc, Advances (switchClauses n isType acc)
  typeCases : ∀ acc, Advances (typeCases n acc)
  selectStmt : ∀ start, Advances (selectStmt n start)
  commClauses : ∀ acc, Advances (commClauses n acc)
  commStmt : Advances (commStmt n)
  genDecl : Yields (genDecl n) [] GenDecl.nameStarts
  groupSpecs : ∀ kind acc, Yields (groupSpecs n kind acc) (acc.toList.flatMap Spec.nameStarts)
    fun specs => specs.toList.flatMap Spec.nameStarts
  spec : ∀ kind doc, Yields (spec n kind doc) [] Spec.nameStarts
  funcDecl : Yields (funcDecl n) [] fun f => [f.name.pos.start]
  receiver : Advances (receiver n)

section Succ

/-! ## One production at bound `n + 1` from all of them at bound `n` -/

variable {n : Nat} (ih : GrammarAdvances n)
include ih

theorem parseType_advances_succ : Advances (parseType (n + 1)) := by
  simp only [Parser.parseType.eq_2]
  exact nested_advances ih.typeInner

theorem typeInner_advances_succ : Advances (typeInner (n + 1)) := by
  simp only [Parser.typeInner.eq_2]
  refine .bind start_advances fun start => .bind tok_advances fun t => ?_
  split
  · exact ih.typeName
  · exact .bind bump_advances fun _ => .bind ih.parseType fun _ =>
      .bind (since_advances _) fun _ => .pure _
  · refine .bind bump_advances fun _ => .bind (atPunct_advances _) fun _ => ?_
    split
    · exact .bind bump_advances fun _ => .bind ih.parseType fun _ =>
        .bind (since_advances _) fun _ => .pure _
    · refine .bind (atPunct_advances _) fun _ => .bind (peek_advances _) fun _ => ?_
      split
      · exact .bind (.map _ bump_advances) fun _ => .bind (expect_advances _) fun _ =>
          .bind ih.parseType fun _ => .bind (since_advances _) fun _ => .pure _
      · exact .bind (.map _ (deeper_advances ih.parseExpr)) fun _ =>
          .bind (expect_advances _) fun _ => .bind ih.parseType fun _ =>
          .bind (since_advances _) fun _ => .pure _
  · exact .bind bump_advances fun _ => .bind (expect_advances _) fun _ =>
      .bind ih.parseType fun _ => .bind (expect_advances _) fun _ => .bind ih.parseType fun _ =>
      .bind (since_advances _) fun _ => .pure _
  · exact .bind bump_advances fun _ => .bind (eat_advances _) fun _ => .bind ih.parseType fun _ =>
      .bind (since_advances _) fun _ => .pure _
  · exact .bind bump_advances fun _ => .bind (expect_advances _) fun _ =>
      .bind ih.parseType fun _ => .bind (since_advances _) fun _ => .pure _
  · exact ih.structType _
  · exact ih.interfaceType _
  · exact .bind bump_advances fun _ => .bind ih.signature fun _ =>
      .bind (since_advances _) fun _ => .pure _
  · exact .bind bump_advances fun _ => .bind ih.parseType fun _ =>
      .bind (expect_advances _) fun _ => .bind (since_advances _) fun _ => .pure _
  · exact failExpected_advances _

theorem typeName_advances_succ : Advances (typeName (n + 1)) := by
  simp only [Parser.typeName.eq_2]
  refine .bind start_advances fun _ => .bind ident_advances fun _ =>
    .bind (eat_advances _) fun _ => ?_
  split <;> first
    | refine .bind ident_advances fun _ => .bind (.pure _) fun _ => ?_
    | refine .bind (.pure _) fun _ => ?_
  all_goals
    refine .bind (atPunct_advances _) fun _ => ?_
    split
    · exact .bind bump_advances fun _ => .bind ih.parseType fun _ =>
        .bind (ih.typeArgs _) fun _ => .bind (expect_advances _) fun _ =>
        .bind (since_advances _) fun _ => .pure _
    · exact .bind (since_advances _) fun _ => .pure _

theorem typeArgs_advances_succ (acc : Array TypeExpr) : Advances (typeArgs (n + 1) acc) := by
  simp only [Parser.typeArgs.eq_2]
  refine .bind (eat_advances _) fun _ => ?_
  split
  · exact .pure _
  refine .bind (atPunct_advances _) fun _ => ?_
  split
  · exact .pure _
  · exact .bind ih.parseType fun _ => ih.typeArgs _

theorem constraint_advances_succ : Advances (constraint (n + 1)) := by
  simp only [Parser.constraint.eq_2]
  refine .bind start_advances fun _ => .bind (ih.unionTerms _) fun _ => ?_
  split
  · exact .pure _
  · exact .bind (since_advances _) fun _ => .pure _

theorem unionTerms_advances_succ (acc : Array UnionTerm) : Advances (unionTerms (n + 1) acc) := by
  simp only [Parser.unionTerms.eq_2]
  refine .bind (eat_advances _) fun _ => .bind ih.parseType fun _ =>
    .bind (eat_advances _) fun _ => ?_
  split
  · exact ih.unionTerms _
  · exact .pure _

theorem typeParams_advances_succ : Advances (typeParams (n + 1)) :=
  by
  simp only [Parser.typeParams.eq_2]
  exact .bind start_advances fun _ => .bind (expect_advances _) fun _ =>
    .bind (ih.typeParamDecls _) fun _ => .bind (expect_advances _) fun _ =>
    .bind (since_advances _) fun _ => .pure _

theorem typeParamDecls_advances_succ (acc : Array TypeParamDecl) :
    Advances (typeParamDecls (n + 1) acc) := by
  simp only [Parser.typeParamDecls.eq_2]
  refine .bind (atPunct_advances _) fun _ => ?_
  split
  · exact .pure _
  refine .bind start_advances fun _ => .bind identList_advances fun _ =>
    .bind ih.constraint fun _ => .bind (since_advances _) fun _ => .bind (eat_advances _) fun _ => ?_
  split
  · exact ih.typeParamDecls _
  · exact .pure _

theorem signature_advances_succ : Advances (signature (n + 1)) := by
  simp only [Parser.signature.eq_2]
  refine .bind start_advances fun _ => .bind ih.parameters fun _ => .bind tok_advances fun _ => ?_
  -- the results: a parameter list, a single type, or none
  split <;> first
    | refine .bind ih.parameters fun _ => .bind (.pure _) fun _ => ?_
    | refine .bind ih.parseType fun _ => .bind (.pure _) fun _ => ?_
    | refine .bind (.pure _) fun _ => ?_
  all_goals exact .bind (since_advances _) fun _ => .pure _

theorem parameters_advances_succ : Advances (parameters (n + 1)) := by
  simp only [Parser.parameters.eq_2]
  exact .bind (expect_advances _) fun _ => .bind (ih.paramEntries _) fun _ =>
    .bind (expect_advances _) fun _ => .pure _

theorem paramEntries_advances_succ (acc : Array ParamEntry) :
    Advances (paramEntries (n + 1) acc) := by
  simp only [Parser.paramEntries.eq_2]
  refine .bind (atPunct_advances _) fun _ => ?_
  split
  · exact .pure _
  refine .bind start_advances fun _ => .bind tok_advances fun _ => .bind (peek_advances _) fun _ => ?_
  split <;> first
    | refine .bind ident_advances fun _ => .bind (.pure _) fun _ => ?_
    | refine .bind ih.parseType fun _ => .bind (.pure _) fun _ => ?_
    | refine .bind ident_advances fun _ => .bind (eat_advances _) fun _ =>
        .bind ih.parseType fun _ => .bind (.pure _) fun _ => ?_
    | refine .bind (eat_advances _) fun _ => .bind ih.parseType fun _ =>
        .bind (.pure _) fun _ => ?_
  all_goals
    refine .bind (since_advances _) fun _ => .bind (eat_advances _) fun _ => ?_
    split
    · exact ih.paramEntries _
    · exact .pure _

theorem structType_advances_succ (start : Nat) : Advances (structType (n + 1) start) := by
  simp only [Parser.structType.eq_2]
  exact .bind bump_advances fun _ => .bind (expect_advances _) fun _ =>
    .bind (ih.fieldDecls _) fun _ => .bind (expect_advances _) fun _ =>
    .bind (since_advances _) fun _ => .pure _

theorem fieldDecls_advances_succ (acc : Array Field) : Advances (fieldDecls (n + 1) acc) := by
  simp only [Parser.fieldDecls.eq_2]
  refine .bind (atPunct_advances _) fun _ => .bind (atTok_advances _) fun _ => ?_
  split
  · exact .pure _
  · exact .bind ih.fieldDecl fun _ => .bind expectSemi_advances fun _ => ih.fieldDecls _

theorem fieldDecl_advances_succ : Advances (fieldDecl (n + 1)) := by
  simp only [Parser.fieldDecl.eq_2]
  refine .bind start_advances fun _ => .bind (takeDoc_advances _) fun _ =>
    .bind tok_advances fun _ => .bind (peek_advances _) fun _ => ?_
  -- the names and type: an embedded type name, named fields, or an embedded pointer
  split <;> first
    | refine .bind ih.typeName fun _ => .bind (.pure _) fun _ => ?_
    | refine .bind identList_advances fun _ => .bind ih.parseType fun _ =>
        .bind (.pure _) fun _ => ?_
    | refine .bind ih.parseType fun _ => .bind (.pure _) fun _ => ?_
    | refine .bind (failExpected_advances _) fun _ => ?_
  all_goals
    refine .bind tok_advances fun _ => ?_
    split <;> first
      | refine .bind (.map _ stringLit_advances) fun _ => ?_
      | refine .bind (.pure _) fun _ => ?_
    all_goals
      exact .bind prevEnd_advances fun _ => .bind (takeLineComment_advances _) fun _ =>
        .bind (since_advances _) fun _ => .pure _

theorem interfaceType_advances_succ (start : Nat) : Advances (interfaceType (n + 1) start) := by
  simp only [Parser.interfaceType.eq_2]
  exact .bind bump_advances fun _ => .bind (expect_advances _) fun _ =>
    .bind (ih.interfaceElems _) fun _ => .bind (expect_advances _) fun _ =>
    .bind (since_advances _) fun _ => .pure _

theorem interfaceElems_advances_succ (acc : Array InterfaceElem) :
    Advances (interfaceElems (n + 1) acc) := by
  simp only [Parser.interfaceElems.eq_2]
  refine .bind (atPunct_advances _) fun _ => .bind (atTok_advances _) fun _ => ?_
  split
  · exact .pure _
  refine .bind tok_advances fun _ => .bind (peek_advances _) fun _ => ?_
  split <;> first
    | refine .bind ident_advances fun _ => .bind ih.signature fun _ => .bind (.pure _) fun _ => ?_
    | refine .bind (.map _ ih.constraint) fun _ => ?_
  all_goals exact .bind expectSemi_advances fun _ => ih.interfaceElems _

theorem parseExpr_advances_succ : Advances (parseExpr (n + 1)) := by
  simp only [Parser.parseExpr.eq_2]
  exact .bind (ih.binaryExpr _) fun _ => operandExpr_advances _

theorem exprList_advances_succ : Advances (exprList (n + 1)) := by
  simp only [Parser.exprList.eq_2]
  exact .bind ih.parseExpr fun _ => .bind (ih.moreExprs _) fun _ => .pure _

theorem moreExprs_advances_succ (acc : Array Expr) : Advances (moreExprs (n + 1) acc) := by
  simp only [Parser.moreExprs.eq_2]
  refine .bind (eat_advances _) fun _ => ?_
  split
  · exact .bind ih.parseExpr fun _ => ih.moreExprs _
  · exact .pure _

theorem typeOrExpr_advances_succ : Advances (typeOrExpr (n + 1)) := by
  simp only [Parser.typeOrExpr.eq_2]
  exact ih.binaryExpr _

theorem binaryExpr_advances_succ (prec : Nat) : Advances (binaryExpr (n + 1) prec) := by
  simp only [Parser.binaryExpr.eq_2]
  exact .bind start_advances fun _ => .bind ih.unaryExpr fun _ => ih.binaryRest _ _ _

theorem binaryRest_advances_succ (prec start : Nat) (x : Term) :
    Advances (binaryRest (n + 1) prec start x) := by
  simp only [Parser.binaryRest.eq_2]
  refine .bind tok_advances fun _ => ?_
  split
  · exact .pure _
  split
  · exact .pure _
  · exact .bind bump_advances fun _ => .bind (operandExpr_advances _) fun _ =>
      .bind (ih.binaryExpr _) fun _ => .bind (operandExpr_advances _) fun _ =>
      .bind (since_advances _) fun _ => ih.binaryRest _ _ _

theorem unaryExpr_advances_succ : Advances (unaryExpr (n + 1)) := by
  simp only [Parser.unaryExpr.eq_2]
  exact nested_advances ih.unaryInner

theorem unaryInner_advances_succ : Advances (unaryInner (n + 1)) := by
  simp only [Parser.unaryInner.eq_2]
  refine .bind start_advances fun _ => .bind tok_advances fun _ => ?_
  split
  · exact ih.primaryExpr
  refine .bind bump_advances fun _ => .bind (atKw_advances _) fun _ => ?_
  split
  · exact .bind bump_advances fun _ => .bind ih.parseType fun _ =>
      .bind (since_advances _) fun _ => ih.primarySuffixes _ _
  · refine .bind ih.unaryExpr fun _ => ?_
    split
    · exact .bind (since_advances _) fun _ => .pure _
    · exact .bind (operandExpr_advances _) fun _ => .bind (since_advances _) fun _ => .pure _

theorem primaryExpr_advances_succ : Advances (primaryExpr (n + 1)) := by
  simp only [Parser.primaryExpr.eq_2]
  exact .bind start_advances fun _ => .bind ih.operand fun _ => ih.primarySuffixes _ _

theorem primarySuffixes_advances_succ (x : Term) (start : Nat) :
    Advances (primarySuffixes (n + 1) x start) := by
  simp only [Parser.primarySuffixes.eq_2]
  refine .bind tok_advances fun _ => ?_
  split
  · exact .bind (ih.selectorOrAssert _ _) fun _ => ih.primarySuffixes _ _
  · exact .bind (ih.indexOrSlice _ _) fun _ => ih.primarySuffixes _ _
  · exact .bind (ih.callExpr _ _) fun _ => ih.primarySuffixes _ _
  · refine .bind (isLiteralType_advances _) fun _ => ?_
    split
    · exact .bind (ih.compositeLit _ _) fun _ => ih.primarySuffixes _ _
    · exact .pure _
  · exact .pure _

theorem operand_advances_succ : Advances (operand (n + 1)) := by
  simp only [Parser.operand.eq_2]
  refine .bind start_advances fun _ => .bind tok_advances fun _ => ?_
  split
  -- the five literal kinds
  case' h_1 | h_2 | h_3 | h_4 | h_5 | h_6 => exact .bind bump_advances fun _ => .pure _
  case' h_7 => exact .bind ident_advances fun _ => .pure _
  case' h_8 =>
    refine .bind bump_advances fun _ => .bind (deeper_advances (ih.binaryExpr _)) fun _ =>
      .bind (expect_advances _) fun _ => .bind (since_advances _) fun _ => ?_
    split <;> exact .pure _
  case' h_9 =>
    refine .bind bump_advances fun _ => .bind ih.signature fun _ =>
      .bind (atPunct_advances _) fun _ => ?_
    split
    · exact .bind ih.funcBody fun _ => .bind (since_advances _) fun _ => .pure _
    · exact .bind (since_advances _) fun _ => .pure _
  case' h_10 | h_11 | h_12 | h_13 | h_14 => exact .map _ ih.parseType
  case' h_15 => exact failExpected_advances _

theorem selectorOrAssert_advances_succ (x : Term) (start : Nat) :
    Advances (selectorOrAssert (n + 1) x start) := by
  simp only [Parser.selectorOrAssert.eq_2]
  refine .bind bump_advances fun _ => .bind (operandExpr_advances _) fun _ =>
    .bind tok_advances fun _ => ?_
  split
  · exact .bind ident_advances fun _ => .bind (since_advances _) fun _ => .pure _
  · refine .bind bump_advances fun _ => .bind (eat_advances _) fun _ => ?_
    split <;> first
      | refine .bind (.pure _) fun _ => ?_
      | refine .bind (.map _ ih.parseType) fun _ => ?_
    all_goals exact .bind (expect_advances _) fun _ => .bind (since_advances _) fun _ => .pure _
  · exact failExpected_advances _

theorem indexOrSlice_advances_succ (x : Term) (start : Nat) :
    Advances (indexOrSlice (n + 1) x start) := by
  simp only [Parser.indexOrSlice.eq_2]
  refine .bind (operandExpr_advances _) fun _ => .bind bump_advances fun _ =>
    .bind (deeper_advances ih.indexInner) fun _ => .bind (expect_advances _) fun _ => ?_
  split <;> exact .bind (since_advances _) fun _ => .pure _

theorem indexInner_advances_succ : Advances (indexInner (n + 1)) := by
  simp only [Parser.indexInner.eq_2]
  refine .bind (atPunct_advances _) fun _ => ?_
  split <;> first
    | refine .bind (.pure _) fun _ => ?_
    | refine .bind (.map _ ih.typeOrExpr) fun _ => ?_
  all_goals
    refine .bind (atPunct_advances _) fun _ => ?_
    split
    · -- a slice: the low bound, then the high and the max
      split <;> first
        | refine .bind (.pure _) fun _ => ?_
        | refine .bind (failAt_advances _ _) fun _ => ?_
      all_goals
        refine .bind (.discard bump_advances) fun _ => .bind (atPunct_advances _) fun _ =>
          .bind (atPunct_advances _) fun _ => ?_
        split <;> first
          | refine .bind (.pure _) fun _ => ?_
          | refine .bind (.map _ ih.parseExpr) fun _ => ?_
        all_goals
          refine .bind (eat_advances _) fun _ => ?_
          split <;> first
            | exact .bind (.map _ ih.parseExpr) fun _ => .pure _
            | exact .bind (.pure _) fun _ => .pure _
    · exact .bind (ih.indexArgs _) fun _ => .pure _

theorem indexArgs_advances_succ (acc : Array Term) : Advances (indexArgs (n + 1) acc) := by
  simp only [Parser.indexArgs.eq_2]
  refine .bind (eat_advances _) fun _ => ?_
  split
  · exact .pure _
  refine .bind (atPunct_advances _) fun _ => ?_
  split
  · exact .pure _
  · exact .bind ih.typeOrExpr fun _ => ih.indexArgs _

theorem callExpr_advances_succ (x : Term) (start : Nat) :
    Advances (callExpr (n + 1) x start) := by
  simp only [Parser.callExpr.eq_2]
  exact .bind bump_advances fun _ => .bind (deeper_advances (ih.callArgs _ _)) fun _ =>
    .bind (expect_advances _) fun _ => .bind (since_advances _) fun _ => .pure _

theorem callArgs_advances_succ (acc : Array Term) (ell : Option Source.Span) :
    Advances (callArgs (n + 1) acc ell) := by
  simp only [Parser.callArgs.eq_2]
  refine .bind (atPunct_advances _) fun _ => ?_
  split
  · exact .pure _
  refine .bind ih.typeOrExpr fun _ => .bind (eat_advances _) fun _ => ?_
  split <;> refine .bind (.pure _) fun _ => ?_
  all_goals
    refine .bind (eat_advances _) fun _ => ?_
    split
    · exact ih.callArgs _ _
    · exact .pure _

theorem compositeLit_advances_succ (x : Term) (start : Nat) :
    Advances (compositeLit (n + 1) x start) := by
  have lit : ∀ ty, Advances (do
      let lit ← literalValue n
      let span ← since start
      pure (Term.expr (.compositeLit span ty lit))) := fun _ =>
    .bind ih.literalValue fun _ => .bind (since_advances _) fun _ => .pure _
  cases x with
  | type t =>
    simp only [Parser.compositeLit.eq_2]
    exact .bind (.pure _) fun _ => lit _
  | expr e =>
    simp only [Parser.compositeLit.eq_3]
    split
    · exact .bind (.pure _) fun _ => lit _
    · exact .bind (failAt_advances _ _) fun _ => lit _

theorem literalValue_advances_succ : Advances (literalValue (n + 1)) := by
  simp only [Parser.literalValue.eq_2]
  exact .bind (expect_advances _) fun _ => .bind (deeper_advances (ih.literalElems _)) fun _ =>
    .bind (expect_advances _) fun _ => .pure _

theorem literalElems_advances_succ (acc : Array KeyedElement) :
    Advances (literalElems (n + 1) acc) := by
  simp only [Parser.literalElems.eq_2]
  refine .bind (atPunct_advances _) fun _ => ?_
  split
  · exact .pure _
  refine .bind ih.element fun _ => .bind (eat_advances _) fun _ => ?_
  split <;> first
    | refine .bind ih.element fun _ => .bind (.pure _) fun _ => ?_
    | refine .bind (.pure _) fun _ => ?_
  all_goals
    refine .bind (eat_advances _) fun _ => ?_
    split
    · exact ih.literalElems _
    · exact .pure _

theorem element_advances_succ : Advances (element (n + 1)) := by
  simp only [Parser.element.eq_2]
  refine .bind (atPunct_advances _) fun _ => ?_
  split
  · exact .map _ (nested_advances ih.literalValue)
  · exact .map _ ih.parseExpr

theorem funcBody_advances_succ : Advances (funcBody (n + 1)) := by
  simp only [Parser.funcBody.eq_2]
  exact withExprLev_advances _ ih.block

theorem block_advances_succ : Advances (block (n + 1)) := by
  simp only [Parser.block.eq_2]
  exact .bind (expect_advances _) fun _ => .bind ih.stmtList fun _ =>
    .bind (expect_advances _) fun _ => .pure _

theorem stmtList_advances_succ : Advances (stmtList (n + 1)) := by
  simp only [Parser.stmtList.eq_2]
  exact nested_advances (ih.stmtsFrom _)

theorem stmtsFrom_advances_succ (acc : Array Stmt) : Advances (stmtsFrom (n + 1) acc) := by
  simp only [Parser.stmtsFrom.eq_2]
  refine .bind tok_advances fun _ => ?_
  split <;> first
    | exact .pure _
    | exact .bind (.discard bump_advances) fun _ => ih.stmtsFrom _
    | exact .bind ih.stmt fun _ => .bind expectSemi_advances fun _ => ih.stmtsFrom _

theorem stmt_advances_succ : Advances (stmt (n + 1)) := by
  simp only [Parser.stmt.eq_2]
  refine .bind start_advances fun _ => .bind tok_advances fun _ => ?_
  split <;> first
    | exact .bind ih.genDecl.advances fun _ => .bind (since_advances _) fun _ => .pure _
    | exact .bind bump_advances fun _ => .bind ih.parseExpr fun _ =>
        .bind (since_advances _) fun _ => .pure _
    | exact ih.branchStmt _ _
    | exact .bind ih.block fun _ => .bind (since_advances _) fun _ => .pure _
    | exact ih.ifStmt
    | exact ih.forStmt _
    | exact ih.switchStmt _
    | exact ih.selectStmt _
    | (refine .bind bump_advances fun _ => .bind (atTok_advances _) fun _ =>
          .bind (atPunct_advances _) fun _ => ?_
       split <;> first
         | exact .bind (.pure _) fun _ => .bind (since_advances _) fun _ => .pure _
         | exact .bind ih.exprList fun _ => .bind (since_advances _) fun _ => .pure _)
    | (refine .bind (ih.simpleStmt _) fun _ => ?_
       split
       · exact .bind (since_advances _) fun _ => .pure _
       · refine .bind (atPunct_advances _) fun _ => ?_
         split <;> first
           | refine .bind start_advances fun _ => .bind (.pure _) fun _ => ?_
           | refine .bind (nested_advances ih.stmt) fun _ => ?_
         all_goals exact .bind (since_advances _) fun _ => .pure _
       · exact failAt_advances _ _)

omit ih in
theorem branchStmt_advances_succ (start : Nat) (kind : BranchKind) :
    Advances (branchStmt (n + 1) start kind) := by
  simp only [Parser.branchStmt.eq_2]
  refine .bind bump_advances fun _ => .bind tok_advances fun _ => ?_
  split <;> first
    | refine .bind (.pure _) fun _ => ?_
    | refine .bind (.map _ ident_advances) fun _ => ?_
  all_goals exact .bind (since_advances _) fun _ => .pure _

theorem simpleStmt_advances_succ (mode : StmtMode) : Advances (simpleStmt (n + 1) mode) := by
  simp only [Parser.simpleStmt.eq_2]
  refine .bind start_advances fun _ => .bind (atKw_advances _) fun _ => ?_
  split
  · exact .bind bump_advances fun _ => .bind ih.parseExpr fun _ => .pure _
  refine .bind ih.exprList fun _ => .bind tok_advances fun _ => ?_
  split
  · -- a short variable declaration, or a range clause with `:=`
    refine .bind bump_advances fun _ => .bind (atKw_advances _) fun _ => ?_
    split
    · exact .bind (identsOf_advances _) fun _ => .bind bump_advances fun _ =>
        .bind ih.parseExpr fun _ => .pure _
    · exact .bind (identsOf_advances _) fun _ => .bind ih.exprList fun _ =>
        .bind (since_advances _) fun _ => .pure _
  split
  · -- an assignment, or a range clause with `=`
    refine .bind bump_advances fun _ => .bind (atKw_advances _) fun _ => ?_
    split
    · exact .bind bump_advances fun _ => .bind ih.parseExpr fun _ => .pure _
    · exact .bind ih.exprList fun _ => .bind (since_advances _) fun _ => .pure _
  split
  · -- one expression: a label, a send, an increment or decrement, or an expression statement
    split <;> first
      | exact .bind bump_advances fun _ => .bind ih.parseExpr fun _ =>
          .bind (since_advances _) fun _ => .pure _
      | exact .bind bump_advances fun _ => .bind (since_advances _) fun _ => .pure _
      | exact .bind (since_advances _) fun _ => .pure _
      | (split
         · split
           · exact .bind bump_advances fun _ => .pure _
           · exact failExpected_advances _
         · exact .bind (since_advances _) fun _ => .pure _)
  · exact failExpected_advances _

theorem simpleStmtOnly_advances_succ : Advances (simpleStmtOnly (n + 1)) := by
  simp only [Parser.simpleStmtOnly.eq_2]
  refine .bind (ih.simpleStmt _) fun _ => ?_
  split <;> first
    | exact .pure _
    | exact failExpected_advances _

theorem controlHeader_advances_succ : Advances (controlHeader (n + 1)) := by
  simp only [Parser.controlHeader.eq_2]
  refine withExprLev_advances _ (.bind (atPunct_advances _) fun _ => ?_)
  split
  · exact .pure _
  refine .bind (atTok_advances _) fun _ => ?_
  split <;> first
    | refine .bind (.pure _) fun _ => ?_
    | refine .bind (.map _ ih.simpleStmtOnly) fun _ => ?_
  all_goals
    refine .bind (eat_advances _) fun _ => ?_
    split
    · exact .pure _
    refine .bind (atPunct_advances _) fun _ => ?_
    split <;> first
      | exact .bind (.pure _) fun _ => .pure _
      | exact .bind (.map _ ih.simpleStmtOnly) fun _ => .pure _

theorem ifStmt_advances_succ : Advances (ifStmt (n + 1)) := by
  simp only [Parser.ifStmt.eq_2]
  refine .bind start_advances fun _ => .bind (expect_advances _) fun _ =>
    .bind (atPunct_advances _) fun _ => ?_
  split <;> first
    | refine .bind span_advances fun _ => .bind (failAt_advances _ _) fun _ => ?_
    | skip
  all_goals
    refine .bind ih.controlHeader fun _ => .bind (condOf_advances _) fun _ =>
      .bind ih.block fun _ => .bind (eat_advances _) fun _ => ?_
    split
    · refine .bind tok_advances fun _ => ?_
      split <;> first
        | refine .bind (.map _ (nested_advances ih.ifStmt)) fun _ => ?_
        | refine .bind start_advances fun _ => .bind ih.block fun _ =>
            .bind (since_advances _) fun _ => .bind (.pure _) fun _ => ?_
        | refine .bind (failExpected_advances _) fun _ => ?_
      all_goals exact .bind (since_advances _) fun _ => .pure _
    · exact .bind (.pure _) fun _ => .bind (since_advances _) fun _ => .pure _

theorem forStmt_advances_succ (start : Nat) : Advances (forStmt (n + 1) start) := by
  simp only [Parser.forStmt.eq_2]
  exact .bind bump_advances fun _ => .bind (withExprLev_advances _ ih.forHeader) fun _ =>
    .bind ih.block fun _ => .bind (since_advances _) fun _ => .pure _

theorem forHeader_advances_succ : Advances (forHeader (n + 1)) := by
  simp only [Parser.forHeader.eq_2]
  refine .bind (atPunct_advances _) fun _ => ?_
  split
  · exact .pure _
  refine .bind (atTok_advances _) fun _ => ?_
  split <;> first
    | refine .bind (.pure _) fun _ => ?_
    | (refine .bind (ih.simpleStmt _) fun _ => ?_
       split <;> first
         | refine .bind (.pure _) fun _ => ?_
         | refine .bind (failAt_advances _ _) fun _ => ?_)
  all_goals
    split
    · exact .pure _
    refine .bind (eat_advances _) fun _ => ?_
    split
    · exact .bind (condOf_advances _) fun _ => .pure _
    refine .bind (atTok_advances _) fun _ => ?_
    split <;> first
      | refine .bind (.pure _) fun _ => ?_
      | refine .bind (.map _ ih.parseExpr) fun _ => ?_
    all_goals
      refine .bind (.discard (expect_advances _)) fun _ => .bind (atPunct_advances _) fun _ => ?_
      split <;> first
        | exact .bind (.pure _) fun _ => .pure _
        | exact .bind (.map _ ih.simpleStmtOnly) fun _ => .pure _

theorem switchStmt_advances_succ (start : Nat) : Advances (switchStmt (n + 1) start) := by
  simp only [Parser.switchStmt.eq_2]
  refine .bind bump_advances fun _ => .bind ih.controlHeader fun _ =>
    .bind (expect_advances _) fun _ => .bind (ih.switchClauses _ _) fun _ =>
    .bind (expect_advances _) fun _ => ?_
  split
  · exact .bind (since_advances _) fun _ => .pure _
  · split <;> first
      | refine .bind (.map _ (condOf_advances _)) fun _ => ?_
      | refine .bind (.pure _) fun _ => ?_
    all_goals exact .bind (since_advances _) fun _ => .pure _

theorem switchClauses_advances_succ (isType : Bool) (acc : Array SwitchClause) :
    Advances (switchClauses (n + 1) isType acc) := by
  simp only [Parser.switchClauses.eq_2]
  refine .bind (atKw_advances _) fun _ => .bind (atKw_advances _) fun _ => ?_
  split
  · exact .pure _
  refine .bind start_advances fun _ => .bind bump_advances fun _ => ?_
  split <;> split <;> first
    | refine .bind (ih.typeCases _) fun _ => ?_
    | refine .bind ih.exprList fun _ => ?_
    | refine .bind (.pure _) fun _ => ?_
  all_goals
    exact .bind (expect_advances _) fun _ => .bind ih.stmtList fun _ =>
      .bind (since_advances _) fun _ => .bind (.pure _) fun _ => ih.switchClauses _ _

theorem typeCases_advances_succ (acc : Array TypeCase) : Advances (typeCases (n + 1) acc) := by
  simp only [Parser.typeCases.eq_2]
  refine .bind tok_advances fun _ => ?_
  split <;> first
    | refine .bind (.map _ bump_advances) fun _ => ?_
    | refine .bind (.map _ ih.parseType) fun _ => ?_
  all_goals
    refine .bind (eat_advances _) fun _ => ?_
    split
    · exact ih.typeCases _
    · exact .pure _

theorem selectStmt_advances_succ (start : Nat) : Advances (selectStmt (n + 1) start) := by
  simp only [Parser.selectStmt.eq_2]
  exact .bind bump_advances fun _ => .bind (expect_advances _) fun _ =>
    .bind (ih.commClauses _) fun _ => .bind (expect_advances _) fun _ =>
    .bind (since_advances _) fun _ => .pure _

theorem commClauses_advances_succ (acc : Array CommClause) :
    Advances (commClauses (n + 1) acc) := by
  simp only [Parser.commClauses.eq_2]
  refine .bind (atKw_advances _) fun _ => .bind (atKw_advances _) fun _ => ?_
  split
  · exact .pure _
  refine .bind start_advances fun _ => ?_
  split
  · exact .bind bump_advances fun _ => .bind (expect_advances _) fun _ =>
      .bind ih.stmtList fun _ => .bind (since_advances _) fun _ => ih.commClauses _
  · exact .bind bump_advances fun _ => .bind ih.commStmt fun _ =>
      .bind (expect_advances _) fun _ => .bind ih.stmtList fun _ =>
      .bind (since_advances _) fun _ => ih.commClauses _

theorem commStmt_advances_succ : Advances (commStmt (n + 1)) := by
  simp only [Parser.commStmt.eq_2]
  refine .bind ih.simpleStmtOnly fun _ => ?_
  split <;> first
    | exact .pure _
    | exact failAt_advances _ _
    | (refine .bind ?_ fun _ => .pure _
       split
       · exact .pure _
       · exact failAt_advances _ _)

theorem genDecl_yields_succ : Yields (genDecl (n + 1)) [] GenDecl.nameStarts := by
  simp only [Parser.genDecl.eq_2]
  refine .seq start_advances fun _ => .seq (takeDoc_advances _) fun _ =>
    .seq tok_advances fun _ => ?_
  split <;> first
    | refine .seq (.pure _) fun _ => ?_
    | refine .seq (failExpected_advances _) fun _ => ?_
  all_goals
    refine .seq bump_advances fun _ => .seq (eat_advances _) fun _ => ?_
    split
    · exact .bind_acc (ih.groupSpecs _ _) fun _ => .seq (expect_advances _) fun _ =>
        .seq (since_advances _) fun _ => .pure (.refl _)
    · exact .bind (ih.spec _ _) fun _ => .seq (since_advances _) fun _ =>
        .pure (by simp [GenDecl.nameStarts])

theorem groupSpecs_yields_succ (kind : SpecKind) (acc : Array Spec) :
    Yields (groupSpecs (n + 1) kind acc) (acc.toList.flatMap Spec.nameStarts)
      fun specs => specs.toList.flatMap Spec.nameStarts := by
  simp only [Parser.groupSpecs.eq_2]
  refine .seq (atPunct_advances _) fun _ => .seq (atTok_advances _) fun _ => ?_
  split
  · exact .pure (.refl _)
  · exact .seq start_advances fun _ => .seq (takeDoc_advances _) fun _ =>
      .bind (ih.spec _ _) fun _ => .seq expectSemi_advances fun _ =>
      (ih.groupSpecs _ _).of_eq (by simp) fun _ => rfl

theorem spec_yields_succ (kind : SpecKind) (doc : Option CommentGroup) :
    Yields (spec (n + 1) kind doc) [] Spec.nameStarts := by
  -- the line comment after a spec passes no name
  have comment : ∀ (base : List Nat) (s : Spec), s.nameStarts.Sublist base → Yields (do
      let stop ← prevEnd
      let comment ← takeLineComment stop
      pure (s.withComment comment)) base Spec.nameStarts := fun _ _ h =>
    .seq prevEnd_advances fun _ => .seq (takeLineComment_advances _) fun _ =>
      .pure (by simpa using h)
  cases kind
  case import_ =>
    simp only [Parser.spec.eq_2]
    refine .seq tok_advances fun _ => ?_
    split <;> first
      | refine .seq bump_advances fun _ => .seq (.pure _) fun _ => ?_
      | refine .seq ident_advances fun _ => .seq (.pure _) fun _ => ?_
      | refine .seq (.pure _) fun _ => ?_
    all_goals
      exact .seq stringLit_advances fun _ => .pure_bind (comment _ _ (by simp [Spec.nameStarts]))
  case type =>
    simp only [Parser.spec.eq_5]
    refine .bind ident_yields fun _ => .seq startsTypeParams_advances fun _ => ?_
    split <;> first
      | refine .seq (.map _ ih.typeParams) fun _ => ?_
      | refine .seq (.pure _) fun _ => ?_
    all_goals
      exact .seq (eat_advances _) fun _ => .seq ih.parseType fun _ =>
        .pure_bind (comment _ _ (by simp [Spec.nameStarts]))
  -- `const` and `var` share the value spec
  all_goals
    simp only [Parser.spec.eq_3, Parser.spec.eq_4]
    refine .bind identList_yields fun _ => .seq tok_advances fun _ => ?_
    split <;> first
      | refine .seq (.pure _) fun _ => ?_
      | refine .seq (.map _ ih.parseType) fun _ => ?_
    all_goals
      refine .seq (eat_advances _) fun _ => ?_
      split <;> first
        | refine .seq ih.exprList fun _ => ?_
        | refine .seq (.pure _) fun _ => ?_
      all_goals
        split <;> first
          | refine .seq span_advances fun _ => .seq (failAt_advances _ _) fun _ => ?_
          | skip
        all_goals exact .pure_bind (comment _ _ (by simp [Spec.nameStarts]))

theorem funcDecl_yields_succ : Yields (funcDecl (n + 1)) [] fun f => [f.name.pos.start] := by
  simp only [Parser.funcDecl.eq_2]
  refine .seq start_advances fun _ => .seq (takeDoc_advances _) fun _ =>
    .seq (expect_advances _) fun _ => .seq (atPunct_advances _) fun _ => ?_
  split <;> first
    | refine .seq (.map _ ih.receiver) fun _ => ?_
    | refine .seq (.pure _) fun _ => ?_
  all_goals
    refine .bind ident_yields fun _ => .seq (atPunct_advances _) fun _ => ?_
    split <;> first
      | refine .seq (.map _ ih.typeParams) fun _ => ?_
      | refine .seq (.pure _) fun _ => ?_
    all_goals
      refine .seq ih.signature fun _ => .seq (atPunct_advances _) fun _ => ?_
      split <;> first
        | exact .seq (.map _ ih.funcBody) fun _ => .seq (since_advances _) fun _ => .pure (.refl _)
        | exact .seq (.pure _) fun _ => .seq (since_advances _) fun _ => .pure (.refl _)

theorem receiver_advances_succ : Advances (receiver (n + 1)) := by
  simp only [Parser.receiver.eq_2]
  refine .bind ih.parameters fun _ => ?_
  split
  · exact .pure _
  · exact failAt_advances _ _

end Succ

theorem grammarAdvances_zero : GrammarAdvances 0 := by
  constructor <;> intros <;>
    simp only [
      Parser.parseType, Parser.typeInner, Parser.typeName, Parser.typeArgs,
      Parser.constraint, Parser.unionTerms, Parser.typeParams, Parser.typeParamDecls,
      Parser.signature, Parser.parameters, Parser.paramEntries, Parser.structType,
      Parser.fieldDecls, Parser.fieldDecl, Parser.interfaceType, Parser.interfaceElems,
      Parser.parseExpr, Parser.exprList, Parser.moreExprs, Parser.typeOrExpr,
      Parser.binaryExpr, Parser.binaryRest, Parser.unaryExpr, Parser.unaryInner,
      Parser.primaryExpr, Parser.primarySuffixes, Parser.operand, Parser.selectorOrAssert,
      Parser.indexOrSlice, Parser.indexInner, Parser.indexArgs, Parser.callExpr,
      Parser.callArgs, Parser.compositeLit, Parser.literalValue, Parser.literalElems,
      Parser.element, Parser.funcBody, Parser.block, Parser.stmtList, Parser.stmtsFrom,
      Parser.stmt, Parser.branchStmt, Parser.simpleStmt, Parser.simpleStmtOnly,
      Parser.controlHeader, Parser.ifStmt, Parser.forStmt, Parser.forHeader,
      Parser.switchStmt, Parser.switchClauses, Parser.typeCases, Parser.selectStmt,
      Parser.commClauses, Parser.commStmt, Parser.genDecl, Parser.groupSpecs, Parser.spec,
      Parser.funcDecl, Parser.receiver] <;>
    exact outOfSteps_reads

theorem grammarAdvances_succ {n : Nat} (ih : GrammarAdvances n) : GrammarAdvances (n + 1) :=
  ⟨parseType_advances_succ ih, typeInner_advances_succ ih, typeName_advances_succ ih,
    typeArgs_advances_succ ih, constraint_advances_succ ih, unionTerms_advances_succ ih,
    typeParams_advances_succ ih, typeParamDecls_advances_succ ih, signature_advances_succ ih,
    parameters_advances_succ ih, paramEntries_advances_succ ih, structType_advances_succ ih,
    fieldDecls_advances_succ ih, fieldDecl_advances_succ ih, interfaceType_advances_succ ih,
    interfaceElems_advances_succ ih, parseExpr_advances_succ ih, exprList_advances_succ ih,
    moreExprs_advances_succ ih, typeOrExpr_advances_succ ih, binaryExpr_advances_succ ih,
    binaryRest_advances_succ ih, unaryExpr_advances_succ ih, unaryInner_advances_succ ih,
    primaryExpr_advances_succ ih, primarySuffixes_advances_succ ih, operand_advances_succ ih,
    selectorOrAssert_advances_succ ih, indexOrSlice_advances_succ ih, indexInner_advances_succ
    ih, indexArgs_advances_succ ih, callExpr_advances_succ ih, callArgs_advances_succ ih,
    compositeLit_advances_succ ih, literalValue_advances_succ ih, literalElems_advances_succ
    ih, element_advances_succ ih, funcBody_advances_succ ih, block_advances_succ ih,
    stmtList_advances_succ ih, stmtsFrom_advances_succ ih, stmt_advances_succ ih,
    branchStmt_advances_succ, simpleStmt_advances_succ ih, simpleStmtOnly_advances_succ ih,
    controlHeader_advances_succ ih, ifStmt_advances_succ ih, forStmt_advances_succ ih,
    forHeader_advances_succ ih, switchStmt_advances_succ ih, switchClauses_advances_succ ih,
    typeCases_advances_succ ih, selectStmt_advances_succ ih, commClauses_advances_succ ih,
    commStmt_advances_succ ih, genDecl_yields_succ ih, groupSpecs_yields_succ ih,
    spec_yields_succ ih, funcDecl_yields_succ ih, receiver_advances_succ ih⟩

/-- Every production, at every step bound, keeps the tokens and moves the cursor only forwards,
and a declaration returns only names it reads. -/
theorem grammarAdvances : ∀ n, GrammarAdvances n
  | 0 => grammarAdvances_zero
  | n + 1 => grammarAdvances_succ (grammarAdvances n)

end Parser

end GoTemplates.Syntax
