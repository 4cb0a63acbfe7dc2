import GoTemplates.Proofs.Syntax.Progress

/-! # Parsing within the step bound

The parser's step bound bounds the depth of its calls: every production hands one less to
the productions it calls, and at zero it gives up with the failure `input too deeply nested`.
`Runs m st Q` says that `m`, run from `st`, does not give up so, and that on success what it
returns and the state it leaves satisfy `Q`.

`Runs` reads the parser monad backwards, as a weakest precondition: `Runs (m >>= k) st Q` is
`Runs m st` with the postcondition `fun a st' => Runs (k a) st' Q` (`runs_bind`). Each
primitive step has one rule that says what it returns and leaves, so a production's code is
read off one step at a time. The measure of what a step leaves is the number of tokens from the
cursor to the end (`ParseState.left`): every step keeps it or lowers it, and passing a token
that is not the end of input lowers it (`ParseState.advance`).
-/

namespace GoTemplates.Syntax

open ParseM Parser

/-- The failure of a parse that runs out of its step bound. -/
def runOutMessage : String := "input too deeply nested"

/-- The tokens from the cursor to the end of the array. -/
def ParseState.left (st : ParseState) : Nat := st.toks.size - st.pos

/-- The state after passing the token at the cursor; the end of input is never passed. -/
def ParseState.advance (st : ParseState) : ParseState :=
  if (st.lexemeAt st.pos).token = .eof then st else { st with pos := st.pos + 1 }

/-- From `st`, `m` does not run out of steps, and on success what it returns and the state
it leaves satisfy `Q`. -/
def Runs {α : Type} (m : ParseM α) (st : ParseState) (Q : α → ParseState → Prop) : Prop :=
  match m.run st with
  | .ok (a, st') => Q a st'
  | .error d => d.message ≠ runOutMessage

/-- A step that passes at least `d` tokens and leaves the nesting level as it found it. -/
abbrev Moves (d : Nat) (st st' : ParseState) : Prop :=
  st'.left + d ≤ st.left ∧ st'.nestLev = st.nestLev

/-! ## The measure -/

namespace ParseState

variable (st : ParseState)

@[simp] theorem left_nestLev (k : Nat) : { st with nestLev := k }.left = st.left := rfl

@[simp] theorem left_exprLev (k : Int) : { st with exprLev := k }.left = st.left := rfl

@[simp] theorem left_groups (g : Array GroupInfo) : { st with groups := g }.left = st.left := rfl

@[simp] theorem advance_nestLev : st.advance.nestLev = st.nestLev := by
  unfold advance
  split <;> rfl

theorem advance_left_le : st.advance.left ≤ st.left := by
  unfold advance left
  split
  · exact Nat.le_refl _
  · dsimp only
    omega

/-- Passing a token that is not the end of input takes it. -/
theorem advance_left_lt {st : ParseState} (h : (st.lexemeAt st.pos).token ≠ .eof) :
    st.advance.left < st.left := by
  -- past the array the cursor reads the end of input
  have hpos : st.pos < st.toks.size := by
    refine Nat.lt_of_not_le fun hge => h ?_
    simp [lexemeAt, Array.getD, Nat.not_lt.mpr hge]
  unfold advance left
  rw [if_neg h]
  dsimp only
  omega

end ParseState

/-! ## Reading the monad backwards -/

section Rules

variable {α β : Type} {m : ParseM α} {st : ParseState} {Q : α → ParseState → Prop}

theorem runs_bind {k : α → ParseM β} {Q : β → ParseState → Prop} :
    Runs (m >>= k) st Q ↔ Runs m st fun a st' => Runs (k a) st' Q := by
  unfold Runs
  rw [StateT.run_bind]
  rcases m.run st with d | ⟨a, st'⟩ <;> rfl

theorem Runs.mono {P : α → ParseState → Prop} (h : Runs m st P)
    (hPQ : ∀ a st', P a st' → Q a st') : Runs m st Q := by
  unfold Runs at *
  rcases hm : m.run st with d | ⟨a, st'⟩ <;> rw [hm] at h
  · exact h
  · exact hPQ a st' h

/-- A step by its rule, then the rest from what it leaves. -/
theorem Runs.bind {k : α → ParseM β} {P : α → ParseState → Prop} {Q : β → ParseState → Prop}
    (hm : Runs m st P) (hk : ∀ a st', P a st' → Runs (k a) st' Q) : Runs (m >>= k) st Q :=
  runs_bind.mpr (hm.mono hk)

@[simp] theorem runs_pure {a : α} : Runs (pure a : ParseM α) st Q ↔ Q a st := Iff.rfl

/-- A test of the state's values reads as a test of what follows. -/
@[simp] theorem runs_ite {c : Prop} [Decidable c] {a b : ParseM α} :
    Runs (if c then a else b) st Q ↔ if c then Runs a st Q else Runs b st Q := by
  split <;> rfl

theorem runs_map {f : α → β} {Q : β → ParseState → Prop} :
    Runs (f <$> m) st Q ↔ Runs m st fun a st' => Q (f a) st' := by
  rw [← bind_pure_comp, runs_bind]
  rfl

@[simp] theorem runs_get {Q : ParseState → ParseState → Prop} :
    Runs (get : ParseM ParseState) st Q ↔ Q st st := Iff.rfl

@[simp] theorem runs_modify {f : ParseState → ParseState} {Q : PUnit → ParseState → Prop} :
    Runs (modify f : ParseM PUnit) st Q ↔ Q ⟨⟩ (f st) := Iff.rfl

theorem runs_throw (d : Diag) : Runs (throw d : ParseM α) st Q ↔ d.message ≠ runOutMessage :=
  Iff.rfl

theorem runs_discard {Q : PUnit → ParseState → Prop} :
    Runs (discard m) st Q ↔ Runs m st fun _ st' => Q ⟨⟩ st' := runs_map

end Rules

/-! ## The primitive steps -/

section Primitives

variable {α : Type} {st : ParseState}

@[simp] theorem runs_tok {Q : Token → ParseState → Prop} :
    Runs tok st Q ↔ Q (st.lexemeAt st.pos).token st := Iff.rfl

@[simp] theorem runs_peek {Q : Token → ParseState → Prop} (k : Nat) :
    Runs (peek k) st Q ↔ Q (st.lexemeAt (st.pos + k)).token st := Iff.rfl

@[simp] theorem runs_span {Q : Source.Span → ParseState → Prop} :
    Runs span st Q ↔ Q ⟨(st.lexemeAt st.pos).start, (st.lexemeAt st.pos).stop⟩ st := Iff.rfl

@[simp] theorem runs_start {Q : Nat → ParseState → Prop} :
    Runs ParseM.start st Q ↔ Q (st.lexemeAt st.pos).start st := Iff.rfl

@[simp] theorem runs_atTok {Q : Bool → ParseState → Prop} (t : Token) :
    Runs (atTok t) st Q ↔ Q ((st.lexemeAt st.pos).token == t) st := Iff.rfl

@[simp] theorem runs_atPunct {Q : Bool → ParseState → Prop} (p : Punct) :
    Runs (atPunct p) st Q ↔ Q ((st.lexemeAt st.pos).token == .punct p) st := Iff.rfl

@[simp] theorem runs_atKw {Q : Bool → ParseState → Prop} (k : Keyword) :
    Runs (atKw k) st Q ↔ Q ((st.lexemeAt st.pos).token == .keyword k) st := Iff.rfl

@[simp] theorem runs_since {Q : Source.Span → ParseState → Prop} (s : Nat) :
    Runs (since s) st Q ↔
      Q ⟨s, max (if st.pos = 0 then 0 else (st.lexemeAt (st.pos - 1)).stop) s⟩ st := by
  unfold since prevEnd
  simp only [runs_bind, runs_get]
  split <;> simp_all

@[simp] theorem runs_prevEnd {Q : Nat → ParseState → Prop} :
    Runs prevEnd st Q ↔ Q (if st.pos = 0 then 0 else (st.lexemeAt (st.pos - 1)).stop) st := by
  unfold prevEnd
  simp only [runs_bind, runs_get]
  split <;> simp_all

theorem runs_bump {Q : Source.Span → ParseState → Prop} :
    Runs bump st Q ↔ Q ⟨(st.lexemeAt st.pos).start, (st.lexemeAt st.pos).stop⟩ st.advance := by
  unfold Runs
  rw [bump_run]
  rfl

theorem runs_failAt {Q : α → ParseState → Prop} (s : Source.Span) {message : String}
    (h : message ≠ runOutMessage) : Runs (failAt s message : ParseM α) st Q := h

/-- A failure that names what was expected is not the failure of running out of steps. -/
theorem runs_failExpected {Q : α → ParseState → Prop} (expected : String) :
    Runs (failExpected expected : ParseM α) st Q := by
  unfold failExpected unexpected
  simp only [runs_bind, runs_span, runs_tok]
  intro h
  have hhead := congrArg (fun s => s.toList.head?) h
  simp [runOutMessage] at hhead

/-- Passing a token keeps the measure; passing one that is not the end of input lowers it. -/
theorem moves_advance : Moves 0 st st.advance :=
  ⟨st.advance_left_le, st.advance_nestLev⟩

theorem moves_advance_of_tok {t : Token} (h : (st.lexemeAt st.pos).token = t) (ht : t ≠ .eof) :
    Moves 1 st st.advance :=
  ⟨ParseState.advance_left_lt (h ▸ ht), st.advance_nestLev⟩

/-- Passing the token at the cursor; when the caller knows it is not the end, it is taken. -/
theorem runs_bump_moves {Q : Source.Span → ParseState → Prop}
    (h : ∀ sp st', Moves 0 st st' → Q sp st') : Runs bump st Q :=
  runs_bump.mpr (h _ _ moves_advance)

theorem runs_bump_of_tok {Q : Source.Span → ParseState → Prop} {t : Token}
    (heq : (st.lexemeAt st.pos).token = t) (ht : t ≠ .eof)
    (h : ∀ sp st', Moves 1 st st' → Q sp st') : Runs bump st Q :=
  runs_bump.mpr (h _ _ (moves_advance_of_tok heq ht))

/-- `eat t` for a token `t` other than the end of input takes it or leaves the state. -/
theorem runs_eat {Q : Option Source.Span → ParseState → Prop} {t : Token} (ht : t ≠ .eof)
    (hsome : ∀ sp st', Moves 1 st st' → Q (some sp) st') (hnone : Q none st) :
    Runs (eat t) st Q := by
  unfold eat
  simp only [runs_bind, runs_atTok]
  split
  · rename_i h
    exact runs_bind.mpr (runs_bump_of_tok (by simpa using h) ht hsome)
  · exact hnone

theorem runs_eat_moves {Q : Option Source.Span → ParseState → Prop} (t : Token)
    (h : ∀ r st', Moves 0 st st' → Q r st') : Runs (eat t) st Q := by
  unfold eat
  simp only [runs_bind, runs_atTok]
  split
  · exact runs_bind.mpr (runs_bump_moves fun sp st' h' => h _ st' h')
  · exact h _ _ ⟨Nat.le_refl _, rfl⟩

/-- A loop's `if (← eat t).isSome then more else done`: it goes on only past `t`. -/
theorem runs_eat_isSome {P R : ParseState → Prop} {t : Token} (ht : t ≠ .eof)
    (hmore : ∀ st', Moves 1 st st' → P st') (hdone : R st) :
    Runs (eat t) st fun r st' => if r.isSome = true then P st' else R st' :=
  runs_eat ht (fun _ st' h => by simpa using hmore st' h) (by simpa using hdone)

/-- A loop's `if (← eat t).isNone then done else more`: it goes on only past `t`. -/
theorem runs_eat_isNone {P R : ParseState → Prop} {t : Token} (ht : t ≠ .eof)
    (hdone : R st) (hmore : ∀ st', Moves 1 st st' → P st') :
    Runs (eat t) st fun r st' => if r.isNone = true then R st' else P st' :=
  runs_eat ht (fun _ st' h => by simpa using hmore st' h) (by simpa using hdone)

/-- `expect t` for a token `t` other than the end of input takes it or fails. -/
theorem runs_expect {Q : Source.Span → ParseState → Prop} {t : Token} (ht : t ≠ .eof)
    (h : ∀ sp st', Moves 1 st st' → Q sp st') : Runs (expect t) st Q := by
  unfold expect
  simp only [runs_bind, runs_atTok]
  split
  · rename_i heq
    exact runs_bump_of_tok (by simpa using heq) ht h
  · exact runs_failExpected _

/-- A statement ends without passing a token before `)`, `}` and the end of input. -/
theorem runs_expectSemi {Q : PUnit → ParseState → Prop} (h : ∀ st', Moves 0 st st' → Q ⟨⟩ st') :
    Runs expectSemi st Q := by
  unfold expectSemi
  simp only [runs_bind, runs_tok]
  split
  · exact runs_discard.mpr (runs_bump.mpr (h _ moves_advance))
  · exact h _ ⟨Nat.le_refl _, rfl⟩
  · exact h _ ⟨Nat.le_refl _, rfl⟩
  · exact h _ ⟨Nat.le_refl _, rfl⟩
  · exact runs_failExpected _

theorem runs_ident {Q : Ident → ParseState → Prop} (h : ∀ id st', Moves 1 st st' → Q id st') :
    Runs ident st Q := by
  unfold ident
  simp only [runs_bind, runs_tok]
  split
  · rename_i name htok
    simp only [runs_bind, runs_bump, runs_pure]
    exact h _ _ (moves_advance_of_tok htok Token.noConfusion)
  · exact runs_failExpected _

theorem runs_identListFrom {Q : Array Ident → ParseState → Prop} :
    ∀ (fuel : Nat) (acc : Array Ident) (st : ParseState), (∀ r st', Moves 0 st st' → Q r st') →
      Runs (identListFrom fuel acc) st Q
  | 0, acc, st, h => h acc st ⟨Nat.le_refl _, rfl⟩
  | fuel + 1, acc, st, h => by
    unfold identListFrom
    refine runs_bind.mpr (runs_eat (by decide) (fun _ st₀ h₀ => ?_) ?_)
    · simp only [Option.isSome_some, if_true, runs_bind]
      refine runs_ident fun id st₁ h₁ => ?_
      exact runs_identListFrom fuel _ st₁ fun r st₂ h₂ => h r st₂ (by omega)
    · exact h acc st ⟨Nat.le_refl _, rfl⟩

theorem runs_identList {Q : List Ident → ParseState → Prop}
    (h : ∀ ids st', Moves 1 st st' → Q ids st') : Runs identList st Q := by
  unfold identList
  refine runs_bind.mpr (runs_ident fun first st₁ h₁ => ?_)
  simp only [runs_bind, runs_get]
  exact runs_identListFrom _ _ _ fun r st₂ h₂ => h _ _ (by omega)

theorem runs_stringLit {Q : StringLit → ParseState → Prop}
    (h : ∀ s st', Moves 1 st st' → Q s st') : Runs stringLit st Q := by
  unfold stringLit
  simp only [runs_bind, runs_tok]
  split
  · rename_i s htok
    simp only [runs_bind, runs_bump, runs_pure]
    exact h _ _ (moves_advance_of_tok htok Token.noConfusion)
  · rename_i s htok
    simp only [runs_bind, runs_bump, runs_pure]
    exact h _ _ (moves_advance_of_tok htok Token.noConfusion)
  · exact runs_failExpected _

/-- Attaching a comment marks its group used and moves nothing else. -/
theorem runs_takeDoc {Q : Option CommentGroup → ParseState → Prop} (start : Nat)
    (h : ∀ r st', Moves 0 st st' → Q r st') : Runs (takeDoc start) st Q := by
  unfold takeDoc
  simp only [runs_bind, runs_get]
  split
  · exact h _ _ ⟨Nat.le_refl _, rfl⟩
  · split
    · exact h _ _ ⟨Nat.le_refl _, rfl⟩
    · split
      · exact h _ _ ⟨Nat.le_refl _, rfl⟩
      · exact h _ _ ⟨Nat.le_refl _, rfl⟩

theorem runs_takeLineComment {Q : Option CommentGroup → ParseState → Prop} (stop : Nat)
    (h : ∀ r st', Moves 0 st st' → Q r st') : Runs (takeLineComment stop) st Q := by
  unfold takeLineComment
  simp only [runs_bind, runs_get]
  split
  · exact h _ _ ⟨Nat.le_refl _, rfl⟩
  · split
    · exact h _ _ ⟨Nat.le_refl _, rfl⟩
    · exact h _ _ ⟨Nat.le_refl _, rfl⟩

end Primitives

/-! ## Levels

`nested` runs its body one nesting level deeper, refusing past `maxNesting`, and
`withExprLev` at another expression level; both restore the level they changed. -/

section Levels

variable {α : Type} {st : ParseState} {p : ParseM α} {Q : α → ParseState → Prop}

theorem runs_nested
    (h : st.nestLev < maxNesting → Runs p { st with nestLev := st.nestLev + 1 }
      fun a st' => Q a { st' with nestLev := st'.nestLev - 1 }) :
    Runs (nested p) st Q := by
  unfold nested
  simp only [runs_bind, runs_get]
  split
  · simp only [runs_bind, runs_span]
    exact runs_failAt _ (by decide)
  · rename_i hlt
    simp only [runs_bind, runs_modify, runs_pure]
    exact h (Nat.lt_of_not_le hlt)

theorem runs_withExprLev (lev : Int)
    (h : Runs p { st with exprLev := lev } fun a st' => Q a { st' with exprLev := st.exprLev }) :
    Runs (withExprLev lev p) st Q := by
  unfold withExprLev
  simp only [runs_bind, runs_get, runs_modify]
  exact h

theorem runs_deeper
    (h : Runs p { st with exprLev := st.exprLev + 1 }
      fun a st' => Q a { st' with exprLev := st.exprLev }) :
    Runs (deeper p) st Q := by
  unfold deeper
  simp only [runs_bind, runs_get]
  exact runs_withExprLev _ h

end Levels

/-! ## Steps that only look

These read the state and either return or fail with their own message. -/

section Looking

variable {α : Type} {st : ParseState}

theorem runs_operandExpr {Q : Expr → ParseState → Prop} (t : Term) (h : ∀ e, Q e st) :
    Runs (operandExpr t) st Q := by
  cases t with
  | expr e => exact h e
  | type t => exact runs_failAt _ (by decide)

theorem runs_isLiteralType {Q : Bool → ParseState → Prop} (t : Term) (h : ∀ b, Q b st) :
    Runs (isLiteralType t) st Q := by
  unfold isLiteralType
  split
  · exact h _
  · exact h _
  · exact h _
  · exact h _
  · exact h _
  · simp only [runs_bind, runs_get]
    split
    · exact h _
    · split <;> exact h _

theorem runs_identsOf {Q : List Ident → ParseState → Prop} (es : List Expr)
    (h : ∀ ids, Q ids st) : Runs (identsOf es) st Q := by
  induction es generalizing Q with
  | nil => exact h []
  | cons e es ih =>
    unfold identsOf
    split
    · exact h _
    · rename_i heq
      cases heq
      exact runs_bind.mpr (ih fun _ => h _)
    · exact runs_failAt _ (by decide)

theorem runs_condOf {Q : Expr → ParseState → Prop} (s : Option SimpleStmt) (h : ∀ e, Q e st) :
    Runs (condOf s) st Q := by
  unfold condOf
  split
  · exact runs_failExpected _
  · exact h _
  · exact runs_failAt _ (by decide)

theorem runs_startsTypeParams {Q : Bool → ParseState → Prop} (h : ∀ b, Q b st) :
    Runs startsTypeParams st Q := by
  unfold startsTypeParams
  simp only [runs_bind, runs_atPunct]
  split
  · exact h _
  · simp only [runs_bind, runs_peek]
    split
    · exact h _
    · exact h _

end Looking

/-! ## Fitting the bound

A production at step bound `n` fits when, from every state whose tokens leave it room, it does
not run out of steps. Tokens are charged 64 steps each, and `c` counts the calls a production
may make down a chain of productions before one of them must take a token. -/

/-- Run from a state whose tokens, at 64 steps each, leave `c` of `bound` to spare, `m` does
not run out of steps and moves at least `d` tokens on. -/
def Fits {α : Type} (bound c d : Nat) (m : ParseM α) : Prop :=
  ∀ st, 64 * st.left + c ≤ bound → Runs m st fun _ st' => Moves d st st'

/-- `Fits` for a production that starts by passing the token its caller has found at the
cursor, which is not the end of input, and so always takes a token. -/
def FitsPast {α : Type} (bound : Nat) (m : ParseM α) : Prop :=
  ∀ st, (st.lexemeAt st.pos).token ≠ .eof → 64 * st.left + 1 ≤ bound →
    Runs m st fun _ st' => Moves 1 st st'

section Fits

variable {α : Type} {bound c d : Nat} {p : ParseM α}

/-- At bound zero no state leaves room for a spare of one or more. -/
theorem Fits.zero (hc : 0 < c) : Fits 0 c d p := fun _ hb => absurd hb (by omega)

theorem FitsPast.zero : FitsPast 0 p := fun _ _ hb => absurd hb (by omega)

theorem Fits.nested (h : Fits bound c d p) : Fits bound c d (nested p) := by
  intro st hb
  refine runs_nested fun _ => (h _ (by simpa using hb)).mono fun _ st' h' => ?_
  simp only [Moves, ParseState.left_nestLev] at h' ⊢
  omega

theorem Fits.withExprLev (lev : Int) (h : Fits bound c d p) :
    Fits bound c d (withExprLev lev p) := by
  intro st hb
  refine runs_withExprLev lev ((h _ (by simpa using hb)).mono fun _ st' h' => ?_)
  simp only [Moves, ParseState.left_exprLev] at h' ⊢
  omega

theorem Fits.deeper (h : Fits bound c d p) : Fits bound c d (deeper p) := by
  intro st hb
  refine runs_deeper ((h _ (by simpa using hb)).mono fun _ st' h' => ?_)
  simp only [Moves, ParseState.left_exprLev] at h' ⊢
  omega

end Fits

end GoTemplates.Syntax
