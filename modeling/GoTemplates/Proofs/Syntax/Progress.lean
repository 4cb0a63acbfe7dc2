import GoTemplates.Syntax.Parse

/-! # The parser moves forwards

Every step of the parser keeps the token array and moves the cursor only
forwards. `Reads m Q` says so of a step `m`, and relates its result to the
offsets of the identifier tokens the cursor passed over; `Advances m` is the
plain form. The productions of the grammar are built from a few primitives by
`bind`, `if` and `match`, so the property of every production follows from the
primitives' by induction on the step bound.
-/

namespace GoTemplates.Syntax

/-- The offset of a lexeme that is an identifier. -/
def Lexeme.identStart? (l : Lexeme) : Option Nat :=
  match l.token with
  | .ident _ => some l.start
  | _ => none

/-- The offsets of the identifier tokens at cursor positions `lo` up to `hi`. -/
def identStarts (toks : Array Lexeme) (lo hi : Nat) : List Nat :=
  ((toks.toList.drop lo).take (hi - lo)).filterMap Lexeme.identStart?

theorem identStarts_append (toks : Array Lexeme) {lo mid hi : Nat} (h₁ : lo ≤ mid)
    (h₂ : mid ≤ hi) :
    identStarts toks lo mid ++ identStarts toks mid hi = identStarts toks lo hi := by
  have hlen : hi - lo = (mid - lo) + (hi - mid) := by omega
  have hmid : lo + (mid - lo) = mid := by omega
  rw [identStarts, identStarts, identStarts, hlen, List.take_add, List.filterMap_append,
    List.drop_drop, hmid]

@[simp] theorem identStarts_self (toks : Array Lexeme) (p : Nat) : identStarts toks p p = [] := by
  simp [identStarts]

/-- Passing over one identifier token adds its offset. -/
theorem identStarts_succ_of_ident {toks : Array Lexeme} {p : Nat} {name : String}
    (hp : p < toks.size) (hident : toks[p].token = .ident name) :
    identStarts toks p (p + 1) = [toks[p].start] := by
  have hdrop : toks.toList.drop p = toks[p] :: toks.toList.drop (p + 1) := by
    rw [List.drop_eq_getElem_cons (by simpa using hp), Array.getElem_toList]
  simp [identStarts, hdrop, Lexeme.identStart?, hident]

/-- The identifier offsets of a stretch lie among those of any stretch around it. -/
theorem identStarts_sublist (toks : Array Lexeme) {lo lo' hi' hi : Nat} (h₁ : lo ≤ lo')
    (h₂ : lo' ≤ hi') (h₃ : hi' ≤ hi) :
    (identStarts toks lo' hi').Sublist (identStarts toks lo hi) := by
  rw [← identStarts_append toks h₁ (Nat.le_trans h₂ h₃), ← identStarts_append toks h₂ h₃]
  exact ((List.sublist_append_left _ _).trans (List.sublist_append_right _ _))

/-- The identifiers of a stretch are among those of the whole token array. -/
theorem identStarts_sublist_filterMap (toks : Array Lexeme) (lo hi : Nat) :
    (identStarts toks lo hi).Sublist (toks.toList.filterMap Lexeme.identStart?) :=
  ((List.take_sublist _ _).trans (List.drop_sublist _ _)).filterMap _

namespace ParseM

/-- A step that keeps the tokens and never moves the cursor back, whose result
`a` and the identifier offsets `s` it passed over satisfy `Q a s`. -/
def Reads {α : Type} (m : ParseM α) (Q : α → List Nat → Prop) : Prop :=
  ∀ ⦃st : ParseState⦄ ⦃a : α⦄ ⦃st' : ParseState⦄, m.run st = .ok (a, st') →
    st'.toks = st.toks ∧ st.pos ≤ st'.pos ∧ Q a (identStarts st.toks st.pos st'.pos)

/-- A step that keeps the tokens and never moves the cursor back. -/
def Advances {α : Type} (m : ParseM α) : Prop := Reads m fun _ _ => True

section Combinators

variable {α β : Type}

theorem Reads.bind {m : ParseM α} {k : α → ParseM β} {Q₁ : α → List Nat → Prop}
    {Q₂ : α → β → List Nat → Prop} {Q : β → List Nat → Prop}
    (hm : Reads m Q₁) (hk : ∀ a, Reads (k a) (Q₂ a))
    (hQ : ∀ a b s₁ s₂, Q₁ a s₁ → Q₂ a b s₂ → Q b (s₁ ++ s₂)) : Reads (m >>= k) Q := by
  intro st b st'' h
  rw [StateT.run_bind] at h
  cases hx : m.run st with
  | error e => rw [hx] at h; cases h
  | ok p =>
    obtain ⟨a, st'⟩ := p
    rw [hx] at h
    obtain ⟨ht₁, hp₁, hq₁⟩ := hm hx
    obtain ⟨ht₂, hp₂, hq₂⟩ := hk a h
    refine ⟨ht₂.trans ht₁, Nat.le_trans hp₁ hp₂, ?_⟩
    rw [ht₁] at hq₂
    rw [← identStarts_append st.toks hp₁ hp₂]
    exact hQ a b _ _ hq₁ hq₂

theorem Reads.mono {m : ParseM α} {Q Q' : α → List Nat → Prop} (hm : Reads m Q)
    (hQ : ∀ a s, Q a s → Q' a s) : Reads m Q' := by
  intro st a st' h
  obtain ⟨ht, hp, hq⟩ := hm h
  exact ⟨ht, hp, hQ a _ hq⟩

theorem Reads.advances {m : ParseM α} {Q : α → List Nat → Prop} (hm : Reads m Q) :
    Advances m :=
  hm.mono fun _ _ _ => trivial

theorem Reads.pure {Q : α → List Nat → Prop} {a : α} (h : Q a []) :
    Reads (pure a : ParseM α) Q := by
  intro st b st' hrun
  simp only [StateT.run_pure] at hrun
  cases hrun
  exact ⟨rfl, Nat.le_refl _, by simpa using h⟩

theorem Reads.map {m : ParseM α} {Q : α → List Nat → Prop} (f : α → β) (hm : Reads m Q) :
    Reads (f <$> m) fun b s => ∃ a, b = f a ∧ Q a s := by
  rw [← bind_pure_comp]
  exact .bind hm (fun a => .pure (Q := fun b s => b = f a ∧ s = []) ⟨rfl, rfl⟩)
    fun a b s₁ s₂ hq₁ ⟨hb, hs⟩ => ⟨a, hb, by simpa [hs] using hq₁⟩

theorem Advances.bind {m : ParseM α} {k : α → ParseM β} (hm : Advances m)
    (hk : ∀ a, Advances (k a)) : Advances (m >>= k) :=
  Reads.bind hm hk fun _ _ _ _ _ _ => trivial

theorem Advances.pure (a : α) : Advances (pure a : ParseM α) := Reads.pure trivial

theorem Advances.map (f : α → β) {m : ParseM α} (hm : Advances m) : Advances (f <$> m) :=
  (Reads.map f hm).advances

theorem Advances.discard {m : ParseM α} (hm : Advances m) : Advances (discard m) :=
  Advances.map _ hm

theorem Advances.get : Advances (get : ParseM ParseState) := by
  intro st b st' hrun
  simp only [StateT.run_get] at hrun
  cases hrun
  exact ⟨rfl, Nat.le_refl _, trivial⟩

theorem Advances.modify {f : ParseState → ParseState}
    (hf : ∀ st, (f st).toks = st.toks ∧ st.pos ≤ (f st).pos) :
    Advances (modify f : ParseM PUnit) := by
  intro st b st' hrun
  simp only [StateT.run_modify] at hrun
  cases hrun
  exact ⟨(hf st).1, (hf st).2, trivial⟩

/-- A step that always fails satisfies every postcondition. -/
theorem Reads.throw {Q : α → List Nat → Prop} (d : Diag) : Reads (throw d : ParseM α) Q := by
  intro st b st' hrun
  cases hrun

theorem Advances.throw (d : Diag) : Advances (throw d : ParseM α) := Reads.throw d

/-- A step that fails from every state satisfies every postcondition. -/
theorem Reads.of_fails {m : ParseM α} {Q : α → List Nat → Prop}
    (h : ∀ st, ∃ d, m.run st = .error d) : Reads m Q := by
  intro st a st' hrun
  obtain ⟨d, hd⟩ := h st
  rw [hd] at hrun
  cases hrun

/-- What follows a step that never succeeds satisfies every postcondition. -/
theorem Reads.bind_of_fails {m : ParseM α} {k : α → ParseM β} {Q : β → List Nat → Prop}
    (hm : Reads m fun _ _ => False) : Reads (m >>= k) Q := by
  intro st b st'' h
  rw [StateT.run_bind] at h
  cases hx : m.run st with
  | error e => rw [hx] at h; cases h
  | ok p => exact (hm hx).2.2.elim

end Combinators

/-! ## Names read from the input

`Yields m base f` says that the offsets `f a` of what `m` returns are, in order,
among `base` followed by the identifiers `m` passes over. The `base` carries the
names a production has collected before. -/

/-- The offsets of `m`'s result lie, in order, among `base` and the identifiers it passes. -/
def Yields {α : Type} (m : ParseM α) (base : List Nat) (f : α → List Nat) : Prop :=
  Reads m fun a s => (f a).Sublist (base ++ s)

section Yields

variable {α β : Type} {m : ParseM α} {base : List Nat} {f : β → List Nat}

theorem Yields.advances {g : α → List Nat} (hm : Yields m base g) : Advances m :=
  Reads.advances hm

theorem Yields.pure {a : β} (h : (f a).Sublist base) : Yields (pure a : ParseM β) base f :=
  Reads.pure (by simpa using h)

/-- The names a first step reads join the base of the rest. -/
theorem Yields.bind {k : α → ParseM β} {g : α → List Nat} (hm : Yields m [] g)
    (hk : ∀ a, Yields (k a) (base ++ g a) f) : Yields (m >>= k) base f :=
  Reads.bind hm hk fun a _ s₁ s₂ h₁ h₂ => by
    have : (base ++ g a ++ s₂).Sublist (base ++ (s₁ ++ s₂)) := by
      simpa [List.append_assoc] using (h₁.append_left base).append_right s₂
    exact h₂.trans this

/-- A first step that collects onto the base hands its names on as the base of the rest. -/
theorem Yields.bind_acc {k : α → ParseM β} {g : α → List Nat} (hm : Yields m base g)
    (hk : ∀ a, Yields (k a) (g a) f) : Yields (m >>= k) base f :=
  Reads.bind hm hk fun a _ s₁ s₂ h₁ h₂ => by
    have : (g a ++ s₂).Sublist (base ++ (s₁ ++ s₂)) := by
      simpa [List.append_assoc] using h₁.append_right s₂
    exact h₂.trans this

/-- A first step that returns no names only passes over identifiers. -/
theorem Yields.seq {k : α → ParseM β} (hm : Advances m) (hk : ∀ a, Yields (k a) base f) :
    Yields (m >>= k) base f :=
  Reads.bind hm hk fun _ _ s₁ s₂ _ h =>
    h.trans ((List.sublist_append_right s₁ s₂).append_left base)

theorem Yields.pure_bind {a : α} {k : α → ParseM β} (h : Yields (k a) base f) :
    Yields (Pure.pure a >>= k) base f := by
  rwa [LawfulMonad.pure_bind]

theorem Yields.map {g : α → List Nat} (φ : α → β) (hm : Yields m base g)
    (h : ∀ a, (f (φ a)).Sublist (g a)) : Yields (φ <$> m) base f :=
  (Reads.map φ hm).mono fun _ _ ⟨a, hb, hs⟩ => hb ▸ (h a).trans hs

theorem Yields.of_eq {m : ParseM β} {g : β → List Nat} {base' : List Nat} (hm : Yields m base' g)
    (hbase : base' = base) (h : ∀ b, f b = g b) : Yields m base f := by
  subst hbase
  exact hm.mono fun b s hs => (h b) ▸ hs

end Yields

/-! ## Running the primitives -/

@[simp] theorem except_ok_bind {ε α β : Type} (a : α) (f : α → Except ε β) :
    (Except.ok a >>= f) = f a := rfl

@[simp] theorem except_map_ok {ε α β : Type} (a : α) (f : α → β) :
    (f <$> (Except.ok a : Except ε α)) = Except.ok (f a) := rfl

@[simp] theorem except_pure {ε α : Type} (a : α) : (pure a : Except ε α) = Except.ok a := rfl

@[simp] theorem current_run (st : ParseState) : current.run st = .ok (st.lexemeAt st.pos, st) :=
  rfl

@[simp] theorem tok_run (st : ParseState) : tok.run st = .ok ((st.lexemeAt st.pos).token, st) :=
  rfl

theorem bump_run (st : ParseState) : bump.run st =
    .ok (⟨(st.lexemeAt st.pos).start, (st.lexemeAt st.pos).stop⟩,
      if (st.lexemeAt st.pos).token = .eof then st else { st with pos := st.pos + 1 }) := by
  by_cases h : (st.lexemeAt st.pos).token = .eof
  · simp [bump, span, h]
  · simp [bump, span, h]

theorem failExpected_run {α : Type} (expected : String) (st : ParseState) :
    ∃ d, (failExpected expected : ParseM α).run st = .error d :=
  ⟨_, rfl⟩

/-- An identifier is the identifier token at the cursor, which it passes. -/
theorem ident_run_ok {st st' : ParseState} {id : Ident} (h : ident.run st = .ok (id, st')) :
    ∃ name, (st.lexemeAt st.pos).token = .ident name ∧
      id = ⟨name, ⟨(st.lexemeAt st.pos).start, (st.lexemeAt st.pos).stop⟩⟩ ∧
      st' = { st with pos := st.pos + 1 } := by
  simp only [ident, StateT.run_bind, tok_run, except_ok_bind] at h
  split at h
  · rename_i name htok
    simp [bump_run, htok] at h
    exact ⟨name, htok, h.1.symm, h.2.symm⟩
  · obtain ⟨d, hd⟩ := failExpected_run (α := Ident) "identifier" st
    simp [hd] at h

/-- Only a real token stands at an identifier's cursor: past the end is the end of input. -/
theorem lexemeAt_of_ident {st : ParseState} {name : String}
    (h : (st.lexemeAt st.pos).token = .ident name) :
    ∃ hp : st.pos < st.toks.size, st.lexemeAt st.pos = st.toks[st.pos] := by
  by_cases hp : st.pos < st.toks.size
  · exact ⟨hp, by simp [ParseState.lexemeAt, hp]⟩
  · simp [ParseState.lexemeAt, hp] at h

/-! ## The primitives -/

theorem current_advances : Advances current := .bind .get fun _ => .pure _

theorem tok_advances : Advances tok := .bind current_advances fun _ => .pure _

theorem peek_advances (k : Nat) : Advances (peek k) := .bind .get fun _ => .pure _

theorem span_advances : Advances span := .bind current_advances fun _ => .pure _

theorem start_advances : Advances ParseM.start := .bind current_advances fun _ => .pure _

theorem prevEnd_advances : Advances prevEnd := by
  refine .bind .get fun st => ?_
  split
  · exact .pure _
  · exact .pure _

theorem since_advances (start : Nat) : Advances (since start) :=
  .bind prevEnd_advances fun _ => .pure _

theorem bump_advances : Advances bump := by
  refine .bind span_advances fun _ => .bind tok_advances fun _ => ?_
  split
  · exact .bind (.modify fun st => ⟨rfl, Nat.le_succ _⟩) fun _ => .pure _
  · exact .pure _

theorem atTok_advances (t : Token) : Advances (atTok t) := .bind tok_advances fun _ => .pure _

theorem atPunct_advances (p : Punct) : Advances (atPunct p) := atTok_advances _

theorem atKw_advances (k : Keyword) : Advances (atKw k) := atTok_advances _

theorem failAt_reads {α : Type} {Q : α → List Nat → Prop} (s : Source.Span) (message : String) :
    Reads (failAt s message : ParseM α) Q :=
  .throw _

theorem failAt_advances {α : Type} (s : Source.Span) (message : String) :
    Advances (failAt s message : ParseM α) :=
  failAt_reads s message

theorem failExpected_reads {α : Type} {Q : α → List Nat → Prop} (expected : String) :
    Reads (failExpected expected : ParseM α) Q :=
  Reads.of_fails (failExpected_run expected)

theorem failExpected_advances {α : Type} (expected : String) :
    Advances (failExpected expected : ParseM α) :=
  failExpected_reads expected

theorem eat_advances (t : Token) : Advances (eat t) := by
  refine .bind (atTok_advances t) fun _ => ?_
  split
  · exact .bind bump_advances fun _ => .pure _
  · exact .pure _

theorem expect_advances (t : Token) : Advances (expect t) := by
  refine .bind (atTok_advances t) fun _ => ?_
  split
  · exact bump_advances
  · exact failExpected_advances _

theorem expectSemi_advances : Advances expectSemi := by
  refine .bind tok_advances fun _ => ?_
  split
  · exact .discard bump_advances
  · exact .pure _
  · exact .pure _
  · exact .pure _
  · exact failExpected_advances _

/-- An identifier passes exactly its own token. -/
theorem ident_reads : Reads ident fun id s => s = [id.pos.start] := by
  intro st a st' h
  obtain ⟨name, htok, rfl, rfl⟩ := ident_run_ok h
  obtain ⟨hp, hlex⟩ := lexemeAt_of_ident htok
  rw [hlex] at htok ⊢
  exact ⟨rfl, Nat.le_succ _, identStarts_succ_of_ident hp htok⟩

theorem ident_advances : Advances ident := ident_reads.advances

theorem ident_yields : Yields ident [] fun id => [id.pos.start] :=
  ident_reads.mono fun _ _ h => h ▸ List.Sublist.refl _

/-- Each round of a comma separated identifier list adds the identifier it passes. -/
theorem identListFrom_yields : ∀ (fuel : Nat) (acc : Array Ident),
    Yields (identListFrom fuel acc) (acc.toList.map (·.pos.start))
      fun ids => ids.toList.map (·.pos.start)
  | 0, acc => .pure (List.Sublist.refl _)
  | fuel + 1, acc => by
    unfold identListFrom
    refine .seq (eat_advances _) fun r => ?_
    split
    · exact .bind ident_yields fun id =>
        (identListFrom_yields fuel (acc.push id)).of_eq (by simp) fun _ => rfl
    · exact .pure (List.Sublist.refl _)

theorem identList_yields : Yields identList [] fun ids => ids.map (·.pos.start) := by
  unfold identList
  refine .bind ident_yields fun first => .seq Advances.get fun st => ?_
  exact .bind_acc ((identListFrom_yields _ #[first]).of_eq (by simp) fun _ => rfl) fun ids =>
    .pure (by simp)

theorem identList_advances : Advances identList := identList_yields.advances

theorem nested_advances {α : Type} {m : ParseM α} (hm : Advances m) : Advances (nested m) := by
  have body : Advances (do
      modify fun st : ParseState => { st with nestLev := st.nestLev + 1 }
      let r ← m
      modify fun st : ParseState => { st with nestLev := st.nestLev - 1 }
      pure r) :=
    .bind (.modify fun _ => ⟨rfl, Nat.le_refl _⟩) fun _ => .bind hm fun _ =>
      .bind (.modify fun _ => ⟨rfl, Nat.le_refl _⟩) fun _ => .pure _
  unfold nested
  refine .bind .get fun _ => ?_
  dsimp only
  split
  · exact .bind span_advances fun _ => .bind (failAt_advances _ _) fun _ => body
  · exact body

theorem withExprLev_advances {α : Type} (lev : Int) {m : ParseM α} (hm : Advances m) :
    Advances (withExprLev lev m) :=
  .bind .get fun _ => .bind (.modify fun _ => ⟨rfl, Nat.le_refl _⟩) fun _ =>
    .bind hm fun _ => .bind (.modify fun _ => ⟨rfl, Nat.le_refl _⟩) fun _ => .pure _

theorem deeper_advances {α : Type} {m : ParseM α} (hm : Advances m) : Advances (deeper m) :=
  .bind .get fun _ => withExprLev_advances _ hm

theorem takeDoc_advances (start : Nat) : Advances (takeDoc start) := by
  intro st a st' h
  simp only [takeDoc, StateT.run_bind, StateT.run_get, pure_bind] at h
  split at h
  · simp at h
    obtain ⟨-, rfl⟩ := h
    exact ⟨rfl, Nat.le_refl _, trivial⟩
  · split at h
    · simp at h
      obtain ⟨-, rfl⟩ := h
      exact ⟨rfl, Nat.le_refl _, trivial⟩
    · split at h
      · simp at h
        obtain ⟨-, rfl⟩ := h
        exact ⟨rfl, Nat.le_refl _, trivial⟩
      · simp [StateT.run_map, StateT.run_set] at h
        obtain ⟨-, rfl⟩ := h
        exact ⟨rfl, Nat.le_refl _, trivial⟩

theorem takeLineComment_advances (stop : Nat) : Advances (takeLineComment stop) := by
  intro st a st' h
  simp only [takeLineComment, StateT.run_bind, StateT.run_get, pure_bind] at h
  split at h
  · simp at h
    obtain ⟨-, rfl⟩ := h
    exact ⟨rfl, Nat.le_refl _, trivial⟩
  · split at h
    · simp at h
      obtain ⟨-, rfl⟩ := h
      exact ⟨rfl, Nat.le_refl _, trivial⟩
    · simp [StateT.run_map, StateT.run_set] at h
      obtain ⟨-, rfl⟩ := h
      exact ⟨rfl, Nat.le_refl _, trivial⟩

end ParseM

namespace Parser

open ParseM

/-! ## The grammar -/

/-- Running out of steps fails, so it satisfies every postcondition. -/
theorem outOfSteps_reads {α : Type} {Q : α → List Nat → Prop} : Reads (outOfSteps : ParseM α) Q :=
  Reads.of_fails fun _ => ⟨_, rfl⟩

theorem outOfSteps_advances {α : Type} : Advances (outOfSteps : ParseM α) := outOfSteps_reads

theorem operandExpr_advances (t : Term) : Advances (operandExpr t) := by
  cases t with
  | expr e => exact .pure _
  | type t => exact failAt_advances _ _

theorem stringLit_advances : Advances stringLit := by
  refine .bind tok_advances fun _ => ?_
  split
  · exact .bind bump_advances fun _ => .pure _
  · exact .bind bump_advances fun _ => .pure _
  · exact failExpected_advances _

theorem isLiteralType_advances (t : Term) : Advances (isLiteralType t) := by
  unfold isLiteralType
  split
  · exact .pure _
  · exact .pure _
  · exact .pure _
  · exact .pure _
  · exact .pure _
  · refine .bind .get fun _ => ?_
    split
    · exact .pure _
    · split <;> exact .pure _

theorem identsOf_advances (es : List Expr) : Advances (identsOf es) := by
  induction es with
  | nil => exact .pure _
  | cons e es ih =>
    unfold identsOf
    split
    · exact .pure _
    · rename_i heq
      cases heq
      exact .bind ih fun _ => .pure _
    · exact failAt_advances _ _

theorem condOf_advances (s : Option SimpleStmt) : Advances (condOf s) := by
  unfold condOf
  split
  · exact failExpected_advances _
  · exact .pure _
  · exact failAt_advances _ _

theorem startsTypeParams_advances : Advances startsTypeParams := by
  refine .bind (atPunct_advances _) fun _ => ?_
  split
  · exact .pure _
  · refine .bind (peek_advances _) fun _ => ?_
    split
    · exact .bind (peek_advances _) fun _ => .pure _
    · exact .pure _

end Parser

end GoTemplates.Syntax
