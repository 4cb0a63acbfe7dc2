import GoTemplates.Syntax.Lexer
import GoTemplates.Proofs.Syntax.Progress

/-! # Lexemes come in order

The lexer emits its lexemes from left to right. Each lies within the text read
so far and starts at or after the end of the one before it, and only an inserted
separator covers no byte. So the identifiers of a text stand at strictly
increasing offsets.
-/

namespace GoTemplates.Syntax

/-! ## Byte lengths -/

theorem byteLength_cons (c : Char) (cs : List Char) :
    byteLength (c :: cs) = c.utf8Size + byteLength cs := by
  have fold : ∀ (k : Nat) (l : List Char),
      l.foldl (fun n c => n + c.utf8Size) k = k + byteLength l := by
    intro k l
    induction l generalizing k with
    | nil => rfl
    | cons d l ih =>
      simp only [byteLength, List.foldl_cons, Nat.zero_add] at ih ⊢
      rw [ih, ih d.utf8Size]
      omega
  simp only [byteLength, List.foldl_cons, Nat.zero_add]
  exact fold _ _

theorem byteLength_append (a b : List Char) :
    byteLength (a ++ b) = byteLength a + byteLength b := by
  induction a with
  | nil => simp [byteLength]
  | cons c a ih => simp only [List.cons_append, byteLength_cons, ih]; omega

theorem byteLength_pos {cs : List Char} (h : cs ≠ []) : 0 < byteLength cs := by
  cases cs with
  | nil => exact absurd rfl h
  | cons c cs =>
    have := c.utf8Size_pos
    rw [byteLength_cons]
    omega

theorem byteLength_take_le (k : Nat) (cs : List Char) :
    byteLength (cs.take k) ≤ byteLength cs := by
  have h := byteLength_append (cs.take k) (cs.drop k)
  rw [List.take_append_drop] at h
  omega

/-- The first line end of a text lies within it. -/
theorem firstBreak?_le {cs : List Char} {off : Nat} (h : firstBreak? cs = some off) :
    off ≤ byteLength cs := by
  unfold firstBreak? at h
  split at h <;> first
    | (simp only [Option.some.injEq] at h; subst h; exact byteLength_take_le _ _)
    | cases h

/-! ## The invariant -/

/-- The lexemes lie within the first `pos` bytes, each starting at or after the end of
the one before, and only a separator is empty. -/
structure LexemesOrdered (toks : Array Lexeme) (pos : Nat) : Prop where
  within : ∀ l ∈ toks.toList, l.start ≤ l.stop ∧ l.stop ≤ pos
  apart : toks.toList.Pairwise fun a b => a.stop ≤ b.start
  nonempty : ∀ l ∈ toks.toList, l.start < l.stop ∨ l.token = .semi

namespace LexemesOrdered

variable {toks : Array Lexeme} {pos : Nat}

theorem empty (pos : Nat) : LexemesOrdered #[] pos :=
  ⟨by simp, by simp, by simp⟩

theorem mono (h : LexemesOrdered toks pos) {pos' : Nat} (hle : pos ≤ pos') :
    LexemesOrdered toks pos' :=
  ⟨fun l hl => ⟨(h.within l hl).1, Nat.le_trans (h.within l hl).2 hle⟩, h.apart, h.nonempty⟩

/-- A lexeme that starts where the text read so far ends may follow. -/
theorem push (h : LexemesOrdered toks pos) {x : Lexeme} {pos' : Nat} (hstart : pos ≤ x.start)
    (hx : x.start ≤ x.stop) (hstop : x.stop ≤ pos') (hne : x.start < x.stop ∨ x.token = .semi) :
    LexemesOrdered (toks.push x) pos' := by
  refine ⟨?_, ?_, ?_⟩
  · intro l hl
    simp only [Array.toList_push, List.mem_append, List.mem_singleton] at hl
    rcases hl with hl | rfl
    · have := h.within l hl
      omega
    · exact ⟨hx, hstop⟩
  · rw [Array.toList_push, List.pairwise_append]
    refine ⟨h.apart, List.pairwise_singleton _ _, ?_⟩
    intro a ha b hb
    rw [List.mem_singleton] at hb
    subst hb
    have := h.within a ha
    omega
  · intro l hl
    simp only [Array.toList_push, List.mem_append, List.mem_singleton] at hl
    rcases hl with hl | rfl
    · exact h.nonempty l hl
    · exact hne

/-- A separator at or after the text read so far may follow. -/
theorem separate {st : LexState} (h : LexemesOrdered st.tokens pos) {at_ pos' : Nat}
    (hat : pos ≤ at_) (hle : at_ ≤ pos') : LexemesOrdered (st.separate at_).tokens pos' := by
  unfold LexState.separate
  split
  · exact h.push hat (Nat.le_refl _) hle (.inr rfl)
  · exact h.mono (Nat.le_trans hat hle)

/-- One lexeme of the text from `pos` to `stop` keeps the lexemes in order. -/
theorem step {st : LexState} (h : LexemesOrdered st.tokens pos) {p : Piece} {stop : Nat}
    (hlt : pos < stop) (hbreak : ∀ off, p = .blockComment (some off) → pos + off ≤ stop) :
    LexemesOrdered (st.step p ⟨pos, stop⟩).tokens stop := by
  have fault : ∀ (st : LexState) (f : LexFault), LexemesOrdered st.tokens pos →
      LexemesOrdered (st.reportFault f ⟨pos, stop⟩).tokens stop :=
    fun _ _ h => h.push (Nat.le_refl _) (Nat.le_of_lt hlt) (Nat.le_refl _) (.inl hlt)
  cases p with
  | blank => exact h.mono (Nat.le_of_lt hlt)
  | byteOrderMark =>
    simp only [LexState.step]
    split
    · exact h.mono (Nat.le_of_lt hlt)
    · exact fault _ _ h
  | lineEnd => exact h.separate (Nat.le_refl _) (Nat.le_of_lt hlt)
  | lineComment => exact h.mono (Nat.le_of_lt hlt)
  | blockComment brk =>
    cases brk with
    | none => exact h.mono (Nat.le_of_lt hlt)
    | some off =>
      -- the comment is kept aside, and a line end inside it separates
      have hc : LexemesOrdered
          ({ st with comments := st.comments.push ⟨.block, ⟨pos, stop⟩⟩ } : LexState).tokens pos := h
      exact hc.separate (Nat.le_add_right _ _) (hbreak off rfl)
  | token t => exact h.push (Nat.le_refl _) (Nat.le_of_lt hlt) (Nat.le_refl _) (.inl hlt)
  | fault f => exact fault _ _ h
  | stray => exact fault _ _ h

end LexemesOrdered

/-! ## The lexer -/

/-- Only the block comment branch of `scanPiece` reads a block comment, and it takes the
comment up to its closing mark. -/
theorem scanPiece_blockComment {c : Char} {rest : List Char} {off n : Nat}
    (h : scanPiece c rest = (.blockComment (some off), n)) :
    ∃ k, n = k + 2 ∧ firstBreak? ((c :: rest).take (k + 2)) = some off := by
  unfold scanPiece at h
  extract_lets cs word w head body₁ body₂ body₃ at h
  -- every branch before the block comment gives another piece
  by_cases h1 : (c == ' ' || c == '\t') = true
  · rw [if_pos h1] at h; cases h
  rw [if_neg h1] at h
  by_cases h2 : (c == '\uFEFF') = true
  · rw [if_pos h2] at h; cases h
  rw [if_neg h2] at h
  by_cases h3 : (c == '\n') = true
  · rw [if_pos h3] at h; cases h
  rw [if_neg h3] at h
  by_cases h4 : (c == '\r') = true
  · rw [if_pos h4] at h; cases h
  rw [if_neg h4] at h
  by_cases h5 : (c == '/' && rest.head? == some '/') = true
  · rw [if_pos h5] at h; cases h
  rw [if_neg h5] at h
  by_cases h6 : (c == '/' && rest.head? == some '*') = true
  · rw [if_pos h6] at h
    split at h
    · rename_i k _
      simp only [Prod.mk.injEq, Piece.blockComment.injEq] at h
      exact ⟨k, h.2.symm, h.1⟩
    · cases h
  rw [if_neg h6] at h
  -- and so does every branch after it
  by_cases h7 : (c == '_' || Text.isLetter c) = true
  · rw [if_pos h7] at h; split at h <;> cases h
  rw [if_neg h7] at h
  by_cases h8 : (c.isDigit || c == '.' && (Option.map Char.isDigit rest.head?).getD false) = true
  · rw [if_pos h8] at h; split at h; split at h <;> cases h
  rw [if_neg h8] at h
  repeat' (first | (split at h) | cases h)

/-- A block comment's first line end lies within the text the lexer takes for it. -/
theorem scanPiece_break_le {c : Char} {rest : List Char} {off n : Nat}
    (h : scanPiece c rest = (.blockComment (some off), n)) :
    off ≤ byteLength ((c :: rest).take (max n 1)) := by
  obtain ⟨k, rfl, hbrk⟩ := scanPiece_blockComment h
  rw [show max (k + 2) 1 = k + 2 by omega]
  exact firstBreak?_le hbrk

/-- Lexing the rest of the text keeps the lexemes in order, within the whole text. -/
theorem lexFrom_ordered : ∀ (fuel : Nat) (cs : List Char) (pos : Nat) (st : LexState),
    LexemesOrdered st.tokens pos →
      LexemesOrdered (lexFrom fuel cs pos st).tokens (pos + byteLength cs)
  | _, [], pos, st, h => by
    rw [lexFrom]
    exact h.separate (Nat.le_refl _) (Nat.le_add_right _ _)
  | 0, _ :: _, pos, st, h => by
    rw [lexFrom]
    exact h.separate (Nat.le_refl _) (Nat.le_add_right _ _)
  | fuel + 1, c :: rest, pos, st, h => by
    rcases hsc : scanPiece c rest with ⟨p, k⟩
    rw [lexFrom, hsc]
    dsimp only
    -- the piece covers the next `max k 1` characters, at least one byte
    have htaken : 0 < byteLength ((c :: rest).take (max k 1)) :=
      byteLength_pos (by simp)
    have hsplit := byteLength_append ((c :: rest).take (max k 1)) ((c :: rest).drop (max k 1))
    rw [List.take_append_drop] at hsplit
    have hstep : LexemesOrdered
        (st.step p ⟨pos, pos + byteLength ((c :: rest).take (max k 1))⟩).tokens
        (pos + byteLength ((c :: rest).take (max k 1))) :=
      h.step (by omega) fun off hp => by
        subst hp
        have := scanPiece_break_le hsc
        omega
    have := lexFrom_ordered fuel ((c :: rest).drop (max k 1)) _ _ hstep
    rwa [Nat.add_assoc, ← hsplit] at this

/-- The lexemes of a whole text are in order. -/
theorem lex_ordered (src : String) :
    LexemesOrdered (lex src).tokens (byteLength src.toList) := by
  have := lexFrom_ordered src.toList.length src.toList 0 {} (LexemesOrdered.empty 0)
  rwa [Nat.zero_add] at this

/-! ## Identifiers -/

/-- The identifiers of ordered lexemes stand at strictly increasing offsets. -/
theorem LexemesOrdered.identStarts_pairwise {toks : Array Lexeme} {pos : Nat}
    (h : LexemesOrdered toks pos) :
    (toks.toList.filterMap Lexeme.identStart?).Pairwise (· < ·) := by
  have hpair : toks.toList.Pairwise fun a b =>
      (a.start < a.stop ∨ a.token = .semi) ∧ a.stop ≤ b.start :=
    h.apart.imp_of_mem fun ha _ hab => ⟨h.nonempty _ ha, hab⟩
  refine hpair.filterMap _ fun a b ⟨hne, hab⟩ x hx y hy => ?_
  unfold Lexeme.identStart? at hx hy
  split at hx <;> split at hy <;> simp only [Option.some.injEq, reduceCtorEq] at hx hy
  rename_i hident _ _ _
  subst hx hy
  rcases hne with hlt | hsemi
  · omega
  · rw [hident] at hsemi
    cases hsemi

end GoTemplates.Syntax
