import GoTemplates.Proofs.Syntax.LexemeOrder

/-! # Inserted separators

The lexer reads a text as a sequence of pieces: tokens, blanks, line ends, comments and
faults (`pieces`). Lexing is one step of `LexState.step` per piece, then a last
separator check at the end of the text (`lexFrom_eq_foldl`).

With no fault, a separator is inserted at offset `o` exactly when `o` is the first line
break after a token that ends a statement, with no token in between (`SeparatorDue`).
A line break is a line end, at its first byte, or the first line end inside a block
comment, or the end of the text. The lexer's one bit of state is exactly "the last token
or line break was such a token" (`Tracks`), which each piece keeps (`Tracks.step`).
-/

namespace GoTemplates.Syntax

open GoTemplates.Source

/-! ## The pieces of a text -/

/-- The pieces the lexer reads from the text `cs` at byte offset `pos`, with their spans. -/
def pieces : Nat → List Char → Nat → List (Piece × Span)
  | _, [], _ => []
  | 0, _ :: _, _ => []
  | fuel + 1, c :: rest, pos =>
    let n := max (scanPiece c rest).2 1
    let stop := pos + byteLength ((c :: rest).take n)
    ((scanPiece c rest).1, ⟨pos, stop⟩) :: pieces fuel ((c :: rest).drop n) stop

/-- The pieces of a whole source text. -/
def piecesOf (src : String) : List (Piece × Span) :=
  pieces src.toList.length src.toList 0

/-- Lexing applies the step of each piece in turn, then checks for a separator at the end. -/
theorem lexFrom_eq_foldl : ∀ (fuel : Nat) (cs : List Char) (pos : Nat) (st : LexState),
    cs.length ≤ fuel →
      lexFrom fuel cs pos st =
        ((pieces fuel cs pos).foldl (fun st x => st.step x.1 x.2) st).separate
          (pos + byteLength cs)
  | _, [], pos, st, _ => by
    rw [lexFrom, pieces]
    rfl
  | 0, _ :: _, _, _, h => by simp at h
  | fuel + 1, c :: rest, pos, st, h => by
    rcases hsc : scanPiece c rest with ⟨p, k⟩
    rw [lexFrom, pieces, hsc]
    dsimp only
    rw [List.foldl_cons]
    -- the piece takes at least one character, so the rest fits in the fuel left
    have hfuel : ((c :: rest).drop (max k 1)).length ≤ fuel := by
      simp only [List.length_drop, List.length_cons] at h ⊢
      omega
    have hsplit := byteLength_append ((c :: rest).take (max k 1)) ((c :: rest).drop (max k 1))
    rw [List.take_append_drop] at hsplit
    rw [lexFrom_eq_foldl fuel _ _ _ hfuel, hsplit, Nat.add_assoc]

/-- Every piece covers at least one byte. -/
theorem pieces_span_lt : ∀ (fuel : Nat) (cs : List Char) (pos : Nat),
    ∀ x ∈ pieces fuel cs pos, x.2.start < x.2.stop
  | _, [], _ => by simp [pieces]
  | 0, _ :: _, _ => by simp [pieces]
  | fuel + 1, c :: rest, pos => by
    intro x hx
    rw [pieces] at hx
    rcases List.mem_cons.mp hx with rfl | hx
    · have hne : (c :: rest).take (max (scanPiece c rest).2 1) ≠ [] := by simp
      have := byteLength_pos hne
      dsimp only
      omega
    · exact pieces_span_lt fuel _ _ x hx

/-! ## Line breaks and statement ends -/

/-- The line break a piece makes: a line end at its first byte, a block comment at its first
line end. -/
def Piece.lineBreak : Piece → Span → Option Nat
  | .lineEnd, sp => some sp.start
  | .blockComment (some off), sp => some (sp.start + off)
  | _, _ => none

/-- A piece that is neither a token nor a line break: a blank, a line comment, a block
comment on one line, a byte order mark or a fault. -/
def Piece.Quiet (p : Piece) (sp : Span) : Prop :=
  p.lineBreak sp = none ∧ ∀ t, p ≠ .token t

/-- A piece that the lexer reports as a fault. -/
def Piece.Faults : Piece → Span → Prop
  | .fault _, _ => True
  | .stray, _ => True
  | .byteOrderMark, sp => sp.start ≠ 0
  | _, _ => False

/-- The tokens after which a line break ends a statement: an identifier, a literal, `break`,
`continue`, `fallthrough`, `return`, `++`, `--`, `)`, `]` or `}`. -/
def EndsLine (t : Token) : Prop :=
  (∃ s, t = .ident s ∨ t = .intLit s ∨ t = .floatLit s ∨ t = .imagLit s ∨ t = .runeLit s ∨
    t = .stringLit s ∨ t = .rawStringLit s) ∨
  t = .keyword .break_ ∨ t = .keyword .continue_ ∨ t = .keyword .fallthrough ∨
  t = .keyword .return_ ∨ t = .punct .inc ∨ t = .punct .dec ∨ t = .punct .rParen ∨
  t = .punct .rBrack ∨ t = .punct .rBrace

theorem endsStatement_iff (t : Token) : t.endsStatement = true ↔ EndsLine t := by
  cases t with
  | keyword k => cases k <;> simp [Token.endsStatement, EndsLine]
  | punct p => cases p <;> simp [Token.endsStatement, EndsLine]
  | _ => simp [Token.endsStatement, EndsLine]

/-- The pieces read so far end with a token that ends a statement, followed only by quiet
pieces. -/
def Pending (ps : List (Piece × Span)) : Prop :=
  ∃ pre t sp mid, ps = pre ++ (.token t, sp) :: mid ∧ EndsLine t ∧ ∀ x ∈ mid, x.1.Quiet x.2

/-- A separator is due at offset `o` of a text read as `ps` that ends at `stop`: `o` is the
first line break after a token that ends a statement, with no token in between, or the end
of the text when no line break follows that token. -/
def SeparatorDue (ps : List (Piece × Span)) (stop o : Nat) : Prop :=
  ∃ pre t sp mid rest, ps = pre ++ (.token t, sp) :: mid ++ rest ∧ EndsLine t ∧
    (∀ x ∈ mid, x.1.Quiet x.2) ∧
    ((∃ x post, rest = x :: post ∧ x.1.lineBreak x.2 = some o) ∨ (rest = [] ∧ o = stop))

/-- A separator is due at a line break after pending pieces, or at the end after them. -/
theorem separatorDue_iff {ps : List (Piece × Span)} {stop o : Nat} :
    SeparatorDue ps stop o ↔
      (∃ pre x post, ps = pre ++ x :: post ∧ x.1.lineBreak x.2 = some o ∧ Pending pre) ∨
        (o = stop ∧ Pending ps) := by
  constructor
  · rintro ⟨pre, t, sp, mid, rest, rfl, hends, hmid, ⟨x, post, rfl, hx⟩ | ⟨rfl, rfl⟩⟩
    · exact .inl ⟨pre ++ (.token t, sp) :: mid, x, post, by simp, hx,
        pre, t, sp, mid, rfl, hends, hmid⟩
    · exact .inr ⟨rfl, pre, t, sp, mid, by simp, hends, hmid⟩
  · rintro (⟨pre', x, post, rfl, hx, pre, t, sp, mid, rfl, hends, hmid⟩ | ⟨rfl, pre, t, sp, mid,
      rfl, hends, hmid⟩)
    · exact ⟨pre, t, sp, mid, x :: post, by simp, hends, hmid, .inl ⟨x, post, rfl, hx⟩⟩
    · exact ⟨pre, t, sp, mid, [], by simp, hends, hmid, .inr ⟨rfl, rfl⟩⟩

/-! ## Reading one more piece -/

section Snoc

variable {ps pre post : List (Piece × Span)} {x y : Piece × Span}

/-- Where a list with one more element at its end can be cut at an element. -/
theorem snoc_eq_append_cons :
    ps ++ [x] = pre ++ y :: post ↔
      (post = [] ∧ pre = ps ∧ y = x) ∨ ∃ post', post = post' ++ [x] ∧ ps = pre ++ y :: post' := by
  constructor
  · intro h
    rcases List.eq_nil_or_concat post with rfl | ⟨post', z, rfl⟩
    · obtain ⟨hpre, hy⟩ := List.append_inj' h rfl
      exact .inl ⟨rfl, hpre.symm, (List.singleton_inj.1 hy).symm⟩
    · have h' : ps ++ [x] = (pre ++ y :: post') ++ [z] := by simpa using h
      obtain ⟨hps, hz⟩ := List.append_inj' h' rfl
      obtain rfl := (List.cons.inj hz).1
      exact .inr ⟨post', by simp, hps⟩
  · rintro (⟨rfl, rfl, rfl⟩ | ⟨post', rfl, rfl⟩) <;> simp

/-- After one more piece a separator is pending when that piece is a token that ends a
statement, or when it is quiet and one was pending before. -/
theorem pending_snoc :
    Pending (ps ++ [x]) ↔ (∃ t, x.1 = .token t ∧ EndsLine t) ∨ (x.1.Quiet x.2 ∧ Pending ps) := by
  constructor
  · rintro ⟨pre, t, sp, mid, h, hends, hmid⟩
    rcases snoc_eq_append_cons.mp h with ⟨-, -, rfl⟩ | ⟨mid', rfl, hps⟩
    · exact .inl ⟨t, rfl, hends⟩
    · exact .inr ⟨hmid x (by simp), pre, t, sp, mid', hps, hends,
        fun y hy => hmid y (by simp [hy])⟩
  · rintro (⟨t, hx, hends⟩ | ⟨hq, pre, t, sp, mid, rfl, hends, hmid⟩)
    · exact ⟨ps, t, x.2, [], by rw [← hx], hends, by simp⟩
    · exact ⟨pre, t, sp, mid ++ [x], by simp, hends, by
        intro y hy
        rcases List.mem_append.mp hy with hy | hy
        · exact hmid y hy
        · rw [List.mem_singleton.mp hy]
          exact hq⟩

/-- The line breaks after pending pieces, once one more piece is read. -/
theorem breaks_snoc {o : Nat} :
    (∃ pre y post, ps ++ [x] = pre ++ y :: post ∧ y.1.lineBreak y.2 = some o ∧ Pending pre) ↔
      (∃ pre y post, ps = pre ++ y :: post ∧ y.1.lineBreak y.2 = some o ∧ Pending pre) ∨
        (x.1.lineBreak x.2 = some o ∧ Pending ps) := by
  constructor
  · rintro ⟨pre, y, post, h, hy, hpre⟩
    rcases snoc_eq_append_cons.mp h with ⟨rfl, rfl, rfl⟩ | ⟨post', rfl, rfl⟩
    · exact .inr ⟨hy, hpre⟩
    · exact .inl ⟨pre, y, post', rfl, hy, hpre⟩
  · rintro (⟨pre, y, post, rfl, hy, hpre⟩ | ⟨hx, hps⟩)
    · exact ⟨pre, y, post ++ [x], by simp, hy, hpre⟩
    · exact ⟨ps, x, [], rfl, hx, hps⟩

end Snoc

/-! ## The lexer's state follows the pieces -/

/-- A separator with no width at offset `o` is among the tokens. -/
def Inserted (toks : Array Lexeme) (o : Nat) : Prop :=
  ∃ l ∈ toks.toList, l.token = .semi ∧ l.start = o ∧ l.stop = o

theorem inserted_push {toks : Array Lexeme} {l : Lexeme} {o : Nat} :
    Inserted (toks.push l) o ↔ Inserted toks o ∨ (l.token = .semi ∧ l.start = o ∧ l.stop = o) := by
  simp [Inserted, Array.toList_push, or_and_right, exists_or]

/-- The separator check inserts a separator exactly when one is pending. -/
theorem inserted_separate (st : LexState) (at_ o : Nat) :
    Inserted (st.separate at_).tokens o ↔ Inserted st.tokens o ∨ (o = at_ ∧ st.pendingSemi = true) := by
  unfold LexState.separate
  split
  · rename_i hp
    rw [inserted_push]
    simp [hp, eq_comm]
  · rename_i hp
    simp [hp]

/-- After the separator check none is pending. -/
theorem separate_pendingSemi (st : LexState) (at_ : Nat) : (st.separate at_).pendingSemi = false := by
  unfold LexState.separate
  split
  · rfl
  · rename_i hp
    simpa using hp

/-- What the state says after the pieces `ps`: a separator is pending exactly when one is
due at the next line break, and the separators inserted so far stand at the line breaks
that came after pending pieces. -/
structure Tracks (ps : List (Piece × Span)) (st : LexState) : Prop where
  pending : st.pendingSemi = true ↔ Pending ps
  inserted : ∀ o, Inserted st.tokens o ↔
    ∃ pre x post, ps = pre ++ x :: post ∧ x.1.lineBreak x.2 = some o ∧ Pending pre

namespace Tracks

variable {ps : List (Piece × Span)} {st st' : LexState} {x : Piece × Span}

theorem init : Tracks [] ({} : LexState) := by
  refine ⟨?_, fun o => ?_⟩
  · simp only [Bool.false_eq_true, false_iff]
    rintro ⟨pre, t, sp, mid, h, -⟩
    simp at h
  · simp [Inserted]

/-- A quiet piece changes neither the tokens nor the pending separator. -/
theorem quiet (h : Tracks ps st) (hq : x.1.Quiet x.2) (htoks : st'.tokens = st.tokens)
    (hpend : st'.pendingSemi = st.pendingSemi) : Tracks (ps ++ [x]) st' := by
  refine ⟨?_, fun o => ?_⟩
  · rw [hpend, h.pending, pending_snoc]
    constructor
    · exact fun hp => .inr ⟨hq, hp⟩
    · rintro (⟨t, ht, -⟩ | ⟨-, hp⟩)
      · exact absurd ht (hq.2 t)
      · exact hp
  · rw [htoks, h.inserted o, breaks_snoc, hq.1]
    simp

/-- A line break inserts a separator where one is pending, and leaves none pending. -/
theorem lineBreak (h : Tracks ps st) {o : Nat} (hx : x.1.lineBreak x.2 = some o)
    (htoks : st'.tokens = st.tokens) (hpend : st'.pendingSemi = st.pendingSemi) :
    Tracks (ps ++ [x]) (st'.separate o) := by
  have hnot_token : ∀ t, x.1 ≠ .token t := by
    intro t ht
    rw [ht] at hx
    cases hx
  refine ⟨?_, fun o' => ?_⟩
  · -- a line break is neither a token nor quiet
    rw [separate_pendingSemi, pending_snoc]
    simp only [Bool.false_eq_true, false_iff, not_or, not_exists, not_and]
    exact ⟨fun t ht _ => hnot_token t ht, fun hq _ => by rw [hq.1] at hx; cases hx⟩
  · rw [inserted_separate, htoks, hpend, h.inserted o', breaks_snoc, hx, h.pending]
    simp [eq_comm]

/-- A token sets the pending separator by its kind and inserts none. -/
theorem token (h : Tracks ps st) {t : Token} (hx : x.1 = .token t)
    (hlt : x.2.start < x.2.stop) :
    Tracks (ps ++ [x])
      { st with tokens := st.tokens.push ⟨x.2.start, t, x.2.stop⟩,
                pendingSemi := t.endsStatement } := by
  refine ⟨?_, fun o => ?_⟩
  · dsimp only
    rw [endsStatement_iff, pending_snoc]
    constructor
    · exact fun hends => .inl ⟨t, hx, hends⟩
    · rintro (⟨t', ht', hends⟩ | ⟨hq, -⟩)
      · rw [hx] at ht'
        cases ht'
        exact hends
      · exact absurd hx (hq.2 t)
  · have hbreak : x.1.lineBreak x.2 = none := by
      rw [hx]
      rfl
    dsimp only
    rw [inserted_push, h.inserted o, breaks_snoc, hbreak]
    simp only [reduceCtorEq, false_and, or_false, or_iff_left_iff_imp, and_imp]
    intro _ hstart hstop
    omega

/-- Every piece but a fault keeps the state in step with the pieces read. -/
theorem step (h : Tracks ps st) (hf : ¬ x.1.Faults x.2) (hlt : x.2.start < x.2.stop) :
    Tracks (ps ++ [x]) (st.step x.1 x.2) := by
  obtain ⟨p, sp⟩ := x
  have quiet_of : Piece.lineBreak p sp = none → (∀ t, p ≠ .token t) → p.Quiet sp :=
    fun hb ht => ⟨hb, ht⟩
  cases p with
  | blank => exact h.quiet (quiet_of rfl fun _ => Piece.noConfusion) rfl rfl
  | byteOrderMark =>
    have hstart : sp.start = 0 := by simpa [Piece.Faults] using hf
    have hstep : st.step .byteOrderMark sp = st := by simp [LexState.step, hstart]
    rw [hstep]
    exact h.quiet (quiet_of rfl fun _ => Piece.noConfusion) rfl rfl
  | lineEnd => exact h.lineBreak rfl rfl rfl
  | lineComment => exact h.quiet (quiet_of rfl fun _ => Piece.noConfusion) rfl rfl
  | blockComment brk =>
    cases brk with
    | none => exact h.quiet (quiet_of rfl fun _ => Piece.noConfusion) rfl rfl
    | some off => exact h.lineBreak rfl rfl rfl
  | token t => exact h.token rfl hlt
  | fault f => exact absurd trivial hf
  | stray => exact absurd trivial hf

/-- Reading pieces with no fault keeps the state in step with them. -/
theorem foldl (h : Tracks ps st) :
    ∀ qs : List (Piece × Span), (∀ x ∈ qs, ¬ x.1.Faults x.2 ∧ x.2.start < x.2.stop) →
      Tracks (ps ++ qs) (qs.foldl (fun st x => st.step x.1 x.2) st) := by
  intro qs
  induction qs generalizing ps st with
  | nil => intro _; simpa using h
  | cons x qs ih =>
    intro hqs
    have hx := hqs x List.mem_cons_self
    have := ih (h.step hx.1 hx.2) fun y hy => hqs y (List.mem_cons_of_mem _ hy)
    simpa using this

/-- At the end of the text a separator is inserted where one is due. -/
theorem separate_end (h : Tracks ps st) (stop o : Nat) :
    Inserted (st.separate stop).tokens o ↔ SeparatorDue ps stop o := by
  rw [separatorDue_iff, inserted_separate, h.inserted o, h.pending]

end Tracks

/-! ## Faults -/

/-- The separator check reports nothing. -/
theorem separate_diags (st : LexState) (at_ : Nat) : (st.separate at_).diags = st.diags := by
  unfold LexState.separate
  split <;> rfl

/-- A piece that is not a fault reports nothing. -/
theorem step_diags_of_not_faults {st : LexState} {p : Piece} {sp : Span} (h : ¬ p.Faults sp) :
    (st.step p sp).diags = st.diags := by
  cases p with
  | byteOrderMark =>
    have hstart : sp.start = 0 := by simpa [Piece.Faults] using h
    simp [LexState.step, hstart]
  | blockComment brk =>
    cases brk with
    | none => rfl
    | some off => exact separate_diags _ _
  | lineEnd => exact separate_diags _ _
  | fault f => exact absurd trivial h
  | stray => exact absurd trivial h
  | _ => rfl

/-- Lexing never takes a fault back. -/
theorem diags_size_le_foldl : ∀ (qs : List (Piece × Span)) (st : LexState),
    st.diags.size ≤ (qs.foldl (fun st x => st.step x.1 x.2) st).diags.size
  | [], _ => Nat.le_refl _
  | x :: qs, st => by
    refine Nat.le_trans ?_ (diags_size_le_foldl qs (st.step x.1 x.2))
    by_cases hf : x.1.Faults x.2
    · obtain ⟨p, sp⟩ := x
      cases p <;> simp [Piece.Faults] at hf <;>
        simp [LexState.step, LexState.reportFault, hf]
    · simp only [step_diags_of_not_faults hf, Nat.le_refl]

/-- When lexing reports nothing, no piece was a fault. -/
theorem no_faults_of_diags (qs : List (Piece × Span)) (st : LexState)
    (h : (qs.foldl (fun st x => st.step x.1 x.2) st).diags = #[]) :
    ∀ x ∈ qs, ¬ x.1.Faults x.2 := by
  intro x hx hf
  obtain ⟨pre, post, rfl⟩ := List.append_of_mem hx
  rw [List.foldl_append, List.foldl_cons] at h
  have hle := diags_size_le_foldl post
    ((pre.foldl (fun st x => st.step x.1 x.2) st).step x.1 x.2)
  rw [h] at hle
  obtain ⟨p, sp⟩ := x
  cases p <;> simp [Piece.Faults] at hf <;>
    simp [LexState.step, LexState.reportFault, hf] at hle

/-! ## The lexer -/

theorem byteLength_toList (s : String) : byteLength s.toList = s.utf8ByteSize := by
  rw [← String.ofList_toList (s := s)]
  generalize s.toList = cs
  rw [String.toList_ofList]
  induction cs with
  | nil => rfl
  | cons c cs ih =>
    rw [byteLength_cons, ih, String.ofList_cons, String.utf8ByteSize_append,
      String.utf8ByteSize_singleton]

/-- The state a whole text leaves: the step of each of its pieces in turn, then the check
for a separator at its end. -/
theorem lexFrom_text (src : String) :
    lexFrom src.toList.length src.toList 0 {} =
      ((piecesOf src).foldl (fun (st : LexState) x => st.step x.1 x.2) {}).separate
        src.utf8ByteSize := by
  have hrun := lexFrom_eq_foldl src.toList.length src.toList 0 {} (Nat.le_refl _)
  rwa [Nat.zero_add, byteLength_toList] at hrun

/-- The tokens of a text lie within it in order: every token ends at or after its start and
at or before the end of the text, only an inserted separator covers no byte, and each token
ends at or before the start of the next, an inserted separator included. When the lexer
reports no fault, a separator is inserted at offset `o` exactly when one is due there: `o` is
the first line break after a token that ends a statement, with no token in between. -/
theorem lex_separators (src : String) :
    (∀ l ∈ (lex src).tokens.toList, l.start ≤ l.stop ∧ l.stop ≤ src.utf8ByteSize) ∧
    (∀ l ∈ (lex src).tokens.toList, ¬ (l.token = .semi ∧ l.start = l.stop) → l.start < l.stop) ∧
    (lex src).tokens.toList.Pairwise (fun a b => a.stop ≤ b.start) ∧
    ((lex src).diags = #[] → ∀ o,
      (∃ l ∈ (lex src).tokens.toList, l.token = .semi ∧ l.start = o ∧ l.stop = o) ↔
        SeparatorDue (piecesOf src) src.utf8ByteSize o) := by
  have hord := lex_ordered src
  rw [byteLength_toList] at hord
  refine ⟨hord.within, fun l hl hins => ?_, hord.apart, fun hdiag o => ?_⟩
  · rcases hord.nonempty l hl with hlt | hsemi
    · exact hlt
    · exact Nat.lt_of_le_of_ne (hord.within l hl).1 fun heq => hins ⟨hsemi, heq⟩
  · -- the state after the whole text is the fold of its pieces, tracked from the start
    have hend := lexFrom_text src
    have hdiags : (lex src).diags = (lexFrom src.toList.length src.toList 0 {}).diags := rfl
    have htoks : (lex src).tokens = (lexFrom src.toList.length src.toList 0 {}).tokens := rfl
    rw [hdiags, hend, separate_diags] at hdiag
    have htracks := Tracks.init.foldl (piecesOf src) fun x hx =>
      ⟨no_faults_of_diags _ _ hdiag x hx, pieces_span_lt _ _ _ x hx⟩
    rw [List.nil_append] at htracks
    rw [htoks, hend]
    exact htracks.separate_end src.utf8ByteSize o

/-- After "return x" a line end inserts a separator at its first byte. -/
theorem lex_separators_return :
    (lex "return x\n").diags = #[] ∧
      ((∃ l ∈ (lex "return x\n").tokens.toList, l.token = .semi ∧ l.start = 8 ∧ l.stop = 8) ↔
        SeparatorDue (piecesOf "return x\n") "return x\n".utf8ByteSize 8) :=
  have hdiags : (lex "return x\n").diags = #[] := by decide
  ⟨hdiags, (lex_separators "return x\n").2.2.2 hdiags 8⟩

example : ∃ l ∈ (lex "return x\n").tokens.toList, l.token = .semi ∧ l.start = 8 ∧ l.stop = 8 := by
  decide

end GoTemplates.Syntax
