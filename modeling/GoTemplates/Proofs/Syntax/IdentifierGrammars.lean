import GoTemplates.Proofs.Syntax.Separators
import GoTemplates.Proofs.Template.RoundTrip
import Mathlib.Logic.Basic

/-! # Two identifier grammars

The lexer reads an identifier as a letter or underscore, then letters, decimal digits and
underscores (`GoIdentifier`). A mapping names its placeholders, types and packages with
identifiers of the Unicode identifier classes instead: an XID start character or
underscore, then XID continue characters (`MappingIdentifier`).

A text that is no keyword is lexed as the one identifier it spells, followed by the
separator inserted at its end and with no fault reported, exactly when it is a Go
identifier (`lexesAsIdentifier_iff`); the identifier check of mappings passes exactly on
mapping identifiers (`isIdentifier_iff`). So the check and the lexer agree on a text
exactly when the two grammars do (`identifier_check_agrees_iff`). They do on every ASCII
text, but not beyond: a combining mark continues a mapping identifier and no Go identifier,
and a modifier letter such as U+2E2F starts a Go identifier and no mapping identifier.
-/

namespace GoTemplates.Syntax

open GoTemplates.Source GoTemplates.Text GoTemplates.Template

/-- A Go identifier: a letter or underscore, then letters, decimal digits and underscores. -/
def GoIdentifier (w : List Char) : Prop :=
  ∃ c cs, w = c :: cs ∧ (c = '_' ∨ isLetter c = true) ∧ ∀ d ∈ cs, isIdentChar d = true

/-- An identifier of the mapping grammar: an XID start character or underscore, then XID
continue characters. -/
def MappingIdentifier (w : List Char) : Prop :=
  ∃ c cs, w = c :: cs ∧ (c = '_' ∨ isXidStart c = true) ∧ ∀ d ∈ cs, isXidContinue d = true

/-- The lexer reads the text as the one identifier it spells, then the separator inserted at
its end, and reports no fault. -/
def LexesAsIdentifier (s : String) : Prop :=
  (lex s).tokens.toList.map Lexeme.token = [.ident s, .semi] ∧ (lex s).diags = #[]

/-! ## The identifier check -/

theorem isIdentifier_iff (s : String) : isIdentifier s = true ↔ MappingIdentifier s.toList := by
  constructor
  · intro h
    exact identifierFault_eq_none (Option.isNone_iff_eq_none.mp h)
  · rintro ⟨c, cs, hs, hc, hcs⟩
    have hstart : (c == '_' || isXidStart c) = true := by
      rcases hc with rfl | hc
      · simp
      · simp [hc]
    unfold isIdentifier identifierFault
    rw [hs]
    simp only [hstart, if_true, identifierFault_scan_eq_none.mpr hcs, Option.isNone_none]

/-! ## Identifier tokens -/

theorem numberToken_ne_ident (text : List Char) (w : String) : numberToken text ≠ .ident w := by
  have hfloat : ∀ (b : Bool) (s : String),
      (if b = true then Token.floatLit s else .intLit s) ≠ .ident w := by
    intro b s
    cases b <;> simp
  unfold numberToken
  dsimp only
  split
  · exact fun h => by cases h
  · exact hfloat _ _

/-- Only the identifier branch of the scanner makes an identifier token, and its text is the
longest run of identifier characters from a letter or underscore. -/
theorem scanPiece_ident {c : Char} {rest : List Char} {w : String} {n : Nat}
    (h : scanPiece c rest = (.token (.ident w), n)) :
    (c == '_' || isLetter c) = true ∧ w.toList = (c :: rest).takeWhile isIdentChar := by
  unfold scanPiece at h
  -- the branches become one disjunction; those of other pieces or tokens drop out
  simp only [ite_eq_iff, Prod.mk.injEq, reduceCtorEq, false_and, and_false, false_or, or_false,
    Piece.token.injEq] at h
  rcases h with ⟨-, -, -, -, -, ⟨-, hblock⟩ | ⟨-, ⟨hc, hword⟩ |
    ⟨-, ⟨-, -, hnum, -⟩ | ⟨-, -, -, -, -, hpunct⟩⟩⟩⟩
  · split at hblock <;> cases hblock
  · refine ⟨hc, ?_⟩
    split at hword
    · cases hword
    · cases hword
      simp
  · exact absurd hnum (numberToken_ne_ident _ _)
  · split at hpunct <;> cases hpunct

theorem goIdentifier_of_scanPiece {c : Char} {rest : List Char} {w : String} {n : Nat}
    (h : scanPiece c rest = (.token (.ident w), n)) : GoIdentifier w.toList := by
  obtain ⟨hc, hw⟩ := scanPiece_ident h
  have hident : isIdentChar c = true := by
    simp only [Bool.or_eq_true, beq_iff_eq] at hc
    rcases hc with rfl | hc
    · rfl
    · simp [isIdentChar, hc]
  refine ⟨c, rest.takeWhile isIdentChar, by rw [hw, List.takeWhile_cons_of_pos hident], ?_, ?_⟩
  · simpa using hc
  · intro d hd
    exact List.mem_takeWhile_imp hd

/-- Every identifier the scanner reads from a text is a Go identifier. -/
theorem pieces_ident : ∀ (fuel : Nat) (cs : List Char) (pos : Nat),
    ∀ x ∈ pieces fuel cs pos, ∀ w, x.1 = .token (.ident w) → GoIdentifier w.toList
  | _, [], _ => by simp [pieces]
  | 0, _ :: _, _ => by simp [pieces]
  | fuel + 1, c :: rest, pos => by
    intro x hx w hw
    rw [pieces] at hx
    rcases List.mem_cons.mp hx with rfl | hx
    · rcases hsc : scanPiece c rest with ⟨p, k⟩
      rw [hsc] at hw
      subst hw
      exact goIdentifier_of_scanPiece hsc
    · exact pieces_ident fuel _ _ x hx w hw

/-- The identifier tokens of a list of lexemes are Go identifiers. -/
def IdentsRead (toks : Array Lexeme) : Prop :=
  ∀ l ∈ toks.toList, ∀ w, l.token = .ident w → GoIdentifier w.toList

theorem IdentsRead.push {toks : Array Lexeme} {l : Lexeme} (h : IdentsRead toks)
    (hl : ∀ w, l.token = .ident w → GoIdentifier w.toList) : IdentsRead (toks.push l) := by
  intro x hx w hw
  rw [Array.toList_push, List.mem_append, List.mem_singleton] at hx
  rcases hx with hx | rfl
  · exact h x hx w hw
  · exact hl w hw

theorem IdentsRead.separate {st : LexState} (h : IdentsRead st.tokens) (pos : Nat) :
    IdentsRead (st.separate pos).tokens := by
  unfold LexState.separate
  split
  · exact h.push fun w hw => by cases hw
  · exact h

/-- A step keeps the identifier tokens Go identifiers when its piece is one. -/
theorem IdentsRead.step {st : LexState} (h : IdentsRead st.tokens) {p : Piece} (sp : Span)
    (hp : ∀ w, p = .token (.ident w) → GoIdentifier w.toList) :
    IdentsRead (st.step p sp).tokens := by
  have hfault : ∀ f span, IdentsRead (st.reportFault f span).tokens := fun _ _ =>
    h.push fun w hw => by cases hw
  cases p with
  | blank | lineComment => exact h
  | byteOrderMark =>
    -- a byte order mark is skipped at the start and a fault anywhere else
    have hstep : st.step .byteOrderMark sp =
        if sp.start == 0 then st else st.reportFault .invalidToken sp := rfl
    rw [hstep]
    split
    · exact h
    · exact hfault _ _
  | lineEnd => exact h.separate _
  | blockComment brk =>
    cases brk with
    | none => exact h
    | some off =>
      exact @IdentsRead.separate { st with comments := st.comments.push ⟨.block, sp⟩ } h _
  | fault f => exact hfault _ _
  | stray => exact hfault _ _
  | token t => exact h.push fun w hw => hp w (by rw [← hw])

theorem IdentsRead.foldl : ∀ (xs : List (Piece × Span)) {st : LexState},
    IdentsRead st.tokens → (∀ x ∈ xs, ∀ w, x.1 = .token (.ident w) → GoIdentifier w.toList) →
      IdentsRead (xs.foldl (fun st x => st.step x.1 x.2) st).tokens
  | [], _, h, _ => h
  | x :: xs, _, h, hxs => by
    rw [List.foldl_cons]
    exact IdentsRead.foldl xs (h.step x.2 (hxs x (List.mem_cons_self ..)))
      fun y hy => hxs y (List.mem_cons_of_mem _ hy)

/-- Every identifier token of a lexed text is a Go identifier. -/
theorem lex_identsRead (src : String) : IdentsRead (lex src).tokens := by
  have htoks : (lex src).tokens = (lexFrom src.toList.length src.toList 0 {}).tokens := rfl
  rw [htoks, lexFrom_text]
  refine IdentsRead.separate (IdentsRead.foldl _ ?_ ?_) _
  · intro l hl
    simp at hl
  · exact pieces_ident _ _ _

/-! ## A Go identifier is lexed as itself -/

/-- A letter or underscore is none of the characters the scanner tries before identifiers. -/
theorem identStart_not_mark {c : Char} (hc : c = '_' ∨ isLetter c = true) :
    c ≠ ' ' ∧ c ≠ '\t' ∧ c ≠ '\uFEFF' ∧ c ≠ '\n' ∧ c ≠ '\r' ∧ c ≠ '/' := by
  have hbom : isLetter '\uFEFF' = false := by
    rw [isLetter, if_neg (by decide), CharTable.contains_eq_any]
    decide +kernel
  rcases hc with rfl | hc
  · decide
  · refine ⟨?_, ?_, ?_, ?_, ?_, ?_⟩ <;> rintro rfl
    · exact absurd hc (by decide)
    · exact absurd hc (by decide)
    · rw [hbom] at hc
      cases hc
    · exact absurd hc (by decide)
    · exact absurd hc (by decide)
    · exact absurd hc (by decide)

/-- A word of identifier characters from a letter or underscore that spells no keyword is
scanned as one identifier token. -/
theorem scanPiece_word {c : Char} {rest : List Char} (hc : c = '_' ∨ isLetter c = true)
    (hrest : ∀ d ∈ rest, isIdentChar d = true)
    (hk : Keyword.ofWord? (String.ofList (c :: rest)) = none) :
    scanPiece c rest = (.token (.ident (String.ofList (c :: rest))), rest.length + 1) := by
  obtain ⟨h1, h2, h3, h4, h5, h6⟩ := identStart_not_mark hc
  have hstart : (c == '_' || isLetter c) = true := by
    rcases hc with rfl | hc
    · rfl
    · simp [hc]
  have hword : (c :: rest).takeWhile isIdentChar = c :: rest := by
    rw [List.takeWhile_eq_self_iff]
    intro d hd
    rcases List.mem_cons.mp hd with rfl | hd
    · simp only [Bool.or_eq_true, beq_iff_eq] at hstart
      simp [isIdentChar, hstart]
    · exact hrest d hd
  unfold scanPiece
  rw [if_neg (by simp [h1, h2]), if_neg (by simpa using h3), if_neg (by simpa using h4),
    if_neg (by simpa using h5), if_neg (by simp [h6]), if_neg (by simp [h6]), if_pos hstart]
  simp only [hword, hk, List.length_cons]

/-- The lexer reads a Go identifier that spells no keyword as one identifier token over the
whole text, then the separator inserted at its end, and reports no fault. -/
theorem lex_goIdentifier {s : String} (h : GoIdentifier s.toList) (hk : Keyword.ofWord? s = none) :
    (lex s).tokens.toList = [⟨0, .ident s, s.utf8ByteSize⟩, ⟨s.utf8ByteSize, .semi, s.utf8ByteSize⟩] ∧
      (lex s).diags = #[] := by
  obtain ⟨c, cs, hs, hc, hcs⟩ := h
  have hword : String.ofList (c :: cs) = s := by rw [← hs, String.ofList_toList]
  have hscan := scanPiece_word hc hcs (by rw [hword]; exact hk)
  rw [hword] at hscan
  have hbytes : byteLength (c :: cs) = s.utf8ByteSize := by rw [← hs, byteLength_toList]
  -- the whole text is one piece
  have hpieces : piecesOf s = [(.token (.ident s), ⟨0, s.utf8ByteSize⟩)] := by
    unfold piecesOf
    rw [hs, List.length_cons, pieces, hscan]
    simp [pieces, hbytes]
  have hrun := lexFrom_text s
  rw [hpieces] at hrun
  have htoks : (lex s).tokens = (lexFrom s.toList.length s.toList 0 {}).tokens := rfl
  have hdiags : (lex s).diags = (lexFrom s.toList.length s.toList 0 {}).diags := rfl
  rw [htoks, hdiags, hrun]
  simp [LexState.step, LexState.separate, Token.endsStatement]

/-- A text that spells no keyword is lexed as that one identifier exactly when it is a Go
identifier. -/
theorem lexesAsIdentifier_iff (s : String) (hk : Keyword.ofWord? s = none) :
    LexesAsIdentifier s ↔ GoIdentifier s.toList := by
  constructor
  · rintro ⟨htoks, -⟩
    have hmem : Token.ident s ∈ (lex s).tokens.toList.map Lexeme.token := by
      rw [htoks]
      exact List.mem_cons_self ..
    obtain ⟨l, hl, hlt⟩ := List.mem_map.mp hmem
    exact lex_identsRead s l hl s hlt
  · intro h
    obtain ⟨htoks, hdiags⟩ := lex_goIdentifier h hk
    exact ⟨by rw [htoks]; rfl, hdiags⟩

/-! ## The check against the lexer -/

/-- The identifier check accepts a text that spells no keyword exactly when the lexer reads
it as one identifier, if and only if the two grammars agree on it. -/
theorem identifier_check_agrees_iff (s : String) (hk : Keyword.ofWord? s = none) :
    (isIdentifier s = true ↔ LexesAsIdentifier s) ↔
      (MappingIdentifier s.toList ↔ GoIdentifier s.toList) := by
  rw [isIdentifier_iff, lexesAsIdentifier_iff s hk]

theorem identifier_check_agrees_on_elem : Keyword.ofWord? "Elem" = none ∧
    ((isIdentifier "Elem" = true ↔ LexesAsIdentifier "Elem") ↔
      (MappingIdentifier "Elem".toList ↔ GoIdentifier "Elem".toList)) :=
  ⟨by decide, identifier_check_agrees_iff "Elem" (by decide)⟩

/-- On ASCII text the two grammars coincide: the start characters are the ASCII letters, and
the characters after the first are letters, digits and underscores. -/
theorem ascii_identifier_grammars {w : List Char} (h : ∀ c ∈ w, c.toNat < 0x80) :
    MappingIdentifier w ↔ GoIdentifier w := by
  have hstart : ∀ c : Char, c.toNat < 0x80 → isXidStart c = isLetter c := by
    intro c hc
    simp [isXidStart, isLetter, hc]
  have hcont : ∀ c : Char, c.toNat < 0x80 → isXidContinue c = isIdentChar c := by
    intro c hc
    simp only [isXidContinue, isIdentChar, isLetter, isDecimalDigit, hc, if_true, Char.isAlphanum]
    cases c.isAlpha <;> cases c.isDigit <;> simp
  constructor
  · rintro ⟨c, cs, rfl, hc, hcs⟩
    have hascii := List.forall_mem_cons.mp h
    refine ⟨c, cs, rfl, ?_, fun d hd => ?_⟩
    · rwa [← hstart c hascii.1]
    · rw [← hcont d (hascii.2 d hd)]
      exact hcs d hd
  · rintro ⟨c, cs, rfl, hc, hcs⟩
    have hascii := List.forall_mem_cons.mp h
    refine ⟨c, cs, rfl, ?_, fun d hd => ?_⟩
    · rwa [hstart c hascii.1]
    · rw [hcont d (hascii.2 d hd)]
      exact hcs d hd

/-- On ASCII text that spells no keyword, the identifier check accepts exactly what the lexer
reads as one identifier. -/
theorem identifier_check_agrees_on_ascii {s : String} (hk : Keyword.ofWord? s = none)
    (h : ∀ c ∈ s.toList, c.toNat < 0x80) : isIdentifier s = true ↔ LexesAsIdentifier s := by
  rw [isIdentifier_iff, lexesAsIdentifier_iff s hk]
  exact ascii_identifier_grammars h

/-- A letter followed by a combining acute accent passes the identifier check, while the lexer
reads the accent as an invalid token after the identifier `a`. -/
theorem combining_mark_passes_check_only :
    Keyword.ofWord? "a\u0301" = none ∧ isIdentifier "a\u0301" = true ∧
      ¬ LexesAsIdentifier "a\u0301" := by
  have hcont : isXidContinue '\u0301' = true := by
    rw [isXidContinue, if_neg (by decide), CharTable.contains_eq_any]
    decide +kernel
  have hmark : isIdentChar '\u0301' = false := by
    rw [isIdentChar, isLetter, if_neg (by decide), CharTable.contains_eq_any, isDecimalDigit,
      if_neg (by decide), CharTable.contains_eq_any]
    decide +kernel
  have hchars : "a\u0301".toList = ['a', '\u0301'] := by decide
  refine ⟨by decide, ?_, fun h => ?_⟩
  · rw [isIdentifier_iff, hchars]
    exact ⟨'a', ['\u0301'], rfl, .inr (by decide), by simpa using hcont⟩
  · obtain ⟨c, cs, hs, -, hcs⟩ := (lexesAsIdentifier_iff _ (by decide)).mp h
    rw [hchars] at hs
    cases hs
    rw [hcs '\u0301' (List.mem_singleton_self _)] at hmark
    cases hmark

end GoTemplates.Syntax
