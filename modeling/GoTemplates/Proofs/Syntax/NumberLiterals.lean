import GoTemplates.Proofs.Syntax.Separators
import Mathlib.Data.List.TakeDrop

/-! # Number literals

Go's grammar of integer, floating-point and imaginary literals (`IntLit`, `FloatLit`,
`ImagLit`), and what the lexer makes of them: a literal of any of the three productions is
lexed as one token over the whole text, of the kind its production names, then the
separator inserted at its end, with no fault (`lex_number_literal`).

The lexer reads a number in stages: a base prefix after a lone `0` (`numberBase`), digits of
the base, a fraction, an exponent and an `i` suffix (`numberTail`). Its view of a number is
`Layout`: where the number branch starts, and stages each ending where the next begins
(`Stages`), so that each stage takes its part whole (`numberTail_stages`); the stages also
decide the kind of token (`Layout.isFloatText`). Every literal of the grammar has such a
layout (`IntLit.layout`, `FloatLit.layout`, `ImagLit.layout`).
-/

namespace GoTemplates.Syntax

open GoTemplates.Source GoTemplates.Text

/-! ## The grammar -/

/-- A binary digit. -/
def isBinaryDigit (c : Char) : Bool := c == '0' || c == '1'

/-- An octal digit. -/
def isOctalDigit (c : Char) : Bool := c.isDigit && c != '8' && c != '9'

/-- A hex digit, in either case. -/
def isHexDigit (c : Char) : Bool := c.isDigit || ('a' ≤ c && c ≤ 'f') || ('A' ≤ c && c ≤ 'F')

/-- `digit { [ "_" ] digit }`: digits of a class, an underscore allowed between two. -/
inductive Digits (p : Char → Bool) : List Char → Prop
  | one {c : Char} : p c = true → Digits p [c]
  | cons {c : Char} {ds : List Char} : p c = true → Digits p ds → Digits p (c :: ds)
  | sep {c : Char} {ds : List Char} : p c = true → Digits p ds → Digits p (c :: '_' :: ds)

/-- `[ "_" ] digits`: the digits after a base prefix, perhaps after an underscore. -/
inductive PrefixedDigits (p : Char → Bool) : List Char → Prop
  | digits {ds : List Char} : Digits p ds → PrefixedDigits p ds
  | sep {ds : List Char} : Digits p ds → PrefixedDigits p ('_' :: ds)

/-- `int_lit`: decimal, binary, octal (after `0o` or the legacy lone `0`) and hex. -/
inductive IntLit : List Char → Prop
  | zero : IntLit ['0']
  /-- `( "1" … "9" ) [ [ "_" ] decimal_digits ]` -/
  | decimal {c : Char} {ds : List Char} : c.isDigit = true → c ≠ '0' →
      (ds = [] ∨ PrefixedDigits Char.isDigit ds) → IntLit (c :: ds)
  | binary {b : Char} {ds : List Char} : (b = 'b' ∨ b = 'B') →
      PrefixedDigits isBinaryDigit ds → IntLit ('0' :: b :: ds)
  | octal {o : Char} {ds : List Char} : (o = 'o' ∨ o = 'O') →
      PrefixedDigits isOctalDigit ds → IntLit ('0' :: o :: ds)
  | legacyOctal {ds : List Char} : PrefixedDigits isOctalDigit ds → IntLit ('0' :: ds)
  | hex {x : Char} {ds : List Char} : (x = 'x' ∨ x = 'X') →
      PrefixedDigits isHexDigit ds → IntLit ('0' :: x :: ds)

/-- `decimal_exponent` (marks `e`, `E`) or `hex_exponent` (marks `p`, `P`): a mark,
perhaps a sign, then decimal digits. -/
inductive Exponent (marks : List Char) : List Char → Prop
  | mk {m : Char} {sign ds : List Char} : m ∈ marks → (sign = [] ∨ sign = ['+'] ∨ sign = ['-']) →
      Digits Char.isDigit ds → Exponent marks (m :: sign ++ ds)

/-- `hex_mantissa`. -/
inductive HexMantissa : List Char → Prop
  | point {ds fs : List Char} : PrefixedDigits isHexDigit ds → (fs = [] ∨ Digits isHexDigit fs) →
      HexMantissa (ds ++ '.' :: fs)
  | digits {ds : List Char} : PrefixedDigits isHexDigit ds → HexMantissa ds
  | leadingPoint {fs : List Char} : Digits isHexDigit fs → HexMantissa ('.' :: fs)

/-- `float_lit`: the three decimal forms, and the hex form, whose exponent is required. -/
inductive FloatLit : List Char → Prop
  | point {ds fs ex : List Char} : Digits Char.isDigit ds → (fs = [] ∨ Digits Char.isDigit fs) →
      (ex = [] ∨ Exponent ['e', 'E'] ex) → FloatLit (ds ++ '.' :: fs ++ ex)
  | exponent {ds ex : List Char} : Digits Char.isDigit ds → Exponent ['e', 'E'] ex →
      FloatLit (ds ++ ex)
  | leadingPoint {fs ex : List Char} : Digits Char.isDigit fs →
      (ex = [] ∨ Exponent ['e', 'E'] ex) → FloatLit ('.' :: fs ++ ex)
  | hex {x : Char} {m ex : List Char} : (x = 'x' ∨ x = 'X') → HexMantissa m →
      Exponent ['p', 'P'] ex → FloatLit ('0' :: x :: m ++ ex)

/-- `imaginary_lit`: decimal digits, an integer or a float, then `i`. -/
inductive ImagLit : List Char → Prop
  | digits {ds : List Char} : Digits Char.isDigit ds → ImagLit (ds ++ ['i'])
  | int {s : List Char} : IntLit s → ImagLit (s ++ ['i'])
  | float {s : List Char} : FloatLit s → ImagLit (s ++ ['i'])

/-- A number literal, and the token its production names. -/
inductive NumberLit : Token → List Char → Prop
  | int {s : List Char} : IntLit s → NumberLit (.intLit (String.ofList s)) s
  | float {s : List Char} : FloatLit s → NumberLit (.floatLit (String.ofList s)) s
  | imag {s : List Char} : ImagLit s → NumberLit (.imagLit (String.ofList s)) s

/-! ## Character classes -/

/-- A character of a class is none of a list of characters outside it. -/
theorem not_mem_of_class {P : Char → Bool} {c : Char} (hc : P c = true) (ds : List Char)
    (hds : ∀ d ∈ ds, P d = false) : c ∉ ds := fun h => by
  rw [hds c h] at hc
  cases hc

@[simp] theorem isNumberDigit_underscore (hex : Bool) : isNumberDigit hex '_' = true := by
  cases hex <;> rfl

theorem isNumberDigit_of_isDigit (hex : Bool) {c : Char} (h : c.isDigit = true) :
    isNumberDigit hex c = true := by
  simp [isNumberDigit, h]

theorem isDigit_of_isBinaryDigit {c : Char} (h : isBinaryDigit c = true) : c.isDigit = true := by
  simp only [isBinaryDigit, Bool.or_eq_true, beq_iff_eq] at h
  rcases h with rfl | rfl <;> rfl

theorem isDigit_of_isOctalDigit {c : Char} (h : isOctalDigit c = true) : c.isDigit = true := by
  simp only [isOctalDigit, Bool.and_eq_true] at h
  exact h.1.1

theorem isNumberDigit_of_isHexDigit {c : Char} (h : isHexDigit c = true) :
    isNumberDigit true c = true := by
  simp only [isHexDigit, Bool.or_eq_true] at h
  simp only [isNumberDigit, Bool.true_and, Bool.or_eq_true]
  tauto

/-- A digit or underscore of a class inside the lexer's digits of a base is one of them. -/
theorem numberDigits_of_mem {p : Char → Bool} {hex : Bool} {ds : List Char}
    (hp : ∀ c, p c = true → isNumberDigit hex c = true)
    (hmem : ∀ c ∈ ds, p c = true ∨ c = '_') : ∀ c ∈ ds, isNumberDigit hex c = true := by
  intro c hc
  rcases hmem c hc with h | rfl
  · exact hp c h
  · exact isNumberDigit_underscore hex

/-! ## Digit runs -/

namespace Digits

variable {p : Char → Bool} {ds : List Char}

theorem exists_cons (h : Digits p ds) : ∃ c cs, ds = c :: cs ∧ p c = true := by
  cases h with
  | one hc => exact ⟨_, _, rfl, hc⟩
  | cons hc _ => exact ⟨_, _, rfl, hc⟩
  | sep hc _ => exact ⟨_, _, rfl, hc⟩

/-- Every character of a digit run is a digit of the class or an underscore. -/
theorem mem (h : Digits p ds) : ∀ c ∈ ds, p c = true ∨ c = '_' := by
  induction h with
  | one hc =>
    intro d hd
    rw [List.mem_singleton.mp hd]
    exact .inl hc
  | cons hc _ ih =>
    intro d hd
    rcases List.mem_cons.mp hd with rfl | hd
    · exact .inl hc
    · exact ih d hd
  | sep hc _ ih =>
    intro d hd
    rcases List.mem_cons.mp hd with rfl | hd
    · exact .inl hc
    rcases List.mem_cons.mp hd with rfl | hd
    · exact .inr rfl
    · exact ih d hd

end Digits

theorem PrefixedDigits.mem {p : Char → Bool} {ds : List Char} (h : PrefixedDigits p ds) :
    ∀ c ∈ ds, p c = true ∨ c = '_' := by
  cases h with
  | digits h => exact h.mem
  | sep h =>
    intro d hd
    rcases List.mem_cons.mp hd with rfl | hd
    · exact .inr rfl
    · exact h.mem d hd

/-- Every character of an exponent is a mark, a sign, a decimal digit or an underscore. -/
theorem Exponent.mem {marks ex : List Char} (h : Exponent marks ex) :
    ∀ c ∈ ex, c ∈ marks ∨ c = '+' ∨ c = '-' ∨ c.isDigit = true ∨ c = '_' := by
  obtain ⟨hm, hsign, hds⟩ := h
  intro c hc
  rcases List.mem_cons.mp hc with rfl | hc
  · exact .inl hm
  rcases List.mem_append.mp hc with hc | hc
  · rcases hsign with rfl | rfl | rfl <;> simp_all
  · rcases hds.mem c hc with h | h
    · exact .inr (.inr (.inr (.inl h)))
    · exact .inr (.inr (.inr (.inr h)))

/-! ## The stages of a number -/

theorem span_append_of_stop {α : Type} {p : α → Bool} {xs ys : List α}
    (hx : ∀ c ∈ xs, p c = true) (hy : ∀ c ∈ ys.head?, p c = false) :
    (xs ++ ys).span p = (xs, ys) := by
  rw [List.span_eq_takeWhile_dropWhile, List.takeWhile_append_of_pos hx,
    List.dropWhile_append_of_pos hx]
  cases ys with
  | nil => simp
  | cons y ys => simp [hy y rfl]

/-- Unless a base letter follows a lone `0`, a number is decimal. -/
theorem numberBase_decimal {head rem : List Char}
    (h : ∀ c ∈ rem.head?, c ∉ ['x', 'X', 'o', 'O', 'b', 'B']) :
    numberBase head rem = (false, ['e', 'E'], [], rem) := by
  unfold numberBase
  split
  · cases rem with
    | nil => rfl
    | cons c r =>
      have hc := h c rfl
      simp only [List.mem_cons, List.not_mem_nil, or_false, not_or] at hc
      simp [hc]
  · rfl

theorem numberBase_hex {x : Char} {r : List Char} (hx : x = 'x' ∨ x = 'X') :
    numberBase ['0'] (x :: r) = (true, ['p', 'P'], [x], r) := by
  rcases hx with rfl | rfl <;> rfl

theorem numberBase_binaryOctal {b : Char} {r : List Char}
    (hb : b = 'o' ∨ b = 'O' ∨ b = 'b' ∨ b = 'B') :
    numberBase ['0'] (b :: r) = (false, [], [b], r) := by
  rcases hb with rfl | rfl | rfl | rfl <;> rfl

theorem numberFraction_of_stop {hex ok : Bool} {r : List Char} (h : ∀ c ∈ r.head?, c ≠ '.') :
    numberFraction hex ok r = ([], r) := by
  unfold numberFraction
  split
  · exact absurd rfl (h '.' rfl)
  · rfl

theorem numberFraction_point {hex : Bool} {fs r : List Char}
    (hfs : ∀ c ∈ fs, isNumberDigit hex c = true) (hr : ∀ c ∈ r.head?, isNumberDigit hex c = false) :
    numberFraction hex true ('.' :: fs ++ r) = ('.' :: fs, r) := by
  simp [numberFraction, -List.span_eq_takeWhile_dropWhile, span_append_of_stop hfs hr]

theorem numberSign_of_digit {sign ds : List Char} {d : Char}
    (hs : sign = [] ∨ sign = ['+'] ∨ sign = ['-']) (hd : d.isDigit = true) :
    numberSign (sign ++ d :: ds) = (sign, d :: ds) := by
  rcases hs with rfl | rfl | rfl
  · have hns : d ∉ ['+', '-'] := not_mem_of_class hd _ (by simp)
    simp only [List.mem_cons, List.not_mem_nil, or_false, not_or] at hns
    simp [numberSign, hns]
  · rfl
  · rfl

theorem imagSuffix_of {im : List Char} (him : im = [] ∨ im = ['i']) : imagSuffix im = im := by
  rcases him with rfl | rfl <;> rfl

/-- An exponent after one of the marks, then perhaps an `i`, ends the number whole. -/
theorem numberEnd_stages {marks body ex im : List Char} (hi : 'i' ∉ marks)
    (he : ex = [] ∨ Exponent marks ex) (him : im = [] ∨ im = ['i']) :
    numberEnd marks body (ex ++ im) = (body ++ ex ++ im, false) := by
  rcases he with rfl | ⟨hm, hsign, hds⟩
  · rcases him with rfl | rfl
    · simp [numberEnd]
    · simp [numberEnd, hi, imagSuffix]
  · obtain ⟨d, ds, rfl, hd⟩ := hds.exists_cons
    -- the exponent's digits stop where the suffix begins
    have hsplit : (d :: (ds ++ im)).span (fun c => c.isDigit || c == '_') = (d :: ds, im) := by
      refine @span_append_of_stop _ _ (d :: ds) im ?_ ?_
      · intro c hc
        rcases hds.mem c hc with hc | rfl <;> simp [hc]
      · rcases him with rfl | rfl <;> simp
    simp [numberEnd, hm, numberSign_of_digit hsign hd, hd, -List.span_eq_takeWhile_dropWhile,
      hsplit, imagSuffix_of him]

/-- A number's text after its base prefix, laid out as the lexer's stages take it whole:
digits of the base, then a fraction where one may stand, then an exponent after one of the
base's marks. -/
structure Stages (hex : Bool) (marks : List Char) (pointOk : Bool) (ds frac ex : List Char) :
    Prop where
  digits : ∀ c ∈ ds, isNumberDigit hex c = true
  fraction : frac = [] ∨ pointOk = true ∧ ∃ fs, frac = '.' :: fs ∧ ∀ c ∈ fs, isNumberDigit hex c = true
  exponent : ex = [] ∨ Exponent marks ex

namespace Stages

variable {hex ok : Bool} {marks ds frac ex im : List Char}

/-- Where the exponent begins stands a mark or an `i`, or nothing. -/
theorem end_head (h : Stages hex marks ok ds frac ex) (him : im = [] ∨ im = ['i']) :
    ∀ c ∈ (ex ++ im).head?, c ∈ marks ∨ c = 'i' := by
  intro c hc
  rcases h.exponent with rfl | ⟨hm, -, -⟩
  · rcases him with rfl | rfl
    · simp at hc
    · simp only [List.nil_append, List.head?_cons, Option.mem_def, Option.some.injEq] at hc
      exact .inr hc.symm
  · simp only [List.cons_append, List.head?_cons, Option.mem_def, Option.some.injEq] at hc
    exact .inl (hc ▸ hm)

/-- The first character of the stages is a digit of the base, a point, a mark or an `i`. -/
theorem head_mem (h : Stages hex marks ok ds frac ex) (him : im = [] ∨ im = ['i']) :
    ∀ c ∈ (ds ++ frac ++ ex ++ im).head?,
      isNumberDigit hex c = true ∨ c = '.' ∨ c ∈ marks ∨ c = 'i' := by
  intro c hc
  cases ds with
  | cons d ds =>
    simp only [List.cons_append, List.head?_cons, Option.mem_def, Option.some.injEq] at hc
    exact .inl (hc ▸ h.digits d (List.mem_cons_self ..))
  | nil =>
    rcases h.fraction with rfl | ⟨-, fs, rfl, -⟩
    · rcases h.end_head him c (by simpa using hc) with hm | hi
      · exact .inr (.inr (.inl hm))
      · exact .inr (.inr (.inr hi))
    · simp only [List.nil_append, List.cons_append, List.head?_cons, Option.mem_def,
        Option.some.injEq] at hc
      exact .inr (.inl hc.symm)

/-- Every character of the stages is a digit of the base, a point, a mark or a sign. -/
theorem mem (h : Stages hex marks ok ds frac ex) :
    ∀ c ∈ ds ++ frac ++ ex, isNumberDigit hex c = true ∨ c = '.' ∨ c ∈ marks ∨ c = '+' ∨ c = '-' := by
  intro c hc
  simp only [List.mem_append] at hc
  rcases hc with (hc | hc) | hc
  · exact .inl (h.digits c hc)
  · rcases h.fraction with rfl | ⟨-, fs, rfl, hfs⟩
    · simp at hc
    · rcases List.mem_cons.mp hc with rfl | hc
      · exact .inr (.inl rfl)
      · exact .inl (hfs c hc)
  · rcases h.exponent with rfl | he
    · simp at hc
    · rcases he.mem c hc with hm | hp | hm | hd | rfl
      · exact .inr (.inr (.inl hm))
      · exact .inr (.inr (.inr (.inl hp)))
      · exact .inr (.inr (.inr (.inr hm)))
      · exact .inl (isNumberDigit_of_isDigit hex hd)
      · exact .inl (isNumberDigit_underscore hex)

/-- A decimal number's stages start with no base letter. -/
theorem decimal_head (h : Stages false ['e', 'E'] ok ds frac ex) (im : List Char)
    (him : im = [] ∨ im = ['i']) :
    ∀ c ∈ (ds ++ frac ++ ex ++ im).head?, c ∉ ['x', 'X', 'o', 'O', 'b', 'B'] := by
  intro c hc
  rcases h.head_mem him c hc with hd | rfl | hm | rfl
  · exact not_mem_of_class hd _ (by simp [isNumberDigit])
  · decide
  · simp only [List.mem_cons, List.not_mem_nil, or_false] at hm
    rcases hm with rfl | rfl <;> decide
  · decide

end Stages

/-- The tail of a number whose stages end each where the next begins is the whole rest of
its text. -/
theorem numberTail_stages {head rem pre ds frac ex im : List Char} {hex : Bool}
    {marks : List Char} (hbase : numberBase head rem = (hex, marks, pre, ds ++ frac ++ ex ++ im))
    (hmarks : ∀ m ∈ marks, isNumberDigit hex m = false ∧ m ≠ '.' ∧ m ≠ 'i')
    (h : Stages hex marks (head.head? != some '.' && !marks.isEmpty) ds frac ex)
    (him : im = [] ∨ im = ['i']) :
    numberTail head rem = (pre ++ ds ++ frac ++ ex ++ im, false) := by
  have hi : 'i' ∉ marks := fun hm => (hmarks 'i' hm).2.2 rfl
  -- neither a digit nor a point stands where the exponent begins
  have hend : ∀ c ∈ (ex ++ im).head?, isNumberDigit hex c = false ∧ c ≠ '.' := by
    intro c hc
    rcases h.end_head him c hc with hm | rfl
    · exact ⟨(hmarks c hm).1, (hmarks c hm).2.1⟩
    · exact ⟨by cases hex <;> rfl, by decide⟩
  have hfrac : numberFraction hex (head.head? != some '.' && !marks.isEmpty) (frac ++ (ex ++ im)) =
      (frac, ex ++ im) := by
    rcases h.fraction with rfl | ⟨hok, fs, rfl, hfs⟩
    · exact numberFraction_of_stop fun c hc => (hend c hc).2
    · rw [hok]
      exact numberFraction_point hfs fun c hc => (hend c hc).1
  have hds : (ds ++ (frac ++ (ex ++ im))).span (isNumberDigit hex) = (ds, frac ++ (ex ++ im)) := by
    refine span_append_of_stop h.digits ?_
    rcases h.fraction with rfl | ⟨-, fs, rfl, -⟩
    · exact fun c hc => (hend c (by simpa using hc)).1
    · intro c hc
      simp only [List.cons_append, List.head?_cons, Option.mem_def, Option.some.injEq] at hc
      subst hc
      cases hex <;> rfl
  unfold numberTail
  simp only [hbase, List.append_assoc, hds, hfrac, numberEnd_stages hi h.exponent him]

/-! ## The lexer's view of a number -/

/-- How the number branch of the lexer reads a text with no `i` suffix: from a digit in
decimal, from a point before a digit, or after a hex, binary or octal prefix, with the stages
after it each ending where the next begins. The flag is the kind the stages make: a decimal
or hex number is a float when it has a fraction or an exponent, one from a point always is,
and a binary or octal one never is. -/
inductive Layout : Bool → List Char → Prop
  | decimal {c : Char} {ds frac ex : List Char} : c.isDigit = true →
      Stages false ['e', 'E'] true ds frac ex →
      Layout (!(frac ++ ex).isEmpty) (c :: (ds ++ frac ++ ex))
  | point {d : Char} {ds ex : List Char} : d.isDigit = true →
      Stages false ['e', 'E'] false ds [] ex → Layout true ('.' :: d :: (ds ++ ex))
  | hex {x : Char} {ds frac ex : List Char} : (x = 'x' ∨ x = 'X') →
      Stages true ['p', 'P'] true ds frac ex →
      Layout (!(frac ++ ex).isEmpty) ('0' :: x :: (ds ++ frac ++ ex))
  | binaryOctal {b : Char} {ds : List Char} : (b = 'o' ∨ b = 'O' ∨ b = 'b' ∨ b = 'B') →
      (∀ c ∈ ds, isNumberDigit false c = true) → Layout false ('0' :: b :: ds)

/-- The number branch of the scanner starts on the text, from a digit or from a point before
a digit, and its tail takes the rest of the text whole. -/
def ScansWhole (s : List Char) : Prop :=
  (∃ c rest, s = c :: rest ∧ c.isDigit = true ∧ numberTail [c] rest = (rest, false)) ∨
    ∃ d rest, s = '.' :: d :: rest ∧ d.isDigit = true ∧ numberTail ['.', d] rest = (rest, false)

namespace Layout

variable {f : Bool} {s : List Char}

/-- A number the lexer reads in stages is taken whole, with an `i` after it or not. -/
theorem scansWhole (h : Layout f s) (im : List Char) (him : im = [] ∨ im = ['i']) :
    ScansWhole (s ++ im) := by
  cases h with
  | @decimal c ds frac ex hc hst =>
    have hne : c ≠ '.' := by
      rintro rfl
      exact absurd hc (by decide)
    refine .inl ⟨c, ds ++ frac ++ ex ++ im, by simp, hc, ?_⟩
    have hbase := @numberBase_decimal [c] _ (hst.decimal_head im him)
    -- a fraction may follow a digit
    have hok : ([c].head? != some '.' && !(['e', 'E'] : List Char).isEmpty) = true := by simp [hne]
    simpa using numberTail_stages hbase (by simp [isNumberDigit]) (hok ▸ hst) him
  | @point d ds ex hd hst =>
    refine .inr ⟨d, ds ++ ex ++ im, by simp, hd, ?_⟩
    have hbase := @numberBase_decimal ['.', d] _ (hst.decimal_head im him)
    simpa using numberTail_stages hbase (by simp [isNumberDigit]) (by simpa using hst) him
  | @hex x ds frac ex hx hst =>
    refine .inl ⟨'0', x :: (ds ++ frac ++ ex ++ im), by simp, rfl, ?_⟩
    simpa using numberTail_stages (numberBase_hex hx) (by simp [isNumberDigit]) hst him
  | @binaryOctal b ds hb hds =>
    refine .inl ⟨'0', b :: (ds ++ im), by simp, rfl, ?_⟩
    have hst : Stages false [] false ds [] [] := ⟨hds, .inl rfl, .inl rfl⟩
    have hbase : numberBase ['0'] (b :: (ds ++ im)) = (false, [], [b], ds ++ [] ++ [] ++ im) := by
      simpa using numberBase_binaryOctal (r := ds ++ im) hb
    simpa using numberTail_stages hbase (by simp [isNumberDigit]) (by simpa using hst) him

end Layout

/-- A decimal number is a float exactly when it holds a point or an exponent mark. -/
theorem isFloatText_decimal {c : Char} {rem : List Char}
    (h : ∀ y ∈ rem.head?, y ∉ ['x', 'X', 'o', 'O', 'b', 'B']) :
    isFloatText (c :: rem) = (c :: rem).any (fun c => c == '.' || c == 'e' || c == 'E') := by
  unfold isFloatText
  split
  · next x rest heq =>
    obtain ⟨rfl, rfl⟩ := List.cons.inj heq
    have hx := h x rfl
    simp only [List.mem_cons, List.not_mem_nil, or_false, not_or] at hx
    simp [hx]
  · rfl

theorem isFloatText_hex {x : Char} {rest : List Char} (hx : x = 'x' ∨ x = 'X') :
    isFloatText ('0' :: x :: rest) = rest.any (fun c => c == '.' || c == 'p' || c == 'P') := by
  rcases hx with rfl | rfl <;> rfl

theorem isFloatText_binaryOctal {b : Char} {rest : List Char}
    (hb : b = 'o' ∨ b = 'O' ∨ b = 'b' ∨ b = 'B') : isFloatText ('0' :: b :: rest) = false := by
  rcases hb with rfl | rfl | rfl | rfl <;> rfl

namespace Stages

variable {hex ok : Bool} {marks ds frac ex : List Char}

/-- A test that holds of a point and of the marks and of no digit of the base holds
somewhere in the stages exactly when a fraction or an exponent stands. -/
theorem any_eq {p : Char → Bool} (h : Stages hex marks ok ds frac ex) (hpoint : p '.' = true)
    (hmarks : ∀ m ∈ marks, p m = true) (hdigits : ∀ c, isNumberDigit hex c = true → p c = false) :
    (ds ++ frac ++ ex).any p = !(frac ++ ex).isEmpty := by
  have hds : ds.any p = false := List.any_eq_false.mpr fun c hc => by
    rw [hdigits c (h.digits c hc)]
    exact Bool.false_ne_true
  have hfrac : frac.any p = !frac.isEmpty := by
    rcases h.fraction with rfl | ⟨-, fs, rfl, -⟩
    · rfl
    · simp [hpoint]
  have hex : ex.any p = !ex.isEmpty := by
    rcases h.exponent with rfl | ⟨hm, -, -⟩
    · rfl
    · simp [hmarks _ hm]
  rw [List.any_append, List.any_append, hds, hfrac, hex]
  cases frac <;> cases ex <;> rfl

/-- No `i` stands among the stages. -/
theorem i_not_mem (h : Stages hex marks ok ds frac ex) (hi : 'i' ∉ marks) :
    'i' ∉ ds ++ frac ++ ex := by
  intro hmem
  rcases h.mem 'i' hmem with hd | hd | hd | hd | hd
  · cases hex <;> exact absurd hd (by decide)
  · exact absurd hd (by decide)
  · exact hi hd
  · exact absurd hd (by decide)
  · exact absurd hd (by decide)

end Stages

namespace Layout

variable {f : Bool} {s : List Char}

/-- The stages decide the kind of a number the way `isFloatText` does. -/
theorem isFloatText (h : Layout f s) : GoTemplates.Syntax.isFloatText s = f := by
  -- the digits of the base are no float marks
  have hdec : ∀ c, isNumberDigit false c = true → (c == '.' || c == 'e' || c == 'E') = false :=
    fun c hc => by simpa [and_assoc] using not_mem_of_class hc ['.', 'e', 'E'] (by simp [isNumberDigit])
  cases h with
  | @decimal c ds frac ex hc hst =>
    have hhead := hst.decimal_head [] (.inl rfl)
    rw [List.append_nil] at hhead
    rw [isFloatText_decimal hhead, List.any_cons, hst.any_eq rfl (by simp) hdec, hdec c (isNumberDigit_of_isDigit false hc),
      Bool.false_or]
  | @point d ds ex hd hst =>
    rw [isFloatText_decimal]
    · simp
    · simpa using not_mem_of_class hd ['x', 'X', 'o', 'O', 'b', 'B'] (by simp)
  | @hex x ds frac ex hx hst =>
    have hhex : ∀ c, isNumberDigit true c = true → (c == '.' || c == 'p' || c == 'P') = false :=
      fun c hc => by simpa [and_assoc] using not_mem_of_class hc ['.', 'p', 'P'] (by simp [isNumberDigit])
    rw [isFloatText_hex hx, hst.any_eq rfl (by simp) hhex]
  | binaryOctal hb _ => exact isFloatText_binaryOctal hb

/-- No `i` stands in a number the lexer reads in stages. -/
theorem i_not_mem (h : Layout f s) : 'i' ∉ s := by
  cases h with
  | @decimal c ds frac ex hc hst =>
    rintro (_ | ⟨_, hi⟩)
    · exact absurd hc (by decide)
    · exact hst.i_not_mem (by decide) hi
  | @point d ds ex hd hst =>
    intro hi
    rcases List.mem_cons.mp hi with hi | hi
    · exact absurd hi (by decide)
    rcases List.mem_cons.mp hi with rfl | hi
    · exact absurd hd (by decide)
    · exact hst.i_not_mem (by decide) (by simpa using hi)
  | @hex x ds frac ex hx hst =>
    intro hi
    rcases List.mem_cons.mp hi with hi | hi
    · exact absurd hi (by decide)
    rcases List.mem_cons.mp hi with rfl | hi
    · rcases hx with hx | hx <;> exact absurd hx (by decide)
    · exact hst.i_not_mem (by decide) hi
  | @binaryOctal b ds hb hds =>
    intro hi
    rcases List.mem_cons.mp hi with hi | hi
    · exact absurd hi (by decide)
    rcases List.mem_cons.mp hi with rfl | hi
    · rcases hb with hb | hb | hb | hb <;> exact absurd hb (by decide)
    · exact absurd (hds 'i' hi) (by decide)

/-- A number the lexer reads in stages is a float or an integer token as its stages say. -/
theorem numberToken (h : Layout f s) :
    GoTemplates.Syntax.numberToken s =
      if f then .floatLit (String.ofList s) else .intLit (String.ofList s) := by
  have hlast : (s.getLast? == some 'i') = false := by
    rcases hl : s.getLast? with _ | c
    · rfl
    · have hc := List.mem_of_getLast? hl
      simp only [beq_eq_false_iff_ne, ne_eq, Option.some.injEq]
      rintro rfl
      exact h.i_not_mem hc
  simp [GoTemplates.Syntax.numberToken, hlast, h.isFloatText]

end Layout

/-- An `i` at the end makes a number imaginary. -/
theorem numberToken_imag (s : List Char) :
    numberToken (s ++ ['i']) = .imagLit (String.ofList (s ++ ['i'])) := by
  simp [numberToken]

/-! ## The grammar's literals in the lexer's view -/

/-- Decimal digits are digits of every base. -/
theorem Digits.numberDigits {hex : Bool} {ds : List Char} (h : Digits Char.isDigit ds) :
    ∀ c ∈ ds, isNumberDigit hex c = true :=
  numberDigits_of_mem (fun _ => isNumberDigit_of_isDigit hex) h.mem

/-- An integer literal is read in stages as an integer. -/
theorem IntLit.layout {s : List Char} (h : IntLit s) : Layout false s := by
  cases h with
  | zero =>
    simpa using @Layout.decimal '0' [] [] [] rfl ⟨by simp, .inl rfl, .inl rfl⟩
  | @decimal c ds hc _ hds =>
    have hdigits : ∀ c ∈ ds, isNumberDigit false c = true := by
      rcases hds with rfl | hds
      · simp
      · exact numberDigits_of_mem (fun _ => isNumberDigit_of_isDigit false) hds.mem
    simpa using @Layout.decimal c ds [] [] hc ⟨hdigits, .inl rfl, .inl rfl⟩
  | @binary b ds hb hds =>
    refine .binaryOctal (by rcases hb with rfl | rfl <;> simp) ?_
    exact numberDigits_of_mem
      (fun _ h => isNumberDigit_of_isDigit false (isDigit_of_isBinaryDigit h)) hds.mem
  | @octal o ds ho hds =>
    refine .binaryOctal (by rcases ho with rfl | rfl <;> simp) ?_
    exact numberDigits_of_mem
      (fun _ h => isNumberDigit_of_isDigit false (isDigit_of_isOctalDigit h)) hds.mem
  | @legacyOctal ds hds =>
    have hdigits : ∀ c ∈ ds, isNumberDigit false c = true := numberDigits_of_mem
      (fun _ h => isNumberDigit_of_isDigit false (isDigit_of_isOctalDigit h)) hds.mem
    simpa using @Layout.decimal '0' ds [] [] rfl ⟨hdigits, .inl rfl, .inl rfl⟩
  | @hex x ds hx hds =>
    have hdigits : ∀ c ∈ ds, isNumberDigit true c = true :=
      numberDigits_of_mem (fun _ => isNumberDigit_of_isHexDigit) hds.mem
    simpa using @Layout.hex x ds [] [] hx ⟨hdigits, .inl rfl, .inl rfl⟩

/-- A float literal is read in stages as a float. -/
theorem FloatLit.layout {s : List Char} (h : FloatLit s) : Layout true s := by
  cases h with
  | @point ds fs ex hds hfs he =>
    obtain ⟨d, ds, rfl, hd⟩ := hds.exists_cons
    have hfrac : ∀ c ∈ fs, isNumberDigit false c = true := by
      rcases hfs with rfl | hfs
      · simp
      · exact hfs.numberDigits
    have hst : Stages false ['e', 'E'] true ds ('.' :: fs) ex :=
      ⟨fun c hc => hds.numberDigits c (List.mem_cons_of_mem d hc), .inr ⟨rfl, fs, rfl, hfrac⟩, he⟩
    simpa using Layout.decimal hd hst
  | @exponent ds ex hds he =>
    obtain ⟨d, ds, rfl, hd⟩ := hds.exists_cons
    have hst : Stages false ['e', 'E'] true ds [] ex :=
      ⟨fun c hc => hds.numberDigits c (List.mem_cons_of_mem d hc), .inl rfl, .inr he⟩
    -- an exponent is never empty
    obtain ⟨-, -, -⟩ := he
    simpa using Layout.decimal hd hst
  | @leadingPoint fs ex hfs he =>
    obtain ⟨d, fs, rfl, hd⟩ := hfs.exists_cons
    have hst : Stages false ['e', 'E'] false fs [] ex :=
      ⟨fun c hc => hfs.numberDigits c (List.mem_cons_of_mem d hc), .inl rfl, he⟩
    simpa using Layout.point hd hst
  | @hex x m ex hx hm he =>
    have hhex : ∀ c, isHexDigit c = true → isNumberDigit true c = true :=
      fun _ => isNumberDigit_of_isHexDigit
    cases hm with
    | @point ds fs hds hfs =>
      have hfrac : ∀ c ∈ fs, isNumberDigit true c = true := by
        rcases hfs with rfl | hfs
        · simp
        · exact numberDigits_of_mem hhex hfs.mem
      have hst : Stages true ['p', 'P'] true ds ('.' :: fs) ex :=
        ⟨numberDigits_of_mem hhex hds.mem, .inr ⟨rfl, fs, rfl, hfrac⟩, .inr he⟩
      simpa using Layout.hex hx hst
    | digits hds =>
      have hst : Stages true ['p', 'P'] true m [] ex :=
        ⟨numberDigits_of_mem hhex hds.mem, .inl rfl, .inr he⟩
      obtain ⟨-, -, -⟩ := he
      simpa using Layout.hex hx hst
    | @leadingPoint fs hfs =>
      have hst : Stages true ['p', 'P'] true [] ('.' :: fs) ex :=
        ⟨by simp, .inr ⟨rfl, fs, rfl, numberDigits_of_mem hhex hfs.mem⟩, .inr he⟩
      simpa using Layout.hex hx hst

/-- An imaginary literal is a number read in stages, then its `i`. -/
theorem ImagLit.layout {s : List Char} (h : ImagLit s) :
    ∃ f body, s = body ++ ['i'] ∧ Layout f body := by
  cases h with
  | @digits ds hds =>
    obtain ⟨d, ds, rfl, hd⟩ := hds.exists_cons
    have hst : Stages false ['e', 'E'] true ds [] [] :=
      ⟨fun c hc => hds.numberDigits c (List.mem_cons_of_mem d hc), .inl rfl, .inl rfl⟩
    exact ⟨false, d :: ds, rfl, by simpa using Layout.decimal hd hst⟩
  | @int s h => exact ⟨false, s, rfl, h.layout⟩
  | @float s h => exact ⟨true, s, rfl, h.layout⟩

/-! ## Lexing a number literal -/

/-- A decimal digit is no letter. -/
theorem isLetter_eq_false_of_isDigit {c : Char} (h : c.isDigit = true) : isLetter c = false := by
  have hc := Char.isDigit_iff_toNat.mp h
  have h48 : '0'.toNat = 48 := rfl
  have h57 : '9'.toNat = 57 := rfl
  rw [h48, h57] at hc
  rw [isLetter, if_pos (by omega)]
  -- a digit lies below both ranges of ASCII letters
  delta Char.isAlpha Char.isUpper Char.isLower
  have hA : ('A' : Char).val.toNat = 65 := rfl
  have ha : ('a' : Char).val.toNat = 97 := rfl
  have hv : c.val.toNat = c.toNat := rfl
  simp only [Bool.or_eq_false_iff, Bool.and_eq_false_iff, decide_eq_false_iff_not,
    UInt32.le_iff_toNat_le, ge_iff_le, hA, ha, hv]
  omega

/-- A decimal digit or a point is none of the characters the scanner tries before numbers. -/
theorem numberStart_not_mark {c : Char} (hc : c.isDigit = true ∨ c = '.') :
    c ≠ ' ' ∧ c ≠ '\t' ∧ c ≠ '\uFEFF' ∧ c ≠ '\n' ∧ c ≠ '\r' ∧ c ≠ '/' ∧ c ≠ '_' ∧
      isLetter c = false := by
  rcases hc with hc | rfl
  · refine ⟨?_, ?_, ?_, ?_, ?_, ?_, ?_, isLetter_eq_false_of_isDigit hc⟩ <;>
      (rintro rfl; exact absurd hc (by decide))
  · refine ⟨by decide, by decide, by decide, by decide, by decide, by decide, by decide, ?_⟩
    rw [isLetter, if_pos (by decide)]
    rfl

/-- Where the number branch takes a text whole, the scanner reads it as one number token. -/
theorem ScansWhole.scanPiece {s : List Char} (h : ScansWhole s) :
    ∃ c rest, s = c :: rest ∧
      GoTemplates.Syntax.scanPiece c rest = (.token (numberToken s), rest.length + 1) := by
  have hstart : ∃ c rest, s = c :: rest ∧ (c.isDigit = true ∨ c = '.') := by
    rcases h with ⟨c, rest, rfl, hc, -⟩ | ⟨d, rest, rfl, -, -⟩
    · exact ⟨c, rest, rfl, .inl hc⟩
    · exact ⟨'.', d :: rest, rfl, .inr rfl⟩
  obtain ⟨c, rest, rfl, hc⟩ := hstart
  obtain ⟨h1, h2, h3, h4, h5, h6, h7, h8⟩ := numberStart_not_mark hc
  refine ⟨c, rest, rfl, ?_⟩
  unfold GoTemplates.Syntax.scanPiece
  rw [if_neg (by simp [h1, h2]), if_neg (by simpa using h3), if_neg (by simpa using h4),
    if_neg (by simpa using h5), if_neg (by simp [h6]), if_neg (by simp [h6]),
    if_neg (by simp [h7, h8])]
  rcases h with ⟨c, rest, hs, hc, htail⟩ | ⟨d, rest, hs, hd, htail⟩
  · -- from a digit, the tail starts after it
    obtain ⟨rfl, rfl⟩ := List.cons.inj hs
    have hne : c ≠ '.' := by
      rintro rfl
      exact absurd hc (by decide)
    rw [if_pos (by simp [hc])]
    simp [hne, htail, Nat.add_comm]
  · -- from a point, the tail starts after the digit that follows it
    obtain ⟨rfl, rfl⟩ := List.cons.inj hs
    rw [if_pos (by simp [hd])]
    simp [htail]
    omega

/-- A number the lexer reads in stages is scanned whole as the token its stages make. -/
theorem Layout.scanPiece {f : Bool} {s : List Char} (h : Layout f s) :
    ∃ c rest, s = c :: rest ∧ GoTemplates.Syntax.scanPiece c rest =
      (.token (if f then .floatLit (String.ofList s) else .intLit (String.ofList s)),
        rest.length + 1) := by
  have hw : ScansWhole s := by simpa using h.scansWhole [] (.inl rfl)
  obtain ⟨c, rest, hs, hscan⟩ := hw.scanPiece
  exact ⟨c, rest, hs, by rw [hscan, h.numberToken]⟩

/-- A number literal is scanned whole as the token its production names. -/
theorem NumberLit.scanPiece {t : Token} {s : List Char} (h : NumberLit t s) :
    ∃ c rest, s = c :: rest ∧
      GoTemplates.Syntax.scanPiece c rest = (.token t, rest.length + 1) := by
  cases h with
  | int h => simpa using h.layout.scanPiece
  | float h => simpa using h.layout.scanPiece
  | imag h =>
    obtain ⟨f, body, rfl, hl⟩ := h.layout
    obtain ⟨c, rest, hs, hscan⟩ := (hl.scansWhole ['i'] (.inr rfl)).scanPiece
    exact ⟨c, rest, hs, by rw [hscan, numberToken_imag]⟩

/-- A text the scanner reads whole as one token that ends a statement is lexed as that token
over the whole text, then the separator inserted at its end, with no fault. -/
theorem lex_one_token {c : Char} {rest : List Char} {t : Token}
    (hscan : scanPiece c rest = (.token t, rest.length + 1)) (hend : t.endsStatement = true) :
    (lex (String.ofList (c :: rest))).tokens.toList =
        [⟨0, t, (String.ofList (c :: rest)).utf8ByteSize⟩,
          ⟨(String.ofList (c :: rest)).utf8ByteSize, .semi,
            (String.ofList (c :: rest)).utf8ByteSize⟩] ∧
      (lex (String.ofList (c :: rest))).diags = #[] := by
  generalize hsrc : String.ofList (c :: rest) = src
  have hs : src.toList = c :: rest := by rw [← hsrc, String.toList_ofList]
  have hbytes : byteLength (c :: rest) = src.utf8ByteSize := by rw [← hs, byteLength_toList]
  -- the whole text is one piece
  have hpieces : piecesOf src = [(.token t, ⟨0, src.utf8ByteSize⟩)] := by
    unfold piecesOf
    rw [hs, List.length_cons, pieces, hscan]
    simp [pieces, hbytes]
  have hrun := lexFrom_text src
  rw [hpieces] at hrun
  have htoks : (lex src).tokens = (lexFrom src.toList.length src.toList 0 {}).tokens := rfl
  have hdiags : (lex src).diags = (lexFrom src.toList.length src.toList 0 {}).diags := rfl
  rw [htoks, hdiags, hrun]
  simp [LexState.step, LexState.separate, hend]

/-- The lexer reads a literal of Go's integer, float or imaginary grammar as one token over the
whole text, of the kind its production names, then the separator inserted at its end, and
reports no fault. -/
theorem lex_number_literal {t : Token} {s : List Char} (h : NumberLit t s) :
    (lex (String.ofList s)).tokens.toList =
        [⟨0, t, (String.ofList s).utf8ByteSize⟩,
          ⟨(String.ofList s).utf8ByteSize, .semi, (String.ofList s).utf8ByteSize⟩] ∧
      (lex (String.ofList s)).diags = #[] := by
  obtain ⟨c, rest, rfl, hscan⟩ := h.scanPiece
  -- number tokens end statements
  have hend : t.endsStatement = true := by
    cases h <;> rfl
  exact lex_one_token hscan hend

/-- `0x_1.8p-3i`, an imaginary hex float with an underscore after its prefix and a signed
exponent, is lexed as one imaginary token over its ten bytes. -/
theorem lex_hex_float_imaginary :
    NumberLit (.imagLit (String.ofList ['0', 'x', '_', '1', '.', '8', 'p', '-', '3', 'i']))
        ['0', 'x', '_', '1', '.', '8', 'p', '-', '3', 'i'] ∧
      (lex (String.ofList ['0', 'x', '_', '1', '.', '8', 'p', '-', '3', 'i'])).tokens.toList =
        [⟨0, .imagLit (String.ofList ['0', 'x', '_', '1', '.', '8', 'p', '-', '3', 'i']), 10⟩,
          ⟨10, .semi, 10⟩] ∧
      (lex (String.ofList ['0', 'x', '_', '1', '.', '8', 'p', '-', '3', 'i'])).diags = #[] := by
  have hlit : NumberLit (.imagLit (String.ofList ['0', 'x', '_', '1', '.', '8', 'p', '-', '3', 'i']))
      ['0', 'x', '_', '1', '.', '8', 'p', '-', '3', 'i'] :=
    .imag (.float (@FloatLit.hex 'x' ['_', '1', '.', '8'] ['p', '-', '3'] (.inl rfl)
      (@HexMantissa.point ['_', '1'] ['8'] (.sep (.one rfl)) (.inr (.one rfl)))
      (@Exponent.mk _ 'p' ['-'] ['3'] (by decide) (.inr (.inr rfl)) (.one rfl))))
  have hsize : (String.ofList ['0', 'x', '_', '1', '.', '8', 'p', '-', '3', 'i']).utf8ByteSize = 10 := by
    decide
  have hlex := lex_number_literal hlit
  rw [hsize] at hlex
  exact ⟨hlit, hlex⟩

end GoTemplates.Syntax
