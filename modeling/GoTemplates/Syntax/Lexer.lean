import GoTemplates.Syntax.Token
import GoTemplates.Source.Position
import GoTemplates.Text.Letter

/-! # Lexing Go source

The lexer reads the source text once from left to right. At each point it
takes the longest lexeme that the rules below allow, keyword spellings before
identifiers; a character that starts no lexeme is an invalid token.

* Runs of spaces and tabs are skipped; a byte order mark is skipped at the
  very start and is an invalid token anywhere else.
* A line end is a line feed, a carriage return, or the two together.
* Comments run to the line end (`//`) or to the first `*/` (`/*`); they are
  recorded apart from the tokens.
* A number takes one digit, or a point and a digit, and then the longest
  numeric tail: a base prefix after a lone `0`, digits and underscores, a
  fraction, an exponent whose digits must be there, and an `i` suffix.
* A separator is inserted at the first line end (also one inside a block
  comment) or at the end of input that follows an identifier, literal,
  `break`, `continue`, `fallthrough`, `return`, `++`, `--`, `)`, `]` or `}`.

Faults are reported with their span and leave an invalid token behind.
-/

namespace GoTemplates.Syntax

open GoTemplates.Source GoTemplates.Text

/-- A lexical fault. -/
inductive LexFault where
  | invalidToken
  | invalidNumber
  | unterminatedString
  | unterminatedComment
  deriving DecidableEq, Repr, Inhabited

/-- The message of a lexical fault. -/
def LexFault.message : LexFault → String
  | .invalidToken => "invalid token"
  | .invalidNumber => "invalid numeric literal"
  | .unterminatedString => "unterminated string"
  | .unterminatedComment => "unterminated comment"

/-- A token with the byte offsets it covers; an inserted separator covers none. -/
structure Lexeme where
  start : Nat
  token : Token
  stop : Nat
  deriving Repr, Inhabited

/-- A comment the lexer saw, kept out of the token stream. -/
structure CommentMark where
  kind : CommentKind
  span : Span
  deriving Repr, Inhabited

/-- A lexical fault at a span. -/
structure LexDiag where
  fault : LexFault
  span : Span
  deriving Repr

/-- Everything the lexer produces: tokens, comments and faults, each in source order. -/
structure Lexed where
  tokens : Array Lexeme
  comments : Array CommentMark
  diags : Array LexDiag

/-- What one lexeme turned out to be. -/
inductive Piece where
  | blank
  | byteOrderMark
  | lineEnd
  | lineComment
  /-- A closed block comment, with the byte offset of its first line end, if any. -/
  | blockComment (firstBreak : Option Nat)
  | token (t : Token)
  | fault (f : LexFault)
  /-- A character that starts no lexeme. -/
  | stray

/-- UTF-8 length of a character list. -/
def byteLength (cs : List Char) : Nat := cs.foldl (fun n c => n + c.utf8Size) 0

/-- A character that may appear in an identifier after the first. -/
def isIdentChar (c : Char) : Bool := c == '_' || isLetter c || isDecimalDigit c

/-- Number of characters up to and including the first `*/`. -/
def blockCommentLength : List Char → Option Nat
  | '*' :: '/' :: _ => some 2
  | _ :: r => (blockCommentLength r).map (· + 1)
  | [] => none

/-- Byte offset of the first carriage return or line feed. -/
def firstBreak? (cs : List Char) : Option Nat :=
  match cs.idxOf? '\n', cs.idxOf? '\r' with
  | some i, some j => some (byteLength (cs.take (min i j)))
  | some i, none => some (byteLength (cs.take i))
  | none, some j => some (byteLength (cs.take j))
  | none, none => none

/-- The characters of a quoted body up to the closing `q`: no bare `q`, backslash or
line end, and a backslash escapes any character but a line feed. -/
def quotedBody (q : Char) : List Char → List Char
  | '\\' :: d :: r => if d == '\n' then [] else '\\' :: d :: quotedBody q r
  | d :: r => if d == q || d == '\\' || d == '\n' || d == '\r' then [] else d :: quotedBody q r
  | [] => []

/-- A digit of a number body: a decimal digit or underscore, and a hex letter in hex. -/
def isNumberDigit (hex : Bool) (c : Char) : Bool :=
  c == '_' || c.isDigit || (hex && (('a' ≤ c && c ≤ 'f') || ('A' ≤ c && c ≤ 'F')))

/-- The base of a numeric literal: after a lone `0`, an `x` makes it hex with a `p`
exponent, and an `o` or `b` octal or binary with no exponent (either case); anything else
is decimal with an `e` exponent. Gives whether hex letters are digits, the exponent marks,
the prefix letter taken, and the rest. -/
def numberBase (head rem : List Char) : Bool × List Char × List Char × List Char :=
  if head == ['0'] then
    match rem with
    | c :: r => if c == 'x' || c == 'X' then (true, ['p', 'P'], [c], r)
      else if c == 'o' || c == 'O' || c == 'b' || c == 'B' then (false, [], [c], r)
      else (false, ['e', 'E'], [], rem)
    | [] => (false, ['e', 'E'], [], rem)
  else (false, ['e', 'E'], [], rem)

/-- A point and the digits after it, where a fraction may stand, and the rest. -/
def numberFraction (hex allowed : Bool) : List Char → List Char × List Char
  | '.' :: r =>
    if allowed then
      let (fs, r') := r.span (isNumberDigit hex)
      ('.' :: fs, r')
    else ([], '.' :: r)
  | r => ([], r)

/-- The sign of an exponent, if there is one, and the rest. -/
def numberSign : List Char → List Char × List Char
  | s :: r => if s == '+' || s == '-' then ([s], r) else ([], s :: r)
  | [] => ([], [])

/-- The imaginary suffix, if the rest starts with one. -/
def imagSuffix : List Char → List Char
  | 'i' :: _ => ['i']
  | _ => []

/-- The end of a numeric literal after its body: an exponent after one of the marks, or
else an imaginary suffix; true when the exponent lacks its digits. -/
def numberEnd (marks body : List Char) : List Char → List Char × Bool
  | e :: r =>
    if marks.contains e then
      let (sign, r') := numberSign r
      match r' with
      | d :: _ =>
        if d.isDigit then
          let (xs, r'') := r'.span (fun c => c.isDigit || c == '_')
          (body ++ [e] ++ sign ++ xs ++ imagSuffix r'', false)
        else (body ++ [e] ++ sign, true)
      | [] => (body ++ [e] ++ sign, true)
    else (body ++ imagSuffix (e :: r), false)
  | [] => (body, false)

/-- The tail of a numeric literal after its first one or two characters, and whether
an exponent lacks its digits (the tail then ends after the exponent mark and sign). -/
def numberTail (head rem : List Char) : List Char × Bool :=
  let (hex, expMarks, pre, r) := numberBase head rem
  let (ds, r) := r.span (isNumberDigit hex)
  let (frac, r) := numberFraction hex (head.head? != some '.' && !expMarks.isEmpty) r
  numberEnd expMarks (pre ++ ds ++ frac) r

/-- Whether a numeric literal with no imaginary suffix is a float: a hex one with a point
or `p`, a decimal one with a point or `e`, and a binary or octal one never. -/
def isFloatText (text : List Char) : Bool :=
  match text with
  | '0' :: x :: rest =>
    if x == 'x' || x == 'X' then rest.any (fun c => c == '.' || c == 'p' || c == 'P')
    else if x == 'o' || x == 'O' || x == 'b' || x == 'B' then false
    else text.any (fun c => c == '.' || c == 'e' || c == 'E')
  | _ => text.any (fun c => c == '.' || c == 'e' || c == 'E')

/-- The kind of a numeric literal by its text: an `i` suffix makes it imaginary, and
otherwise `isFloatText` tells a float from an integer. -/
def numberToken (text : List Char) : Token :=
  let s := String.ofList text
  if text.getLast? == some 'i' then .imagLit s
  else if isFloatText text then .floatLit s else .intLit s

/-- The operator or delimiter that starts the text, longest spelling first. -/
def punctAt? (cs : List Char) : Option Punct :=
  let firstOf := fun (ps : List Punct) => ps.find? (fun p => p.text.toList.isPrefixOf cs)
  (firstOf Punct.long).orElse fun _ => (firstOf Punct.double).orElse fun _ => firstOf Punct.single

/-- Reads one lexeme from a nonempty text: what it is and how many characters it takes. -/
def scanPiece (c : Char) (rest : List Char) : Piece × Nat :=
  let cs := c :: rest
  if c == ' ' || c == '\t' then
    (.blank, (cs.takeWhile (fun d => d == ' ' || d == '\t')).length)
  else if c == '\uFEFF' then (.byteOrderMark, 1)
  else if c == '\n' then (.lineEnd, 1)
  else if c == '\r' then (.lineEnd, if rest.head? == some '\n' then 2 else 1)
  else if c == '/' && rest.head? == some '/' then
    (.lineComment, (cs.takeWhile (fun d => d != '\n' && d != '\r')).length)
  else if c == '/' && rest.head? == some '*' then
    match blockCommentLength (rest.drop 1) with
    | some n => (.blockComment (firstBreak? (cs.take (n + 2))), n + 2)
    | none => (.fault .unterminatedComment, cs.length)
  else if c == '_' || isLetter c then
    let word := cs.takeWhile isIdentChar
    let w := String.ofList word
    match Keyword.ofWord? w with
    | some k => (.token (.keyword k), word.length)
    | none => (.token (.ident w), word.length)
  else if c.isDigit || (c == '.' && (rest.head?.map Char.isDigit).getD false) then
    let head := if c == '.' then cs.take 2 else [c]
    let (tail, bad) := numberTail head (cs.drop head.length)
    let n := head.length + tail.length
    if bad then (.fault .invalidNumber, n) else (.token (numberToken (head ++ tail)), n)
  else if c == '`' then
    let body := rest.takeWhile (· != '`')
    if body.length < rest.length then
      (.token (.rawStringLit (String.ofList (cs.take (body.length + 2)))), body.length + 2)
    else (.fault .unterminatedString, cs.length)
  else if c == '"' then
    let body := quotedBody '"' rest
    if (rest.drop body.length).head? == some '"' then
      (.token (.stringLit (String.ofList (cs.take (body.length + 2)))), body.length + 2)
    else (.fault .unterminatedString, body.length + 1)
  else if c == '\'' then
    let body := quotedBody '\'' rest
    if !body.isEmpty && (rest.drop body.length).head? == some '\'' then
      (.token (.runeLit (String.ofList (cs.take (body.length + 2)))), body.length + 2)
    else (.stray, 1)
  else if c == ';' then (.token .semi, 1)
  else
    match punctAt? cs with
    | some p => (.token (.punct p), p.text.length)
    | none => (.stray, 1)

/-- The lexer's state between lexemes. -/
structure LexState where
  tokens : Array Lexeme := #[]
  comments : Array CommentMark := #[]
  diags : Array LexDiag := #[]
  /-- The last token was one after which a line end inserts a separator. -/
  pendingSemi : Bool := false

namespace LexState

/-- Inserts a separator at an offset if one is due. -/
def separate (st : LexState) (at_ : Nat) : LexState :=
  if st.pendingSemi then
    { st with tokens := st.tokens.push ⟨at_, .semi, at_⟩, pendingSemi := false }
  else st

/-- Records a fault and leaves an invalid token in its place. -/
def reportFault (st : LexState) (f : LexFault) (span : Span) : LexState :=
  { st with diags := st.diags.push ⟨f, span⟩,
            tokens := st.tokens.push ⟨span.start, .error, span.stop⟩, pendingSemi := false }

/-- Applies one lexeme that covers `span` to the state. -/
def step (st : LexState) (p : Piece) (span : Span) : LexState :=
  match p with
  | .blank => st
  | .byteOrderMark => if span.start == 0 then st else st.reportFault .invalidToken span
  | .lineEnd => st.separate span.start
  | .lineComment => { st with comments := st.comments.push ⟨.line, span⟩ }
  | .blockComment brk =>
    let st := { st with comments := st.comments.push ⟨.block, span⟩ }
    match brk with
    | some off => st.separate (span.start + off)
    | none => st
  | .fault f => st.reportFault f span
  | .stray => st.reportFault .invalidToken span
  | .token t =>
    { st with tokens := st.tokens.push ⟨span.start, t, span.stop⟩, pendingSemi := t.endsStatement }

end LexState

/-- Lexes the rest of the text from byte offset `pos`; each round takes at least one
character, so the length of the text bounds the rounds. -/
def lexFrom : Nat → List Char → Nat → LexState → LexState
  | _, [], pos, st => st.separate pos
  | 0, _ :: _, pos, st => st.separate pos
  | fuel + 1, c :: rest, pos, st =>
    let (p, n) := scanPiece c rest
    let n := max n 1
    let taken := (c :: rest).take n
    let stop := pos + byteLength taken
    lexFrom fuel ((c :: rest).drop n) stop (st.step p ⟨pos, stop⟩)

/-- Lexes a whole source text. -/
def lex (src : String) : Lexed :=
  let cs := src.toList
  let st := lexFrom cs.length cs 0 {}
  ⟨st.tokens, st.comments, st.diags⟩

end GoTemplates.Syntax
