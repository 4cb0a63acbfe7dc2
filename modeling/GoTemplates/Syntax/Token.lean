/-! # Tokens

The tokens of Go source text: identifiers, the six kinds of literal with
their source text, the twenty-five keywords, operators and delimiters, the
statement separator (written `;` or inserted at a line end), an invalid token
and the end of the input. Each token has the description that messages use.
-/

namespace GoTemplates.Syntax

/-- The keywords of Go. -/
inductive Keyword where
  | break_ | case_ | chan | const | continue_ | default | defer | else_ | fallthrough
  | for_ | func | go | goto | if_ | import_ | interface | map | package | range
  | return_ | select | struct | switch | type | var
  deriving DecidableEq, Repr, Inhabited

namespace Keyword

/-- Every keyword, in alphabetical order. -/
def all : List Keyword :=
  [break_, case_, chan, const, continue_, default, defer, else_, fallthrough, for_, func, go,
   goto, if_, import_, interface, map, package, range, return_, select, struct, switch, type, var]

/-- The spelling of a keyword. -/
def text : Keyword → String
  | break_ => "break" | case_ => "case" | chan => "chan" | const => "const"
  | continue_ => "continue" | default => "default" | defer => "defer" | else_ => "else"
  | fallthrough => "fallthrough" | for_ => "for" | func => "func" | go => "go"
  | goto => "goto" | if_ => "if" | import_ => "import" | interface => "interface"
  | map => "map" | package => "package" | range => "range" | return_ => "return"
  | select => "select" | struct => "struct" | switch => "switch" | type => "type"
  | var => "var"

/-- The keyword spelled by a word, if any. -/
def ofWord? (w : String) : Option Keyword := all.find? (·.text == w)

end Keyword

/-- Operators and delimiters other than the separator. -/
inductive Punct where
  | ellipsis | shlAssign | shrAssign | andNotAssign | addAssign | subAssign | mulAssign
  | divAssign | modAssign | andAssign | orAssign | xorAssign | shl | shr | andNot | lAnd
  | lOr | eqEq | notEq | le | ge | inc | dec | define | arrow | assign | plus | minus
  | star | slash | percent | amp | pipe | caret | tilde | bang | lt | gt | lParen
  | rParen | lBrack | rBrack | lBrace | rBrace | comma | colon | dot
  deriving DecidableEq, Repr, Inhabited

namespace Punct

/-- The spelling of an operator or delimiter. -/
def text : Punct → String
  | ellipsis => "..." | shlAssign => "<<=" | shrAssign => ">>=" | andNotAssign => "&^="
  | addAssign => "+=" | subAssign => "-=" | mulAssign => "*=" | divAssign => "/="
  | modAssign => "%=" | andAssign => "&=" | orAssign => "|=" | xorAssign => "^="
  | shl => "<<" | shr => ">>" | andNot => "&^" | lAnd => "&&" | lOr => "||"
  | eqEq => "==" | notEq => "!=" | le => "<=" | ge => ">=" | inc => "++" | dec => "--"
  | define => ":=" | arrow => "<-" | assign => "=" | plus => "+" | minus => "-"
  | star => "*" | slash => "/" | percent => "%" | amp => "&" | pipe => "|"
  | caret => "^" | tilde => "~" | bang => "!" | lt => "<" | gt => ">"
  | lParen => "(" | rParen => ")" | lBrack => "[" | rBrack => "]"
  | lBrace => "\x7b" | rBrace => "\x7d" | comma => "," | colon => ":" | dot => "."

/-- Three-character operators. -/
def long : List Punct := [ellipsis, shlAssign, shrAssign, andNotAssign]

/-- Two-character operators. -/
def double : List Punct :=
  [addAssign, subAssign, mulAssign, divAssign, modAssign, andAssign, orAssign, xorAssign,
   shl, shr, andNot, lAnd, lOr, eqEq, notEq, le, ge, inc, dec, define, arrow]

/-- One-character operators and delimiters. -/
def single : List Punct :=
  [assign, plus, minus, star, slash, percent, amp, pipe, caret, tilde, bang, lt, gt,
   lParen, rParen, lBrack, rBrack, lBrace, rBrace, comma, colon, dot]

end Punct

/-- A token of Go source text. Literals keep their source text. -/
inductive Token where
  | ident (name : String)
  | intLit (text : String)
  | floatLit (text : String)
  | imagLit (text : String)
  | runeLit (text : String)
  | stringLit (text : String)
  | rawStringLit (text : String)
  | keyword (k : Keyword)
  | punct (p : Punct)
  | semi
  | error
  | eof
  deriving DecidableEq, Repr, Inhabited

namespace Token

/-- How messages describe a token. -/
def describe : Token → String
  | ident s => "identifier " ++ s
  | intLit s | floatLit s | imagLit s | runeLit s | stringLit s | rawStringLit s => "literal " ++ s
  | keyword k => "'" ++ k.text ++ "'"
  | punct p => "'" ++ p.text ++ "'"
  | semi => "newline or ';'"
  | error => "invalid token"
  | eof => "EOF"

/-- Tokens after which a line end separates statements. -/
def endsStatement : Token → Bool
  | ident _ | intLit _ | floatLit _ | imagLit _ | runeLit _ | stringLit _ | rawStringLit _ => true
  | keyword .break_ | keyword .continue_ | keyword .fallthrough | keyword .return_ => true
  | punct .inc | punct .dec | punct .rParen | punct .rBrack | punct .rBrace => true
  | _ => false

end Token

/-- Line comments and block comments. -/
inductive CommentKind where
  | line
  | block
  deriving DecidableEq, Repr, Inhabited

end GoTemplates.Syntax
