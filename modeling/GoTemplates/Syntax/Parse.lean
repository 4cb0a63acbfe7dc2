import GoTemplates.Syntax.Parser.Grammar

/-! # Parsing a source file

A file is a package clause, the import declarations, and then the other
declarations. Lexical faults come first: when the lexer reports any, parsing
does not start and the failure lists them all. Otherwise the failure is the
first syntax error. Each diagnostic is reported as `file:line:column: message`
with a one-based line and byte column.
-/

namespace GoTemplates.Syntax

open GoTemplates.Source GoTemplates.Syntax.ParseM GoTemplates.Syntax.Parser

/-- The import declarations at the head of a file. -/
def importDecls : Nat → Array TopDecl → ParseM (Array TopDecl)
  | 0, _ => outOfSteps
  | n + 1, acc => do
    if !(← atKw .import_) then return acc
    let d ← genDecl n
    expectSemi
    importDecls n (acc.push (.gen d))

/-- The declarations after the imports, up to the end of input. -/
def topDecls : Nat → Array TopDecl → ParseM (Array TopDecl)
  | 0, _ => outOfSteps
  | n + 1, acc => do
    if ← atTok .eof then return acc
    let d ← match ← tok with
      | .keyword .const | .keyword .type | .keyword .var => TopDecl.gen <$> genDecl n
      | .keyword .func => TopDecl.func <$> funcDecl n
      | .keyword .import_ => do failAt (← span) "imports must appear before other declarations"
      | _ => failExpected "declaration"
    if !(← atTok .eof) then expectSemi
    topDecls n (acc.push d)

/-- A whole file; every comment group of the file is kept on it, attached or not. -/
def sourceFile (fuel : Nat) : ParseM SourceFile := do
  let doc ← takeDoc (← start)
  let packagePos ← expect (.keyword .package)
  let name ← ident
  expectSemi
  let imports ← importDecls fuel #[]
  let decls ← topDecls fuel imports
  let groups := (← get).groups.toList.map (·.group)
  return ⟨doc, packagePos, name, decls.toList, groups⟩

/-- A parsed file with the line table of its source. -/
structure ParsedFile where
  file : SourceFile
  lines : LineIndex

/-- A diagnostic placed at its one-based line and byte column. -/
structure Located where
  line : Nat
  column : Nat
  message : String
  deriving Repr

/-- The diagnostics of a file that did not parse. -/
structure ParseFailure where
  filename : String
  errors : List Located
  deriving Repr

namespace ParseFailure

/-- Places each diagnostic by the line table. -/
def make (filename : String) (lines : LineIndex) (diags : List Diag) : ParseFailure :=
  ⟨filename, diags.map fun d =>
    let (line, column) := lines.lineCol d.span.start
    ⟨line, column, d.message⟩⟩

/-- One `file:line:column: message` line per diagnostic. -/
def message (f : ParseFailure) : String :=
  "\n".intercalate (f.errors.map fun e =>
    f.filename ++ ":" ++ toString e.line ++ ":" ++ toString e.column ++ ": " ++ e.message)

end ParseFailure

/-- The step bound of a parse: a fixed number of steps per token. -/
def parseFuel (tokenCount : Nat) : Nat := 64 * (tokenCount + 1)

/-- Parses one source file. -/
def parseFile (src filename : String) : Except ParseFailure ParsedFile :=
  let lines := LineIndex.ofString src
  let lexed := lex src
  let stop := src.utf8ByteSize
  let toks := lexed.tokens.push ⟨stop, .eof, stop⟩
  if !lexed.diags.isEmpty then
    .error (ParseFailure.make filename lines
      (lexed.diags.toList.map fun d => ⟨d.span, d.fault.message⟩))
  else
    let st0 : ParseState := { src, toks, lines }
    let st := { st0 with groups := groupComments src st0 lexed.comments.toList }
    match (sourceFile (parseFuel toks.size)).run st with
    | .ok (file, _) => .ok ⟨file, lines⟩
    | .error d => .error (ParseFailure.make filename lines [d])

end GoTemplates.Syntax
