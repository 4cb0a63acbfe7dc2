import GoTemplates.Command.Args
import GoTemplates.Command.Paths
import GoTemplates.Specialize.Generate

/-! # The `reify` command

Reads a Go file with placeholder types, specializes it for the type mapping
given on the command line and writes the result to standard output or to the
`--out` file. When the output goes to another directory and no `--package` is
given, the package is named after that directory.

Exit codes: 1 for a bad command line, 2 for a bad type mapping, 3 when the
output cannot be written, 4 when the source cannot be read and 5 when the file
cannot be specialized. Errors are printed with their causes, outermost first.
-/

namespace GoTemplates.Command

open GoTemplates.Template GoTemplates.Specialize

/-- The messages of a mapping error and of its cause. -/
def mappingCauses : MappingError → List String
  | e@(.concrete _ cause) => [e.message, cause.message]
  | e => [e.message]

/-- The messages of an import error and of its cause. -/
def importCauses : ImportError → List String
  | e@(.parse f) => [e.message, f.message]
  | e => [e.message]

/-- The messages of a specialization error and of its causes. -/
def specializeCauses : SpecializeError → List String
  | e@(.parse f) => [e.message, f.message]
  | e@(.print p) => [e.message, p.message]
  | e@(.imports i) => e.message :: importCauses i
  | e => [e.message]

/-- A failure: its exit code and its messages. -/
structure Failure where
  code : UInt32
  causes : List String

/-- Runs an invocation, answering with the exit code. -/
def run (inv : Invocation) : IO UInt32 := do
  let fail := fun (f : Failure) => do
    IO.eprintln ("reify: " ++ String.intercalate ": " f.causes)
    return f.code
  match TypeMapping.parse inv.mapping with
  | .error e => fail ⟨2, mappingCauses e⟩
  | .ok mapping =>
  match ← (IO.FS.readFile inv.input).toBaseIO with
  | .error e => fail ⟨4, ["reading " ++ inv.input, toString e]⟩
  | .ok src =>
  let package ← match inv.package, inv.out with
    | some name, _ => pure (some name)
    | none, some out => do
      let cwd ← IO.currentDir
      pure (packageForOutput cwd.toString inv.input out)
    | none, none => pure none
  match specialize src inv.input mapping ⟨package, inv.header⟩ with
  | .error e => fail ⟨5, specializeCauses e⟩
  | .ok output =>
  match inv.out with
  | none =>
    let stdout ← IO.getStdout
    stdout.putStr output
    stdout.flush
    return 0
  | some out =>
    let dir := dirOf out
    match ← (IO.FS.createDirAll dir).toBaseIO with
    | .error e => fail ⟨3, ["creating " ++ dir, toString e]⟩
    | .ok () =>
    match ← (IO.FS.writeFile out output).toBaseIO with
    | .error e => fail ⟨3, ["writing " ++ out, toString e]⟩
    | .ok () => return 0

end GoTemplates.Command

/-- Reads the command line and runs it. -/
def main (args : List String) : IO UInt32 := do
  match GoTemplates.Command.parseArgs args with
  | .error e =>
    IO.eprint e.message
    return 1
  | .ok .help =>
    IO.println GoTemplates.Command.helpText
    return 0
  | .ok .version =>
    IO.println GoTemplates.Command.versionText
    return 0
  | .ok (.run inv) => GoTemplates.Command.run inv
