/-! # Command line arguments

The command takes the source file with `--in`, the type mapping as its one
positional argument, and optionally `--out`, `--package`, `--header` and any
number of `-v`. An option's value follows it or comes after `=`; after `--`
every argument is positional. Each option may be given once; `--help` and
`--version` answer at once.
-/

namespace GoTemplates.Command

/-- A complete invocation. -/
structure Invocation where
  input : String
  out : Option String
  package : Option String
  header : Bool
  verbose : Nat
  mapping : String
  deriving Repr

/-- What the command line asks for. -/
inductive Request where
  | run (inv : Invocation)
  | help
  | version
  deriving Repr

/-- A command line that does not fit the grammar. -/
inductive ArgError where
  | unexpected (arg : String)
  | missingValue (option : String)
  | repeated (option : String)
  | missing (names : List String)
  deriving Repr

/-- The usage line. -/
def usage : String := "Usage: reify [OPTIONS] --in <SOURCE> <MAPPING>"

/-- The explanation of the type mapping shown after the options. -/
def mappingHelp : String :=
  "Type mapping is in the following format:\n" ++
  "  \x7bgeneric1\x7d=\x7bconcrete1\x7d,[\x7bgeneric2\x7d=\x7bconcrete2\x7d]\n" ++
  "where concrete can be one of the following:\n" ++
  "  ConcreteType\n" ++
  "        concrete type in the same package\n" ++
  "  pkg/pkg/pkg.ConcreteType\n" ++
  "        concrete type in a different package\n" ++
  "  (\"pkg/pkg/go-pkg\")pkg.ConcreteType\n" ++
  "        concrete type in a different package, package name\n" ++
  "        doesn\x27t match directory name\n" ++
  "Prefix a concrete type with * to use a pointer to it."

/-- The help text. -/
def helpText : String :=
  "Generates concrete code from generic code\n\n" ++ usage ++ "\n\n" ++
  "Arguments:\n" ++
  "  <MAPPING>  Type mapping, e.g. \"T=int64\" or \"Reader=*os.File\"\n\n" ++
  "Options:\n" ++
  "      --in <SOURCE>     Source file with generic types\n" ++
  "      --out <DEST>      File to save output to instead of stdout\n" ++
  "      --package <NAME>  Package name of the generated file\n" ++
  "      --header          Start the output with a \"Code generated\" comment\n" ++
  "  -v, --verbose...      Verbosity level\n" ++
  "  -h, --help            Print help\n" ++
  "  -V, --version         Print version\n\n" ++ mappingHelp

/-- The version line. -/
def versionText : String := "reify 0.1.0"

/-- The message of an argument error, with the usage line. -/
def ArgError.message (e : ArgError) : String :=
  let q := fun (s : String) => "\x27" ++ s ++ "\x27"
  let first := match e with
    | .unexpected a => "error: unexpected argument " ++ q a ++ " found"
    | .missingValue o => "error: a value is required for " ++ q o ++ " but none was supplied"
    | .repeated o => "error: the argument " ++ q o ++ " cannot be used multiple times"
    | .missing ns =>
      "error: the following required arguments were not provided:" ++
        String.join (ns.map fun n => "\n  " ++ n)
  first ++ "\n\n" ++ usage ++ "\n\nFor more information, try " ++ q "--help" ++ ".\n"

/-- The arguments read so far. -/
structure Parsed where
  input : Option String := none
  out : Option String := none
  package : Option String := none
  header : Bool := false
  verbose : Nat := 0
  mapping : Option String := none

/-- The options that take a value, with how they are shown in messages. -/
def valueOptions : List (String × String) :=
  [("--in", "--in <SOURCE>"), ("--out", "--out <DEST>"), ("--package", "--package <NAME>")]

/-- Stores an option's value, once. -/
def Parsed.setValue (p : Parsed) (option : String) (value : String) : Except ArgError Parsed :=
  let shown := ((valueOptions.lookup option).getD option)
  let once := fun (cur : Option String) (set : String → Parsed) =>
    match cur with
    | some _ => Except.error (ArgError.repeated shown)
    | none => .ok (set value)
  if option == "--in" then once p.input fun v => { p with input := some v }
  else if option == "--out" then once p.out fun v => { p with out := some v }
  else once p.package fun v => { p with package := some v }

/-- Stores a positional argument: the mapping, once. -/
def Parsed.setPositional (p : Parsed) (arg : String) : Except ArgError Parsed :=
  match p.mapping with
  | some _ => .error (.unexpected arg)
  | none => .ok { p with mapping := some arg }

/-- The answer to a short option cluster such as `-vv`: more verbosity, help or version. -/
inductive Short where
  | verbose (n : Nat)
  | help
  | version
  | unexpected

/-- Reads a cluster of short options. -/
def shortCluster (cs : List Char) : Short :=
  cs.foldl (fun acc c => match acc with
    | .verbose n => if c == 'v' then .verbose (n + 1)
      else if c == 'h' then .help
      else if c == 'V' then .version
      else .unexpected
    | other => other) (.verbose 0)

/-- Reads the arguments after the command name. -/
def parseFrom (p : Parsed) : List String → Except ArgError (Option Request × Parsed)
  | [] => .ok (none, p)
  | "--" :: rest =>
    rest.foldlM (fun (r, p) a => do
      match r with
      | some _ => return (r, p)
      | none => return (none, ← p.setPositional a)) (none, p)
  | "--help" :: _ => .ok (some .help, p)
  | "--version" :: _ => .ok (some .version, p)
  | "--header" :: rest =>
    if p.header then .error (.repeated "--header")
    else parseFrom { p with header := true } rest
  | "--verbose" :: rest => parseFrom { p with verbose := p.verbose + 1 } rest
  | arg :: rest =>
    if arg.startsWith "--" then
      match arg.splitOn "=" with
      | option :: value :: more =>
        if (valueOptions.lookup option).isSome then do
          let p ← p.setValue option (String.intercalate "=" (value :: more))
          parseFrom p rest
        else .error (.unexpected arg)
      | _ =>
        if (valueOptions.lookup arg).isSome then
          match rest with
          | value :: rest' => do
            let p ← p.setValue arg value
            parseFrom p rest'
          | [] => .error (.missingValue ((valueOptions.lookup arg).getD arg))
        else .error (.unexpected arg)
    else if arg.startsWith "-" && arg.length > 1 then
      match shortCluster (arg.toList.drop 1) with
      | .verbose n => parseFrom { p with verbose := p.verbose + n } rest
      | .help => .ok (some .help, p)
      | .version => .ok (some .version, p)
      | .unexpected => .error (.unexpected arg)
    else do
      let p ← p.setPositional arg
      parseFrom p rest

/-- Reads a whole command line: help or version if asked for, else a complete
invocation, reporting the required arguments that are missing. -/
def parseArgs (args : List String) : Except ArgError Request := do
  let (req, p) ← parseFrom {} args
  match req with
  | some r => return r
  | none =>
    match p.input, p.mapping with
    | some input, some mapping =>
      return .run ⟨input, p.out, p.package, p.header, p.verbose, mapping⟩
    | input, mapping =>
      let missing := (if input.isNone then ["--in <SOURCE>"] else []) ++
        (if mapping.isNone then ["<MAPPING>"] else [])
      throw (.missing missing)

end GoTemplates.Command
