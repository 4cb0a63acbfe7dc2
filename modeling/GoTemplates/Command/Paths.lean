/-! # Output directories

When the output goes to another directory than the input, the generated
file's package is named after that directory. Paths are compared after
resolving them against the working directory and normalizing them lexically:
empty and `.` components are dropped, and `..` removes the component before
it, never the root.
-/

namespace GoTemplates.Command

/-- A path as its root flag and components. -/
structure PathParts where
  absolute : Bool
  parts : List String
  deriving DecidableEq, Repr

/-- The components of a path, with `.` and empty components dropped and `..` applied. -/
def normalizeParts (p : String) : PathParts :=
  let parts := (p.splitOn "/").foldl (fun acc c =>
    if c.isEmpty || c == "." then acc
    else if c == ".." then acc.dropLast
    else acc ++ [c]) []
  ⟨p.startsWith "/", parts⟩

/-- The directory of a path; `.` when it has none. -/
def dirOf (p : String) : String :=
  let trimmed := (p.toList.reverse.dropWhile (· == '/')).reverse
  match (trimmed.reverse.dropWhile (· != '/')) with
  | [] => if p.startsWith "/" then "/" else "."
  | _ :: before =>
    let dir := String.ofList before.reverse
    if dir.isEmpty then "/" else dir

/-- A path resolved against a directory: itself when absolute. -/
def joinPath (base p : String) : String :=
  if p.startsWith "/" then p else base ++ "/" ++ p

/-- The package name for output written to `out`: the name of its directory when that
is not the directory of `input`. -/
def packageForOutput (cwd input out : String) : Option String :=
  let inDir := normalizeParts (joinPath cwd (dirOf input))
  let outDir := normalizeParts (joinPath cwd (dirOf out))
  if inDir == outDir then none else outDir.parts.getLast?

end GoTemplates.Command
