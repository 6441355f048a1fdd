import FluentQuery.Error.Failure

/-!
# Paths of database files

A path is normalised by leaving out empty parts and points; two slashes at its front are kept,
more count as one. `readOnlyTarget` names a file for reading only.
-/

namespace FluentQuery.Path

/-- The files there are, and the directory that relative paths start from. -/
structure Files where
  present : List Value := []
  directory : String := "/"
  deriving Inhabited

/-- Whether there is a file under a path. -/
def Files.exist (f : Files) (path : Value) : Bool := f.present.any (·.equals path)

/-- The slashes at the front of a path. -/
def root (cs : List Char) : String :=
  match (cs.takeWhile (· == '/')).length with
  | 0 => ""
  | 2 => "//"
  | _ => "/"

/-- The parts of a path. -/
def parts (cs : List Char) : List String :=
  ((cs.splitOn '/').map String.ofList).filter fun s => s != "" && s != "."

/-- A path that does not depend on a directory. -/
def absolute (directory path : String) : String :=
  let own := path.toList
  let base := directory.toList
  if root own != "" then root own ++ joinWith "/" (parts own)
  else root base ++ joinWith "/" (parts base ++ parts own)

/-- The target that opens a file for reading only. -/
def readOnlyTarget (files : Files) (path : Value) : Except Failure String :=
  match path with
  | .text s => .ok ("file:" ++ absolute files.directory s ++ "?mode=ro")
  | v => .error (.misuse (.notAPath v.kindName))

end FluentQuery.Path
