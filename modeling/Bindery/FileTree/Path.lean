import Bindery.Text.Blank
import Bindery.Text.Search

/-! Paths as texts.

A path is a text of segments between slashes. Joining and cutting paths works on the text alone;
what a path leads to is up to a file tree. -/
namespace Bindery.Path

/-- The segments of a path. -/
def segments (path : String) : List String := (Text.pieces '/' path.toList).map String.ofList

/-- The path starts at the root of all files. -/
def isAbsolute (path : String) : Bool := path.toList.head? = some '/'

/-- A path under a base. An absolute path has no base. -/
def join (base path : String) : String :=
  if isAbsolute path then path
  else if base = "" ∨ base.toList.getLast? = some '/' then base ++ path
  else base ++ "/" ++ path

/-- Segments without those at the end that lead nowhere. A dot in front of all others counts as a
segment. -/
def trimmed (keepsDot : Bool) (segments : List String) : List String :=
  match segments with
  | [] => []
  | first :: rest =>
    match Text.dropEnd (fun s => s = "" ∨ s = ".") rest with
    | [] => if first = "" ∨ (first = "." ∧ !keepsDot) then [] else [first]
    | rest => first :: rest

/-- The path of the directory that a path lies in. -/
def parent? (path : String) : Option String :=
  let absolute := isAbsolute path
  let relative := if absolute then String.ofList (path.toList.drop 1) else path
  let segments := trimmed (!absolute) (segments relative)
  if segments.isEmpty then none
  else
    let above := "/".intercalate (trimmed (!absolute) segments.dropLast)
    some (if absolute then "/" ++ above else above)

/-- What stands after the last dot of a name, if something stands before it. -/
def extension? (name : String) : Option String :=
  match (Text.pieces '.' name.toList).reverse with
  | last :: before :: rest =>
    if before.isEmpty && rest.isEmpty then none else some (String.ofList last)
  | _ => none

/-- A path without a base that it begins with. -/
def relativeTo (base path : String) : String :=
  if base.toList.isPrefixOf path.toList then
    match path.toList.drop base.length with
    | '/' :: rest => String.ofList rest
    | rest => String.ofList rest
  else path

end Bindery.Path
