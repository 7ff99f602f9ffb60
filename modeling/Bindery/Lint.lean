import Bindery.Diagnostic
import Bindery.Metadata

/-! Lints: checks of the metadata as a whole.

A lint lists its findings in the order of the metadata. Errors are names declared twice and loops
over what is no vector; the rest are warnings. -/
namespace Bindery

/-- A check of the metadata. -/
structure Lint where
  name : String
  description : String
  findings : Metadata → List Diagnostic

namespace Lint

/-- A finding of a lint. -/
def finding (severity : Severity) (message location : String) : Diagnostic :=
  { severity, phase := "validate", message, location := some location }

/-- The place of a function. -/
def place (c : Metadata.Category) (f : Metadata.Function) : String := c.name ++ "." ++ f.name

/-- The categories that have the name of an earlier one. -/
def repeatedCategories (earlier : List Metadata.Category) : List Metadata.Category → List Diagnostic
  | [] => []
  | c :: rest =>
    (if earlier.any (·.name = c.name)
      then [finding .error ("duplicate category '" ++ c.name ++ "'") c.name] else [])
      ++ repeatedCategories (earlier ++ [c]) rest

/-- The functions that have the name of an earlier one. -/
def repeatedFunctions (earlier : List (Metadata.Category × Metadata.Function)) :
    List (Metadata.Category × Metadata.Function) → List Diagnostic
  | [] => []
  | (c, f) :: rest =>
    (match earlier.find? (·.2.name = f.name) with
      | some (first, _) =>
        [finding .error ("duplicate function '" ++ f.name ++ "' (first declared in category '"
          ++ first.name ++ "')") (place c f)]
      | none => [])
      ++ repeatedFunctions (earlier ++ [(c, f)]) rest

/-- What is wrong with the loop of a function. -/
def loopFault? (f : Metadata.Function) : Option String :=
  f.loopParameter.bind fun name =>
    let opening := "loop parameter '" ++ name ++ "' of function '" ++ f.name ++ "' "
    match f.parameters.find? (·.name = name) with
    | none => some (opening ++ "is not a declared parameter")
    | some p =>
      if p.rank = .vector then none
      else some (opening ++ "has rank " ++ p.rank.name ++ ", expected vector")

def duplicateCategory : Lint where
  name := "duplicate-category"
  description := "Detect category names declared more than once"
  findings m := repeatedCategories [] m.categories

def duplicateFunction : Lint where
  name := "duplicate-function"
  description := "Detect function names declared more than once"
  findings m := repeatedFunctions [] m.functions

def loopParameter : Lint where
  name := "loop-parameter"
  description := "Check that loop parameters name a declared vector parameter"
  findings m := m.functions.filterMap fun (c, f) =>
    (loopFault? f).map (finding .error · (place c f))

def emptyDescription : Lint where
  name := "empty-description"
  description := "Warn about categories and functions without a description"
  findings m :=
    (m.categories.filter (·.description = "")).map (fun c =>
      finding .warning ("category '" ++ c.name ++ "' has no description") c.name)
    ++ (m.functions.filter fun (_, f) => f.tag ≠ .constructor && f.description.isNone).map
      fun (c, f) => finding .warning ("function '" ++ f.name ++ "' has no description") (place c f)

def emptyCategory : Lint where
  name := "empty-category"
  description := "Warn about categories without functions"
  findings m := (m.categories.filter (·.functions.isEmpty)).map fun c =>
    finding .warning ("category '" ++ c.name ++ "' has no functions") c.name

/-- The lints that run unless others are chosen. -/
def defaults : List Lint :=
  [duplicateCategory, duplicateFunction, loopParameter, emptyDescription, emptyCategory]

end Lint
end Bindery
