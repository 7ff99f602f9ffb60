import Bindery.Generator.Doxygen.Rules
import Bindery.Generator.Doxygen.Templates
import Bindery.Generator.Page
import Bindery.Text.Case

/-! Generation of documentation pages.

Every function is documented, also one that no code is generated for. A category with functions has
a page; one more page lists all functions in the order of their names, and another has a table for
each enumeration. -/
namespace Bindery.Generator.Doxygen

/-! ### Functions -/

/-- A parameter whose description also tells its default. -/
def documented (p : Registry.Parameter) : Registry.Parameter :=
  match p.default with
  | some value =>
    { p with description :=
        Text.joinNonempty " " [p.description, "Default value = " ++ value ++ "."] }
  | none => p

variable (kit : Kit)

/-- The list of some functions. -/
def functionList (fs : List Registry.Function) : Except Fault String := do
  return Text.lines (← fs.mapM fun f => kit.render "doxygen.list_item" [("name", f.name)])

/-- The documentation of a function. -/
def function (f : Registry.Function) : Except Fault String := do
  let parameters := f.parameters.map documented
  kit.render "doxygen.function"
    [("name", f.name),
     ("return_type", ← kit.returnValue "return_type" "" f.returnValue),
     ("signature", ← kit.parameters "signature" parameters),
     ("description", f.longDescription.getD f.description),
     ("platforms", Support.describedAll f.platforms),
     ("parameter_docs", ← kit.parameters "parameter_docs" parameters),
     ("return_description", f.returnValue.description)]

/-- The functions in the order of their names, whatever their case. -/
def inNameOrder (fs : List Registry.Function) : List Registry.Function :=
  fs.mergeSort fun f g => Text.lowerText f.name ≤ Text.lowerText g.name

/-! ### Pages -/

/-- The page of a category. -/
def categoryDocs (c : Registry.Category) : Page where
  path := c.name ++ ".docs"
  body := do
    let functions ← c.functions.mapM (function kit)
    kit.render "doxygen.category"
      [("category", c.name),
       ("display_name", c.displayName),
       ("description", c.description),
       ("function_list", ← functionList kit c.functions),
       ("functions", Text.lines functions)]

/-- The page that lists functions. -/
def allDocs (fs : List Registry.Function) : Page where
  path := "all.docs"
  body := do kit.render "doxygen.all" [("function_list", ← functionList kit (inNameOrder fs))]

/-- The section of an enumeration. -/
def enumeration (e : Enumeration) : Except Fault String := do
  let rows ← e.values.mapM fun (string, value) =>
    kit.render "doxygen.enum_row" [("string", string), ("value", value)]
  kit.render "doxygen.enumeration"
    [("name", e.name), ("description", e.description), ("class", e.className),
     ("rows", String.join rows)]

/-- The page of enumerations. -/
def enumerationDocs (es : List Enumeration) : Page where
  path := "enums.docs"
  body := do
    let sections ← es.mapM (enumeration kit)
    kit.render "doxygen.enums" [("enumerations", Text.lines sections)]

/-- The pages of a category. -/
def categoryPages (c : Registry.Category) : List Page :=
  if c.functions.isEmpty then [] else [categoryDocs kit c]

/-- All pages. -/
def pages (r : Registry) : List Page :=
  let functions := r.functions.map Prod.snd
  r.categories.flatMap (categoryPages kit)
    ++ (if functions.isEmpty then [] else [allDocs kit functions])
    ++ (if r.enumerations.isEmpty then [] else [enumerationDocs kit r.enumerations])

end Bindery.Generator.Doxygen
