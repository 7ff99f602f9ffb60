import Bindery.Metadata
import Bindery.Terminal

/-! Listings of what the metadata of a project declares. -/
namespace Bindery.Project

/-- The platforms of a function, or that it is only documented. -/
def platformsText (f : Metadata.Function) : String :=
  if f.documentationOnly then "documentation only" else Support.describedAll f.platforms

/-- A function on one line. -/
def functionText (f : Metadata.Function) : String :=
  f.name ++ " [" ++ f.tag.name ++ "] " ++ platformsText f

/-- The listing of a category. -/
def categoryLines (c : Metadata.Category) : List Terminal.Line :=
  Terminal.heading (c.displayName ++ " (" ++ c.name ++ ")")
    :: (if c.functions.isEmpty then [.out "  (no functions)"] else [])
    ++ c.functions.map (fun f => Terminal.item (functionText f))
    ++ [Terminal.blank]

/-- The listing of metadata. -/
def listing (m : Metadata) : List Terminal.Line :=
  (if m.categories.isEmpty then [.out "No categories defined"] else [])
    ++ m.categories.flatMap categoryLines
    ++ (if m.enumerations.isEmpty then []
        else Terminal.heading "Enumerations" :: m.enumerations.map fun e => Terminal.item e.name)

end Bindery.Project
