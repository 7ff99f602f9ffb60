import Bindery.FileTree
import Bindery.Template.Set

/-! Templates that a project replaces.

A file in the project's directory of templates replaces the template of the same name. Other files
there do not matter. -/
namespace Bindery.Template.Set

/-- Replaces the templates with some names by files of a directory, up to the first that cannot be
read. Gives the names of those that were replaced. -/
def overrideEach (tree : FileTree) (dir : String) (set : Set) :
    List String → Set × Except Fault (List String)
  | [] => (set, .ok [])
  | name :: rest =>
    let path := Path.join dir name
    if !tree.isFile path then overrideEach tree dir set rest
    else match tree.readText? path with
      | none => (set, .error (.unreadable path))
      | some source =>
        match set.insert name source with
        | .error fault => (set, .error fault)
        | .ok set =>
          let (set, names) := overrideEach tree dir set rest
          (set, names.map (name :: ·))

/-- Replaces templates by files of a directory. -/
def overrideFrom (tree : FileTree) (dir : String) (set : Set) : Set × Except Fault (List String) :=
  overrideEach tree dir set set.names

/-- The collection of some sources, with what a directory replaces. -/
def load (tree : FileTree) (stubs : Option String) (sources : List (String × String)) :
    Except Fault Set := do
  let set ← ofSources sources
  match stubs with
  | none => return set
  | some dir =>
    match set.overrideFrom tree dir with
    | (set, .ok _) => return set
    | (_, .error fault) => .error fault

end Bindery.Template.Set
