import Bindery.FileTree
import Bindery.Rule.Read

/-! Rules that a project replaces. -/
namespace Bindery.Rule.Set

/-- The name of a file with the rules of a platform. -/
def fileName (platform : String) : String := platform ++ ".rules.toml"

/-- The rules of a platform in a project's directory, if they are there. -/
def override? (tree : FileTree) (platform : String) (stubs : Option String) :
    Option (Except Fault Set) :=
  stubs.bind fun dir =>
    let path := Path.join dir (fileName platform)
    if !tree.isFile path then none
    else some (match tree.readText? path with
      | none => .error (.unreadable path)
      | some content => parse content path)

/-- The rules of a platform: those of the project, or else those given. -/
def load (tree : FileTree) (platform : String) (stubs : Option String)
    (builtin : Except Fault Set) : Except Fault Set :=
  (override? tree platform stubs).getD builtin

end Bindery.Rule.Set
