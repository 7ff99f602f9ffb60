import Bindery.CommandLine.Run
import Bindery.FileTree.Change

/-! The program: it reads the files that a command line is about, runs the line, writes the files
that it changed, and prints its answer. -/
namespace Bindery.Main

/-- Adds what is at a path to a file tree. -/
partial def loadFrom (t : FileTree) (path : String) : IO FileTree := do
  let there := (← IO.currentDir) / path
  if ← there.isDir then
    let mut t := (t.makeDirectories path).1
    for entry in ← there.readDir do
      t ← loadFrom t (Path.join path entry.fileName)
    return t
  else if ← there.pathExists then
    return (t.writeFile path (← IO.FS.readBinFile there)).1
  else return t

/-- The files that a command line is about. -/
def loadFor (l : CommandLine.Line) : IO FileTree := do
  let t ← loadFrom {} l.chosen.configPath
  match Project.read t l.chosen.configPath with
  | .ok p => (p.directories l.chosen.output).foldlM loadFrom t
  | .error _ => return t

/-- Takes a step from a file tree to another. -/
def carryOut : FileTree.Change → IO Unit
  | .makeDirectory path => IO.FS.createDirAll path
  | .write path bytes => IO.FS.writeBinFile path bytes
  | .remove path => IO.FS.removeFile path

/-- Prints a line on its stream. -/
def print : Terminal.Line → IO Unit
  | .out text => IO.println text
  | .err text => IO.eprintln text

end Bindery.Main

open Bindery Bindery.Main in
/-- Runs a command line. -/
def main (args : List String) : IO UInt32 := do
  let before ← match CommandLine.read args with
    | .ok line => loadFor line
    | .error _ => pure {}
  let (after, answer) := CommandLine.run before args
  (before.changes after).forM carryOut
  answer.lines.forM print
  return answer.code.toUInt32
