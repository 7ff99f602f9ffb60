import Bindery.Fault
import Bindery.Output.Banner

/-! Pages: the files that a generator makes.

A page is rendered when it is looked at or written. Pages are written one after the other, and the
first that cannot be rendered or written is the last. -/
namespace Bindery.Generator

/-- A file to generate. -/
structure Page where
  /-- The path from the directory of the platform's files. -/
  path : String
  /-- What stands after the header. -/
  body : Except Fault String

namespace Page

/-- The whole text of a page. -/
def text (p : Page) (banner : Banner) : Except Fault String := p.body.map (banner.render ++ ·)

/-- The paths and texts of pages. -/
def preview (banner : Banner) (pages : List Page) : Except Fault (List (String × String)) :=
  pages.mapM fun p => (p.text banner).map (p.path, ·)

/-- Writes a page into a directory. -/
def write (t : FileTree) (p : Page) (dir : String) (banner : Banner) :
    FileTree × Except Fault Outcome :=
  match p.text banner with
  | .error fault => (t, .error fault)
  | .ok text =>
    match OutputFile.write t (Path.join dir p.path) text with
    | (t, .ok outcome) => (t, .ok outcome)
    | (t, .error fault) => (t, .error (.output fault))

/-- Writes pages into a directory and adds what became of them to a summary. -/
def writeAll (t : FileTree) (dir : String) (banner : Banner) (summary : Summary) :
    List Page → FileTree × Except Fault Summary
  | [] => (t, .ok summary)
  | p :: rest =>
    match p.write t dir banner with
    | (t, .error fault) => (t, .error fault)
    | (t, .ok outcome) =>
      writeAll t dir banner (summary.record (Path.join dir p.path) outcome) rest

end Page
end Bindery.Generator
