import Bindery.Generator
import Bindery.Project
import Bindery.Terminal

/-! Generation for a project.

The metadata is compiled, then the platforms are generated one after the other. The first that fails
is the last; what was written before it stays. -/
namespace Bindery.Project

/-- What is to be generated, and where. -/
structure Order where
  /-- The directory below which the files of all platforms go, in the place of the project's own. -/
  outputDir : Option String := none
  /-- The platforms; those that are enabled if there are none. -/
  platforms : List Platform := []
  /-- Nothing is written. -/
  dryRun : Bool := false

/-- What came of a platform. -/
inductive Product where
  | written (summary : Summary)
  /-- The paths and texts that would be written. -/
  | preview (files : List (String × String))
deriving DecidableEq, Repr

/-- The files of a platform. -/
structure Part where
  platform : Platform
  /-- The directory of the files. -/
  root : String
  product : Product
deriving DecidableEq, Repr

/-- What came of a run. -/
structure Generation where
  warnings : List String
  parts : List Part
deriving DecidableEq, Repr

/-- The program that is named in generated files. -/
def generatorName : String := "addingen"

/-! ### Platforms -/

variable (p : Project)

/-- The generator for a platform. -/
def generator (t : FileTree) (r : Registry) (platform : Platform) : Except Fault Generator :=
  (Generator.load t p.stubsDir (.ofConfig p.config) r platform).mapError
    (.within ("failed to load templates for platform '" ++ platform.name ++ "'"))

/-- The header of the files of a generator. -/
def banner (g : Generator) (r : Registry) : Except Fault Banner :=
  if p.config.project.copyright then
    (g.copyrightOf r.project).map fun text => { generator := generatorName, copyright := some text }
  else .ok { generator := generatorName }

/-- Makes the files of a generator in a directory. -/
def produce (t : FileTree) (g : Generator) (banner : Banner) (root : String) (dryRun : Bool) :
    FileTree × Except Fault Product :=
  if dryRun then
    (t, (g.preview banner).map fun files =>
      .preview (files.map fun (path, text) => (Path.join root path, text)))
  else
    match Generator.write t g root banner with
    | (t, .ok summary) => (t, .ok (.written summary))
    | (t, .error fault) =>
      (t, .error (.within ("Failed to generate platform '" ++ g.platform.name ++ "'") fault))

/-- Generates for a platform. -/
def generatePlatform (t : FileTree) (r : Registry) (order : Order) (platform : Platform) :
    FileTree × Except Fault Part :=
  let prepared := do
    let g ← p.generator t r platform
    return (g, ← p.banner g r)
  match prepared with
  | .error fault => (t, .error fault)
  | .ok (g, banner) =>
    let root := p.platformRoot order.outputDir platform
    match produce t g banner root order.dryRun with
    | (t, .ok product) => (t, .ok { platform, root, product })
    | (t, .error fault) => (t, .error fault)

/-- Generates for platforms, up to the first that fails. -/
def generateAll (t : FileTree) (r : Registry) (order : Order) :
    List Platform → FileTree × Except Fault (List Part)
  | [] => (t, .ok [])
  | platform :: rest =>
    match p.generatePlatform t r order platform with
    | (t, .error fault) => (t, .error fault)
    | (t, .ok part) =>
      let (t, parts) := generateAll t r order rest
      (t, parts.map (part :: ·))

/-! ### Runs -/

/-- The registry that metadata of the project compiles to, with the warnings about it. -/
def compiled (m : Metadata) : Except Fault (Registry × List Diagnostic) :=
  match (p.compilation m).run Compilation.standard with
  | (_, .error fault) => .error (.within "Pipeline failed" fault)
  | (c, .ok ()) => c.theRegistry.map (·, c.warnings)

/-- The platforms that are to be generated. -/
def chosen (order : Order) : List Platform :=
  if order.platforms.isEmpty then p.config.enabledPlatforms else order.platforms

/-- Generates from metadata of the project. -/
def generate (t : FileTree) (m : Metadata) (order : Order) : FileTree × Except Fault Generation :=
  match p.compiled m with
  | .error fault => (t, .error fault)
  | .ok (r, warnings) =>
    if (p.chosen order).isEmpty then (t, .error (.reported ("no platforms enabled in " ++ p.path)))
    else
      let (t, parts) := p.generateAll t r order (p.chosen order)
      (t, parts.map fun parts => { warnings := warnings.map (·.display), parts })

/-! ### Reports -/

/-- The numbers of a summary. -/
def summaryText (s : Summary) : String :=
  "  " ++ toString s.total ++ " files: " ++ toString s.created.length ++ " created, "
    ++ toString s.updated.length ++ " updated, " ++ toString s.unchanged.length ++ " unchanged"

/-- What is printed about a platform. -/
def Part.lines (part : Part) : List Terminal.Line :=
  match part.product with
  | .written s =>
    Terminal.heading (part.platform.name ++ " (" ++ part.root ++ ")")
      :: s.created.map (fun path => Terminal.added (Path.relativeTo part.root path))
      ++ s.updated.map (fun path => Terminal.changed (Path.relativeTo part.root path))
      ++ [.out (summaryText s), Terminal.blank]
  | .preview files => files.flatMap fun (path, text) => [Terminal.divider path, .out text]

/-- The number of files that would be written, where nothing is. -/
def Part.previewed? (part : Part) : Option Nat :=
  match part.product with
  | .written _ => none
  | .preview files => some files.length

/-- What is printed about a run. -/
def Generation.lines (g : Generation) : List Terminal.Line :=
  let previewed := g.parts.filterMap Part.previewed?
  g.warnings.map Terminal.warning
    ++ g.parts.flatMap Part.lines
    ++ (if previewed.isEmpty then []
        else [Terminal.divider "Summary",
              .out (toString (previewed.foldl (· + ·) 0) ++ " files would be generated")])

end Bindery.Project
