import Bindery.CommandLine
import Bindery.Project.Check
import Bindery.Project.Listing

/-! What a command line does to the files, what it prints, and the code that it ends with. -/
namespace Bindery.CommandLine

/-- What a line prints and ends with. -/
structure Answer where
  /-- Zero if all went well, one if something failed, two if the line makes no sense. -/
  code : Nat
  lines : List Terminal.Line
deriving DecidableEq, Repr

/-- The name of the program and its version. -/
def versionText : String := Project.generatorName ++ " 0.3.0"

/-- How the program is used. -/
def usage : List Terminal.Line :=
  [.out "Generate addin bindings from XML metadata",
   Terminal.blank,
   .out ("Usage: " ++ Project.generatorName ++ " [-v] <command> [flags]"),
   Terminal.blank,
   Terminal.heading "Commands",
   .out "  generate  Generate source files for the enabled platforms",
   .out "  check     Validate addin.toml and metadata without generating code",
   .out "  list      List categories and functions defined in the metadata",
   Terminal.blank,
   Terminal.heading "Flags",
   .out "  -c, --config <path>    Path to addin.toml",
   .out "  -o, --output <path>    Base directory for platform roots (generate)",
   .out "  -p, --platform <name>  Platform to generate; repeat to select several (generate)",
   .out "      --dry-run          Preview generated files without writing them (generate)",
   .out "  -v, --verbose          Accepted any number of times",
   .out "  -h, --help             Print help",
   .out "  -V, --version          Print version"]

/-! ### Failures -/

/-- A text whose further lines are indented. -/
def indented (text : String) : String :=
  "\n     ".intercalate ((Text.pieces '\n' text.toList).map String.ofList)

/-- What is printed about a failure: the messages from what was attempted down to the cause. -/
def failureLines (chain : List String) : List Terminal.Line :=
  .err "Error:" :: chain.map fun message => .err ("   - " ++ indented message)

def failure (chain : List String) : Answer := { code := 1, lines := failureLines chain }

/-- What is printed about a load that failed: the message, and advice where there is some. -/
def loadFailure (e : LoadError) : Answer :=
  failure (e.message :: e.help?.toList.map fun advice => "help: " ++ advice)

/-! ### Commands -/

/-- The path of the configuration where none is given. -/
def defaultConfig : String := "addin.toml"

/-- The path of the configuration. -/
def Chosen.configPath (c : Chosen) : String := c.config.getD defaultConfig

def Chosen.order (c : Chosen) : Project.Order :=
  { outputDir := c.output, platforms := c.platforms, dryRun := c.dryRun }

/-- The project of a line with its metadata. -/
def Line.load (t : FileTree) (l : Line) : Except LoadError (Project × Metadata) := do
  let p ← Project.read t l.chosen.configPath
  return (p, ← p.metadata t)

/-- Does what a command says with a project. -/
def perform (t : FileTree) (l : Line) (p : Project) (m : Metadata) : FileTree × Answer :=
  match l.command with
  | .list => (t, { code := 0, lines := Project.listing m })
  | .check =>
    (t, match p.check m with
      | .ok c => { code := if c.isValid then 0 else 1, lines := c.lines }
      | .error fault => failure fault.chain)
  | .generate =>
    match p.generate t m l.chosen.order with
    | (t, .ok g) => (t, { code := 0, lines := g.lines })
    | (t, .error fault) => (t, failure fault.chain)

/-- What is printed where the reading of a line ends early. -/
def Stop.answer : Stop → Answer
  | .help => { code := 0, lines := usage }
  | .version => { code := 0, lines := [.out versionText] }
  | .misuse m => { code := 2, lines := [Terminal.error m.message] }

/-- Does what the arguments say. -/
def run (t : FileTree) (args : List String) : FileTree × Answer :=
  match read args with
  | .error stop => (t, stop.answer)
  | .ok l =>
    match l.load t with
    | .error e => (t, loadFailure e)
    | .ok (p, m) => perform t l p m

end Bindery.CommandLine
