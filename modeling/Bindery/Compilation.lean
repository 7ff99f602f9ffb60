import Bindery.Fault
import Bindery.Lint

/-! Compilations: metadata on its way to the registry.

A compilation goes through phases. Each leaves it changed, also when it fails, and the first that
fails is the last. -/
namespace Bindery

/-- The state of a compilation. -/
structure Compilation where
  project : ProjectNames
  metadata : Metadata
  registry : Option Registry := none
  diagnostics : List Diagnostic := []

namespace Compilation

def errors (c : Compilation) : List Diagnostic := c.diagnostics.filter (·.isError)

def warnings (c : Compilation) : List Diagnostic := c.diagnostics.filter (·.isWarning)

/-- Adds a finding. -/
def add (c : Compilation) (d : Diagnostic) : Compilation :=
  { c with diagnostics := c.diagnostics ++ [d] }

/-- The registry, once it is made. -/
def theRegistry (c : Compilation) : Except Fault Registry :=
  match c.registry with
  | some r => .ok r
  | none => .error .noRegistry

/-- Gives the registry away, once it is made. -/
def takeRegistry (c : Compilation) : Except Fault (Registry × Compilation) :=
  c.theRegistry.map fun r => (r, { c with registry := none })

/-- A phase: what it does to a compilation, and whether it fails. -/
structure Phase where
  name : String
  description : String
  run : Compilation → Compilation × Except Fault Unit

namespace Phase

/-- Adds the findings of lints; fails if there are errors among all findings. -/
def validate (lints : List Lint) : Phase where
  name := "validate"
  description := "Check metadata integrity and collect diagnostics"
  run c :=
    let c := { c with diagnostics := c.diagnostics ++ lints.flatMap (·.findings c.metadata) }
    (c, if c.errors.isEmpty then .ok () else .error (.lintErrors c.errors.length))

/-- Makes the registry. -/
def lower : Phase where
  name := "lower"
  description := "Post-process metadata into the function registry"
  run c :=
    match Registry.ofMetadata c.project c.metadata with
    | .ok r => ({ c with registry := some r }, .ok ())
    | .error part => (c, .error (.missing part))

end Phase

/-- The phases that every compilation goes through. -/
def standard (lints : List Lint := Lint.defaults) : List Phase := [.validate lints, .lower]

/-- Goes through phases up to the first that fails. -/
def run (c : Compilation) : List Phase → Compilation × Except Fault Unit
  | [] => (c, .ok ())
  | phase :: rest =>
    match phase.run c with
    | (c, .ok ()) => run c rest
    | (c, .error fault) => (c, .error fault)

end Compilation
end Bindery
