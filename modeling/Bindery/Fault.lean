import Bindery.LoadError
import Bindery.Output.File
import Bindery.Registry.OfMetadata
import Bindery.Rule

/-! What stops a run, as a chain from what was attempted down to the cause. -/
namespace Bindery

/-- What stops a run. -/
inductive Fault where
  | load (error : LoadError)
  | template (fault : Template.Fault)
  | rule (fault : Rule.Fault)
  /-- A function of the metadata lacks a part. -/
  | missing (part : Registry.Missing)
  /-- The lints found errors. -/
  | lintErrors (count : Nat)
  /-- The registry has not been made. -/
  | noRegistry
  /-- Somebody else's words. -/
  | reported (message : String)
  | output (fault : OutputFile.Fault)
  /-- What was attempted, and why it failed. -/
  | within (attempt : String) (cause : Fault)
deriving DecidableEq, Repr

namespace Fault

/-- The messages from what was attempted down to the cause. -/
def chain : Fault → List String
  | load e => [e.message]
  | template f => [f.message]
  | rule f => [f.message]
  | missing part => [part.message]
  | lintErrors count => ["Validation failed with " ++ toString count ++ " error(s)"]
  | noRegistry => ["IR not set - did LowerPhase run?"]
  | reported message => [message]
  | output f => [f.message]
  | within attempt cause => attempt :: cause.chain

/-- What was attempted, or the cause if nothing is said about that. -/
def message (f : Fault) : String := f.chain.headD ""

/-- The cause at the end of a chain. -/
def root : Fault → Fault
  | within _ cause => cause.root
  | cause => cause

end Fault
end Bindery
