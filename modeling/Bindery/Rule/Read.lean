import Bindery.Rule.Set
import Bindery.Toml.Document

/-! Rules from TOML. -/
namespace Bindery.Rule

open Toml (Record Value)

/-- An arrangement by its word. -/
def readRank (v : Value) : Option TensorRank := v.word? TensorRank.vocabulary.find?

/-- A type by its word. -/
def readType (v : Value) : Option DataType := v.word? DataType.vocabulary.find?

/-- An entry of `rules`. -/
def Reference.ofValue (v : Value) : Option Reference := do
  let r ← Record.of? ["rank", "type", "code"] 3 v
  some { rank := ← r.optional "rank" readRank
         type := ← r.optional "type" readType
         code := ← r.optional "code" Value.string? }

/-- A table of `groups`. -/
def GroupSource.ofValue (v : Value) : Option GroupSource := do
  let r ← Record.of? ["delimiter", "indent", "prefix", "suffix", "skip_implicit", "rules"] 0 v
  some { delimiter := ← r.defaulted "delimiter" Value.string? ", "
         indent := ← r.defaulted "indent" Value.count? 0
         before := ← r.defaulted "prefix" Value.string? ""
         after := ← r.defaulted "suffix" Value.string? ""
         skipImplicit := ← r.defaulted "skip_implicit" Value.boolean? false
         rules := ← r.defaulted "rules" (Value.list? Reference.ofValue) [] }

/-- A document of rules. -/
def Source.ofValue (v : Value) : Option Source := do
  let r ← Record.of? ["codes", "groups"] 0 v
  some { codes := ← r.defaulted "codes" (Value.entries? Value.string?) []
         groups := ← r.defaulted "groups" (Value.entries? GroupSource.ofValue) [] }

/-- The rules in a text; `origin` names the text in a complaint. -/
def Set.parse (content origin : String) : Except Fault Set :=
  match (Toml.document? content).bind Source.ofValue with
  | some source => Set.ofSource source
  | none => .error (.malformed origin)

end Bindery.Rule
