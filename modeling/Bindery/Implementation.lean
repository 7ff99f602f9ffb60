import Bindery.Vocabulary

/-! How much of a function is generated for a platform.

The levels are ordered: what is supported at one level is supported at every level below it. -/
namespace Bindery

/-- How much of a function is generated. -/
inductive Implementation where
  /-- Documentation and no code. -/
  | documentationOnly
  /-- Declarations and registrations for a body written by hand. -/
  | manual
  /-- Everything. -/
  | auto
deriving DecidableEq, Repr

namespace Implementation

def name : Implementation → String
  | documentationOnly => "documentationOnly"
  | manual => "manual"
  | auto => "auto"

/-- The words for levels. -/
def vocabulary : Vocabulary Implementation where
  noun := "implementation"
  values := [.documentationOnly, .manual, .auto]
  name := name

/-- The height of a level. -/
def height : Implementation → Nat
  | documentationOnly => 0
  | manual => 1
  | auto => 2

instance : LE Implementation := ⟨fun a b => a.height ≤ b.height⟩

instance (a b : Implementation) : Decidable (a ≤ b) :=
  inferInstanceAs (Decidable (a.height ≤ b.height))

/-- The level of a function that does not name one. -/
instance : Inhabited Implementation := ⟨auto⟩

theorem find?_name (a : Implementation) : vocabulary.find? a.name = some a := by
  cases a <;> decide +kernel

theorem find?_eq_some {word : String} {a : Implementation} :
    vocabulary.find? word = some a ↔ word = a.name :=
  ⟨fun h => List.mem_singleton.1 (vocabulary.fold_mem_wordsOf h), fun h => h ▸ find?_name a⟩

end Implementation
end Bindery
