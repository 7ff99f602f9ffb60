import Bindery.Template

/-! Collections of templates.

A collection keeps the order in which names first came; a template put under a name that is there
takes the place of the old one. -/
namespace Bindery.Template

/-- Templates by name, each name once. -/
structure Set where
  templates : List Template := []
deriving Repr

namespace Set

/-- The names in order. -/
def names (set : Set) : List String := set.templates.map Template.name

def contains (set : Set) (name : String) : Bool := set.templates.any (·.name = name)

/-- Puts a template under its name. -/
def put (set : Set) (t : Template) : Set :=
  if set.contains t.name then ⟨set.templates.map fun old => if old.name = t.name then t else old⟩
  else ⟨set.templates ++ [t]⟩

/-- Reads a template and puts it under its name. -/
def insert (set : Set) (name source : String) : Except Fault Set := do
  return set.put (← Template.parse name source)

/-- The template under a name. -/
def get (set : Set) (name : String) : Except Fault Template :=
  match set.templates.find? (·.name = name) with
  | some t => .ok t
  | none => .error (.unknownTemplate name)

/-- Renders the template under a name. -/
def render (set : Set) (name : String) (bindings : Bindings) : Except Fault String := do
  (← set.get name).render bindings

/-- The collection of some sources. -/
def ofSources (sources : List (String × String)) : Except Fault Set :=
  sources.foldlM (fun set source => set.insert source.1 source.2) {}

/-! ### Laws -/

theorem contains_iff (set : Set) (name : String) :
    set.contains name = true ↔ name ∈ set.names := by
  simp [contains, names]

/-- Putting a template under a name that is there keeps the names. -/
theorem names_put (set : Set) (t : Template) :
    (set.put t).names = if t.name ∈ set.names then set.names else set.names ++ [t.name] := by
  by_cases h : t.name ∈ set.names
  · have hc : set.contains t.name = true := (contains_iff set t.name).2 h
    rw [if_pos h]
    simp only [put, hc, if_true, names, List.map_map]
    refine List.map_congr_left fun old _ => ?_
    by_cases ho : old.name = t.name <;> simp [ho]
  · have hc : set.contains t.name = false := by
      rw [← Bool.not_eq_true]
      exact fun hc => h ((contains_iff set t.name).1 hc)
    rw [if_neg h]
    simp [put, hc, names]

end Set
end Bindery.Template
