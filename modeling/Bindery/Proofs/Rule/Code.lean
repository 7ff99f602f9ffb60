import Bindery.Proofs.Template.Sources
import Bindery.Rule.Set

/-! What rules give.

The code of a rule may speak of a parameter's name, type, arrangement, description and default. A
group whose code keeps to that (`Group.Covered`) gives code for whatever parameters there are. -/
namespace Bindery.Rule

/-! ### Named entries -/

section Entries
variable {α : Type} {entries : List (String × α)} {name : String}

theorem mem_of_lookup {a : α} (h : entries.lookup name = some a) : (name, a) ∈ entries := by
  obtain ⟨before, after, rfl, -⟩ := List.lookup_eq_some_iff.1 h
  exact List.mem_append_right _ List.mem_cons_self

theorem lookup_eq_none : entries.lookup name = none ↔ name ∉ entries.map Prod.fst := by
  simp only [List.lookup_eq_none_iff, List.mem_map, not_exists, not_and, bne_iff_ne]
  exact forall₂_congr fun _ _ => ne_comm

theorem exists_lookup (h : name ∈ entries.map Prod.fst) : ∃ a, entries.lookup name = some a :=
  Option.ne_none_iff_exists'.1 fun hnone => lookup_eq_none.1 hnone h

end Entries

/-! ### What is asked of code -/

/-- What the code of a rule may speak of. -/
def words : List String := ["name", "type", "rank", "description", "default"]

/-- The code of every rule keeps to the words. -/
def Group.Covered (g : Group) : Prop :=
  ∀ rule ∈ g.rules, ∀ code ∈ rule.code, code.placeholders ⊆ words

/-- The code that the rules of a source refer to. -/
def Source.references (source : Source) : List String :=
  source.groups.flatMap fun g => g.2.rules.filterMap Reference.code

/-! ### Code for parameters -/

namespace Group
variable {g : Group} (h : g.Covered)
include h

theorem exists_fragment? (name : String) (type : DataType) (rank : TensorRank)
    (description default : String) :
    ∃ s, g.fragment? type rank (bindings name type rank description default) = .ok s := by
  rw [fragment?]
  cases hcode : (g.rules.find? (·.fits type rank)).bind Rule.code with
  | none => exact ⟨none, rfl⟩
  | some code =>
    obtain ⟨rule, hrule, hcode⟩ := Option.bind_eq_some_iff.1 hcode
    exact exists_map (Template.exists_render (h rule (List.mem_of_find?_eq_some hrule) code hcode)) _

theorem exists_parameterFragment? (replaced : Option (String × String)) (p : Registry.Parameter) :
    ∃ s, g.parameterFragment? replaced p = .ok s := by
  rw [parameterFragment?]
  split
  · exact ⟨none, rfl⟩
  · split
    · exact ⟨_, rfl⟩
    · exact exists_fragment? h ..

theorem exists_applyReplacing (ps : List Registry.Parameter) (replaced : Option (String × String)) :
    ∃ s, g.applyReplacing ps replaced = .ok s :=
  exists_bind (exists_mapM fun p _ => exists_parameterFragment? h replaced p) fun _ _ => ⟨_, rfl⟩

theorem exists_applyReturn (name : String) (value : ReturnValue) :
    ∃ s, g.applyReturn name value = .ok s :=
  exists_bind (exists_fragment? h ..) fun _ _ => ⟨_, rfl⟩

end Group

/-! ### Groups of a set -/

namespace Set

/-- A group is found under each name that there is. -/
theorem exists_group {set : Set} {name : String} (h : name ∈ set.names) :
    ∃ g ∈ set.groups, set.group name = .ok g := by
  obtain ⟨g, hg, hname⟩ := List.mem_map.1 h
  rw [group]
  cases hfind : set.groups.find? (·.name = name) with
  | none => exact absurd hname (by simpa using List.find?_eq_none.1 hfind g hg)
  | some g' => exact ⟨g', List.mem_of_find?_eq_some hfind, rfl⟩

end Set
end Bindery.Rule
