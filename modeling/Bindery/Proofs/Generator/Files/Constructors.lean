import Bindery.Proofs.Generator.Files.Classes
import Bindery.Proofs.Generator.Files.Registration

/-! Constructors in the files that keep objects and rebuild them.

An object that is kept is rebuilt by its creator from its value object, which an addin reads and
writes by its class. So the creators, the classes and their registrations are all made for the same
constructors (`constructors_covered`). -/
namespace Bindery

/-- Where the names of categories differ, the categories with constructors are named once. -/
theorem Registry.count_constructing {r : Registry} (hnames : (r.categories.map (·.name)).Nodup)
    {c : Registry.Category} (hc : c ∈ r.categories) :
    (r.constructing.map (·.name)).count c.name = if c.constructors.isEmpty then 0 else 1 := by
  have hmem : c.name ∈ r.constructing.map (·.name) ↔ ¬ c.constructors.isEmpty = true := by
    rw [List.mem_map]
    constructor
    · rintro ⟨d, hd, hname⟩
      rw [constructing, List.mem_filter] at hd
      obtain rfl := List.inj_on_of_nodup_map hnames hd.1 hc hname
      simpa using hd.2
    · exact fun hne => ⟨c, List.mem_filter.2 ⟨hc, by simpa using hne⟩, rfl⟩
  have hnodup : (r.constructing.map (·.name)).Nodup := hnames.sublist (List.filter_sublist.map _)
  rw [hnodup.count]
  by_cases hempty : c.constructors.isEmpty = true
  · rw [if_neg (mt hmem.1 (not_not_intro hempty)), if_pos hempty]
  · rw [if_pos (hmem.2 hempty), if_neg hempty]

namespace Generator

/-- **Creators, classes and registrations are made for the same constructors.** Each category with
constructors has two files each of creators, of classes and of registrations, and each of these has
one part for each constructor in order; a category without constructors has none. The factory, the
headers of all categories and the registrations of an addin name the categories with constructors,
each once and in order. -/
theorem constructors_covered (tree : FileTree) {r : Registry}
    (hnames : (r.categories.map (·.name)).Nodup) : ∃ creators classes excel : Kit,
    (∀ settings, load tree none settings r .serialization =
      .ok (ofKit creators settings r .serialization)) ∧
    (∀ settings, load tree none settings r .valueObjects =
      .ok (ofKit classes settings r .valueObjects)) ∧
    (∀ settings, load tree none settings r .excel = .ok (ofKit excel settings r .excel)) ∧
    (∃ rest, Serialization.Files creators r rest) ∧
    (∃ declared defined, ValueObjects.Files classes r declared defined) ∧
    (∀ settings, Registration.Files settings excel r ∧
      ∃ functions, pagesOf excel settings r .excel = functions ++ settings.pages excel r) ∧
    r.constructing.Sublist r.categories ∧
    ∀ c ∈ r.categories, (r.constructing.map (·.name)).count c.name =
      if c.constructors.isEmpty then 0 else 1 := by
  obtain ⟨creators, hcreators, hload⟩ := exists_supplied tree .serialization
  obtain ⟨classes, hclasses, hload'⟩ := exists_supplied tree .valueObjects
  obtain ⟨excel, hexcel, hload''⟩ := exists_supplied tree .excel
  refine ⟨creators, classes, excel, (hload · r), (hload' · r), (hload'' · r),
    Serialization.exists_files hcreators r, ValueObjects.exists_files hclasses r,
    fun settings => ⟨Registration.files settings hexcel r, ?_⟩,
    List.filter_sublist, fun c hc => Registry.count_constructing hnames hc⟩
  exact ⟨_, (List.append_assoc _ [_] _).symm⟩

/-- A category with a constructor that is only described, and one with two constructors. -/
def shelves : Registry where
  project := ⟨"P", "P", "p"⟩
  categories :=
    [⟨"bonds", "Bonds", "", [],
      [⟨"bond", .constructor "Bond", "", none, "P::bond", true, false, [], [],
        ⟨.string, .scalar, ""⟩⟩]⟩,
     ⟨"curves", "Curves", "", [],
      [⟨"curve", .constructor "Curve", "", none, "P::curve", false, false, [], [],
        ⟨.string, .scalar, ""⟩⟩,
       ⟨"surface", .constructor "Surface", "", none, "P::surface", false, false, [], [],
        ⟨.string, .scalar, ""⟩⟩]⟩]
  enumerations := []

/-- The first category is not named, and the second one is named once. -/
theorem constructors_shelves :
    (shelves.categories.map (·.name)).Nodup ∧
      shelves.categories.map (·.constructors.map (·.name)) = [[], ["curve", "surface"]] ∧
      (shelves.constructing.map (·.name)).count "bonds" = 0 ∧
      (shelves.constructing.map (·.name)).count "curves" = 1 ∧
      ∃ creators : Kit, (∀ settings, load {} none settings shelves .serialization =
          .ok (ofKit creators settings shelves .serialization)) ∧
        ∃ rest, Serialization.Files creators shelves rest := by
  have hnames : (shelves.categories.map (·.name)).Nodup := by decide
  obtain ⟨creators, _, _, hload, -, -, hfiles, -, -, -, hcount⟩ := constructors_covered {} hnames
  have hbonds := hcount _ List.mem_cons_self
  have hcurves := hcount _ (List.mem_cons_of_mem _ List.mem_cons_self)
  exact ⟨hnames, by decide, hbonds, hcurves, creators, hload, hfiles⟩

end Generator
end Bindery
