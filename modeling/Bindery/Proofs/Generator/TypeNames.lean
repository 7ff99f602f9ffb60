import Bindery.Proofs.Generator.Prototypes
import Bindery.Proofs.Registry.Shapes

/-! The names of types in generated code.

Three of the types that metadata knows are types of C++ by the same names. The others are not, and the
code for their values has to name the C++ types that hold them. The rules see to that with code of their
own in front of the code that writes the name of whatever type it is for. Some groups lack it for
matrices: the groups and types that are missed are listed (`gaps`), and nothing else is
(`writesType_iff`). -/
namespace Bindery

/-- The types that are types of C++ by the same names. -/
def DataType.common : List DataType := [.long, .double, .bool]

/-- The types and arrangements of what a function takes and returns. -/
def Registry.Function.values (f : Function) : List (DataType × TensorRank) :=
  f.parameters.map (fun p => (p.type, p.rank)) ++ [(f.returnValue.type, f.returnValue.rank)]

theorem Registry.Function.Shaped.vector {f : Function} (h : f.Shaped) :
    ∀ v ∈ f.values, v.1 = .property → v.2 = .vector :=
  List.forall_mem_append.2 ⟨List.forall_mem_map.2 h.parameters,
    List.forall_mem_singleton.2 h.returnValue⟩

/-! ### Code that writes a name -/

/-- The characters of a source have a placeholder with a name. -/
def Template.mentions (word : String) (cs : List Char) : Bool :=
  (pieces? cs).any (·.contains (.placeholder word))

namespace Rule

/-- The code of a group for a type and an arrangement writes the name of the type. -/
def Group.WritesType (g : Group) (type : DataType) (rank : TensorRank) : Prop :=
  ∃ code ∈ (g.rules.find? (·.fits type rank)).bind Rule.code, "type" ∈ code.placeholders

/-- Code that does not write the name of the type is the same whatever that name is. -/
theorem Group.fragment?_congr {g : Group} {type : DataType} {rank : TensorRank}
    (hg : ¬ g.WritesType type rank) {bs bs' : Bindings}
    (h : ∀ word, word ≠ "type" → bs.value? word = bs'.value? word) :
    g.fragment? type rank bs = g.fragment? type rank bs' := by
  rw [fragment?, fragment?]
  cases hcode : (g.rules.find? (·.fits type rank)).bind Rule.code with
  | none => rfl
  | some code =>
    have hrender : code.render bs = code.render bs' := Template.render_congr fun word hword =>
      h word fun htype => hg ⟨code, hcode, htype ▸ hword⟩
    simp only [hrender]

namespace Source
variable (source : Source) (group : String) (type : DataType) (rank : TensorRank)

/-- The name of the code that a source has in a group for a type and an arrangement. -/
def codeName? : Option String :=
  (((source.groups.lookup group).getD {}).rules.find? (·.fits type rank)).bind Reference.code

theorem code?_group : ((source.group group).rules.find? (·.fits type rank)).bind Rule.code =
    (source.codeName? group type rank).bind source.template? := by
  rw [Source.group, Source.resolved, List.find?_map, codeName?, Option.bind_map, Option.bind_assoc]
  rfl

variable {source group type rank}

theorem mem_references {id : String} (h : source.codeName? group type rank = some id) :
    id ∈ source.references := by
  obtain ⟨r, hr, hid⟩ := Option.bind_eq_some_iff.1 h
  cases hlookup : source.groups.lookup group with
  | none => simp [hlookup] at hr
  | some g =>
    rw [hlookup, Option.getD_some] at hr
    exact List.mem_flatMap.2 ⟨_, mem_of_lookup hlookup,
      List.mem_filterMap.2 ⟨r, List.mem_of_find?_eq_some hr, hid⟩⟩

/-- The template of a piece of code has the placeholders that its characters have. -/
theorem exists_template? {id : String} (hid : id ∈ source.codes.map Prod.fst) :
    ∃ code, (id, code) ∈ source.codes ∧ ∀ word,
      (∃ t ∈ source.template? id, word ∈ t.placeholders) ↔
        Template.mentions word code.toList = true := by
  obtain ⟨code, hlookup⟩ := exists_lookup hid
  refine ⟨code, mem_of_lookup hlookup, fun word => ?_⟩
  rw [template?, hlookup, Option.bind_some, Template.parse, toOption_map,
    Template.toOption_segmentsFrom, Template.mentions]
  cases Template.pieces? code.toList with
  | none => simp
  | some pieces => simp [Template.mem_placeholders]

/-- A group writes the name of a type where the code that its source has for it does. -/
theorem writesType_group {named : List String}
    (hknown : source.references ⊆ source.codes.map Prod.fst)
    (hnamed : ∀ code ∈ source.codes,
      Template.mentions "type" code.2.toList = decide (code.1 ∈ named)) :
    (source.group group).WritesType type rank ↔
      ∃ id ∈ source.codeName? group type rank, id ∈ named := by
  rw [Group.WritesType, code?_group]
  cases hid : source.codeName? group type rank with
  | none => simp
  | some id =>
    obtain ⟨code, hcode, htemplate⟩ := exists_template? (hknown (mem_references hid))
    simpa [hnamed _ hcode] using htemplate "type"

end Source
end Rule

namespace Generator

open Metadata (append_chars)

/-- The code of a platform that writes the name of a type. -/
def typeCodes : Platform → List String
  | .c => ["arg_matrix", "arg_scalar", "arg_vector", "convert_matrix", "convert_vector",
      "result_matrix", "result_scalar", "result_vector", "type_matrix", "type_scalar", "type_vector"]
  | .excel => ["arg_scalar", "convert_matrix", "convert_vector", "return_scalar", "type_matrix",
      "type_scalar", "type_vector", "xl_scalar"]
  | .doxygen => ["matrix", "scalar", "type_matrix", "type_scalar", "type_vector", "vector"]
  | .serialization => ["read_matrix", "read_scalar", "read_vector"]
  | .valueObjects => ["arg_matrix", "arg_scalar", "arg_vector", "member_matrix", "member_scalar",
      "member_vector", "set_matrix", "set_scalar", "set_vector"]

/-- The groups of a platform that write the name of a type for matrices of it, although the type is
none of C++. -/
def gaps : Platform → List (String × DataType)
  | .c => [("conversions", .any), ("result", .string), ("result", .any), ("return_type", .any)]
  | .serialization => [("conversions", .any)]
  | .valueObjects => [("constructor_parameters", .any), ("definition_parameters", .any),
      ("members", .any), ("set_property", .any)]
  | .excel | .doxygen => []

theorem mentions_type (platform : Platform) : ∀ code ∈ (rules platform).codes,
    Template.mentions "type" code.2.toList = decide (code.1 ∈ typeCodes platform) := by
  have hcodes : ∀ code ∈ (rules platform).codes,
      (Template.mentions "type" code.2.toList == decide (code.1 ∈ typeCodes platform)) = true := by
    cases platform <;>
      exact Text.Spelled.all_sources
        (fun id cs => Template.mentions "type" cs == decide (id ∈ typeCodes _))
        (by repeat constructor) (by decide +kernel)
  exact fun code hcode => eq_of_beq (hcodes code hcode)

/-- The types that are none of C++, as they can occur. -/
def uncommon : List (DataType × TensorRank) :=
  [(.string, .scalar), (.string, .vector), (.string, .matrix),
   (.any, .scalar), (.any, .vector), (.any, .matrix), (.property, .vector)]

theorem mem_uncommon {v : DataType × TensorRank} (hv : v.1 ∉ DataType.common)
    (hproperty : v.1 = .property → v.2 = .vector) : v ∈ uncommon := by
  obtain ⟨type, rank⟩ := v
  cases type <;> cases rank <;> revert hv hproperty <;> decide

/-- Which groups have code that writes the name of a type, where the type is none of C++. -/
theorem typeCode_iff_gap {platform : Platform} (hplatform : platform ≠ .doxygen) :
    ∀ name ∈ (rules platform).groups.map Prod.fst, ∀ v ∈ uncommon,
      (∃ id ∈ (rules platform).codeName? name v.1 v.2, id ∈ typeCodes platform) ↔
        v.2 = .matrix ∧ (name, v.1) ∈ gaps platform := by
  cases platform with
  | doxygen => exact absurd rfl hplatform
  | c => decide +kernel
  | excel => decide +kernel
  | serialization => decide +kernel
  | valueObjects => decide +kernel

/-! ### Functions of loaded metadata -/

/-- **The names of types that are none of C++.** For every function of a registry that is made of loaded
metadata, whether or not it would go through the lints, a group of rules writes the name of the type of
a parameter or of the return value, where that is no type of C++, only for matrices and in the gaps, and
there it does. Everywhere else the code for such a value is the same whatever the name of its type is. -/
theorem writesType_iff (tree : FileTree) {project : ProjectNames} {m : Metadata}
    (hm : ∀ c ∈ m.categories, ∃ source filename, Metadata.Category.parse source filename = .ok c)
    {r : Registry} (hmade : Registry.ofMetadata project m = .ok r) {platform : Platform}
    (hplatform : platform ≠ .doxygen) :
    ∃ kit : Kit,
      (∀ settings, load tree none settings r platform = .ok (ofKit kit settings r platform)) ∧
      ∀ name g, kit.rules.group name = .ok g →
        ∀ c ∈ r.categories, ∀ f ∈ c.functions, ∀ v ∈ f.values, v.1 ∉ DataType.common →
          (g.WritesType v.1 v.2 ↔ v.2 = .matrix ∧ (name, v.1) ∈ gaps platform) ∧
          (¬ (v.2 = .matrix ∧ (name, v.1) ∈ gaps platform) → ∀ bs bs' : Bindings,
            (∀ word, word ≠ "type" → bs.value? word = bs'.value? word) →
              g.fragment? v.1 v.2 bs = g.fragment? v.1 v.2 bs') := by
  have hshaped := Registry.ofMetadata_shaped (Metadata.sound_of_parsed hm) hmade
  obtain ⟨kit, hkit, hload⟩ := exists_supplied tree platform
  refine ⟨kit, fun settings => hload settings r, fun name g hg c hc f hf v hv hcommon => ?_⟩
  obtain ⟨hname, rfl⟩ := hkit.eq_group hg
  have hvector := (hshaped c hc f hf).vector v hv
  have hwrites : ((rules platform).group name).WritesType v.1 v.2 ↔
      v.2 = .matrix ∧ (name, v.1) ∈ gaps platform :=
    (Rule.Source.writesType_group (references_known platform) (mentions_type platform)).trans
      (typeCode_iff_gap hplatform name hname v (mem_uncommon hcommon hvector))
  exact ⟨hwrites, fun hgap _ _ => Rule.Group.fragment?_congr (mt hwrites.1 hgap)⟩

/-- A function for C that returns a matrix of strings. -/
def nameTableSource : String :=
  "<C name='a'><Functions><Procedure name='f'>"
    ++ "<SupportedPlatforms><SupportedPlatform name='C'/></SupportedPlatforms>"
    ++ "<ReturnValue><type>string</type><tensorRank>matrix</tensorRank></ReturnValue>"
    ++ "</Procedure></Functions></C>"

/-- The category of `nameTableSource`. -/
def nameTable : Metadata where
  categories :=
    [⟨"a", "a", "", [],
      [⟨"f", .procedure, none, none, none, none, none, none, none, false, true,
        [⟨"C", .auto, true, false⟩], [], some ⟨.string, .matrix, ""⟩⟩]⟩]
  enumerations := []

/-- The function is accepted, and its prototype has the name of the type, which C++ does not have. -/
theorem writesType_nameTable :
    (∀ c ∈ nameTable.categories, Metadata.Category.parse nameTableSource "a.xml" = .ok c) ∧
      ∃ after r kit, (Compilation.fresh ⟨"P", "P", "p"⟩ nameTable).run Compilation.standard =
          (after, .ok ()) ∧ after.registry = some r ∧
        (∀ settings, load {} none settings r .c = .ok (ofKit kit settings r .c)) ∧
        ∃ g, kit.rules.group "result" = .ok g ∧
        ∃ c ∈ r.categories, ∃ f ∈ C.declared c, (.string, .matrix) ∈ f.values ∧
          g.WritesType .string .matrix ∧ kit.returnValue "result" "result" f.returnValue =
            .ok "    string **result, long *resultRows, long *resultCols" := by
  have hparse : ∀ c ∈ nameTable.categories,
      Metadata.Category.parse nameTableSource "a.xml" = .ok c :=
    Metadata.parse_of_chars
      (append_chars (append_chars (append_chars rfl rfl) rfl) rfl)
      (by decide +kernel)
  have hrun : (((Compilation.fresh ⟨"P", "P", "p"⟩ nameTable).run Compilation.standard).2.toOption,
      ((Compilation.fresh ⟨"P", "P", "p"⟩ nameTable).run Compilation.standard).1.registry.map
        (·.categories.map fun c => (C.declared c).map Registry.Function.returnValue)) =
      (some (), some [[⟨.string, .matrix, ""⟩]]) := by decide +kernel
  obtain ⟨after, r, houtcome, hr, hvalues⟩ := Compilation.exists_registry hrun
  have hparsed : ∀ c ∈ nameTable.categories, ∃ source filename,
      Metadata.Category.parse source filename = .ok c := fun c hc => ⟨_, _, hparse c hc⟩
  obtain ⟨-, hmade⟩ := Compilation.registry_of_run (Metadata.sound_of_parsed hparsed) houtcome hr
  obtain ⟨kit, hload, hwrites⟩ := writesType_iff {} hparsed hmade
    (show Platform.c ≠ .doxygen by decide)
  have hkit := supplied_of_load (hload (.standard ⟨"P", "P", "p"⟩))
  have hgroup : kit.rules.group "result" = .ok (C.rules.group "result") :=
    hkit.group_eq (by decide)
  obtain ⟨c, hc, hdeclared⟩ := List.mem_map.1 (hvalues ▸ List.mem_cons_self)
  obtain ⟨f, hf, hvalue⟩ := List.mem_map.1 (hdeclared ▸ List.mem_cons_self)
  have hmem : (DataType.string, TensorRank.matrix) ∈ f.values := by
    rw [Registry.Function.values, hvalue]
    exact List.mem_append_right _ List.mem_cons_self
  have htext := C.returnValue_result hkit f
  rw [hvalue] at htext
  refine ⟨hparse, after, r, kit, houtcome, hr, hload, _, hgroup, c, hc, f, hf, hmem, ?_,
    hvalue ▸ htext.trans (congrArg Except.ok (by decide +kernel))⟩
  exact (hwrites _ _ hgroup c hc f (List.mem_of_mem_filter hf) _ hmem (by decide)).1.2
    ⟨rfl, by decide⟩

end Generator
end Bindery
