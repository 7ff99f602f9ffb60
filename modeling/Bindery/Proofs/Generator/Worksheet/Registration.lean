import Bindery.Proofs.Generator.Builtin
import Bindery.Proofs.Text.Arguments

/-! Registrations of worksheet functions.

The registration of a function is a call with a comment before most of its arguments. Whatever the
function is called and described by, reading the call gives exactly the arguments that were put in
(`registration_eq`, `arguments?_registration`). -/
namespace Bindery.Generator.Excel

/-! ### The text of a registration -/

/-- What stands before an argument that has a comment. -/
def lead (comment : String) : String := ",\n        // " ++ comment ++ "\n        "

/-- What stands before the description of a parameter. -/
def nextLine : String := ",\n        "

/-- A text as an argument. -/
def temporary (s : String) : String := "TempStrNoSize(" ++ Text.counted s ++ ")"

theorem temporary_eq (s : String) : temporary s = "TempStrNoSize(" ++ Text.counted s ++ ")" := by
  unfold temporary
  rfl

/-- The pieces of the template of a registration. -/
def registerSegments : List Segment := [
  .text ("    Excel(" ++ "xlfRegister" ++ ", " ++ "0" ++ ", "), .placeholder "count",
  .text (", " ++ "&xDll" ++ lead "function code name" ++ "TempStrNoSize("),
  .placeholder "code_name",
  .text (")" ++ lead "parameter codes" ++ "TempStrNoSize("), .placeholder "parameter_codes",
  .text (")" ++ lead "function display name" ++ "TempStrNoSize("), .placeholder "display_name",
  .text (")" ++ lead "comma-delimited list of parameters" ++ "TempStrNoSize("),
  .placeholder "parameter_list",
  .text (")" ++ lead "function type (1 = worksheet function)" ++ temporary "1"
    ++ lead "function category" ++ "TempStrNoSize("), .placeholder "category",
  .text (")" ++ lead "shortcut text" ++ temporary "" ++ lead "help topic" ++ temporary ""
    ++ lead "function description" ++ "TempStrNoSize("), .placeholder "description",
  .text ")", .placeholder "parameter_descriptions", .text (")" ++ ";\n")]

set_option maxRecDepth 2000 in
theorem parse_register : Template.parse "excel.register" registerTemplate =
    .ok ⟨"excel.register", registerSegments⟩ := by
  refine Template.parse_lines (by repeat constructor) ?_
  decide +kernel

theorem parse_registerParameter :
    Template.parse "excel.register_parameter" registerParameter =
      .ok ⟨"excel.register_parameter",
        [.text (nextLine ++ "TempStrNoSize("), .placeholder "description", .text ")"]⟩ := by
  refine Template.parse_lines (by repeat constructor) ?_
  decide +kernel

/-- The texts of a registration, each with its comment. -/
def commentedTexts (name codes parameterList category description : String) :
    List (String × String) :=
  [("function code name", name), ("parameter codes", codes), ("function display name", name),
    ("comma-delimited list of parameters", parameterList),
    ("function type (1 = worksheet function)", "1"), ("function category", category),
    ("shortcut text", ""), ("help topic", ""), ("function description", description)]

/-- The arguments of a registration after the one that says what to call, each with what stands
before it. -/
def leadingArguments (count name codes parameterList category description : String) :
    List (String × String) :=
  [(", ", "0"), (", ", count), (", ", "&xDll")]
    ++ (commentedTexts name codes parameterList category description).map fun a =>
      (lead a.1, temporary a.2)

/-- Arguments as they stand in a call. -/
def writtenArguments (arguments : List (String × String)) : String :=
  String.join (arguments.map fun a => a.1 ++ a.2)

theorem render_register (count name codes parameterList category description rest : String) :
    Template.render ⟨"excel.register", registerSegments⟩
        [("count", count),
         ("code_name", Text.counted name),
         ("display_name", Text.counted name),
         ("parameter_codes", Text.counted codes),
         ("parameter_list", Text.counted parameterList),
         ("category", Text.counted category),
         ("description", Text.counted description),
         ("parameter_descriptions", rest)] =
      .ok ("    Excel(" ++ ("xlfRegister"
        ++ writtenArguments (leadingArguments count name codes parameterList category description)
        ++ rest ++ ")" ++ ";\n")) := by
  have hbound : Template.placeholders ⟨"excel.register", registerSegments⟩ ⊆
      ["count", "code_name", "display_name", "parameter_codes", "parameter_list", "category",
        "description", "parameter_descriptions"] := by decide
  refine (Template.render_of_bound hbound).trans (congrArg Except.ok ?_)
  simp only [registerSegments, List.map_cons, List.map_nil, Segment.filled, String.join_cons,
    String.join_nil]
  -- The pieces are kept apart, so that they are the same on both sides.
  simp [Bindings.value?, writtenArguments, leadingArguments, commentedTexts, temporary_eq,
    String.append_assoc, -String.reduceAppend]

section Supplied
variable {kit : Kit}
  (htemplates : Template.Set.ofSources (Generator.templates .excel) = .ok kit.templates)
include htemplates

theorem render_eq_of_parse {source : String × String} (hsource : source ∈ templates)
    {t : Template} (hparse : Template.parse source.1 source.2 = .ok t) {bindings : Bindings}
    {s : String} (hrender : t.render bindings = .ok s) : kit.render source.1 bindings = .ok s := by
  have hget : kit.templates.get source.1 = .ok t := by
    rw [Template.Set.get_ofSources (keeps_words .excel) (words_distinct .excel) htemplates
      (List.mem_append_left _ hsource), hparse]
  exact mapError_eq_ok.2 (bind_eq_ok.2 ⟨t, hget, hrender⟩)

theorem registerParameter_eq (description : String) :
    kit.render "excel.register_parameter" [("description", Text.counted description)] =
      .ok (nextLine ++ temporary description) := by
  have hsource : ("excel.register_parameter", registerParameter) ∈ templates := by
    simp [templates]
  refine render_eq_of_parse htemplates hsource parse_registerParameter ?_
  refine (Template.render_of_bound (by simp [Template.placeholders])).trans (congrArg Except.ok ?_)
  simp [Segment.filled, Bindings.value?, temporary_eq, String.append_assoc]

/-- The registration of a function is a call with its arguments. -/
theorem registration_eq (project : ProjectNames) (c : Registry.Category) {f : Registry.Function}
    {codes parameterList : String} (hcodes : typeCodes kit f = .ok codes)
    (hlist : kit.parameters "parameter_list" f.parameters = .ok parameterList) :
    registration kit project c f = .ok ("    Excel(" ++ ("xlfRegister"
      ++ writtenArguments (leadingArguments (toString (fixedArguments + f.parameters.length))
        f.name codes parameterList (project.name ++ " - " ++ c.displayName)
        ((descriptions f).headD ""))
      ++ String.join ((descriptions f).tail.map (nextLine ++ temporary ·)) ++ ")" ++ ";\n")) := by
  have hdescriptions : ((descriptions f).tail.mapM fun description =>
      kit.render "excel.register_parameter" [("description", Text.counted description)]) =
        .ok ((descriptions f).tail.map (nextLine ++ temporary ·)) :=
    mapM_eq_map fun description _ => registerParameter_eq htemplates description
  have hsource : ("excel.register", registerTemplate) ∈ templates := by simp [templates]
  refine bind_eq_ok.2 ⟨_, hcodes, bind_eq_ok.2 ⟨_, hdescriptions, bind_eq_ok.2 ⟨_, hlist, ?_⟩⟩⟩
  exact render_eq_of_parse htemplates hsource parse_register (render_register ..)

end Supplied

/-! ### Its arguments -/

section Arguments

open Text.Call

theorem begins_lead {comment : String} (h : '\n' ∉ comment.toList) : Begins (lead comment) := by
  intro finished current
  have hopen : Reader.read ⟨.code, 0, finished, current⟩ ",\n        // ".toList =
      ⟨.comment, 0, finished ++ [current], []⟩ := rfl
  have hend : "\n        ".toList = ['\n'] ++ "        ".toList := rfl
  unfold lead
  rw [String.toList_append, String.toList_append, hend, List.append_assoc,
    Reader.read_append, hopen, ← List.append_assoc, Reader.read_append, Reader.read_comment rfl h]
  rfl

theorem begins_nextLine : Begins nextLine := fun _ _ => rfl

theorem begins_comma : Begins ", " := fun _ _ => rfl

theorem whole_temporary (s : String) : Whole (temporary s) := by
  intro finished
  have hname : "TempStrNoSize".toList.all Reader.isPlain = true := by decide
  have hopen : "TempStrNoSize(".toList = "TempStrNoSize".toList ++ ['('] := by decide
  rw [temporary_eq, String.toList_append, String.toList_append, hopen, Reader.read_append,
    Reader.read_append, Reader.read_append, Reader.read_plain rfl hname,
    Reader.read_counted (by rfl)]
  -- What the name and the literal hold does not matter to the parenthesis after them.
  generalize (Text.counted s).toList = literal, "TempStrNoSize".toList = name
  rfl

theorem isDigit_of_mem_toString {n : Nat} {c : Char} (h : c ∈ (toString n).toList) :
    c.isDigit = true := by
  rw [Nat.toString_eq_repr, Nat.toList_repr] at h
  exact Nat.isDigit_of_mem_toDigits (by decide) (by decide) h

theorem whole_count (n : Nat) : Whole (toString n) := by
  refine whole_of_plain (List.all_eq_true.2 fun c hc => ?_)
  have hdigit := isDigit_of_mem_toString hc
  have hmarks : Reader.marks.all (fun mark => !mark.isDigit) = true := by decide
  rw [Reader.isPlain, Bool.not_eq_true', List.contains_eq_mem, decide_eq_false_iff_not]
  intro hmem
  have hmark := List.all_eq_true.1 hmarks c hmem
  rw [hdigit] at hmark
  cases hmark

theorem whole_word : ∀ word ∈ ["xlfRegister", "0", "&xDll"], Whole word := by
  have hplain : ∀ word ∈ ["xlfRegister", "0", "&xDll"],
      word.toList.all Reader.isPlain = true := by decide
  exact fun word hword => whole_of_plain (hplain word hword)

/-- Comments end with their lines. -/
theorem not_mem_comment (name codes parameterList category description : String) :
    ∀ a ∈ commentedTexts name codes parameterList category description, '\n' ∉ a.1.toList := by
  have hall : ∀ comment ∈ (commentedTexts name codes parameterList category description).map
      Prod.fst, '\n' ∉ comment.toList := by
    show ∀ comment ∈ ["function code name", "parameter codes", "function display name",
      "comma-delimited list of parameters", "function type (1 = worksheet function)",
      "function category", "shortcut text", "help topic", "function description"], _
    decide
  exact fun a ha => hall a.1 (List.mem_map_of_mem ha)

/-- The arguments are read one by one. -/
theorem read_leadingArguments (count : Nat)
    (name codes parameterList category description : String) :
    ∀ a ∈ leadingArguments (toString count) name codes parameterList category description,
      Begins a.1 ∧ Whole a.2 := by
  have hword := whole_word
  simp only [List.forall_mem_cons] at hword
  obtain ⟨-, hzero, haddin, -⟩ := hword
  rw [leadingArguments, List.forall_mem_append, List.forall_mem_map]
  constructor
  · simp only [List.forall_mem_cons]
    exact ⟨⟨begins_comma, hzero⟩, ⟨begins_comma, whole_count count⟩, ⟨begins_comma, haddin⟩, nofun⟩
  · exact fun a ha => ⟨begins_lead (not_mem_comment _ _ _ _ _ a ha), whole_temporary a.2⟩

/-- The arguments of a call that registers a function. -/
theorem arguments?_registration (count : Nat)
    (name codes parameterList category description : String) (descriptions : List String) :
    Text.arguments? ("xlfRegister" ++ writtenArguments
        (leadingArguments (toString count) name codes parameterList category description)
      ++ String.join (descriptions.map (nextLine ++ temporary ·)) ++ ")" ++ ";\n") =
      some (["xlfRegister", "0", toString count, "&xDll"] ++ ([name, codes, name, parameterList,
        "1", category, "", "", description] ++ descriptions).map temporary) := by
  have hrest : ∀ a ∈ descriptions.map fun description => (nextLine, temporary description),
      Begins a.1 ∧ Whole a.2 :=
    List.forall_mem_map.2 fun description _ => ⟨begins_nextLine, whole_temporary description⟩
  have harguments := arguments?_eq (whole_word _ List.mem_cons_self) (List.forall_mem_append.2
    ⟨read_leadingArguments count name codes parameterList category description, hrest⟩) ";\n"
  rw [List.map_append, String.join_append, List.map_map, List.map_append, List.map_map,
    ← String.append_assoc] at harguments
  refine harguments.trans ?_
  rw [leadingArguments, List.map_append]
  rfl

end Arguments

end Bindery.Generator.Excel
