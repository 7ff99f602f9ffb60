import Bindery.Proofs.Generator.Worksheet.Agreement
import Bindery.Proofs.Registry.Parameters
import Bindery.Proofs.Text.Counted

/-! What a registration tells a worksheet.

The texts of a registration are counted strings. Names, type texts and lists of names keep to their
line, whatever the metadata; the title and the descriptions go over its end exactly when a line breaks in
what the counted string holds (`literals_broken_iff`). Descriptions come last, each cut to what fits, and
the last has two spaces after it, which are the first to be cut (`descriptions_passed`). -/
namespace Bindery.Generator.Excel

/-! ### Texts as arguments -/

/-- An argument that passes a text: a counted string that is read as the text, with its length. -/
def Passes (argument text : String) : Prop :=
  ∃ literal, argument = "TempStrNoSize(" ++ literal ++ ")" ∧
    Text.readCounted? literal = some (text.utf8ByteSize, text)

theorem passes_temporary (s : String) : Passes (temporary s) (Text.held s) :=
  ⟨_, temporary_eq s, Text.readCounted?_counted s⟩

theorem broken_temporary {s : String} : Text.Broken (temporary s) ↔ Text.Broken (Text.held s) := by
  have hopen : ¬ Text.Broken "TempStrNoSize(" := by decide
  have hclose : ¬ Text.Broken ")" := by decide
  rw [temporary_eq, Text.broken_append, Text.broken_append, Text.broken_counted]
  simp [hopen, hclose]

/-- A text that keeps to its line is passed on one line. -/
theorem not_broken_temporary {s : String} (h : ¬ Text.Broken s) : ¬ Text.Broken (temporary s) := by
  have hbegins := (Text.longest_held s).begins.subset
  rw [broken_temporary]
  exact fun hheld => h (hheld.imp (hbegins ·) (hbegins ·))

/-! ### Texts on one line -/

theorem not_broken_toString (n : Nat) : ¬ Text.Broken (toString n) :=
  Text.not_broken_of_all (by decide) (by decide) (List.all_eq_true.2 fun _ => isDigit_of_mem_toString)

theorem not_broken_typeText (f : Registry.Function) : ¬ Text.Broken (typeText f) := by
  have hletter (passing : Passing) : passing.letter.isUpper = true := by cases passing <;> rfl
  have hletters (passings : List Passing) :
      (String.ofList (passings.map Passing.letter)).toList.all Char.isUpper = true := by
    rw [String.toList_ofList, List.all_eq_true]
    exact List.forall_mem_map.2 fun passing _ => hletter passing
  have hmark : ¬ Text.Broken (if (f.platform? platformName).any (·.xlMacro) then "#" else "") := by
    split <;> decide
  rw [typeText, Text.broken_append, not_or]
  exact ⟨Text.not_broken_of_all (by decide) (by decide) (hletters _), hmark⟩

theorem not_broken_intercalate {separator : String} (hseparator : ¬ Text.Broken separator)
    {texts : List String} (h : ∀ s ∈ texts, ¬ Text.Broken s) :
    ¬ Text.Broken (separator.intercalate texts) := by
  induction texts with
  | nil =>
    rw [String.intercalate_nil]
    decide
  | cons s rest ih =>
    rw [List.forall_mem_cons] at h
    cases rest with
    | nil => exact h.1
    | cons s' rest =>
      rw [String.intercalate_cons_cons, Text.broken_append, Text.broken_append, not_or, not_or]
      exact ⟨⟨h.1, hseparator⟩, ih h.2⟩

/-! ### Line breaks -/

/-- The texts of a registration that the metadata is free to choose: the title of the category, and the
descriptions. -/
def shownTexts (project : ProjectNames) (c : Registry.Category) (f : Registry.Function) :
    List String :=
  (project.name ++ " - " ++ c.displayName) :: descriptions f

/-- The other arguments of a registration keep to their line. -/
theorem not_broken_or_shown {g : Metadata.Function} (hg : g.Sound) {f : Registry.Function}
    (hf : Registry.Function.Completed g f) (project : ProjectNames) (c : Registry.Category) :
    ∀ argument ∈ ["xlfRegister", "0", toString (10 + f.parameters.length)] ++
      registeredArguments project c f, ¬ Text.Broken argument ∨
        ∃ text ∈ shownTexts project c f, argument = temporary text := by
  have hname : ¬ Text.Broken f.name := by
    rw [hf.name]
    exact Text.not_broken_of_isIdentifier hg.name.identifier
  have hlist : ¬ Text.Broken (nameList f) :=
    not_broken_intercalate (by decide) (List.forall_mem_map.2 fun p hp =>
      Text.not_broken_of_isIdentifier (hf.isIdentifier hg p hp))
  have hshown (text : String) (htext : text ∈ shownTexts project c f) :
      ¬ Text.Broken (temporary text) ∨ ∃ text' ∈ shownTexts project c f,
        temporary text = temporary text' := .inr ⟨text, htext, rfl⟩
  refine List.forall_mem_append.2 ⟨?_, List.forall_mem_cons.2 ⟨.inl (by decide),
    List.forall_mem_map.2 (List.forall_mem_append.2 ⟨?_, fun text htext =>
      hshown text (List.mem_cons_of_mem _ htext)⟩)⟩⟩
  · simp only [List.forall_mem_cons]
    exact ⟨.inl (by decide), .inl (by decide), .inl (not_broken_toString _), nofun⟩
  · simp only [List.forall_mem_cons]
    exact ⟨.inl (not_broken_temporary hname), .inl (not_broken_temporary (not_broken_typeText f)),
      .inl (not_broken_temporary hname), .inl (not_broken_temporary hlist),
      .inl (not_broken_temporary (by decide)), hshown _ List.mem_cons_self,
      .inl (not_broken_temporary (by decide)), .inl (not_broken_temporary (by decide)), nofun⟩

/-- Titles and descriptions are passed. -/
theorem temporary_mem_registeredArguments {project : ProjectNames} {c : Registry.Category}
    {f : Registry.Function} {text : String} (h : text ∈ shownTexts project c f) :
    temporary text ∈ registeredArguments project c f := by
  refine List.mem_cons_of_mem _ (List.mem_map_of_mem ?_)
  rcases List.mem_cons.1 h with rfl | h
  · exact List.mem_append_left _ (by simp)
  · exact List.mem_append_right _ h

/-- **The lines of a registration.** An argument of the call goes over the end of its line exactly when
it is the title of the category or a description in which a line breaks within the longest part that
has at most 255 bytes. -/
theorem literals_broken_iff (tree : FileTree) {project : ProjectNames} {m : Metadata}
    (hm : ∀ c ∈ m.categories, ∃ source filename, Metadata.Category.parse source filename = .ok c)
    {after : Compilation}
    (hrun : (Compilation.fresh project m).run Compilation.standard = (after, .ok ()))
    {r : Registry} (hr : after.registry = some r) :
    ∃ kit, (∀ settings, load tree none settings r .excel = .ok (ofKit kit settings r .excel)) ∧
      ∀ c ∈ r.categories, ∀ f ∈ c.functions, ∃ call arguments,
        registration kit r.project c f = .ok ("    Excel(" ++ call) ∧
        Text.arguments? call = some arguments ∧
        (∀ text ∈ shownTexts r.project c f, temporary text ∈ arguments) ∧
        ∀ argument ∈ arguments, Text.Broken argument ↔
          ∃ text ∈ shownTexts r.project c f, argument = temporary text ∧
            ∃ kept, Text.Longest 255 text kept ∧ Text.Broken kept := by
  obtain ⟨kit, hkit, hload⟩ := exists_supplied tree .excel
  refine ⟨kit, fun settings => hload settings r, fun c hc f hf => ?_⟩
  obtain ⟨g, hg, -, hmade⟩ :=
    Compilation.exists_declaration (Metadata.sound_of_parsed hm) hrun hr hc hf
  obtain ⟨call, hcall, harguments⟩ := call_eq hkit.templates hkit.rules r.project c f
  refine ⟨call, _, hcall, harguments, fun text htext => ?_, fun argument hargument => ?_⟩
  · exact List.mem_append_right _ (temporary_mem_registeredArguments htext)
  · constructor
    · intro hbroken
      obtain ⟨text, htext, rfl⟩ := (not_broken_or_shown hg
        (Registry.Function.completed_of_sound hg hmade) r.project c argument hargument).resolve_left
        (not_not.2 hbroken)
      exact ⟨text, htext, rfl, _, Text.longest_held text, broken_temporary.1 hbroken⟩
    · rintro ⟨text, -, rfl, kept, hkept, hbroken⟩
      rw [broken_temporary, (Text.longest_held text).unique hkept]
      exact hbroken

/-- A procedure that is described on two lines. -/
def remarkSource : String :=
  "<C name='a'><Functions><Procedure name='f'><description>first line\nsecond line</description>"
    ++ "<SupportedPlatforms><SupportedPlatform name='Excel'/></SupportedPlatforms>"
    ++ "<ReturnValue><type>long</type></ReturnValue></Procedure></Functions></C>"

/-- The category of `remarkSource`. -/
def remarks : Metadata where
  categories :=
    [⟨"a", "a", "", [],
      [⟨"f", .procedure, none, none, none, none, some "first line\nsecond line", none, none, false,
        true, [⟨"Excel", .auto, true, false⟩], [], some ⟨.long, .scalar, ""⟩⟩]⟩]
  enumerations := []

/-- The description goes over the end of the line that it begins on. -/
theorem literals_remark :
    (∀ c ∈ remarks.categories, Metadata.Category.parse remarkSource "a.xml" = .ok c) ∧
      ∃ after r kit, (Compilation.fresh ⟨"P", "P", "p"⟩ remarks).run Compilation.standard =
          (after, .ok ()) ∧ after.registry = some r ∧
        (∀ settings, load {} none settings r .excel = .ok (ofKit kit settings r .excel)) ∧
        ∃ c ∈ r.categories, ∃ f ∈ registered c, ∃ call arguments,
          registration kit r.project c f = .ok ("    Excel(" ++ call) ∧
          Text.arguments? call = some arguments ∧
          ∃ argument ∈ arguments, Text.Broken argument ∧
            argument = "TempStrNoSize(\"\\x16\"\"first line\nsecond line\")" := by
  have hparse : ∀ c ∈ remarks.categories, Metadata.Category.parse remarkSource "a.xml" = .ok c :=
    Metadata.parse_of_chars
      (Metadata.append_chars (Metadata.append_chars rfl rfl) rfl)
      (by decide +kernel)
  have hrun : (((Compilation.fresh ⟨"P", "P", "p"⟩ remarks).run Compilation.standard).2.toOption,
      ((Compilation.fresh ⟨"P", "P", "p"⟩ remarks).run Compilation.standard).1.registry.map
        (·.categories.map fun c => (registered c).map descriptions)) =
      (some (), some [[["first line\nsecond line", "dependency tracking trigger  "]]]) := by
    decide +kernel
  obtain ⟨after, r, houtcome, hr, hviews⟩ := Compilation.exists_registry hrun
  obtain ⟨kit, hload, hcalls⟩ := literals_broken_iff {} (fun c hc => ⟨_, _, hparse c hc⟩) houtcome hr
  obtain ⟨c, hc, hfunctions⟩ := List.mem_map.1 (hviews ▸ List.mem_cons_self)
  obtain ⟨f, hf, hdescriptions⟩ := List.mem_map.1 (hfunctions ▸ List.mem_cons_self)
  obtain ⟨call, arguments, hcall, harguments, hpassed, hbroken⟩ :=
    hcalls c hc f (List.mem_of_mem_filter hf)
  have hshown : "first line\nsecond line" ∈ shownTexts r.project c f :=
    List.mem_cons_of_mem _ (hdescriptions ▸ List.mem_cons_self)
  have hargument := hpassed _ hshown
  exact ⟨hparse, after, r, kit, houtcome, hr, hload, c, hc, f, hf, call, arguments, hcall, harguments,
    _, hargument, (hbroken _ hargument).2 ⟨_, hshown, rfl, _, Text.longest_held _, by decide +kernel⟩,
    by decide +kernel⟩

/-! ### Padding -/

theorem padded_concat (ds : List String) (d : String) : padded (ds ++ [d]) = ds ++ [d ++ "  "] := by
  induction ds with
  | nil => rfl
  | cons description rest ih =>
    have hne : rest ++ [d] ≠ [] := List.append_ne_nil_of_right_ne_nil _ (List.cons_ne_nil _ _)
    rw [List.cons_append, padded, ih, List.cons_append]
    exact fun h => absurd h hne

/-- A text that is left of a description with two spaces after it. -/
structure PaddedTo (d kept : String) : Prop where
  whole : kept = d ++ "  " ↔ d.utf8ByteSize ≤ 253
  /-- Of a longer description at most one of the spaces is left. -/
  cut : 253 < d.utf8ByteSize → Text.Longest 255 (d ++ " ") kept
  /-- The text has two spaces at its end if they are those that were put there, or if it is cut after
  two that the description has itself. -/
  ends : (∃ text, kept = text ++ "  ") ↔
    d.utf8ByteSize ≤ 253 ∨ ∃ text, Text.Longest 255 (d ++ " ") (text ++ "  ")

theorem paddedTo_held (d : String) : PaddedTo d (Text.held (d ++ "  ")) := by
  have hlongest := Text.longest_held (d ++ "  ")
  have hboth : (d ++ "  ").utf8ByteSize = d.utf8ByteSize + 2 := String.utf8ByteSize_append
  have hone : (d ++ " ").utf8ByteSize = d.utf8ByteSize + 1 := String.utf8ByteSize_append
  have hwhole : Text.held (d ++ "  ") = d ++ "  " ↔ d.utf8ByteSize ≤ 253 := by
    constructor
    · intro heq
      have hfits := hlongest.fits
      rw [heq, hboth] at hfits
      omega
    · exact fun hd => hlongest.eq_self (by omega)
  have hcut (hd : 253 < d.utf8ByteSize) : Text.Longest 255 (d ++ " ") (Text.held (d ++ "  ")) := by
    have hspaces : d ++ "  " = d ++ " " ++ " " := by rw [String.append_assoc]; rfl
    rw [hspaces] at hlongest ⊢
    exact hlongest.of_append (by omega)
  refine ⟨hwhole, hcut, ?_⟩
  rcases Nat.lt_or_ge 253 d.utf8ByteSize with hd | hd
  · constructor
    · rintro ⟨text, heq⟩
      exact .inr ⟨text, heq ▸ hcut hd⟩
    · rintro (hshort | ⟨text, hkept⟩)
      · omega
      · exact ⟨text, (hcut hd).unique hkept⟩
  · exact ⟨fun _ => .inl hd, fun _ => ⟨d, hwhole.2 hd⟩⟩

/-- The second space after 254 bytes is cut. -/
example : Text.fitting 255 (List.replicate 254 'x' ++ [' ', ' ']) = List.replicate 254 'x' ++ [' '] :=
  by decide +kernel

/-- **The end of a registration.** The description of a function and those of its parameters are the
last arguments of the call. Each but the last is passed as far as there is room for it. The last is
passed with two spaces at its end if it has no more than 253 bytes; of one that is longer, what is
passed is cut within the spaces or before them. -/
theorem descriptions_passed (tree : FileTree) :
    ∃ kit, (∀ settings r, load tree none settings r .excel = .ok (ofKit kit settings r .excel)) ∧
      ∀ project c f, ∃ declared d,
        f.description :: f.parameters.map (·.description) = declared ++ [d] ∧
        ∃ call leading others last, registration kit project c f = .ok ("    Excel(" ++ call) ∧
          Text.arguments? call = some (leading ++ others ++ [last]) ∧ leading.length = 12 ∧
          List.Forall₂ (fun argument s => ∃ kept, Passes argument kept ∧ Text.Longest 255 s kept)
            others declared ∧
          ∃ kept, Passes last kept ∧ PaddedTo d kept := by
  obtain ⟨kit, hkit, hload⟩ := exists_supplied tree .excel
  refine ⟨kit, hload, fun project c f => ?_⟩
  obtain ⟨declared, d, hdeclared⟩ := List.eq_nil_or_concat'
    (f.description :: f.parameters.map (·.description)) |>.resolve_left (List.cons_ne_nil _ _)
  obtain ⟨call, hcall, harguments⟩ := call_eq hkit.templates hkit.rules project c f
  refine ⟨declared, d, hdeclared, call, ["xlfRegister", "0", toString (10 + f.parameters.length)] ++
    "&xDll" :: [f.name, typeText f, f.name, nameList f, "1", project.name ++ " - " ++ c.displayName,
      "", ""].map temporary, declared.map temporary, temporary (d ++ "  "), hcall, ?_, rfl, ?_,
    Text.held (d ++ "  "), passes_temporary _, paddedTo_held d⟩
  · rw [harguments, registeredArguments, descriptions, hdeclared, padded_concat]
    simp only [List.map_append, List.map_cons, List.map_nil, List.cons_append, List.nil_append]
  · rw [List.forall₂_map_left_iff]
    exact List.forall₂_same.2 fun s _ => ⟨_, passes_temporary s, Text.longest_held s⟩

end Bindery.Generator.Excel
