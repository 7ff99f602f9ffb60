import Bindery.Text.Identifier
import Bindery.Text.Search
import Mathlib.Data.List.DropRight

/-! The names that declarations introduce.

A declaration without an initial value ends in the name that it introduces, and the declarations of a
list of parameters have commas between them. Whatever the types are, the names are read back from the
text (`declaredNames_intercalate`). A declaration with an initial value goes on after the name with a
parenthesis or with an equals sign (`declaredVariable`). -/
namespace Bindery.Text

/-- The identifier that a text ends in. -/
def lastWord (cs : List Char) : String := String.ofList (cs.rtakeWhile isNamePart)

/-- The names that a list of parameters introduces. -/
def declaredNames (s : String) : List String := (pieces ',' s.toList).map lastWord

/-- A character before the initial value of a declaration. -/
def isEarly (c : Char) : Bool := c ≠ '(' && c ≠ '='

/-- The name that a declaration with an initial value introduces. -/
def declaredVariable (s : String) : String :=
  lastWord ((s.toList.takeWhile isEarly).rdropWhile (· = ' '))

/-- A character that is in no name and separates no declarations. -/
def isIdle (c : Char) : Bool := !isNamePart c && c ≠ ','

/-- What stands before the name that a declaration ends in. -/
structure Leads (lead : String) : Prop where
  whole : ',' ∉ lead.toList
  idle : lead.toList.rtakeWhile isNamePart = []

/-! ### Words -/

theorem isNamePart_of_isNameStart {c : Char} (h : isNameStart c = true) : isNamePart c = true := by
  rw [isNameStart, Bool.or_eq_true] at h
  rw [isNamePart, Bool.or_eq_true, Char.isAlphanum, Bool.or_eq_true]
  exact h.imp_left .inl

/-- All characters of an identifier may stand after its start. -/
theorem all_isNamePart {name : String} (h : isIdentifier name = true) :
    name.toList.all isNamePart = true := by
  unfold isIdentifier at h
  cases hname : name.toList with
  | nil => rfl
  | cons c rest =>
    rw [hname, isIdentifierChars, Bool.and_eq_true] at h
    rw [List.all_cons, isNamePart_of_isNameStart h.1, h.2, Bool.and_self]

/-- An identifier goes on as an identifier. -/
theorem isIdentifier_append {name s : String} (hname : isIdentifier name = true)
    (hs : s.toList.all isNamePart = true) : isIdentifier (name ++ s) = true := by
  unfold isIdentifier at hname ⊢
  rw [String.toList_append]
  cases hchars : name.toList with
  | nil =>
    rw [hchars] at hname
    cases hname
  | cons c rest =>
    rw [hchars, isIdentifierChars, Bool.and_eq_true] at hname
    rw [List.cons_append, isIdentifierChars, List.all_append, hname.1, hname.2, hs, Bool.and_self,
      Bool.and_self]

/-- What an identifier is put after has to be an identifier itself, if it is anything. -/
theorem isIdentifier_append_iff {s t : String} (ht : isIdentifier t = true) :
    isIdentifier (s ++ t) = true ↔ s = "" ∨ isIdentifier s = true := by
  constructor
  · intro h
    unfold isIdentifier at h ⊢
    rw [String.toList_append] at h
    cases hchars : s.toList with
    | nil => exact .inl (String.toList_eq_nil_iff.1 hchars)
    | cons c rest =>
      rw [hchars, List.cons_append, isIdentifierChars, List.all_append, Bool.and_eq_true,
        Bool.and_eq_true] at h
      exact .inr (by rw [isIdentifierChars, h.1, h.2.1, Bool.and_self])
  · rintro (rfl | hs)
    · rwa [String.empty_append]
    · exact isIdentifier_append hs (all_isNamePart ht)

/-- What comes before an idle end does not matter. -/
theorem rtakeWhile_append {lead name : List Char} (hlead : lead.rtakeWhile isNamePart = [])
    (hname : name.all isNamePart = true) : (lead ++ name).rtakeWhile isNamePart = name := by
  have hall : ∀ c ∈ name.reverse, isNamePart c = true := fun c hc =>
    List.all_eq_true.1 hname c (List.mem_reverse.1 hc)
  rw [List.rtakeWhile, List.reverse_eq_nil_iff] at hlead
  rw [List.rtakeWhile, List.reverse_append, List.takeWhile_append_of_pos hall, hlead,
    List.append_nil, List.reverse_reverse]

theorem lastWord_append {lead : List Char} {name : String}
    (hlead : lead.rtakeWhile isNamePart = []) (hname : name.toList.all isNamePart = true) :
    lastWord (lead ++ name.toList) = name := by
  rw [lastWord, rtakeWhile_append hlead hname, String.ofList_toList]

theorem lastWord_cons {c : Char} (hc : isNamePart c = false) (cs : List Char) :
    lastWord (c :: cs) = lastWord cs := by
  have hlast : [c].takeWhile isNamePart = [] := by rw [List.takeWhile_cons, hc]; rfl
  rw [lastWord, lastWord, List.rtakeWhile, List.rtakeWhile, List.reverse_cons,
    List.takeWhile_append, hlast, List.append_nil]
  split
  · next hall => rw [(List.takeWhile_prefix isNamePart).eq_of_length hall]
  · rfl

/-! ### Lists of parameters -/

theorem declaredNames_append (a b : String) :
    declaredNames (a ++ "," ++ b) = declaredNames a ++ declaredNames b := by
  have hsplit : (a ++ "," ++ b).toList = a.toList ++ ',' :: b.toList := by simp
  rw [declaredNames, hsplit, pieces, List.splitOn_append_cons_self, List.map_append]
  rfl

/-- A declaration introduces the name at its end. -/
theorem declaredNames_eq {lead name : String} (hlead : Leads lead) (hname : isIdentifier name = true) :
    declaredNames (lead ++ name) = [name] := by
  have hall := all_isNamePart hname
  have hwhole : ',' ∉ (lead ++ name).toList := by
    rw [String.toList_append, List.mem_append]
    rintro (hmem | hmem)
    · exact hlead.whole hmem
    · exact absurd (List.all_eq_true.1 hall _ hmem) (by decide)
  rw [declaredNames, pieces, List.splitOn_eq_singleton hwhole, List.map_singleton,
    String.toList_append, lastWord_append hlead.idle hall]

/-- Idle characters before a list of parameters introduce nothing. -/
theorem declaredNames_idle {blank : String} (h : blank.toList.all isIdle = true) (s : String) :
    declaredNames (blank ++ s) = declaredNames s := by
  suffices hchars : ∀ cs : List Char, cs.all isIdle = true →
      (pieces ',' (cs ++ s.toList)).map lastWord = (pieces ',' s.toList).map lastWord by
    rw [declaredNames, String.toList_append, hchars _ h, declaredNames]
  intro cs hcs
  induction cs with
  | nil => rfl
  | cons c rest ih =>
    rw [List.all_cons, Bool.and_eq_true, isIdle, Bool.and_eq_true, Bool.not_eq_true',
      decide_eq_true_eq] at hcs
    obtain ⟨⟨hword, hcomma⟩, hrest⟩ := hcs
    rw [← ih hrest, pieces, pieces, List.cons_append, List.splitOn_cons_eq_if_modifyHead,
      if_neg (by simpa using hcomma)]
    cases (rest ++ s.toList).splitOn ',' with
    | nil => rfl
    | cons first others => rw [List.modifyHead_cons, List.map_cons, lastWord_cons hword, List.map_cons]

/-- Lists of parameters with a comma and idle characters between them introduce their names one list
after the other. -/
theorem declaredNames_intercalate {blank : String} (h : blank.toList.all isIdle = true)
    {lists : List String} (hne : lists ≠ []) :
    declaredNames (("," ++ blank).intercalate lists) = lists.flatMap declaredNames := by
  induction lists with
  | nil => exact absurd rfl hne
  | cons first rest ih =>
    cases rest with
    | nil => simp
    | cons second rest =>
      have hsplit : first ++ ("," ++ blank) ++ ("," ++ blank).intercalate (second :: rest) =
          first ++ "," ++ (blank ++ ("," ++ blank).intercalate (second :: rest)) := by
        simp only [String.append_assoc]
      rw [String.intercalate_cons_cons, hsplit, declaredNames_append, declaredNames_idle h,
        ih (List.cons_ne_nil _ _)]
      exact List.flatMap_cons.symm

/-! ### Variables -/

/-- An identifier does not end in a blank. -/
theorem rdropWhile_append {name : String} (hname : isIdentifier name = true) (lead : List Char) :
    (lead ++ name.toList).rdropWhile (· = ' ') = lead ++ name.toList := by
  have hne : name.toList ≠ [] := fun h => by rw [isIdentifier, h] at hname; cases hname
  rw [List.rdropWhile_eq_self_iff]
  intro hne'
  rw [List.getLast_append_of_ne_nil hne' hne, decide_eq_true_eq]
  intro hlast
  have hmem := List.getLast_mem hne
  rw [hlast] at hmem
  exact absurd (List.all_eq_true.1 (all_isNamePart hname) _ hmem) (by decide)

theorem isEarly_of_isNamePart {c : Char} (h : isNamePart c = true) : isEarly c = true := by
  rw [isEarly, Bool.and_eq_true, decide_eq_true_eq, decide_eq_true_eq]
  constructor
  · rintro rfl
    exact absurd h (by decide)
  · rintro rfl
    exact absurd h (by decide)

/-- The name stands before the initial value. -/
theorem declaredVariable_eq {lead name value : String} (hlead : lead.toList.all isEarly = true)
    (hidle : lead.toList.rtakeWhile isNamePart = []) (hname : isIdentifier name = true)
    (hvalue : (value.toList.takeWhile isEarly).all (· = ' ') = true) :
    declaredVariable (lead ++ name ++ value) = name := by
  have hearly : ∀ c ∈ lead.toList ++ name.toList, isEarly c = true := by
    rw [List.forall_mem_append]
    exact ⟨List.all_eq_true.1 hlead, fun c hc =>
      isEarly_of_isNamePart (List.all_eq_true.1 (all_isNamePart hname) c hc)⟩
  have hblank : ∀ c ∈ (value.toList.takeWhile isEarly).reverse, decide (c = ' ') = true :=
    fun c hc => List.all_eq_true.1 hvalue c (List.mem_reverse.1 hc)
  have hbefore : (lead ++ name ++ value).toList.takeWhile isEarly =
      lead.toList ++ name.toList ++ value.toList.takeWhile isEarly := by
    rw [String.toList_append, String.toList_append]
    exact List.takeWhile_append_of_pos hearly
  have hdrop := rdropWhile_append hname lead.toList
  rw [List.rdropWhile] at hdrop
  rw [declaredVariable, hbefore, List.rdropWhile, List.reverse_append,
    List.dropWhile_append_of_pos hblank, hdrop, lastWord_append hidle (all_isNamePart hname)]

end Bindery.Text
