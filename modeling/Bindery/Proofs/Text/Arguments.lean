import Bindery.Proofs.Text.Counted

/-! The arguments of a call in source code.

A call is read character by character from the parenthesis that opens it to the one that closes it.
Commas separate its arguments where they stand in no other parentheses and in no string literal.
Comments that end with their line are passed over, and so are blanks outside literals. Whatever text
a counted string holds, it is read as a part of one argument (`read_counted`). -/
namespace Bindery.Text

namespace Call

/-- Where a reader is. -/
inductive Mode where
  | code
  /-- After a slash in code. -/
  | slash
  | comment
  | literal
  /-- After a backslash in a literal. -/
  | escape
  /-- After the parenthesis that closes the call. -/
  | closed
deriving DecidableEq

/-- A reader of arguments. -/
structure Reader where
  mode : Mode := .code
  /-- The number of open parentheses of the argument. -/
  depth : Nat := 0
  finished : List (List Char) := []
  current : List Char := []
deriving DecidableEq

namespace Reader

/-- Adds a character to the argument. -/
def keep (r : Reader) (c : Char) : Reader := { r with current := r.current ++ [c] }

/-- Ends the argument. -/
def finish (r : Reader) : Reader :=
  { r with finished := r.finished ++ [r.current], current := [] }

/-- Reads a character of code. -/
def code (r : Reader) (c : Char) : Reader :=
  if c = ' ' ∨ c = '\n' then r
  else if c = '/' then { r with mode := .slash }
  else if c = '\x22' then { r.keep c with mode := .literal }
  else if c = '(' then { r.keep c with depth := r.depth + 1 }
  else if c = ')' then
    if r.depth = 0 then { r.finish with mode := .closed }
    else { r.keep c with depth := r.depth - 1 }
  else if c = ',' ∧ r.depth = 0 then r.finish
  else r.keep c

/-- Reads a character. -/
def next (r : Reader) (c : Char) : Reader :=
  match r.mode with
  | .code => r.code c
  | .slash =>
    if c = '/' then { r with mode := .comment } else ({ r.keep '/' with mode := .code }).code c
  | .comment => if c = '\n' then { r with mode := .code } else r
  | .literal =>
    if c = '\\' then { r.keep c with mode := .escape }
    else if c = '\x22' then { r.keep c with mode := .code }
    else r.keep c
  | .escape => { r.keep c with mode := .literal }
  | .closed => r

/-- Reads characters. -/
def read (r : Reader) (cs : List Char) : Reader := cs.foldl next r

end Reader
end Call

open Call

/-- The arguments of a call that a text goes on with; what comes after the call does not matter. -/
def arguments? (text : String) : Option (List String) :=
  let r := Reader.read {} text.toList
  if r.mode = .closed then some (r.finished.map String.ofList) else none

/-! ### Reading on -/

namespace Call
namespace Reader

theorem read_append (r : Reader) (a b : List Char) : r.read (a ++ b) = (r.read a).read b :=
  List.foldl_append

/-- After the call nothing is read. -/
theorem read_closed {r : Reader} (h : r.mode = .closed) (cs : List Char) : r.read cs = r := by
  induction cs with
  | nil => rfl
  | cons c rest ih =>
    have hnext : r.next c = r := by rw [next, h]
    rw [read, List.foldl_cons, hnext]
    exact ih

/-- Characters of code that open, close or separate something. -/
def marks : List Char := [' ', '\n', '/', '\x22', '(', ')', ',']

/-- A character of code that is only kept. -/
def isPlain (c : Char) : Bool := !marks.contains c

theorem code_plain {r : Reader} {c : Char} (h : isPlain c = true) : r.code c = r.keep c := by
  simp only [isPlain, marks, List.contains_eq_mem, Bool.not_eq_true', decide_eq_false_iff_not,
    List.mem_cons, List.not_mem_nil, or_false, not_or] at h
  simp [code, h]

theorem read_plain {r : Reader} (hr : r.mode = .code) {cs : List Char}
    (h : cs.all isPlain = true) : r.read cs = { r with current := r.current ++ cs } := by
  induction cs generalizing r with
  | nil => simp [read]
  | cons c rest ih =>
    rw [List.all_cons, Bool.and_eq_true] at h
    have hnext : r.next c = r.keep c := by rw [next, hr]; exact code_plain h.1
    rw [read, List.foldl_cons, hnext]
    refine (ih (r := r.keep c) hr h.2).trans ?_
    simp [keep]

/-- A text in a literal does not end it. -/
theorem read_escaped {r : Reader} (hr : r.mode = .literal) (cs : List Char) :
    r.read (cs.flatMap escapedChar) = { r with current := r.current ++ cs.flatMap escapedChar } := by
  induction cs generalizing r with
  | nil => simp [read]
  | cons c rest ih =>
    have hchar : r.read (escapedChar c) = { r with current := r.current ++ escapedChar c } := by
      by_cases hc : c = '\\' ∨ c = '\x22'
      · simp [escapedChar, hc, read, next, hr, keep]
      · obtain ⟨hslash, hquote⟩ := not_or.1 hc
        simp [escapedChar, hslash, hquote, read, next, hr, keep]
    rw [List.flatMap_cons, read_append, hchar, ih (by exact hr)]
    simp only [List.append_assoc]

/-- A byte in a literal does not end it. -/
theorem read_hexByte {r : Reader} (hr : r.mode = .literal) {n : Nat} (hn : n < 256) :
    r.read (hexByte n).toList = { r with current := r.current ++ (hexByte n).toList } := by
  have hdigit : ∀ k < 16, hexDigit k ≠ '\\' ∧ hexDigit k ≠ '\x22' := by decide
  obtain ⟨htens, htens'⟩ := hdigit (n / 16) (by omega)
  obtain ⟨hones, hones'⟩ := hdigit (n % 16) (by omega)
  simp [hexByte, read, next, hr, keep, htens, htens', hones, hones']

/-- A counted string is a part of the argument, whatever it holds. -/
theorem read_counted {r : Reader} (hr : r.mode = .code) (s : String) :
    r.read (counted s).toList = { r with current := r.current ++ (counted s).toList } := by
  obtain ⟨mode, depth, finished, current⟩ := r
  cases hr
  have hbytes : byteLength (kept s.toList) < 256 := by
    rw [kept_eq]
    exact Nat.lt_succ_of_le (byteLength_fitting maxCounted s.toList)
  simp only [counted, escaped_eq, String.toList_append, String.toList_ofList, read_append]
  -- The first literal holds the length, the second the text.
  have hfirst : Reader.read ⟨.code, depth, finished, current⟩ "\"\\x".toList =
      ⟨.literal, depth, finished, current ++ "\"\\x".toList⟩ := by
    simp [read, next, code, keep]
  have hsecond (current : List Char) : Reader.read ⟨.literal, depth, finished, current⟩
      "\"\"".toList = ⟨.literal, depth, finished, current ++ "\"\"".toList⟩ := by
    simp [read, next, code, keep]
  have hlast (current : List Char) : Reader.read ⟨.literal, depth, finished, current⟩
      "\"".toList = ⟨.code, depth, finished, current ++ "\"".toList⟩ := by
    simp [read, next, keep]
  rw [hfirst, read_hexByte rfl hbytes, hsecond, read_escaped rfl, hlast]
  simp only [List.append_assoc]

/-- A comment on a line of its own is passed over. -/
theorem read_comment {r : Reader} (hr : r.mode = .comment) {cs : List Char} (h : '\n' ∉ cs) :
    r.read (cs ++ ['\n']) = { r with mode := .code } := by
  induction cs with
  | nil => simp [read, next, hr]
  | cons c rest ih =>
    rw [List.mem_cons, not_or] at h
    have hnext : r.next c = r := by
      rw [next, hr]
      exact if_neg (Ne.symm h.1)
    rw [List.cons_append, read, List.foldl_cons, hnext]
    exact ih h.2

end Reader

/-! ### Lists of arguments -/

/-- A text before an argument begins it: what came before is finished, and nothing is read of it
yet. -/
def Begins (lead : String) : Prop :=
  ∀ finished current, Reader.read ⟨.code, 0, finished, current⟩ lead.toList =
    ⟨.code, 0, finished ++ [current], []⟩

/-- A text is read as code of an argument. -/
def Whole (argument : String) : Prop :=
  ∀ finished, Reader.read ⟨.code, 0, finished, []⟩ argument.toList =
    ⟨.code, 0, finished, argument.toList⟩

/-- Arguments with their leads, up to the end of the call. -/
theorem read_arguments {arguments : List (String × String)}
    (h : ∀ a ∈ arguments, Begins a.1 ∧ Whole a.2) (finished : List (List Char))
    (current : List Char) :
    Reader.read ⟨.code, 0, finished, current⟩
        ((String.join (arguments.map fun a => a.1 ++ a.2)).toList ++ [')']) =
      ⟨.closed, 0, finished ++ current :: arguments.map (·.2.toList), []⟩ := by
  induction arguments generalizing finished current with
  | nil => simp [Reader.read, Reader.next, Reader.code, Reader.finish]
  | cons a rest ih =>
    rw [List.forall_mem_cons] at h
    obtain ⟨⟨hbegins, hwhole⟩, hrest⟩ := h
    simp only [List.map_cons, String.join_cons, String.toList_append, List.append_assoc]
    rw [Reader.read_append, hbegins, Reader.read_append, hwhole, ih hrest]
    simp only [List.append_assoc, List.singleton_append]

/-- A call with arguments after their leads, with its closing parenthesis and whatever follows. -/
theorem arguments?_eq {first : String} (hfirst : Whole first) {arguments : List (String × String)}
    (h : ∀ a ∈ arguments, Begins a.1 ∧ Whole a.2) (rest : String) :
    arguments? (first ++ String.join (arguments.map fun a => a.1 ++ a.2) ++ ")" ++ rest) =
      some (first :: arguments.map Prod.snd) := by
  have hread : Reader.read {} (first ++ String.join (arguments.map fun a => a.1 ++ a.2) ++ ")"
      ++ rest).toList = ⟨.closed, 0, first.toList :: arguments.map (·.2.toList), []⟩ := by
    rw [String.toList_append, Reader.read_append, String.append_assoc, String.toList_append,
      Reader.read_append, hfirst [], String.toList_append]
    rw [show ")".toList = [')'] from rfl, read_arguments h, Reader.read_closed rfl]
    rfl
  rw [arguments?, hread]
  simp [Function.comp_def]

/-- Arguments with a comma and a blank between them, and whatever follows the call. -/
theorem arguments?_intercalate {arguments : List String} (hne : arguments ≠ [])
    (h : ∀ a ∈ arguments, Whole a) (rest : String) :
    arguments? (", ".intercalate arguments ++ ")" ++ rest) = some arguments := by
  cases arguments with
  | nil => exact absurd rfl hne
  | cons first others =>
    rw [List.forall_mem_cons] at h
    obtain ⟨hfirst, hothers⟩ := h
    have hcomma : Begins ", " := fun finished current => by
      simp [Reader.read, Reader.next, Reader.code, Reader.finish]
    have hjoin : ", ".intercalate (first :: others) =
        first ++ String.join ((others.map (", ", ·)).map fun a => a.1 ++ a.2) := by
      clear hne hfirst hothers
      induction others generalizing first with
      | nil => simp
      | cons second others ih =>
        rw [String.intercalate_cons_cons, ih, List.map_cons, List.map_cons, String.join_cons]
        simp only [String.append_assoc]
    have hled : ∀ a ∈ others.map (", ", ·), Begins a.1 ∧ Whole a.2 :=
      List.forall_mem_map.2 fun a ha => ⟨hcomma, hothers a ha⟩
    rw [hjoin, arguments?_eq hfirst hled, List.map_map]
    exact congrArg (fun as => some (first :: as)) (List.map_id others)

/-- An argument without blanks, comments, literals, parentheses and commas. -/
theorem whole_of_plain {argument : String} (h : argument.toList.all Reader.isPlain = true) :
    Whole argument := fun _ => Reader.read_plain rfl h

end Call
end Bindery.Text
