import Bindery.Text.Blank
import Bindery.Text.Search

/-! The tokens of an XML text.

A tag goes on to the first `>` outside quotes. Comments and processing instructions yield no token.
`token?` takes one token off the front; it fails where the text ends or where what begins there is
never finished. -/
namespace Bindery.Xml

/-- The white space of XML. -/
def isSpace (c : Char) : Bool := c == ' ' || c == '\t' || c == '\n' || c == '\r'

/-- A tag, a stretch of text, or something that stands between two stretches of text. -/
inductive Token where
  /-- A start tag: the name, the attributes as they stand, and whether the element ends here. -/
  | start (name attributes : List Char) (isEmpty : Bool)
  | finish (name : List Char)
  /-- Text with its entities as they stand. -/
  | text (raw : List Char)
  /-- Text that holds no entities. -/
  | literal (text : List Char)
  /-- A document type declaration. -/
  | doctype
deriving DecidableEq, Repr

/-- Splits at the first `>` outside quotes; `quote` is the kind of quotes the text starts in. -/
def tagSpan (quote : Option Char) : List Char → Option (List Char × List Char)
  | [] => none
  | c :: rest =>
    match quote with
    | some q => (tagSpan (if c = q then none else some q) rest).map fun (a, b) => (c :: a, b)
    | none =>
      if c = '>' then some ([], rest)
      else (tagSpan (if c = '\x22' ∨ c = '\x27' then some c else none) rest).map
        fun (a, b) => (c :: a, b)

/-- Splits at the `>` that closes a declaration, past a number of open `<`. -/
def declarationSpan (depth : Nat) : List Char → Option (List Char × List Char)
  | [] => none
  | c :: rest =>
    if c = '>' ∧ depth = 0 then some ([], rest)
    else (declarationSpan (if c = '<' then depth + 1 else if c = '>' then depth - 1 else depth)
      rest).map fun (a, b) => (c :: a, b)

/-- The token of a start tag. -/
def startToken (body : List Char) : Token :=
  let isEmpty := body.getLast? = some '/'
  let body := if isEmpty then body.dropLast else body
  .start (body.takeWhile (!isSpace ·)) (body.dropWhile (!isSpace ·)) isEmpty

/-- The token of an end tag; white space after the name does not count. -/
def finishToken (body : List Char) : Token :=
  .finish (if body.all isSpace then body else Text.dropEnd isSpace body)

/-- A document type declaration has its keyword, in any case, and says something. -/
def isDoctype (body : List Char) : Bool :=
  let keyword := "DOCTYPE".toList
  (body.take keyword.length).map Char.toUpper == keyword
    && (body.drop keyword.length).any (!isSpace ·)

/-- The token after `<!`. -/
def declaration? (cs : List Char) : Option (Option Token × List Char) :=
  if "--".toList.isPrefixOf cs then
    (Text.cut? "-->".toList (cs.drop 2)).map fun (_, rest) => (none, rest)
  else if "[CDATA[".toList.isPrefixOf cs then
    (Text.cut? "]]>".toList (cs.drop 7)).map fun (text, rest) => (some (.literal text), rest)
  else match declarationSpan 0 cs with
    | some (body, rest) => if isDoctype body then some (some .doctype, rest) else none
    | none => none

/-- The token after `<`. -/
def markup? : List Char → Option (Option Token × List Char)
  | [] => none
  | c :: rest =>
    if c = '!' then declaration? rest
    else if c = '?' then
      if rest.head? = some '>' then none
      else (Text.cut? "?>".toList rest).map fun (_, rest) => (none, rest)
    else if c = '/' then (tagSpan none rest).map fun (body, rest) => (some (finishToken body), rest)
    else (tagSpan none (c :: rest)).map fun (body, rest) => (some (startToken body), rest)

/-- Takes one token, or something that yields none, off the front of a text. -/
def token? : List Char → Option (Option Token × List Char)
  | [] => none
  | c :: rest =>
    if c = '<' then markup? rest
    else some (some (.text (c :: rest.takeWhile (· ≠ '<'))), rest.dropWhile (· ≠ '<'))

/-! ### What a token leaves -/

theorem length_tagSpan {quote : Option Char} {cs body rest : List Char}
    (h : tagSpan quote cs = some (body, rest)) : rest.length < cs.length := by
  induction cs generalizing quote body with
  | nil => simp [tagSpan] at h
  | cons c cs ih =>
    unfold tagSpan at h
    split at h
    · simp only [Option.map_eq_some_iff, Prod.mk.injEq, Prod.exists] at h
      obtain ⟨a, b, hab, -, rfl⟩ := h
      have := ih hab
      simp only [List.length_cons]
      omega
    · split at h
      · simp only [Option.some.injEq, Prod.mk.injEq] at h
        obtain ⟨-, rfl⟩ := h
        simp
      · simp only [Option.map_eq_some_iff, Prod.mk.injEq, Prod.exists] at h
        obtain ⟨a, b, hab, -, rfl⟩ := h
        have := ih hab
        simp only [List.length_cons]
        omega

theorem length_declarationSpan {depth : Nat} {cs body rest : List Char}
    (h : declarationSpan depth cs = some (body, rest)) : rest.length < cs.length := by
  induction cs generalizing depth body with
  | nil => simp [declarationSpan] at h
  | cons c cs ih =>
    unfold declarationSpan at h
    split at h
    · simp only [Option.some.injEq, Prod.mk.injEq] at h
      obtain ⟨-, rfl⟩ := h
      simp
    · simp only [Option.map_eq_some_iff, Prod.mk.injEq, Prod.exists] at h
      obtain ⟨a, b, hab, -, rfl⟩ := h
      have := ih hab
      simp only [List.length_cons]
      omega

theorem length_declaration? {cs rest : List Char} {t : Option Token}
    (h : declaration? cs = some (t, rest)) : rest.length ≤ cs.length := by
  unfold declaration? at h
  split at h
  · simp only [Option.map_eq_some_iff, Prod.mk.injEq, Prod.exists] at h
    obtain ⟨a, b, hab, -, rfl⟩ := h
    have := Text.length_cut? hab
    simp only [List.length_drop] at this
    omega
  split at h
  · simp only [Option.map_eq_some_iff, Prod.mk.injEq, Prod.exists] at h
    obtain ⟨a, b, hab, -, rfl⟩ := h
    have := Text.length_cut? hab
    simp only [List.length_drop] at this
    omega
  split at h
  · next body r hd =>
    split at h
    · simp only [Option.some.injEq, Prod.mk.injEq] at h
      obtain ⟨-, rfl⟩ := h
      exact Nat.le_of_lt (length_declarationSpan hd)
    · simp at h
  · simp at h

theorem length_markup? {cs rest : List Char} {t : Option Token}
    (h : markup? cs = some (t, rest)) : rest.length < cs.length + 1 := by
  cases cs with
  | nil => simp [markup?] at h
  | cons c cs =>
    simp only [markup?] at h
    simp only [List.length_cons]
    split at h
    · have := length_declaration? h
      omega
    split at h
    · split at h
      · simp at h
      · simp only [Option.map_eq_some_iff, Prod.mk.injEq, Prod.exists] at h
        obtain ⟨a, b, hab, -, rfl⟩ := h
        have := Text.length_cut? hab
        omega
    split at h
    · simp only [Option.map_eq_some_iff, Prod.mk.injEq, Prod.exists] at h
      obtain ⟨a, b, hab, -, rfl⟩ := h
      have := length_tagSpan hab
      omega
    · simp only [Option.map_eq_some_iff, Prod.mk.injEq, Prod.exists] at h
      obtain ⟨a, b, hab, -, rfl⟩ := h
      have := length_tagSpan hab
      simp only [List.length_cons] at this
      omega

/-- A token leaves less than there was. -/
theorem length_token? {cs rest : List Char} {t : Option Token}
    (h : token? cs = some (t, rest)) : rest.length < cs.length := by
  cases cs with
  | nil => simp [token?] at h
  | cons c cs =>
    simp only [token?] at h
    split at h
    · have := length_markup? h
      simpa using this
    · simp only [Option.some.injEq, Prod.mk.injEq] at h
      obtain ⟨-, rfl⟩ := h
      have := (List.dropWhile_suffix (l := cs) (· ≠ '<')).length_le
      simp only [List.length_cons]
      omega

end Bindery.Xml
