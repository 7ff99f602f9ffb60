import Bindery.Proofs.Text.Declarations
import Bindery.Text.Counted

/-! Counted strings read back.

A counted string is two literals side by side: a byte in base sixteen, and a text with escapes. Read
with its escapes undone, the second is what a text begins with, as far as a byte can count it, and the
first is its length (`counted_read`). A line break is not escaped: where there is one in what is held, the
literal goes over the end of its line (`broken_counted`). -/
namespace Bindery.Text

/-! ### In one pass

What is kept of a text, and the escapes, by a recursion over its characters. -/

/-- The longest part at the start of a text that fits into a number of bytes. -/
def fitting : Nat → List Char → List Char
  | _, [] => []
  | room, c :: rest => if c.utf8Size ≤ room then c :: fitting (room - c.utf8Size) rest else []

/-- A character inside a string literal. -/
def escapedChar (c : Char) : List Char :=
  if c = '\\' ∨ c = '\x22' then ['\\', c] else [c]

theorem byteLength_fitting (room : Nat) (cs : List Char) : byteLength (fitting room cs) ≤ room := by
  fun_induction fitting room cs with
  | case1 => simp [byteLength]
  | case2 room c rest h ih => simp only [byteLength]; omega
  | case3 => simp [byteLength]

theorem fitting_isPrefix (room : Nat) (cs : List Char) : fitting room cs <+: cs := by
  fun_induction fitting room cs with
  | case1 => simp
  | case2 room c rest h ih => simpa using ih
  | case3 => simp

theorem prefix_fitting {room : Nat} {cs other : List Char} (hbegins : other <+: cs)
    (hfits : byteLength other ≤ room) : other <+: fitting room cs := by
  fun_induction fitting room cs generalizing other with
  | case1 room => exact hbegins
  | case2 room c rest hc ih =>
    cases other with
    | nil => exact List.nil_prefix
    | cons d other =>
      obtain ⟨rfl, hrest⟩ := List.cons_prefix_cons.1 hbegins
      rw [byteLength] at hfits
      exact List.cons_prefix_cons.2 ⟨rfl, ih hrest (by omega)⟩
  | case3 room c rest hc =>
    cases other with
    | nil => exact List.nil_prefix
    | cons d other =>
      obtain ⟨rfl, -⟩ := List.cons_prefix_cons.1 hbegins
      rw [byteLength] at hfits
      omega

theorem byteLength_le_of_isPrefix {a b : List Char} (h : a <+: b) : byteLength a ≤ byteLength b := by
  obtain ⟨rest, rfl⟩ := h
  rw [byteLength_append]
  exact Nat.le_add_right _ _

/-- More room makes no difference where what fits into either also fits into the other. -/
theorem fitting_congr {room room' : Nat} {cs : List Char}
    (h : byteLength (fitting room cs) ≤ room') (h' : byteLength (fitting room' cs) ≤ room) :
    fitting room cs = fitting room' cs := by
  have hbefore := prefix_fitting (fitting_isPrefix room cs) h
  have hbefore' := prefix_fitting (fitting_isPrefix room' cs) h'
  exact hbefore.eq_of_length_le hbefore'.length_le

/-- The last byte between characters that there is room for is the end of what fits. -/
theorem boundaryBefore_eq (cs : List Char) (room : Nat) :
    boundaryBefore cs room = byteLength (fitting room cs) := by
  induction room with
  | zero =>
    rw [boundaryBefore]
    exact (Nat.le_zero.1 (byteLength_fitting 0 cs)).symm
  | succ room ih =>
    have hfits := byteLength_fitting (room + 1) cs
    rw [boundaryBefore]
    cases hbyte : splitAtByte? cs (room + 1) with
    | some pieces =>
      -- A part of exactly that many bytes fits, and no more does.
      obtain ⟨hsplit, hlength⟩ := splitAtByte?_eq_some.1 hbyte
      have hlonger := byteLength_le_of_isPrefix (prefix_fitting ⟨pieces.2, hsplit.symm⟩ hlength.le)
      rw [Option.isSome_some, if_pos rfl]
      omega
    | none =>
      have hshort : byteLength (fitting (room + 1) cs) ≤ room := by
        obtain ⟨after, hsplit⟩ := fitting_isPrefix (room + 1) cs
        refine Nat.le_of_lt_succ (Nat.lt_of_le_of_ne hfits fun hlength => ?_)
        rw [splitAtByte?_eq_some.2 ⟨hsplit.symm, hlength⟩] at hbyte
        cases hbyte
      rw [Option.isSome_none, if_neg Bool.false_ne_true, ih,
        fitting_congr hshort (Nat.le_succ_of_le (byteLength_fitting room cs))]

theorem kept_eq (cs : List Char) : kept cs = fitting maxCounted cs := by
  have hbefore := fitting_isPrefix maxCounted cs
  have hroom : fitting (min (byteLength cs) maxCounted) cs = fitting maxCounted cs :=
    fitting_congr ((byteLength_fitting _ cs).trans (Nat.min_le_right _ _))
      (Nat.le_min.2 ⟨byteLength_le_of_isPrefix hbefore, byteLength_fitting _ cs⟩)
  obtain ⟨after, hsplit⟩ := hbefore
  rw [kept, boundaryBefore_eq, hroom, splitAtByte?_eq_some.2 ⟨hsplit.symm, rfl⟩]

/-- Escaping one character after the other escapes each character. -/
theorem escaped_eq (cs : List Char) : escaped cs = String.ofList (cs.flatMap escapedChar) := by
  rw [escaped, replaced, replaced, List.flatMap_assoc]
  refine congrArg String.ofList (List.flatMap_congr fun c _ => ?_)
  by_cases hslash : c = '\\'
  · subst hslash
    rfl
  · by_cases hquote : c = '\x22' <;> simp [escapedChar, hslash, hquote]

/-! ### What is read -/

/-- The value of a digit of base sixteen, in upper case. -/
def hexValue? (c : Char) : Option Nat := "0123456789ABCDEF".toList.idxOf? c

/-- The text of a literal after its opening quotation mark. The closing one ends it and comes last.
Backslashes and quotation marks are escaped, and nothing else is. -/
def literal? : List Char → Option (List Char)
  | [] => none
  | ['\x22'] => some []
  | '\\' :: c :: rest => if c = '\\' ∨ c = '\x22' then (literal? rest).map (c :: ·) else none
  | c :: rest => if c = '\\' ∨ c = '\x22' then none else (literal? rest).map (c :: ·)

/-- The length and the text of a counted string. -/
def readCounted? (s : String) : Option (Nat × String) :=
  match s.toList with
  | '\x22' :: '\\' :: 'x' :: high :: low :: '\x22' :: '\x22' :: rest => do
    let high ← hexValue? high
    let low ← hexValue? low
    let text ← literal? rest
    return (16 * high + low, String.ofList text)
  | _ => none

/-- The longest text that another begins with and that has no more than a number of bytes. -/
structure Longest (room : Nat) (s kept : String) : Prop where
  begins : kept.toList <+: s.toList
  fits : kept.utf8ByteSize ≤ room
  longest : ∀ other : String, other.toList <+: s.toList → other.utf8ByteSize ≤ room →
    other.toList <+: kept.toList

/-- What a counted string holds of a text. -/
def held (s : String) : String := String.ofList (kept s.toList)

/-! ### Literals -/

theorem hexValue?_hexDigit : ∀ n < 16, hexValue? (hexDigit n) = some n := by decide

theorem literal?_cons {c : Char} (h : ¬ (c = '\\' ∨ c = '\x22')) (rest : List Char) :
    literal? (c :: rest) = (literal? rest).map (c :: ·) := by
  rw [literal?]
  · exact if_neg h
  · rintro rfl
    exact absurd (.inr rfl) h
  · rintro d rest' rfl
    exact absurd (.inl rfl) h

/-- The escapes of a text are undone. -/
theorem literal?_escaped (cs : List Char) :
    literal? (cs.flatMap escapedChar ++ ['\x22']) = some cs := by
  induction cs with
  | nil => rfl
  | cons c rest ih =>
    rw [List.flatMap_cons, List.append_assoc, escapedChar]
    by_cases hc : c = '\\' ∨ c = '\x22'
    · rw [if_pos hc, List.cons_append, List.singleton_append, literal?, if_pos hc, ih]
      rfl
    · rw [if_neg hc, List.singleton_append, literal?_cons hc, ih]
      rfl

/-! ### What is held -/

/-- A text that another begins with and that has as many bytes is the other one. -/
theorem eq_of_begins {a b : String} (h : a.toList <+: b.toList)
    (hsize : b.utf8ByteSize ≤ a.utf8ByteSize) : a = b := by
  obtain ⟨rest, hrest⟩ := h
  obtain rfl : a ++ String.ofList rest = b := by
    rw [← String.toList_inj, String.toList_append, String.toList_ofList, hrest]
  cases rest with
  | nil => exact String.append_empty.symm
  | cons c rest =>
    have hc := c.utf8Size_pos
    rw [String.utf8ByteSize_append, ← byteLength_eq, byteLength] at hsize
    omega

theorem utf8ByteSize_held (s : String) : (held s).utf8ByteSize = byteLength (kept s.toList) :=
  (byteLength_eq _).symm

/-- A counted string holds as much of a text as a byte can count. -/
theorem longest_held (s : String) : Longest 255 s (held s) where
  begins := by
    rw [held, String.toList_ofList, kept_eq]
    exact fitting_isPrefix maxCounted s.toList
  fits := by
    rw [utf8ByteSize_held, kept_eq]
    exact byteLength_fitting maxCounted s.toList
  longest other hbegins hfits := by
    rw [held, String.toList_ofList, kept_eq]
    refine prefix_fitting hbegins ?_
    rwa [byteLength_eq, String.ofList_toList]

namespace Longest
variable {room : Nat} {s kept kept' : String}

theorem unique (h : Longest room s kept) (h' : Longest room s kept') : kept = kept' := by
  have hwithin := h'.longest kept h.begins h.fits
  have hwithin' := h.longest kept' h'.begins h'.fits
  exact String.toList_injective (hwithin.eq_of_length_le hwithin'.length_le)

/-- What comes after as many bytes as there is room for is not kept. -/
theorem of_append {t : String} (h : Longest room (s ++ t) kept) (hs : room ≤ s.utf8ByteSize) :
    Longest room s kept := by
  have hleft : s.toList <+: (s ++ t).toList := by
    rw [String.toList_append]
    exact List.prefix_append _ _
  refine ⟨?_, h.fits, fun other hbegins => h.longest other (hbegins.trans hleft)⟩
  rcases List.prefix_or_prefix_of_prefix h.begins hleft with hkept | hkept
  · exact hkept
  · exact eq_of_begins hkept (h.fits.trans hs) ▸ List.prefix_refl _

/-- A text that is not too long is kept whole. -/
theorem eq_self (h : Longest room s kept) (hs : s.utf8ByteSize ≤ room) : kept = s := by
  have hwhole := h.longest s (List.prefix_refl _) hs
  exact String.toList_injective (h.begins.eq_of_length_le hwhole.length_le)

/-- What is kept of a text that is too long leaves no room for the next character. -/
theorem room_lt (h : Longest room s kept) (hs : room < s.utf8ByteSize) :
    room < kept.utf8ByteSize + 4 := by
  obtain ⟨rest, hrest⟩ := h.begins
  cases rest with
  | nil =>
    rw [List.append_nil] at hrest
    have hfits := h.fits
    rw [String.toList_injective hrest] at hfits
    omega
  | cons c rest =>
    refine Nat.lt_of_not_le fun hle => ?_
    have hsize : (kept.push c).utf8ByteSize = kept.utf8ByteSize + c.utf8Size := by
      rw [String.utf8ByteSize_push]
    have hc := c.utf8Size_le_four
    have hlonger := h.longest (kept.push c)
      ⟨rest, by rw [String.toList_push, ← hrest, List.append_assoc, List.singleton_append]⟩ (by omega)
    have hlength := hlonger.length_le
    rw [String.toList_push, List.length_append, List.length_singleton] at hlength
    omega

end Longest

/-! ### Counted strings -/

theorem toList_counted (s : String) : (counted s).toList = '\x22' :: '\\' :: 'x' ::
    hexDigit ((held s).utf8ByteSize / 16) :: hexDigit ((held s).utf8ByteSize % 16) ::
    '\x22' :: '\x22' :: ((held s).toList.flatMap escapedChar ++ ['\x22']) := by
  rw [utf8ByteSize_held]
  simp [counted, escaped_eq, hexByte, held]

theorem readCounted?_counted (s : String) :
    readCounted? (counted s) = some ((held s).utf8ByteSize, held s) := by
  have hbyte : (held s).utf8ByteSize < 256 := Nat.lt_succ_of_le (longest_held s).fits
  have hhigh := hexValue?_hexDigit ((held s).utf8ByteSize / 16) (by omega)
  have hlow := hexValue?_hexDigit ((held s).utf8ByteSize % 16) (by omega)
  rw [readCounted?, toList_counted]
  simp only [hhigh, hlow, literal?_escaped]
  show some (16 * ((held s).utf8ByteSize / 16) + (held s).utf8ByteSize % 16,
    String.ofList (held s).toList) = _
  rw [Nat.div_add_mod, String.ofList_toList]

/-- **A counted string gives back what it holds.** It is read as a byte and a text: the text is the
longest that the given one begins with and that has at most 255 bytes, and the byte is its length. So
a text of at most 255 bytes comes back whole, and no other such text has the same counted string. -/
theorem counted_read (s : String) :
    (∃ kept, readCounted? (counted s) = some (kept.utf8ByteSize, kept) ∧ Longest 255 s kept ∧
      (s.utf8ByteSize ≤ 255 → kept = s) ∧
      (255 < s.utf8ByteSize → 252 ≤ kept.utf8ByteSize ∧ kept.utf8ByteSize ≤ 255)) ∧
    ∀ s', s.utf8ByteSize ≤ 255 → s'.utf8ByteSize ≤ 255 → counted s = counted s' → s = s' := by
  have hlongest := longest_held s
  refine ⟨⟨held s, readCounted?_counted s, hlongest, hlongest.eq_self, fun hs => ?_⟩, ?_⟩
  · have hroom := hlongest.room_lt hs
    exact ⟨by omega, hlongest.fits⟩
  · intro s' hs hs' heq
    have hread := readCounted?_counted s
    rw [heq, readCounted?_counted s', hlongest.eq_self hs, (longest_held s').eq_self hs'] at hread
    exact ((Prod.mk.inj (Option.some.inj hread)).2).symm

/-- A quotation mark in a literal that is not escaped ends it too early. -/
example : literal? ['a', '\x22', 'b', '\x22'] = none := by decide

/-! ### Line breaks -/

/-- A text goes over the end of a line. -/
def Broken (s : String) : Prop := '\n' ∈ s.toList ∨ '\r' ∈ s.toList

instance (s : String) : Decidable (Broken s) :=
  inferInstanceAs (Decidable ('\n' ∈ s.toList ∨ '\r' ∈ s.toList))

theorem broken_append {a b : String} : Broken (a ++ b) ↔ Broken a ∨ Broken b := by
  simp only [Broken, String.toList_append, List.mem_append]
  exact or_or_or_comm

/-- Characters of a kind that line breaks are not of keep to their line. -/
theorem not_broken_of_all {kind : Char → Bool} {s : String} (hfeed : kind '\n' = false)
    (hreturn : kind '\r' = false) (h : s.toList.all kind = true) : ¬ Broken s := by
  rw [List.all_eq_true] at h
  rintro (hbreak | hbreak)
  · exact Bool.false_ne_true (hfeed.symm.trans (h _ hbreak))
  · exact Bool.false_ne_true (hreturn.symm.trans (h _ hbreak))

theorem not_broken_of_isIdentifier {s : String} (h : isIdentifier s = true) : ¬ Broken s :=
  not_broken_of_all (by decide) (by decide) (all_isNamePart h)

/-- Escapes neither make nor hide a line break. -/
theorem mem_flatMap_escapedChar {c : Char} (hc : c ≠ '\\') (cs : List Char) :
    c ∈ cs.flatMap escapedChar ↔ c ∈ cs := by
  induction cs with
  | nil => rfl
  | cons d rest ih =>
    have hd : c ∈ escapedChar d ↔ c = d := by
      rw [escapedChar]
      split <;> simp [hc]
    rw [List.flatMap_cons, List.mem_append, hd, ih, List.mem_cons]

/-- A line break of the text is a line break of the literal. -/
theorem broken_counted {s : String} : Broken (counted s) ↔ Broken (held s) := by
  have hbyte : (held s).utf8ByteSize < 256 := Nat.lt_succ_of_le (longest_held s).fits
  have hdigit : ∀ n < 16, '\n' ≠ hexDigit n ∧ '\r' ≠ hexDigit n := by decide
  have hhigh := hdigit ((held s).utf8ByteSize / 16) (by omega)
  have hlow := hdigit ((held s).utf8ByteSize % 16) (by omega)
  have hmem (c : Char) (hc : c = '\n' ∨ c = '\r') :
      c ∈ (counted s).toList ↔ c ∈ (held s).toList := by
    have hescaped : c ∈ (held s).toList.flatMap escapedChar ↔ c ∈ (held s).toList :=
      mem_flatMap_escapedChar (by rcases hc with rfl | rfl <;> decide) _
    rw [toList_counted]
    simp only [List.mem_cons, List.mem_append, hescaped]
    rcases hc with rfl | rfl <;> simp [hhigh, hlow]
  rw [Broken, Broken, hmem '\n' (.inl rfl), hmem '\r' (.inr rfl)]

end Bindery.Text
