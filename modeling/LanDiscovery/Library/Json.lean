import LanDiscovery.Library.Utf8

/-!
# JSON texts

The grammar of RFC 8259 over octets, as derivations: `ValueText bs v` says that
the octets `bs` are a JSON text of the value `v`, without whitespace around it.
Strings contain Unicode characters in UTF-8, so a text that is derivable is
well-formed by construction.

The general fact about the grammar is `ValueText.clean`: no derivation contains
an octet below `0x20` other than tab, line feed and carriage return, nor an
ill-formed octet sequence.  It is what a producer that copies octets into a text
has to meet.
-/

namespace LanDiscovery
namespace Library
namespace Json

open Utf8

/-- JSON values.  A number is its lexeme and a string the list of the code points
and escaped code units it is written with. -/
inductive Value where
  | null
  | bool (b : Bool)
  | number (lexeme : Bytes)
  | string (s : List Nat)
  | array (items : List Value)
  | object (members : List (List Nat × Value))

/-- Insignificant whitespace. -/
def isWhitespace (b : UInt8) : Bool :=
  b == 0x20 || b == 0x09 || b == 0x0A || b == 0x0D

/-- A run of insignificant whitespace. -/
def Whitespace (bs : Bytes) : Prop :=
  ∀ b ∈ bs, isWhitespace b = true

/-- `DIGIT`. -/
def isDigit (b : UInt8) : Bool :=
  48 ≤ b && b ≤ 57

/-- The integer part of a number: no leading zeros. -/
inductive IntText : Bytes → Prop
  | zero : IntText [48]
  | digits {d : UInt8} {ds : Bytes} (head : isDigit d = true) (nonzero : d ≠ 48)
      (tail : ∀ b ∈ ds, isDigit b = true) : IntText (d :: ds)

/-- The optional fraction of a number. -/
inductive FracText : Bytes → Prop
  | none : FracText []
  | digits {d : UInt8} {ds : Bytes} (all : ∀ b ∈ d :: ds, isDigit b = true) :
      FracText (46 :: d :: ds)

/-- The optional exponent of a number. -/
inductive ExpText : Bytes → Prop
  | none : ExpText []
  | digits {e d : UInt8} {sign ds : Bytes} (letter : e = 101 ∨ e = 69)
      (signed : sign = [] ∨ sign = [43] ∨ sign = [45]) (all : ∀ b ∈ d :: ds, isDigit b = true) :
      ExpText (e :: (sign ++ d :: ds))

/-- `number`. -/
inductive NumberText : Bytes → Prop
  | mk {minus int frac exp : Bytes} (sign : minus = [] ∨ minus = [45]) (hint : IntText int)
      (hfrac : FracText frac) (hexp : ExpText exp) : NumberText (minus ++ int ++ frac ++ exp)

/-- The code points of the two-octet escapes. -/
def simpleEscape (letter : UInt8) : Option Nat :=
  match letter.toNat with
  | 34 => some 34
  | 92 => some 92
  | 47 => some 47
  | 98 => some 8
  | 102 => some 12
  | 110 => some 10
  | 114 => some 13
  | 116 => some 9
  | _ => none

/-- The value of a hexadecimal digit. -/
def hexValue (b : UInt8) : Option Nat :=
  if 48 ≤ b ∧ b ≤ 57 then some (b.toNat - 48)
  else if 65 ≤ b ∧ b ≤ 70 then some (b.toNat - 55)
  else if 97 ≤ b ∧ b ≤ 102 then some (b.toNat - 87)
  else none

/-- What stands between the quotation marks of a string. -/
inductive StringBody : Bytes → List Nat → Prop
  | nil : StringBody [] []
  | char {c : Char} {bs : Bytes} {s : List Nat} (high : 0x20 ≤ c.toNat) (quote : c.toNat ≠ 34)
      (backslash : c.toNat ≠ 92) (rest : StringBody bs s) :
      StringBody (String.utf8EncodeChar c ++ bs) (c.toNat :: s)
  | escape {letter : UInt8} {code : Nat} {bs : Bytes} {s : List Nat}
      (known : simpleEscape letter = some code) (rest : StringBody bs s) :
      StringBody (92 :: letter :: bs) (code :: s)
  | unicode {b₀ b₁ b₂ b₃ : UInt8} {h₀ h₁ h₂ h₃ : Nat} {bs : Bytes} {s : List Nat}
      (hex₀ : hexValue b₀ = some h₀) (hex₁ : hexValue b₁ = some h₁)
      (hex₂ : hexValue b₂ = some h₂) (hex₃ : hexValue b₃ = some h₃) (rest : StringBody bs s) :
      StringBody (92 :: 117 :: b₀ :: b₁ :: b₂ :: b₃ :: bs)
        ((((h₀ * 16 + h₁) * 16 + h₂) * 16 + h₃) :: s)

mutual

/-- `value`. -/
inductive ValueText : Bytes → Value → Prop
  | null : ValueText (ascii "null") .null
  | true : ValueText (ascii "true") (.bool true)
  | false : ValueText (ascii "false") (.bool false)
  | number {bs : Bytes} (h : NumberText bs) : ValueText bs (.number bs)
  | string {bs : Bytes} {s : List Nat} (h : StringBody bs s) :
      ValueText (34 :: (bs ++ [34])) (.string s)
  | emptyArray {w : Bytes} (h : Whitespace w) : ValueText (91 :: (w ++ [93])) (.array [])
  | array {bs : Bytes} {vs : List Value} (h : Elements bs vs) :
      ValueText (91 :: (bs ++ [93])) (.array vs)
  | emptyObject {w : Bytes} (h : Whitespace w) : ValueText (123 :: (w ++ [125])) (.object [])
  | object {bs : Bytes} {ms : List (List Nat × Value)} (h : Members bs ms) :
      ValueText (123 :: (bs ++ [125])) (.object ms)

/-- The elements of a non-empty array. -/
inductive Elements : Bytes → List Value → Prop
  | single {w bs w' : Bytes} {v : Value} (before : Whitespace w) (value : ValueText bs v)
      (after : Whitespace w') : Elements (w ++ bs ++ w') [v]
  | cons {w bs w' bs' : Bytes} {v : Value} {vs : List Value} (before : Whitespace w)
      (value : ValueText bs v) (after : Whitespace w') (rest : Elements bs' vs) :
      Elements (w ++ bs ++ w' ++ 44 :: bs') (v :: vs)

/-- The members of a non-empty object. -/
inductive Members : Bytes → List (List Nat × Value) → Prop
  | single {bs : Bytes} {m : List Nat × Value} (member : Member bs m) : Members bs [m]
  | cons {bs bs' : Bytes} {m : List Nat × Value} {ms : List (List Nat × Value)}
      (member : Member bs m) (rest : Members bs' ms) : Members (bs ++ 44 :: bs') (m :: ms)

/-- `member`, with the whitespace around it. -/
inductive Member : Bytes → List Nat × Value → Prop
  | mk {w name w₁ w₂ bs w' : Bytes} {s : List Nat} {v : Value} (before : Whitespace w)
      (hname : StringBody name s) (middle : Whitespace w₁) (middle' : Whitespace w₂)
      (value : ValueText bs v) (after : Whitespace w') :
      Member (w ++ 34 :: (name ++ 34 :: (w₁ ++ 58 :: (w₂ ++ (bs ++ w'))))) (s, v)

end

/-- `JSON-text`: a value with whitespace around it. -/
def JsonText (bs : Bytes) (v : Value) : Prop :=
  ∃ w core w', bs = w ++ core ++ w' ∧ Whitespace w ∧ ValueText core v ∧ Whitespace w'

/-- A syntactically valid JSON text. -/
def Valid (bs : Bytes) : Prop :=
  ∃ v, JsonText bs v

/-! ## Writing a text -/

/-- The texts joined with `','`. -/
def joinComma : List Bytes → Bytes
  | [] => []
  | [text] => text
  | text :: texts => text ++ 44 :: joinComma texts

theorem whitespace_nil : Whitespace [] := by
  intro b hb
  simp at hb

/-- An ASCII octet that a string contains as it is. -/
def isPlainOctet (b : UInt8) : Bool :=
  0x20 ≤ b.toNat && b.toNat < 128 && b.toNat != 34 && b.toNat != 92

/-- A string written with unescaped ASCII characters only. -/
theorem StringBody.of_plain {bs : Bytes} (h : bs.all isPlainOctet = true) :
    StringBody bs (bs.map UInt8.toNat) := by
  induction bs with
  | nil => exact .nil
  | cons b bs ih =>
      simp only [List.all_cons, isPlainOctet, Bool.and_eq_true, decide_eq_true_eq,
        bne_iff_ne] at h
      obtain ⟨⟨⟨⟨hlow, hhigh⟩, hquote⟩, hback⟩, hrest⟩ := h
      have hval : (Char.ofNat b.toNat).toNat = b.toNat := toNat_ofNat_of_lt hhigh
      have hchar : String.utf8EncodeChar (Char.ofNat b.toNat) = [b] := by
        rw [utf8EncodeChar_ascii _ (by omega), hval]
        simp
      have htail := ih (by simpa [isPlainOctet] using hrest)
      have hbody := StringBody.char (by omega) (by omega) (by omega) htail
        (c := Char.ofNat b.toNat)
      rw [hchar, hval] at hbody
      exact hbody

/-- A member written without whitespace. -/
theorem Member.of_field {name bs : Bytes} {s : List Nat} {v : Value} (hname : StringBody name s)
    (hvalue : ValueText bs v) : Member (34 :: (name ++ 34 :: 58 :: bs)) (s, v) := by
  have h := Member.mk whitespace_nil hname whitespace_nil whitespace_nil hvalue whitespace_nil
  simpa using h

/-- An object written as a list of members. -/
theorem ValueText.of_members {texts : List Bytes} {ms : List (List Nat × Value)}
    (h : List.Forall₂ Member texts ms) :
    ValueText (123 :: (joinComma texts ++ [125])) (.object ms) := by
  have hmembers : texts ≠ [] → Members (joinComma texts) ms := by
    induction h with
    | nil => simp
    | @cons text m texts ms member rest ih =>
        intro _
        cases rest with
        | nil => exact .single member
        | cons member' rest' => exact .cons member (ih (by simp))
  cases h with
  | nil => exact .emptyObject whitespace_nil
  | cons member rest => exact .object (hmembers (by simp))

/-- An array written as a list of values. -/
theorem ValueText.of_elements {texts : List Bytes} {vs : List Value}
    (h : List.Forall₂ ValueText texts vs) :
    ValueText (91 :: (joinComma texts ++ [93])) (.array vs) := by
  have helements : texts ≠ [] → Elements (joinComma texts) vs := by
    induction h with
    | nil => simp
    | @cons text v texts vs value rest ih =>
        intro _
        have hhead := Elements.single whitespace_nil value whitespace_nil
        cases rest with
        | nil => simpa [joinComma] using hhead
        | cons value' rest' =>
            have htail := Elements.cons whitespace_nil value whitespace_nil (ih (by simp))
            simpa [joinComma] using htail
  cases h with
  | nil => exact .emptyArray whitespace_nil
  | cons value rest => exact .array (helements (by simp))

/-! ## Clean text -/

/-- The octets that may appear in a JSON text. -/
def isTextOctet (b : UInt8) : Bool :=
  0x20 ≤ b.toNat || b == 0x09 || b == 0x0A || b == 0x0D

/-- Well-formed UTF-8 without control octets other than tab, line feed and
carriage return. -/
def CleanText (bs : Bytes) : Prop :=
  WellFormed bs ∧ ∀ b ∈ bs, isTextOctet b = true

/-- A text octet that is ASCII, and so a character of its own. -/
def isAsciiText (b : UInt8) : Bool :=
  b.toNat < 128 && isTextOctet b

@[simp] theorem cleanText_nil : CleanText [] :=
  ⟨wellFormed_nil, by simp⟩

theorem CleanText.append {xs ys : Bytes} (hx : CleanText xs) (hy : CleanText ys) :
    CleanText (xs ++ ys) := by
  refine ⟨hx.1.append hy.1, fun b hb => ?_⟩
  rcases List.mem_append.mp hb with hb | hb
  · exact hx.2 b hb
  · exact hy.2 b hb

/-- Clean text can be cut at every ASCII octet. -/
@[simp] theorem cleanText_append_cons {xs ys : Bytes} {a : UInt8} (ha : isAsciiText a = true) :
    CleanText (xs ++ a :: ys) ↔ CleanText xs ∧ CleanText ys := by
  obtain ⟨hascii, htext⟩ : a.toNat < 128 ∧ isTextOctet a = true := by
    simpa [isAsciiText] using ha
  unfold CleanText
  rw [wellFormed_append_cons_ascii hascii]
  simp only [List.forall_mem_append, List.forall_mem_cons, htext, true_and]
  tauto

@[simp] theorem cleanText_cons {ys : Bytes} {a : UInt8} (ha : isAsciiText a = true) :
    CleanText (a :: ys) ↔ CleanText ys := by
  have h : CleanText ([] ++ a :: ys) ↔ CleanText [] ∧ CleanText ys :=
    cleanText_append_cons ha
  simpa using h

theorem cleanText_of_all {bs : Bytes} (h : bs.all isAsciiText = true) : CleanText bs := by
  induction bs with
  | nil => exact cleanText_nil
  | cons b bs ih =>
      rw [List.all_cons, Bool.and_eq_true] at h
      rw [cleanText_cons h.1]
      exact ih h.2

/-- Clean texts joined with commas, and conversely. -/
theorem cleanText_joinComma {texts : List Bytes} :
    CleanText (joinComma texts) ↔ ∀ text ∈ texts, CleanText text := by
  induction texts with
  | nil => simp [joinComma]
  | cons text texts ih =>
      cases texts with
      | nil => simp [joinComma]
      | cons text' texts =>
          rw [joinComma, cleanText_append_cons (by decide), ih]
          · simp
          · simp

/-- An object or array is clean exactly when what it is joined from is. -/
theorem cleanText_delimited {left right : UInt8} (hleft : isAsciiText left = true)
    (hright : isAsciiText right = true) {texts : List Bytes} :
    CleanText (left :: (joinComma texts ++ [right])) ↔ ∀ text ∈ texts, CleanText text := by
  rw [cleanText_cons hleft, cleanText_append_cons hright, cleanText_joinComma]
  simp

theorem isAsciiText_of_range {b : UInt8} (hlow : 0x20 ≤ b.toNat) (hhigh : b.toNat < 128) :
    isAsciiText b = true := by
  simp [isAsciiText, isTextOctet, hlow, hhigh]

theorem Whitespace.clean {w : Bytes} (h : Whitespace w) : CleanText w := by
  apply cleanText_of_all
  apply List.all_eq_true.mpr
  intro b hb
  have hb := h b hb
  simp only [isWhitespace, Bool.or_eq_true, beq_iff_eq] at hb
  rcases hb with ((rfl | rfl) | rfl) | rfl <;> decide

theorem isAsciiText_of_isDigit {b : UInt8} (h : isDigit b = true) : isAsciiText b = true := by
  simp only [isDigit, Bool.and_eq_true, decide_eq_true_eq, UInt8.le_iff_toNat_le,
    show (48 : UInt8).toNat = 48 from rfl, show (57 : UInt8).toNat = 57 from rfl] at h
  exact isAsciiText_of_range (by omega) (by omega)

theorem isAsciiText_of_hexValue {b : UInt8} {value : Nat} (h : hexValue b = some value) :
    isAsciiText b = true := by
  simp only [hexValue, UInt8.le_iff_toNat_le, show (48 : UInt8).toNat = 48 from rfl,
    show (57 : UInt8).toNat = 57 from rfl, show (65 : UInt8).toNat = 65 from rfl,
    show (70 : UInt8).toNat = 70 from rfl, show (97 : UInt8).toNat = 97 from rfl,
    show (102 : UInt8).toNat = 102 from rfl] at h
  have hrange : 0x20 ≤ b.toNat ∧ b.toNat < 128 := by
    split_ifs at h <;> omega
  exact isAsciiText_of_range hrange.1 hrange.2

theorem isAsciiText_of_simpleEscape {b : UInt8} {code : Nat} (h : simpleEscape b = some code) :
    isAsciiText b = true := by
  have hrange : 0x20 ≤ b.toNat ∧ b.toNat < 128 := by
    unfold simpleEscape at h
    split at h <;> first | omega | simp at h
  exact isAsciiText_of_range hrange.1 hrange.2

theorem cleanText_of_digits {bs : Bytes} (h : ∀ b ∈ bs, isDigit b = true) : CleanText bs :=
  cleanText_of_all (List.all_eq_true.mpr fun b hb => isAsciiText_of_isDigit (h b hb))

theorem IntText.clean {bs : Bytes} (h : IntText bs) : CleanText bs := by
  cases h with
  | zero => exact cleanText_of_all (by decide)
  | digits head nonzero tail =>
      rw [cleanText_cons (isAsciiText_of_isDigit head)]
      exact cleanText_of_digits tail

theorem FracText.clean {bs : Bytes} (h : FracText bs) : CleanText bs := by
  cases h with
  | none => exact cleanText_nil
  | digits all =>
      rw [cleanText_cons (by decide)]
      exact cleanText_of_digits all

theorem ExpText.clean {bs : Bytes} (h : ExpText bs) : CleanText bs := by
  cases h with
  | none => exact cleanText_nil
  | @digits e d sign ds letter signed all =>
      have he : isAsciiText e = true := by
        rcases letter with rfl | rfl <;> decide
      have hsign : CleanText sign := by
        rcases signed with rfl | rfl | rfl <;> exact cleanText_of_all (by decide)
      rw [cleanText_cons he]
      exact hsign.append (cleanText_of_digits all)

theorem NumberText.clean {bs : Bytes} (h : NumberText bs) : CleanText bs := by
  obtain ⟨hminus, hint, hfrac, hexp⟩ := h
  refine ((CleanText.append ?_ hint.clean).append hfrac.clean).append hexp.clean
  rcases hminus with rfl | rfl <;> exact cleanText_of_all (by decide)

/-- The encoding of a character from `0x20` on is clean. -/
theorem cleanText_utf8EncodeChar {c : Char} (h : 0x20 ≤ c.toNat) :
    CleanText (String.utf8EncodeChar c) := by
  refine ⟨⟨[c], by simp⟩, fun b hb => ?_⟩
  have hlow : 0x20 ≤ b.toNat := by
    by_cases hascii : c.toNat < 128
    · rw [utf8EncodeChar_ascii c hascii, List.mem_singleton] at hb
      rw [hb, UInt8.toNat_ofNat']
      omega
    · have hhigh := le_of_mem_utf8EncodeChar c (by omega) b hb
      omega
  simp [isTextOctet, hlow]

theorem StringBody.clean {bs : Bytes} {s : List Nat} (h : StringBody bs s) : CleanText bs := by
  induction h with
  | nil => exact cleanText_nil
  | char high quote backslash rest ih => exact (cleanText_utf8EncodeChar high).append ih
  | escape known rest ih =>
      rw [cleanText_cons (by decide), cleanText_cons (isAsciiText_of_simpleEscape known)]
      exact ih
  | unicode hex₀ hex₁ hex₂ hex₃ rest ih =>
      rw [cleanText_cons (by decide), cleanText_cons (by decide),
        cleanText_cons (isAsciiText_of_hexValue hex₀),
        cleanText_cons (isAsciiText_of_hexValue hex₁),
        cleanText_cons (isAsciiText_of_hexValue hex₂),
        cleanText_cons (isAsciiText_of_hexValue hex₃)]
      exact ih

mutual

theorem ValueText.clean {bs : Bytes} {v : Value} : ValueText bs v → CleanText bs
  | .null => cleanText_of_all (by decide)
  | .true => cleanText_of_all (by decide)
  | .false => cleanText_of_all (by decide)
  | .number h => h.clean
  | .string h => by
      rw [cleanText_cons (by decide), cleanText_append_cons (by decide)]
      exact ⟨h.clean, cleanText_nil⟩
  | .emptyArray h => by
      rw [cleanText_cons (by decide), cleanText_append_cons (by decide)]
      exact ⟨h.clean, cleanText_nil⟩
  | .array h => by
      rw [cleanText_cons (by decide), cleanText_append_cons (by decide)]
      exact ⟨h.clean, cleanText_nil⟩
  | .emptyObject h => by
      rw [cleanText_cons (by decide), cleanText_append_cons (by decide)]
      exact ⟨h.clean, cleanText_nil⟩
  | .object h => by
      rw [cleanText_cons (by decide), cleanText_append_cons (by decide)]
      exact ⟨h.clean, cleanText_nil⟩

theorem Elements.clean {bs : Bytes} {vs : List Value} : Elements bs vs → CleanText bs
  | .single before value after => (before.clean.append value.clean).append after.clean
  | .cons before value after rest => by
      rw [cleanText_append_cons (by decide)]
      exact ⟨(before.clean.append value.clean).append after.clean, rest.clean⟩

theorem Members.clean {bs : Bytes} {ms : List (List Nat × Value)} : Members bs ms → CleanText bs
  | .single member => member.clean
  | .cons member rest => by
      rw [cleanText_append_cons (by decide)]
      exact ⟨member.clean, rest.clean⟩

theorem Member.clean {bs : Bytes} {m : List Nat × Value} : Member bs m → CleanText bs
  | .mk before hname middle middle' value after => by
      rw [cleanText_append_cons (by decide), cleanText_append_cons (by decide),
        cleanText_append_cons (by decide)]
      exact ⟨before.clean, hname.clean, middle.clean,
        middle'.clean.append (value.clean.append after.clean)⟩

end

/-- **Every JSON text is clean.** -/
theorem Valid.clean {bs : Bytes} (h : Valid bs) : CleanText bs := by
  obtain ⟨v, w, core, w', rfl, hw, hcore, hw'⟩ := h
  exact (hw.clean.append hcore.clean).append hw'.clean

end Json
end Library
end LanDiscovery
