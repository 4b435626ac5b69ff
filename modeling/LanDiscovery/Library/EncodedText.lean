import LanDiscovery.Library.Text
import LanDiscovery.Library.Utf8

/-!
# Searching in encoded texts

An ASCII pattern is found in the UTF-8 encoding of a text where it is found in the text
itself.  The octets of any other character are skipped, since no pattern starts there.
-/

namespace LanDiscovery
namespace Library

namespace Text

variable {α : Type*}

/-- A suffix that starts with another letter is not touched by what comes before. -/
theorem suffix_append_iff_of_notMem {c : α} {before : List α} (h : c ∉ before)
    {pattern text : List α} : (c :: pattern) <:+ before ++ text ↔ (c :: pattern) <:+ text := by
  constructor
  · rintro ⟨front, hfront⟩
    rcases List.append_eq_append_iff.mp hfront with ⟨ms, hbefore, hrest⟩ | ⟨ms, -, hrest⟩
    · cases ms with
      | nil => exact ⟨[], by simpa using hrest⟩
      | cons m ms =>
          obtain ⟨rfl, -⟩ := List.cons.inj (hrest.trans (List.cons_append ..))
          exact absurd (by simp [hbefore]) h
    · exact ⟨ms, hrest.symm⟩
  · intro hsuffix
    exact hsuffix.trans (List.suffix_append before text)

variable [DecidableEq α]

/-- A search goes past letters that no occurrence can start with. -/
theorem rfind?_append_of_notMem {c : α} {before : List α} (h : c ∉ before)
    (pattern text : List α) :
    rfind? (c :: pattern) (before ++ text) =
      (rfind? (c :: pattern) text).map (· + before.length) := by
  induction before with
  | nil => simp
  | cons a before ih =>
      obtain ⟨hne, hrest⟩ := not_or.mp (mt List.mem_cons.mpr h)
      rw [List.cons_append, rfind?, ih hrest]
      cases rfind? (c :: pattern) text with
      | none => simp [hne]
      | some i => simp [Nat.add_assoc]

end Text

namespace Utf8

/-- The characters with one octet. -/
def IsAscii (c : Char) : Prop :=
  c.toNat < 128

instance (c : Char) : Decidable (IsAscii c) :=
  inferInstanceAs (Decidable (_ < _))

theorem isAscii_of_all {text : List Char} (h : (text.all fun c => c.toNat < 128) = true) :
    ∀ c ∈ text, IsAscii c := by
  intro c hc
  exact of_decide_eq_true (List.all_eq_true.mp h c hc)

/-- The octet of such a character. -/
def octet (c : Char) : UInt8 :=
  UInt8.ofNat c.toNat

theorem encode_cons_ascii {c : Char} (h : IsAscii c) (cs : List Char) :
    encode (c :: cs) = octet c :: encode cs := by
  rw [encode_cons, utf8EncodeChar_ascii c h]
  rfl

theorem octet_toNat {c : Char} (h : IsAscii c) : (octet c).toNat = c.toNat := by
  have hlt : c.toNat < 128 := h
  rw [octet, UInt8.toNat_ofNat']
  omega

theorem octet_inj {c d : Char} (hc : IsAscii c) (hd : IsAscii d) :
    octet c = octet d ↔ c = d := by
  constructor
  · intro h
    have hnat := congrArg UInt8.toNat h
    rw [octet_toNat hc, octet_toNat hd] at hnat
    exact Char.ext (UInt32.toNat_inj.mp hnat)
  · rintro rfl
    rfl

/-- The octet of an ASCII character is not in the encoding of another one. -/
theorem octet_notMem {c d : Char} (hc : IsAscii c) (hd : ¬ IsAscii d) :
    octet c ∉ String.utf8EncodeChar d := by
  intro hmem
  have hhigh := le_of_mem_utf8EncodeChar d (Nat.le_of_not_lt hd) _ hmem
  rw [octet_toNat hc] at hhigh
  exact absurd hc (Nat.not_lt.mpr hhigh)

theorem ne_of_isAscii {c d : Char} (hc : IsAscii c) (hd : ¬ IsAscii d) : c ≠ d := by
  rintro rfl
  exact hd hc

theorem take_encode (i : Nat) (text : List Char) :
    (encode text).take (encode (text.take i)).length = encode (text.take i) := by
  have hsplit : encode text = encode (text.take i) ++ encode (text.drop i) := by
    rw [← encode_append, List.take_append_drop]
  rw [hsplit, List.take_left]

theorem count_encode {c : Char} (hc : IsAscii c) (text : List Char) :
    (encode text).count (octet c) = text.count c := by
  induction text with
  | nil => rfl
  | cons d text ih =>
      by_cases hd : IsAscii d
      · rw [encode_cons_ascii hd, List.count_cons, List.count_cons, ih]
        simp [octet_inj hd hc]
      · rw [encode_cons, List.count_append, List.count_eq_zero.mpr (octet_notMem hc hd), ih,
          List.count_cons_of_ne (ne_of_isAscii hc hd).symm]
        omega

theorem prefix_encode_iff {pattern : List Char} (h : ∀ c ∈ pattern, IsAscii c)
    (text : List Char) : encode pattern <+: encode text ↔ pattern <+: text := by
  induction pattern generalizing text with
  | nil => simp
  | cons c pattern ih =>
      obtain ⟨hc, hpattern⟩ := List.forall_mem_cons.mp h
      rw [encode_cons_ascii hc]
      cases text with
      | nil => simp
      | cons d text =>
          by_cases hd : IsAscii d
          · rw [encode_cons_ascii hd, List.cons_prefix_cons, List.cons_prefix_cons,
              octet_inj hc hd, ih hpattern]
          · refine iff_of_false ?_ ?_
            · intro hprefix
              rw [encode_cons] at hprefix
              cases hchar : String.utf8EncodeChar d with
              | nil => exact absurd hchar (by simp [String.utf8EncodeChar_ne_nil])
              | cons b bs =>
                  rw [hchar, List.cons_append, List.cons_prefix_cons] at hprefix
                  exact octet_notMem hc hd (by simp [hchar, hprefix.1])
            · rw [List.cons_prefix_cons]
              exact fun hcons => ne_of_isAscii hc hd hcons.1

theorem suffix_encode_iff {c : Char} (hc : IsAscii c) (pattern text : List Char) :
    encode (c :: pattern) <:+ encode text ↔ (c :: pattern) <:+ text := by
  constructor
  · rintro ⟨front, hfront⟩
    rw [encode_cons_ascii hc] at hfront
    have hlt : (octet c).toNat < 128 := by
      rw [octet_toNat hc]
      exact hc
    obtain ⟨⟨before, rfl⟩, -⟩ := encode_eq_append_cons hlt hfront.symm
    refine ⟨before, encode_injective ?_⟩
    rw [encode_append, encode_cons_ascii hc, hfront]
  · rintro ⟨front, rfl⟩
    exact ⟨encode front, (encode_append ..).symm⟩

/-- What follows an ASCII character in the encoding is the encoding of what follows it. -/
theorem drop_encode_append_cons {c : Char} (hc : IsAscii c) (before after : List Char) :
    (encode (before ++ c :: after)).drop ((encode before).length + 1) = encode after := by
  rw [encode_append, encode_cons_ascii hc, List.drop_length_add_append, List.drop_one,
    List.tail_cons]

/-- **Searching an encoded text.**  The last occurrence of an ASCII pattern is where it
is in the text, counted in octets. -/
theorem rfind?_encode {c : Char} {pattern : List Char} (hc : IsAscii c)
    (hpattern : ∀ d ∈ pattern, IsAscii d) (text : List Char) :
    Text.rfind? (encode (c :: pattern)) (encode text) =
      (Text.rfind? (c :: pattern) text).map fun i => (encode (text.take i)).length := by
  induction text with
  | nil => simp [Text.rfind?, encode_cons_ascii hc]
  | cons d text ih =>
      by_cases hd : IsAscii d
      · have hprefix : (encode (c :: pattern)).isPrefixOf (encode (d :: text)) =
            (c :: pattern).isPrefixOf (d :: text) := by
          rw [Bool.eq_iff_iff, List.isPrefixOf_iff_prefix, List.isPrefixOf_iff_prefix]
          exact prefix_encode_iff (List.forall_mem_cons.mpr ⟨hc, hpattern⟩) (d :: text)
        rw [encode_cons_ascii hd] at hprefix ⊢
        rw [Text.rfind?, Text.rfind?, ih, hprefix]
        cases Text.rfind? (c :: pattern) text with
        | some i => simp [encode_cons_ascii hd]
        | none =>
            dsimp only [Option.map_none]
            split <;> rfl
      · -- no occurrence starts in the octets of the character
        have hskip := Text.rfind?_append_of_notMem (octet_notMem hc hd) (encode pattern)
          (encode text)
        have hd' : c ∉ [d] := by simpa using ne_of_isAscii hc hd
        have hskip' := Text.rfind?_append_of_notMem hd' pattern text
        rw [List.singleton_append] at hskip'
        rw [← encode_cons_ascii hc] at hskip
        rw [encode_cons d, hskip, hskip', ih]
        cases Text.rfind? (c :: pattern) text with
        | none => rfl
        | some i => simp [Nat.add_comm]

end Utf8
end Library
end LanDiscovery
