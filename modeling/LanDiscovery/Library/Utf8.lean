import Mathlib.Data.List.Basic
import Mathlib.Tactic.Common

/-!
# Byte strings and UTF-8

Byte strings are lists of octets.  A byte string is *well-formed* when it is the
UTF-8 encoding of some list of characters; Lean's `Char` is exactly the Unicode
scalar values, so overlong forms, surrogates and stray continuation bytes are
excluded by the definition itself.

The main fact is self-synchronisation at ASCII octets: an octet below `128` is
always a character of its own, so well-formedness can be decided separately on
the two sides of it (`wellFormed_append_cons_ascii`).  Everything a text format
does with ASCII punctuation rests on this one lemma.
-/

namespace LanDiscovery
namespace Library

/-- A byte string. -/
abbrev Bytes := List UInt8

namespace Utf8

/-- The byte string of an ASCII literal (one octet per character). -/
def ascii (s : String) : Bytes :=
  s.toList.map fun c => UInt8.ofNat c.toNat

/-- The UTF-8 encoding of a list of characters. -/
def encode (cs : List Char) : Bytes :=
  cs.flatMap String.utf8EncodeChar

/-- The byte strings that are the encoding of some list of characters. -/
def WellFormed (bs : Bytes) : Prop :=
  ∃ cs, encode cs = bs

@[simp] theorem encode_nil : encode [] = [] := rfl

@[simp] theorem encode_cons (c : Char) (cs : List Char) :
    encode (c :: cs) = String.utf8EncodeChar c ++ encode cs := by
  simp [encode]

@[simp] theorem encode_append (cs ds : List Char) :
    encode (cs ++ ds) = encode cs ++ encode ds := by
  simp [encode]

/-- A text is determined by its encoding. -/
theorem encode_injective : Function.Injective encode := by
  intro cs ds h
  have hbytes : cs.utf8Encode = ds.utf8Encode := congrArg List.toByteArray h
  have hstring : String.ofList cs = String.ofList ds := by
    apply String.toByteArray_inj.mp
    rw [String.toByteArray_ofList, String.toByteArray_ofList, hbytes]
  exact String.ofList_injective hstring

theorem wellFormed_nil : WellFormed [] := ⟨[], rfl⟩

theorem WellFormed.append {xs ys : Bytes} (hx : WellFormed xs) (hy : WellFormed ys) :
    WellFormed (xs ++ ys) := by
  obtain ⟨cs, rfl⟩ := hx
  obtain ⟨ds, rfl⟩ := hy
  exact ⟨cs ++ ds, encode_append cs ds⟩

/-- A character below `128` is encoded as the octet with its own value. -/
theorem utf8EncodeChar_ascii (c : Char) (h : c.toNat < 128) :
    String.utf8EncodeChar c = [UInt8.ofNat c.toNat] := by
  have hle : c.val.toNat ≤ 0x7f := by
    change c.toNat ≤ 0x7f
    omega
  unfold String.utf8EncodeChar
  rw [if_pos hle]
  rfl

/-- Every octet of the encoding of a character from `128` on is itself at least
`128`: multi-byte characters never contain an ASCII octet. -/
theorem le_of_mem_utf8EncodeChar (c : Char) (h : 128 ≤ c.toNat) (b : UInt8)
    (hb : b ∈ String.utf8EncodeChar c) : 128 ≤ b.toNat := by
  have hnot : ¬ c.val.toNat ≤ 0x7f := by
    change ¬ c.toNat ≤ 0x7f
    omega
  unfold String.utf8EncodeChar at hb
  simp only [if_neg hnot] at hb
  split at hb
  · rcases List.mem_pair.mp hb with rfl | rfl <;> simp <;> omega
  · split at hb
    · simp only [List.mem_cons, List.not_mem_nil, or_false] at hb
      rcases hb with rfl | rfl | rfl <;> simp <;> omega
    · simp only [List.mem_cons, List.not_mem_nil, or_false] at hb
      rcases hb with rfl | rfl | rfl | rfl <;> simp <;> omega

/-- The character of a number below `128` has that number. -/
theorem toNat_ofNat_of_lt {n : Nat} (h : n < 128) : (Char.ofNat n).toNat = n := by
  have hvalid : n.isValidChar := Or.inl (by omega)
  rw [Char.ofNat, dif_pos hvalid]
  rfl

/-- An ASCII octet is well-formed on its own. -/
theorem wellFormed_singleton (a : UInt8) (ha : a.toNat < 128) : WellFormed [a] := by
  have hval := toNat_ofNat_of_lt ha
  refine ⟨[Char.ofNat a.toNat], ?_⟩
  rw [encode_cons, encode_nil, List.append_nil, utf8EncodeChar_ascii _ (by omega), hval]
  simp

/-- The encoding of a list of characters can only be cut at an ASCII octet
between two characters. -/
theorem encode_eq_append_cons {cs : List Char} {xs ys : Bytes} {a : UInt8}
    (ha : a.toNat < 128) (h : encode cs = xs ++ a :: ys) :
    WellFormed xs ∧ WellFormed ys := by
  induction cs generalizing xs with
  | nil => simp at h
  | cons c cs ih =>
      rw [encode_cons] at h
      by_cases hc : c.toNat < 128
      · rw [utf8EncodeChar_ascii c hc] at h
        cases xs with
        | nil =>
            rw [List.singleton_append, List.nil_append, List.cons.injEq] at h
            exact ⟨wellFormed_nil, ⟨cs, h.2⟩⟩
        | cons x xs =>
            rw [List.singleton_append, List.cons_append, List.cons.injEq] at h
            obtain ⟨hxs, hys⟩ := ih h.2
            refine ⟨?_, hys⟩
            have hx : WellFormed [x] := ⟨[c], by simp [utf8EncodeChar_ascii c hc, h.1]⟩
            exact hx.append hxs
      · -- the octet `a` cannot lie inside the encoding of `c`
        have hhigh := le_of_mem_utf8EncodeChar c (by omega)
        -- where the cut falls: behind the encoding of `c`, or at its end
        rcases List.append_eq_append_iff.mp h with ⟨ms, hxs, hrest⟩ | ⟨ms, hchar, hrest⟩
        · obtain ⟨hms, hys⟩ := ih hrest
          refine ⟨?_, hys⟩
          rw [hxs]
          exact WellFormed.append ⟨[c], by simp⟩ hms
        · cases ms with
          | nil =>
              rw [List.nil_append] at hrest
              rw [List.append_nil] at hchar
              have hcut : encode cs = [] ++ a :: ys := hrest.symm
              obtain ⟨_, hys⟩ := ih hcut
              exact ⟨⟨[c], by simp [hchar]⟩, hys⟩
          | cons m ms =>
              rw [List.cons_append, List.cons.injEq] at hrest
              have hm := hhigh m (by simp [hchar])
              rw [← hrest.1] at hm
              omega

/-- **Self-synchronisation.**  Well-formedness splits at every ASCII octet. -/
theorem wellFormed_append_cons_ascii {xs ys : Bytes} {a : UInt8} (ha : a.toNat < 128) :
    WellFormed (xs ++ a :: ys) ↔ WellFormed xs ∧ WellFormed ys := by
  constructor
  · rintro ⟨cs, h⟩
    exact encode_eq_append_cons ha h
  · rintro ⟨hxs, hys⟩
    rw [← List.singleton_append]
    exact hxs.append ((wellFormed_singleton a ha).append hys)

end Utf8
end Library
end LanDiscovery
