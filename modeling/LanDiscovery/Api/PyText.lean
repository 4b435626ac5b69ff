import LanDiscovery.Library.Lexicographic
import LanDiscovery.Library.Utf8

/-!
# Python strings

The methods of `str` that the API calls.  A string is the list of its code
points; what the JSON parser and the model validation let through has no
surrogates, so these are Lean's characters.
-/

namespace LanDiscovery
namespace Api

open Library Library.Lexicographic

/-- A Python `str`. -/
abbrev Str := List Char

/-- A string literal. -/
def str (s : String) : Str := s.toList

/-- `str.isspace` of one character. -/
def isSpace (c : Char) : Bool :=
  let n := c.toNat
  (9 ≤ n && n ≤ 13) || (28 ≤ n && n ≤ 32) || n == 0x85 || n == 0xA0 || n == 0x1680 ||
    (0x2000 ≤ n && n ≤ 0x200A) || n == 0x2028 || n == 0x2029 || n == 0x202F || n == 0x205F ||
    n == 0x3000

/-- `str.strip`. -/
def strip (s : Str) : Str :=
  ((s.dropWhile isSpace).reverse.dropWhile isSpace).reverse

/-- The characters other than `a` to `z` whose upper case is ASCII. -/
def specialUpper : List (Nat × String) :=
  [(0xDF, "SS"), (0x131, "I"), (0x17F, "S"), (0xFB00, "FF"), (0xFB01, "FI"), (0xFB02, "FL"),
    (0xFB03, "FFI"), (0xFB04, "FFL"), (0xFB05, "ST"), (0xFB06, "ST")]

/-- The upper case of a character.  Characters whose upper case is not ASCII
are left alone: the results are only compared with ASCII texts. -/
def upperChar (c : Char) : Str :=
  if 97 ≤ c.toNat ∧ c.toNat ≤ 122 then [Char.ofNat (c.toNat - 32)]
  else
    match specialUpper.lookup c.toNat with
    | some s => str s
    | none => [c]

/-- `str.upper`. -/
def upper (s : Str) : Str :=
  s.flatMap upperChar

/-- The value of an optional string where Python takes it for true: present and
not empty. -/
def truthy (s : Option Str) : Option Str :=
  s.filter fun text => !text.isEmpty

/-- `sorted` of strings, by code points. -/
def sorted (texts : List Str) : List Str :=
  sortTexts Char.toNat texts

@[simp] theorem truthy_none : truthy none = none := rfl

theorem truthy_eq_some {s : Option Str} {text : Str} :
    truthy s = some text ↔ s = some text ∧ text ≠ [] := by
  simp [truthy, Option.filter_eq_some_iff]

/-- A string that is not present and empty at once is its own truth. -/
@[simp] theorem truthy_of_ne {s : Option Str} (h : s ≠ some []) : truthy s = s := by
  cases s with
  | none => rfl
  | some text =>
      have hne : text ≠ [] := fun hnil => h (hnil ▸ rfl)
      simp [truthy, hne]

theorem specialUpper_not_lower : ∀ p ∈ specialUpper, ∀ c ∈ str p.2,
    ¬ (97 ≤ c.toNat ∧ c.toNat ≤ 122) := by
  have hall : (specialUpper.all fun p => (str p.2).all fun c =>
      !(97 ≤ c.toNat && c.toNat ≤ 122)) = true := by
    decide
  simpa only [List.all_eq_true, Bool.not_eq_true', Bool.and_eq_false_iff, decide_eq_false_iff_not,
    not_and_or] using hall

/-- No upper case is a small ASCII letter. -/
theorem not_lower_of_mem_upper {s : Str} {c : Char} (h : c ∈ upper s) :
    ¬ (97 ≤ c.toNat ∧ c.toNat ≤ 122) := by
  obtain ⟨d, -, hc⟩ := List.mem_flatMap.mp h
  unfold upperChar at hc
  split at hc
  · next hlower =>
      have hval : (Char.ofNat (d.toNat - 32)).toNat = d.toNat - 32 :=
        Utf8.toNat_ofNat_of_lt (by omega)
      obtain rfl := List.mem_singleton.mp hc
      omega
  · next hlower =>
      split at hc
      · next text htext =>
          obtain ⟨before, after, hsplit, -⟩ := List.lookup_eq_some_iff.mp htext
          have hmem : (d.toNat, text) ∈ specialUpper := by simp [hsplit]
          exact specialUpper_not_lower _ hmem c hc
      · obtain rfl := List.mem_singleton.mp hc
        exact hlower

theorem sorted_perm (texts : List Str) : (sorted texts).Perm texts :=
  sortTexts_perm texts

theorem sorted_eq_iff_perm {texts texts' : List Str} :
    sorted texts = sorted texts' ↔ texts.Perm texts' := by
  refine sortTexts_eq_iff_perm ?_
  intro c d h
  exact Char.ext (UInt32.toNat_inj.mp h)

@[simp] theorem sorted_sorted (texts : List Str) : sorted (sorted texts) = sorted texts :=
  sorted_eq_iff_perm.mpr (sorted_perm texts)

end Api
end LanDiscovery
