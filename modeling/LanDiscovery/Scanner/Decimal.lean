import LanDiscovery.Library.Json
import LanDiscovery.Library.PrefixCode
import LanDiscovery.Scanner.RDataFormatter
import Mathlib.Data.Nat.Init

/-!
# Numbers in decimal

The digits that `oss << n` and `std::to_string` write: which they are, and that the
number is read off a text as far as its digits go.
-/

namespace LanDiscovery
namespace Scanner

open Library Library.Json Library.PrefixCode

/-- The digit of a number below ten. -/
def digitOctet (d : Nat) : UInt8 :=
  UInt8.ofNat (48 + d)

theorem isDigit_digitOctet : ∀ d, d < 10 → Json.isDigit (digitOctet d) = true := by
  decide

theorem digitOctet_ne_zero : ∀ d, d < 10 → 0 < d → digitOctet d ≠ 48 := by
  decide

@[simp] theorem decimal_of_lt {n : Nat} (h : n < 10) : decimal n = [digitOctet n] := by
  rw [decimal, Nat.toDigits_of_lt_base h, List.map_singleton, Nat.toNat_digitChar_of_lt_ten h,
    digitOctet]

theorem decimal_of_le {n : Nat} (h : 10 ≤ n) :
    decimal n = decimal (n / 10) ++ [digitOctet (n % 10)] := by
  rw [decimal, Nat.toDigits_of_base_le (by omega) h, List.map_append, List.map_singleton,
    Nat.toNat_digitChar_of_lt_ten (by omega), decimal, digitOctet]

/-- A positive number starts with a digit other than zero. -/
theorem decimal_of_pos {n : Nat} (hn : 0 < n) :
    ∃ d ds, decimal n = d :: ds ∧ Json.isDigit d = true ∧ d ≠ 48 ∧
      ∀ b ∈ ds, Json.isDigit b = true := by
  induction n using Nat.strong_induction_on with
  | _ n ih =>
      by_cases hlt : n < 10
      · exact ⟨_, _, decimal_of_lt hlt, isDigit_digitOctet n hlt, digitOctet_ne_zero n hlt hn,
          by simp⟩
      · obtain ⟨d, ds, hhead, hd, hne, hds⟩ := ih (n / 10) (by omega) (by omega)
        refine ⟨d, ds ++ [digitOctet (n % 10)], ?_, hd, hne, ?_⟩
        · rw [decimal_of_le (by omega), hhead]
          rfl
        · intro b hb
          rcases List.mem_append.mp hb with hb | hb
          · exact hds b hb
          · rw [List.mem_singleton.mp hb]
            exact isDigit_digitOctet _ (by omega)

theorem isDigit_of_mem_decimal {n : Nat} {b : UInt8} (h : b ∈ decimal n) :
    Json.isDigit b = true := by
  rcases Nat.eq_zero_or_pos n with rfl | hn
  · rw [decimal_of_lt (by omega), List.mem_singleton] at h
    rw [h]
    decide
  · obtain ⟨d, ds, hhead, hd, -, hds⟩ := decimal_of_pos hn
    rw [hhead] at h
    rcases List.mem_cons.mp h with rfl | h
    · exact hd
    · exact hds b h

theorem decimal_ne_nil (n : Nat) : decimal n ≠ [] := by
  by_cases hlt : n < 10
  · simp [decimal_of_lt hlt]
  · simp [decimal_of_le (Nat.le_of_not_lt hlt)]

theorem digitOctet_inj : ∀ d, d < 10 → ∀ e, e < 10 → digitOctet d = digitOctet e → d = e := by
  decide

theorem decimal_injective : Function.Injective decimal := by
  intro n
  induction n using Nat.strong_induction_on with
  | _ n ih =>
      intro m h
      by_cases hn : n < 10
      · by_cases hm : m < 10
        · rw [decimal_of_lt hn, decimal_of_lt hm] at h
          exact digitOctet_inj n hn m hm (List.cons.inj h).1
        · have hlen := congrArg List.length h
          have hpos := List.length_pos_of_ne_nil (decimal_ne_nil (m / 10))
          rw [decimal_of_lt hn, decimal_of_le (Nat.le_of_not_lt hm)] at hlen
          simp only [List.length_append, List.length_singleton] at hlen
          omega
      · by_cases hm : m < 10
        · have hlen := congrArg List.length h
          have hpos := List.length_pos_of_ne_nil (decimal_ne_nil (n / 10))
          rw [decimal_of_lt hm, decimal_of_le (Nat.le_of_not_lt hn)] at hlen
          simp only [List.length_append, List.length_singleton] at hlen
          omega
        · rw [decimal_of_le (Nat.le_of_not_lt hn), decimal_of_le (Nat.le_of_not_lt hm)] at h
          obtain ⟨hhigh, hlow⟩ := List.append_inj' h rfl
          have hdiv := ih (n / 10) (by omega) hhigh
          have hmod := digitOctet_inj _ (by omega) _ (by omega) (List.cons.inj hlow).1
          omega

/-- A number is read off a text as far as its digits go. -/
theorem decimal_append_inj {n m : Nat} {s t : Bytes}
    (hs : ∀ b ∈ s.head?, ¬ Json.isDigit b = true) (ht : ∀ b ∈ t.head?, ¬ Json.isDigit b = true)
    (h : decimal n ++ s = decimal m ++ t) : n = m ∧ s = t := by
  obtain ⟨hnumber, hrest⟩ := append_inj_of_stop (fun _ => isDigit_of_mem_decimal)
    (fun _ => isDigit_of_mem_decimal) hs ht h
  exact ⟨decimal_injective hnumber, hrest⟩

end Scanner
end LanDiscovery
