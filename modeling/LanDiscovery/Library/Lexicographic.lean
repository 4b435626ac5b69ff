import Mathlib.Data.List.Sort
import Mathlib.Tactic.Common

/-!
# Sorting texts

The lexicographic order on lists over an alphabet whose letters have distinct
ranks, and the sorted list of a list of texts.  Sorting forgets exactly the
order: two lists have the same sorted list when one permutes the other
(`sortTexts_eq_iff_perm`).
-/

namespace LanDiscovery
namespace Library
namespace Lexicographic

variable {α : Type*} {rank : α → Nat}

/-- The lexicographic order by the ranks of the letters. -/
def lexLe (rank : α → Nat) : List α → List α → Bool
  | [], _ => true
  | _ :: _, [] => false
  | a :: s, b :: t => rank a < rank b || (rank a == rank b && lexLe rank s t)

@[simp] theorem lexLe_cons {a b : α} {s t : List α} :
    lexLe rank (a :: s) (b :: t) = true ↔
      rank a < rank b ∨ rank a = rank b ∧ lexLe rank s t = true := by
  simp [lexLe]

theorem lexLe_total (s t : List α) : lexLe rank s t = true ∨ lexLe rank t s = true := by
  induction s generalizing t with
  | nil => exact Or.inl rfl
  | cons a s ih =>
      cases t with
      | nil => exact Or.inr rfl
      | cons b t =>
          rw [lexLe_cons, lexLe_cons]
          rcases lt_trichotomy (rank a) (rank b) with hlt | heq | hgt
          · exact Or.inl (Or.inl hlt)
          · rcases ih t with h | h
            · exact Or.inl (Or.inr ⟨heq, h⟩)
            · exact Or.inr (Or.inr ⟨heq.symm, h⟩)
          · exact Or.inr (Or.inl hgt)

theorem lexLe_trans {s t u : List α} (hst : lexLe rank s t = true)
    (htu : lexLe rank t u = true) : lexLe rank s u = true := by
  induction s generalizing t u with
  | nil => rfl
  | cons a s ih =>
      cases t with
      | nil => exact absurd hst (by simp [lexLe])
      | cons b t =>
          cases u with
          | nil => exact absurd htu (by simp [lexLe])
          | cons c u =>
              rw [lexLe_cons] at hst htu ⊢
              rcases hst with hab | ⟨hab, hst⟩ <;> rcases htu with hbc | ⟨hbc, htu⟩
              · exact Or.inl (hab.trans hbc)
              · exact Or.inl (hbc ▸ hab)
              · exact Or.inl (hab ▸ hbc)
              · exact Or.inr ⟨hab.trans hbc, ih hst htu⟩

theorem lexLe_antisymm (hrank : Function.Injective rank) {s t : List α}
    (hst : lexLe rank s t = true) (hts : lexLe rank t s = true) : s = t := by
  induction s generalizing t with
  | nil =>
      cases t with
      | nil => rfl
      | cons b t => exact absurd hts (by simp [lexLe])
  | cons a s ih =>
      cases t with
      | nil => exact absurd hst (by simp [lexLe])
      | cons b t =>
          rw [lexLe_cons] at hst hts
          rcases hst with hab | ⟨hab, hst⟩ <;> rcases hts with hba | ⟨hba, hts⟩
          · omega
          · omega
          · omega
          · rw [hrank hab, ih hst hts]

theorem lexLe_refl (s : List α) : lexLe rank s s = true := by
  rcases lexLe_total s s with h | h <;> exact h

/-- What two texts begin with does not matter if it is the same. -/
@[simp] theorem lexLe_append_left (r s t : List α) :
    lexLe rank (r ++ s) (r ++ t) = lexLe rank s t := by
  induction r with
  | nil => rfl
  | cons a r ih => simp [lexLe, ih]

/-- A code puts its values in front of a text in their order: the texts compare by the values
first, whatever follows. -/
def OrdersBelow (rank : α → Nat) (code : Nat → List α) (bound : Nat) : Prop :=
  ∀ n m, n < bound → m < bound → ∀ s t,
    lexLe rank (code n ++ s) (code m ++ t) = true ↔
      n < m ∨ n = m ∧ lexLe rank s t = true

/-- A further digit of base `base` behind such a code. -/
theorem OrdersBelow.digit {code : Nat → List α} {bound base : Nat} {letter : Nat → α}
    (h : OrdersBelow rank code bound)
    (hletter : ∀ d e, d < base → e < base → (rank (letter d) < rank (letter e) ↔ d < e) ∧
      (rank (letter d) = rank (letter e) ↔ d = e)) :
    OrdersBelow rank (fun n => code (n / base) ++ [letter (n % base)]) (bound * base) := by
  intro n m hn hm s t
  have hbase : 0 < base := Nat.pos_of_ne_zero fun hzero => by simp [hzero] at hn
  obtain ⟨hlt, heq⟩ := hletter _ _ (Nat.mod_lt n hbase) (Nat.mod_lt m hbase)
  have hdigit := h (n / base) (m / base) (Nat.div_lt_of_lt_mul (by rwa [Nat.mul_comm]))
    (Nat.div_lt_of_lt_mul (by rwa [Nat.mul_comm])) (letter (n % base) :: s)
    (letter (m % base) :: t)
  rw [List.append_assoc, List.append_assoc, List.singleton_append, List.singleton_append, hdigit,
    lexLe_cons, hlt, heq]
  have hsplitN := Nat.div_add_mod n base
  have hsplitM := Nat.div_add_mod m base
  have hmodN := Nat.mod_lt n hbase
  have hmodM := Nat.mod_lt m hbase
  constructor
  · rintro (hhigh | ⟨hhigh, hlow | ⟨hlow, hrest⟩⟩)
    · have hstep := Nat.mul_le_mul_left base (show n / base + 1 ≤ m / base from hhigh)
      rw [Nat.mul_add] at hstep
      omega
    · rw [hhigh] at hsplitN
      omega
    · rw [hhigh, hlow] at hsplitN
      exact Or.inr ⟨hsplitN.symm.trans hsplitM, hrest⟩
  · rintro (hlower | ⟨rfl, hrest⟩)
    · rcases Nat.lt_or_eq_of_le (Nat.div_le_div_right (c := base) hlower.le) with hhigh | hhigh
      · exact Or.inl hhigh
      · rw [hhigh] at hsplitN
        exact Or.inr ⟨hhigh, Or.inl (by omega)⟩
    · exact Or.inr ⟨rfl, Or.inr ⟨rfl, hrest⟩⟩

/-- The sorted list of a list of texts. -/
def sortTexts (rank : α → Nat) (texts : List (List α)) : List (List α) :=
  texts.insertionSort fun s t => lexLe rank s t = true

theorem sortTexts_perm (texts : List (List α)) : (sortTexts rank texts).Perm texts :=
  List.perm_insertionSort _ texts

theorem pairwise_sortTexts (texts : List (List α)) :
    (sortTexts rank texts).Pairwise fun s t => lexLe rank s t = true := by
  have htotal : Std.Total fun s t : List α => lexLe rank s t = true := ⟨lexLe_total⟩
  have htrans : IsTrans (List α) fun s t => lexLe rank s t = true :=
    ⟨fun _ _ _ => lexLe_trans⟩
  exact List.pairwise_insertionSort _ texts

/-- Sorting does not depend on how the letters are written. -/
theorem sortTexts_map {β : Type*} {rank' : β → Nat} {f : α → β} (hrank : ∀ a, rank' (f a) = rank a)
    (texts : List (List α)) :
    sortTexts rank' (texts.map (List.map f)) = (sortTexts rank texts).map (List.map f) := by
  have hle : ∀ s t : List α, lexLe rank' (s.map f) (t.map f) = lexLe rank s t := by
    intro s
    induction s with
    | nil => exact fun _ => rfl
    | cons a s ih =>
        intro t
        cases t with
        | nil => rfl
        | cons b t => rw [List.map_cons, List.map_cons, lexLe, lexLe, hrank, hrank, ih]
  rw [sortTexts, sortTexts]
  exact (List.map_insertionSort _ _ _ _ fun s _ t _ => by rw [hle]).symm

/-- Sorting forgets exactly the order. -/
theorem sortTexts_eq_iff_perm (hrank : Function.Injective rank) {texts texts' : List (List α)} :
    sortTexts rank texts = sortTexts rank texts' ↔ texts.Perm texts' := by
  constructor
  · intro h
    exact (sortTexts_perm texts).symm.trans (h ▸ sortTexts_perm texts')
  · intro h
    have hperm : (sortTexts rank texts).Perm (sortTexts rank texts') :=
      (sortTexts_perm texts).trans (h.trans (sortTexts_perm texts').symm)
    exact hperm.eq_of_pairwise (fun _ _ _ _ => lexLe_antisymm hrank) (pairwise_sortTexts texts)
      (pairwise_sortTexts texts')

end Lexicographic
end Library
end LanDiscovery
