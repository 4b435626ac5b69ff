import LanDiscovery.Library.Text
import Mathlib.Data.List.DropRight
import Mathlib.Data.List.Infix

/-!
# The last labels of a text

A text with separators is a list of labels.  `lastLabels c n text` are the last `n` of
them, with the separators between.  A search that goes back to the last place of a
pattern, and from there to the label in front of it (`labelsFrom`), finds the last
labels exactly if that place is the end of the text (`labelsFrom_eq_lastLabels_iff`).
-/

namespace LanDiscovery
namespace Library

namespace Text

variable {α : Type*} [DecidableEq α] {pattern text : List α}

/-- A pattern is found nowhere if it is no part of the text. -/
theorem rfind?_eq_none_iff : rfind? pattern text = none ↔ ¬ pattern <:+: text := by
  induction text with
  | nil => simp [rfind?]
  | cons a text ih =>
      rw [rfind?, List.infix_cons_iff]
      cases hrest : rfind? pattern text with
      | none =>
          have hno := ih.mp hrest
          simp [hno]
      | some i =>
          have hyes : pattern <:+: text := by
            by_contra hno
            exact absurd (ih.mpr hno) (by simp [hrest])
          simp [hyes]

/-- A pattern at the end is found at the end. -/
theorem rfind?_append_self (hne : pattern ≠ []) (front : List α) :
    rfind? pattern (front ++ pattern) = some front.length := by
  induction front with
  | nil =>
      cases pattern with
      | nil => exact absurd rfl hne
      | cons a pattern =>
          -- no room for the pattern behind its first letter
          have hnone : rfind? (a :: pattern) pattern = none := by
            rw [rfind?_eq_none_iff]
            intro hinfix
            have hlength := hinfix.length_le
            rw [List.length_cons] at hlength
            omega
          simp [rfind?, hnone]
  | cons a front ih =>
      rw [List.cons_append, rfind?, ih]
      rfl

theorem rfind?_singleton_eq_none_iff {c : α} : rfind? [c] text = none ↔ c ∉ text := by
  rw [rfind?_eq_none_iff, List.singleton_infix_iff]

/-- The last place of a letter is the one that it does not follow. -/
theorem rfind?_singleton_append {c : α} {after : List α} (hafter : c ∉ after)
    (before : List α) : rfind? [c] (before ++ c :: after) = some before.length := by
  induction before with
  | nil =>
      rw [List.nil_append, rfind?, rfind?_singleton_eq_none_iff.mpr hafter]
      simp
  | cons a before ih =>
      rw [List.cons_append, rfind?, ih]
      rfl

/-- The last place of a letter splits the text behind it. -/
theorem rfind?_singleton_eq_some {c : α} {i : Nat} (h : rfind? [c] text = some i) :
    ∃ before after, text = before ++ c :: after ∧ before.length = i ∧ c ∉ after := by
  induction text generalizing i with
  | nil => simp [rfind?] at h
  | cons a text ih =>
      rw [rfind?] at h
      cases hrest : rfind? [c] text with
      | some j =>
          rw [hrest] at h
          obtain rfl : j + 1 = i := Option.some.inj h
          obtain ⟨before, after, rfl, rfl, hafter⟩ := ih hrest
          exact ⟨a :: before, after, rfl, rfl, hafter⟩
      | none =>
          have hnotMem : c ∉ text := rfind?_singleton_eq_none_iff.mp hrest
          rw [hrest] at h
          by_cases hca : c = a
          · obtain rfl : 0 = i := by simpa [hca] using h
            exact ⟨[], text, by rw [hca, List.nil_append], rfl, hnotMem⟩
          · simp [hca] at h

end Text

namespace Labels

open Text

variable {α : Type*} [DecidableEq α] {c : α}

/-- The last labels of a text. -/
def lastLabels (c : α) (n : Nat) (text : List α) : List α :=
  [c].intercalate ((text.splitOn c).rtake n)

/-- The text from the label in front of the last place of a pattern, or of a second
pattern if the first one is nowhere. -/
def labelsFrom (c : α) (first second text : List α) : Option (List α) :=
  ((rfind? first text).or (rfind? second text)).bind fun pos =>
    (rfind? [c] (text.take pos)).map fun i => text.drop (i + 1)

/-- There is one label more than there are separators. -/
theorem length_splitOn (text : List α) : (text.splitOn c).length = text.count c + 1 := by
  induction text with
  | nil => rfl
  | cons a text ih =>
      rw [List.splitOn_cons_eq_if_modifyHead]
      split
      · next hac =>
          rw [List.length_cons, ih, eq_of_beq hac, List.count_cons_self]
      · next hac =>
          rw [List.length_modifyHead, ih, List.count_cons_of_ne (by simpa using hac)]

/-- What is behind a separator are the last labels. -/
theorem lastLabels_append (front back : List α) :
    lastLabels c (back.count c + 1) (front ++ c :: back) = back := by
  rw [lastLabels, List.splitOn_append_cons_self, List.rtake, List.length_append,
    length_splitOn back, Nat.add_sub_cancel, List.drop_left, List.intercalate_splitOn]

/-- Each number of labels less than all is behind some separator. -/
theorem exists_append_of_lt_count {n : Nat} {text : List α} (h : n < text.count c) :
    ∃ front back, text = front ++ c :: back ∧ back.count c = n := by
  induction text with
  | nil => simp at h
  | cons a text ih =>
      by_cases hrest : n < text.count c
      · obtain ⟨front, back, rfl, hback⟩ := ih hrest
        exact ⟨a :: front, back, rfl, hback⟩
      · by_cases hac : a = c
        · rw [hac, List.count_cons_self] at h
          exact ⟨[], text, by rw [hac, List.nil_append], by omega⟩
        · rw [List.count_cons_of_ne hac] at h
          exact absurd h hrest

theorem count_lastLabels {n : Nat} {text : List α} (h : n < text.count c) :
    (lastLabels c (n + 1) text).count c = n := by
  obtain ⟨front, back, rfl, rfl⟩ := exists_append_of_lt_count h
  rw [lastLabels_append]

/-- An end of the text with fewer separators is an end of the last labels. -/
theorem suffix_lastLabels {n : Nat} {pattern text : List α} (h : pattern <:+ text)
    (hpattern : pattern.count c ≤ n) (hcount : n < text.count c) :
    pattern <:+ lastLabels c (n + 1) text := by
  obtain ⟨front, back, rfl, rfl⟩ := exists_append_of_lt_count hcount
  rw [lastLabels_append]
  have hend : c :: back <:+ front ++ c :: back := List.suffix_append front (c :: back)
  rcases List.suffix_or_suffix_of_suffix h hend with hshort | hlong
  · rcases List.suffix_cons_iff.mp hshort with rfl | hback
    · rw [List.count_cons_self] at hpattern
      omega
    · exact hback
  · have hle := hlong.sublist.count_le c
    rw [List.count_cons_self] at hle
    omega

/-- Two ends of a text that begin with a separator and have equally many are the same. -/
theorem eq_of_suffix_of_count_eq {x y text : List α} (hx : (c :: x) <:+ text)
    (hy : (c :: y) <:+ text) (hcount : x.count c = y.count c) : x = y := by
  have hone : ∀ {x y : List α}, (c :: x) <:+ (c :: y) → x.count c = y.count c → x = y := by
    intro x y hsuffix hsame
    rcases List.suffix_cons_iff.mp hsuffix with heq | hshort
    · exact (List.cons.inj heq).2
    · -- the separator in front of the shorter one is one more
      have hle := hshort.sublist.count_le c
      rw [List.count_cons_self] at hle
      omega
  rcases List.suffix_or_suffix_of_suffix hx hy with hxy | hyx
  · exact hone hxy hcount
  · exact (hone hyx hcount.symm).symm

/-- What the search finds around a place of the pattern. -/
theorem exists_of_labelsFrom_eq_some {front pattern back found : List α}
    (h : ((rfind? [c] ((front ++ pattern ++ back).take front.length)).map fun i =>
      (front ++ pattern ++ back).drop (i + 1)) = some found) :
    ∃ before label, front = before ++ c :: label ∧ c ∉ label ∧
      found = label ++ pattern ++ back := by
  rw [List.append_assoc, List.take_left] at h
  obtain ⟨i, hi, rfl⟩ := Option.map_eq_some_iff.mp h
  obtain ⟨before, label, rfl, rfl, hlabel⟩ := rfind?_singleton_eq_some hi
  refine ⟨before, label, rfl, hlabel, ?_⟩
  simp [List.drop_append]

/-- The search around a pattern at the end. -/
theorem labelsFrom_end {pattern front : List α}
    (h : pattern.count c < (front ++ pattern).count c) :
    ((rfind? [c] ((front ++ pattern).take front.length)).map fun i =>
      (front ++ pattern).drop (i + 1)) =
      some (lastLabels c (pattern.count c + 1) (front ++ pattern)) := by
  have hmem : c ∈ front := by
    rw [List.count_append] at h
    exact List.count_pos_iff.mp (by omega)
  rw [List.take_left]
  cases hi : rfind? [c] front with
  | none =>
      exact absurd hmem (rfind?_singleton_eq_none_iff.mp hi)
  | some i =>
      obtain ⟨before, label, rfl, rfl, hlabel⟩ := rfind?_singleton_eq_some hi
      have hcount : (label ++ pattern).count c = pattern.count c := by
        rw [List.count_append, List.count_eq_zero.mpr hlabel, Nat.zero_add]
      rw [List.append_assoc, List.cons_append, ← hcount, lastLabels_append, Option.map_some]
      simp [List.drop_append]

variable {first second : List α}

/-- **When the last labels are found.**  In a text with more labels than the patterns that
ends in one of them, the search finds the last labels exactly if the first pattern is at
the end or nowhere. -/
theorem labelsFrom_eq_lastLabels_iff {n : Nat} {text : List α}
    (hfirst : (c :: first).count c = n) (hsecond : (c :: second).count c = n)
    (hne : ¬ first <+: second) (hend : (c :: first) <:+ text ∨ (c :: second) <:+ text)
    (hcount : n < text.count c) :
    labelsFrom c (c :: first) (c :: second) text = some (lastLabels c (n + 1) text) ↔
      (c :: first) <:+ text ∨ ¬ (c :: first) <:+: text := by
  rw [labelsFrom]
  constructor
  · intro hfound
    by_contra hbetween
    rw [not_or, not_not] at hbetween
    obtain ⟨hnotEnd, hinfix⟩ := hbetween
    have hsuffix := hend.resolve_left hnotEnd
    obtain ⟨pos, hpos⟩ := Option.ne_none_iff_exists'.mp
      (mt rfind?_eq_none_iff.mp (not_not.mpr hinfix))
    obtain ⟨front, back, rfl, rfl⟩ := rfind?_eq_some hpos
    rw [hpos, Option.some_or, Option.bind_some] at hfound
    obtain ⟨before, label, -, -, hlabels⟩ := exists_of_labelsFrom_eq_some hfound
    -- the rest of the text would have no separator
    have hlast := count_lastLabels hcount
    rw [hlabels, List.count_append, List.count_append, hfirst] at hlast
    have hsame : (first ++ back).count c = second.count c := by
      rw [List.count_cons_self] at hfirst hsecond
      rw [List.count_append]
      omega
    have heq := eq_of_suffix_of_count_eq (x := first ++ back) ⟨front, by simp⟩ hsuffix hsame
    exact hne ⟨back, heq⟩
  · rintro (⟨front, rfl⟩ | hnowhere)
    · rw [rfind?_append_self (by simp), Option.some_or, Option.bind_some, ← hfirst]
      exact labelsFrom_end (hfirst ▸ hcount)
    · obtain ⟨front, rfl⟩ := hend.resolve_left fun hsuffix => hnowhere hsuffix.isInfix
      rw [rfind?_eq_none_iff.mpr hnowhere, Option.none_or, rfind?_append_self (by simp),
        Option.bind_some, ← hsecond]
      exact labelsFrom_end (hsecond ▸ hcount)

end Labels
end Library
end LanDiscovery
