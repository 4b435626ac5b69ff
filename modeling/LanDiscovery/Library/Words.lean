import Mathlib.Data.List.Basic
import Mathlib.Tactic.Common

/-!
# Lines and words

A predicate on the letters says where a text breaks.  `linesOf` are the parts that end at
a break or at the end of the text, `words` the parts between breaks that are not empty.
Both follow a change of the letters that keeps the breaks (`linesOf_map`, `words_map`).
-/

namespace LanDiscovery
namespace Library
namespace Words

variable {α β : Type*}

/-- A letter in front of the first line. -/
def consFirst (a : α) : List (List α) → List (List α)
  | [] => [[a]]
  | line :: lines => (a :: line) :: lines

/-- The lines of a text.  A break at the end does not begin another line. -/
def linesOf (p : α → Bool) : List α → List (List α)
  | [] => []
  | a :: text => if p a then [] :: linesOf p text else consFirst a (linesOf p text)

/-- The words of a text. -/
def words (p : α → Bool) (text : List α) : List (List α) :=
  (text.splitOnP p).filter fun word => !word.isEmpty

/-! ## Lines -/

/-- The first line goes up to the first break. -/
theorem linesOf_of_ne_nil (p : α → Bool) {text : List α} (hne : text ≠ []) :
    linesOf p text =
      (text.takeWhile fun a => !p a) :: linesOf p (text.dropWhile fun a => !p a).tail := by
  induction text with
  | nil => exact absurd rfl hne
  | cons a text ih =>
      rw [linesOf]
      by_cases hbreak : p a = true
      · simp [hbreak]
      · rw [if_neg hbreak, List.takeWhile_cons_of_pos (by simp [hbreak]),
          List.dropWhile_cons_of_pos (by simp [hbreak])]
        cases text with
        | nil => rfl
        | cons b text =>
            rw [ih (by simp)]
            rfl

theorem map_consFirst (f : α → β) (a : α) (lines : List (List α)) :
    (consFirst a lines).map (List.map f) = consFirst (f a) (lines.map (List.map f)) := by
  cases lines <;> rfl

theorem linesOf_map {p : α → Bool} {q : β → Bool} {f : α → β} {text : List α}
    (h : ∀ a ∈ text, q (f a) = p a) :
    linesOf q (text.map f) = (linesOf p text).map (List.map f) := by
  induction text with
  | nil => rfl
  | cons a text ih =>
      obtain ⟨ha, htext⟩ := List.forall_mem_cons.mp h
      rw [List.map_cons, linesOf, linesOf, ha, ih htext]
      split
      · rfl
      · rw [map_consFirst]

/-- A line has letters of the text. -/
theorem mem_of_mem_linesOf {p : α → Bool} {text line : List α} (hline : line ∈ linesOf p text)
    {a : α} (ha : a ∈ line) : a ∈ text := by
  induction text generalizing line with
  | nil => simp [linesOf] at hline
  | cons b text ih =>
      rw [linesOf] at hline
      split at hline
      · rcases List.mem_cons.mp hline with rfl | hrest
        · simp at ha
        · exact List.mem_cons_of_mem _ (ih hrest ha)
      · cases hlines : linesOf p text with
        | nil =>
            rw [hlines, consFirst, List.mem_singleton] at hline
            rw [hline, List.mem_singleton] at ha
            exact ha ▸ List.mem_cons_self ..
        | cons first lines =>
            rw [hlines, consFirst] at hline
            rw [hlines] at ih
            rcases List.mem_cons.mp hline with rfl | hrest
            · rcases List.mem_cons.mp ha with rfl | hfirst
              · exact List.mem_cons_self ..
              · exact List.mem_cons_of_mem _ (ih (List.mem_cons_self ..) hfirst)
            · exact List.mem_cons_of_mem _ (ih (List.mem_cons_of_mem _ hrest) ha)

/-! ## Words -/

theorem splitOnP_map {p : α → Bool} {q : β → Bool} {f : α → β} {text : List α}
    (h : ∀ a ∈ text, q (f a) = p a) :
    (text.map f).splitOnP q = (text.splitOnP p).map (List.map f) := by
  induction text with
  | nil => simp
  | cons a text ih =>
      obtain ⟨ha, htext⟩ := List.forall_mem_cons.mp h
      rw [List.map_cons, List.splitOnP_cons_eq_if_modifyHead, List.splitOnP_cons_eq_if_modifyHead,
        ha, ih htext]
      split
      · rfl
      · cases text.splitOnP p <;> rfl

theorem words_map {p : α → Bool} {q : β → Bool} {f : α → β} {text : List α}
    (h : ∀ a ∈ text, q (f a) = p a) :
    words q (text.map f) = (words p text).map (List.map f) := by
  rw [words, words, splitOnP_map h, List.filter_map]
  congr 2
  funext word
  simp

/-- A part has letters of the text that are no breaks. -/
theorem mem_of_mem_splitOnP {p : α → Bool} {text part : List α} (hpart : part ∈ text.splitOnP p)
    {a : α} (ha : a ∈ part) : a ∈ text ∧ p a = false := by
  induction text generalizing part with
  | nil =>
      rw [List.splitOnP_nil, List.mem_singleton] at hpart
      simp [hpart] at ha
  | cons b text ih =>
      rw [List.splitOnP_cons_eq_if_modifyHead] at hpart
      split at hpart
      · rcases List.mem_cons.mp hpart with rfl | hrest
        · simp at ha
        · exact (ih hrest ha).imp_left (List.mem_cons_of_mem _)
      · next hbreak =>
          -- the letter belongs to the first part
          cases hparts : text.splitOnP p with
          | nil => simp [hparts] at hpart
          | cons first parts =>
              rw [hparts] at hpart ih
              rcases List.mem_cons.mp hpart with rfl | hrest
              · rcases List.mem_cons.mp ha with rfl | hfirst
                · exact ⟨List.mem_cons_self .., by simpa using hbreak⟩
                · exact (ih (List.mem_cons_self ..) hfirst).imp_left (List.mem_cons_of_mem _)
              · exact (ih (List.mem_cons_of_mem _ hrest) ha).imp_left (List.mem_cons_of_mem _)

theorem mem_of_mem_words {p : α → Bool} {text word : List α} (hword : word ∈ words p text) :
    word ≠ [] ∧ ∀ a ∈ word, a ∈ text ∧ p a = false := by
  obtain ⟨hpart, hne⟩ := List.mem_filter.mp hword
  exact ⟨by simpa using hne, fun a ha => mem_of_mem_splitOnP hpart ha⟩

end Words
end Library
end LanDiscovery
