import Mathlib.Data.List.Basic
import Mathlib.Tactic.Common

/-!
# Codes that are read from the front

A code assigns a word to each value.  It is self-delimiting when a text that starts
with a word starts with one word only, whatever follows it: the value is read off the
front, and what is left is the rest.  A code whose words consist of some symbols is read
from the front as long as another symbol follows (`append_inj_of_stop`), and a list of
words is read off when its separator differs from what closes it (`selfDelimiting_list`).
-/

namespace LanDiscovery
namespace Library
namespace PrefixCode

variable {α β : Type*}

/-- A text starts with the word of one value at most, which determines the rest. -/
def SelfDelimiting (code : α → List β) : Prop :=
  ∀ ⦃a b : α⦄ ⦃s t : List β⦄, code a ++ s = code b ++ t → a = b ∧ s = t

theorem SelfDelimiting.injective {code : α → List β} (h : SelfDelimiting code) :
    Function.Injective code := by
  intro a b hab
  exact (h (congrArg (· ++ []) hab)).1

/-- A code is self-delimiting when each value can be read off. -/
theorem SelfDelimiting.of_eq {code : α → List β}
    (h : ∀ a b s t, code a ++ s = code b ++ t → a = b) : SelfDelimiting code := by
  intro a b s t heq
  obtain rfl := h a b s t heq
  exact ⟨rfl, List.append_cancel_left heq⟩

/-- What follows a word starts with a symbol of another kind. -/
theorem not_of_mem_head?_cons {p : β → Prop} {b : β} (hb : ¬ p b) (rest : List β) :
    ∀ c ∈ (b :: rest).head?, ¬ p c := by
  intro c hc
  rw [List.head?_cons, Option.mem_some_iff] at hc
  exact hc ▸ hb

/-- Two words that are made of some symbols and followed by others are the same. -/
theorem append_inj_of_stop {p : β → Prop} {u v s t : List β} (hu : ∀ b ∈ u, p b)
    (hv : ∀ b ∈ v, p b) (hs : ∀ b ∈ s.head?, ¬ p b) (ht : ∀ b ∈ t.head?, ¬ p b)
    (h : u ++ s = v ++ t) : u = v ∧ s = t := by
  induction u generalizing v with
  | nil =>
      cases v with
      | nil => exact ⟨rfl, h⟩
      | cons c v =>
          -- the first symbol of the longer word follows the shorter one
          rw [List.nil_append] at h
          exact absurd (hv c (by simp)) (hs c (by simp [h]))
  | cons b u ih =>
      cases v with
      | nil =>
          rw [List.nil_append] at h
          exact absurd (hu b (by simp)) (ht b (by simp [← h]))
      | cons c v =>
          rw [List.cons_append, List.cons_append] at h
          obtain ⟨rfl, hrest⟩ := List.cons.inj h
          obtain ⟨rfl, hst⟩ := ih (fun b hb => hu b (List.mem_cons_of_mem _ hb))
            (fun b hb => hv b (List.mem_cons_of_mem _ hb)) hrest
          exact ⟨rfl, hst⟩

section

variable {code : α → List β} {opening sep close : β}

/-- **Words in a row.**  Words that can be read off are read off a row of them up to a
symbol that no word starts with. -/
theorem selfDelimiting_flatMap (hcode : SelfDelimiting code)
    (hclose : ∀ a, ∃ b word, code a = b :: word ∧ b ≠ close) :
    SelfDelimiting fun as : List α => as.flatMap code ++ [close] := by
  refine .of_eq fun as bs s t h => ?_
  simp only [List.append_assoc, List.singleton_append] at h
  induction as generalizing bs with
  | nil =>
      cases bs with
      | nil => rfl
      | cons b bs =>
          obtain ⟨first, word, hword, hne⟩ := hclose b
          rw [List.flatMap_cons, hword] at h
          exact absurd (List.cons.inj h).1.symm hne
  | cons a as ih =>
      cases bs with
      | nil =>
          obtain ⟨first, word, hword, hne⟩ := hclose a
          rw [List.flatMap_cons, hword] at h
          exact absurd (List.cons.inj h).1 hne
      | cons b bs =>
          rw [List.flatMap_cons, List.flatMap_cons, List.append_assoc, List.append_assoc] at h
          obtain ⟨rfl, hrest⟩ := hcode h
          rw [ih bs hrest]

/-- A list that is not empty starts with its first word. -/
theorem intercalate_cons_append (a : α) (as : List α) (s : List β) :
    [sep].intercalate ((a :: as).map code) ++ close :: s =
      code a ++
        (if as = [] then close :: s
        else sep :: ([sep].intercalate (as.map code) ++ close :: s)) := by
  cases as with
  | nil => simp
  | cons b as => simp [List.intercalate_cons_cons]

/-- **Lists.**  Words that start with one symbol and can be read off are read off a list
of them, when neither the separator nor that symbol closes the list. -/
theorem selfDelimiting_list (hcode : SelfDelimiting code)
    (hopening : ∀ a, (code a).head? = some opening) (hopen : opening ≠ close)
    (hsep : sep ≠ close) :
    SelfDelimiting fun as : List α => [sep].intercalate (as.map code) ++ [close] := by
  refine .of_eq fun as bs s t h => ?_
  simp only [List.append_assoc, List.singleton_append] at h
  have hstart : ∀ a rest, code a ++ rest ≠ close :: s ∧ code a ++ rest ≠ close :: t := by
    intro a rest
    obtain ⟨word, hword⟩ := List.head?_eq_some_iff.mp (hopening a)
    simp [hword, hopen]
  induction as generalizing bs with
  | nil =>
      cases bs with
      | nil => rfl
      | cons b bs =>
          rw [intercalate_cons_append] at h
          exact absurd h.symm (hstart b _).1
  | cons a as ih =>
      cases bs with
      | nil =>
          rw [intercalate_cons_append] at h
          exact absurd h (hstart a _).2
      | cons b bs =>
          rw [intercalate_cons_append, intercalate_cons_append] at h
          obtain ⟨rfl, hrest⟩ := hcode h
          split_ifs at hrest with has hbs hbs
          · rw [has, hbs]
          · exact absurd (List.cons.inj hrest).1 (Ne.symm hsep)
          · exact absurd (List.cons.inj hrest).1 hsep
          · rw [ih bs (List.cons.inj hrest).2]

end

end PrefixCode
end Library
end LanDiscovery
