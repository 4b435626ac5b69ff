import Mathlib.Data.Finset.Basic
import Mathlib.Data.Finset.Image
import Mathlib.Data.List.Nodup
import Mathlib.Data.List.Perm.Basic

/-!
# Keeping the first occurrence of every key

`scan key seen xs` walks through `xs` with a set of keys that is only ever added
to; it keeps an element exactly when its key is not in the set yet.  The file
collects what such a filter preserves:

* a filter over a concatenation is the two filters one after the other;
* every key of the input is seen afterwards and nothing else is;
* a filter by a finer key in front of a filter by a coarser one is invisible;
* a filter by a derived key agrees with the filter by the underlying value
  exactly when the derivation loses nothing on the input (`scan_eq_scan_iff`).
-/

namespace LanDiscovery
namespace Library
namespace FirstSeen

variable {α β κ τ : Type*} [DecidableEq κ] [DecidableEq τ]

/-- Keep the elements whose key has not been seen; return them with the keys
seen at the end. -/
def scan (key : α → κ) : Finset κ → List α → List α × Finset κ
  | seen, [] => ([], seen)
  | seen, a :: as =>
      if key a ∈ seen then scan key seen as
      else
        let rest := scan key (insert (key a) seen) as
        (a :: rest.1, rest.2)

@[simp] theorem scan_nil (key : α → κ) (seen : Finset κ) : scan key seen [] = ([], seen) :=
  rfl

@[simp] theorem scan_cons_of_mem {key : α → κ} {seen : Finset κ} {a : α} (as : List α)
    (h : key a ∈ seen) : scan key seen (a :: as) = scan key seen as := by
  simp [scan, h]

@[simp] theorem scan_cons_of_not_mem {key : α → κ} {seen : Finset κ} {a : α} (as : List α)
    (h : key a ∉ seen) :
    scan key seen (a :: as) =
      (a :: (scan key (insert (key a) seen) as).1,
        (scan key (insert (key a) seen) as).2) := by
  simp [scan, h]

/-- The final set: what was seen before, and every key of the input. -/
theorem scan_snd (key : α → κ) (seen : Finset κ) (as : List α) :
    (scan key seen as).2 = seen ∪ (as.map key).toFinset := by
  induction as generalizing seen with
  | nil => simp
  | cons a as ih =>
      by_cases h : key a ∈ seen
      · rw [scan_cons_of_mem as h, ih]
        ext k
        simp only [Finset.mem_union, List.mem_toFinset, List.map_cons, List.mem_cons]
        constructor
        · rintro (hk | hk)
          · exact Or.inl hk
          · exact Or.inr (Or.inr hk)
        · rintro (hk | rfl | hk)
          · exact Or.inl hk
          · exact Or.inl h
          · exact Or.inr hk
      · rw [scan_cons_of_not_mem as h]
        dsimp only
        rw [ih]
        ext k
        simp only [Finset.mem_union, Finset.mem_insert, List.mem_toFinset, List.map_cons,
          List.mem_cons]
        tauto

theorem mem_scan_snd {key : α → κ} {seen : Finset κ} {as : List α} {k : κ} :
    k ∈ (scan key seen as).2 ↔ k ∈ seen ∨ ∃ a ∈ as, key a = k := by
  rw [scan_snd]
  simp

/-- Filtering a concatenation is filtering its parts one after the other. -/
theorem scan_append (key : α → κ) (seen : Finset κ) (as bs : List α) :
    scan key seen (as ++ bs) =
      ((scan key seen as).1 ++ (scan key (scan key seen as).2 bs).1,
        (scan key (scan key seen as).2 bs).2) := by
  induction as generalizing seen with
  | nil => simp
  | cons a as ih =>
      by_cases h : key a ∈ seen
      · rw [List.cons_append, scan_cons_of_mem _ h, scan_cons_of_mem _ h, ih]
      · rw [List.cons_append, scan_cons_of_not_mem _ h, scan_cons_of_not_mem _ h, ih]
        simp

/-- One more element is kept when its key has not been seen. -/
theorem scan_append_toList (key : α → κ) (seen : Finset κ) (as : List α) (a : Option α) :
    (scan key seen (as ++ a.toList)).1 =
      (scan key seen as).1 ++ a.toList.filter fun a => key a ∉ (scan key seen as).2 := by
  rw [scan_append]
  cases a with
  | none => rfl
  | some a =>
      by_cases hseen : key a ∈ (scan key seen as).2
      · simp [scan_cons_of_mem _ hseen, hseen]
      · simp [scan_cons_of_not_mem _ hseen, hseen]

/-- The filter commutes with a map that the key looks through. -/
theorem scan_map (f : β → α) (key : α → κ) (seen : Finset κ) (bs : List β) :
    scan key seen (bs.map f) =
      ((scan (key ∘ f) seen bs).1.map f, (scan (key ∘ f) seen bs).2) := by
  induction bs generalizing seen with
  | nil => simp
  | cons b bs ih =>
      by_cases h : key (f b) ∈ seen
      · rw [List.map_cons, scan_cons_of_mem _ h,
          scan_cons_of_mem _ (show (key ∘ f) b ∈ seen from h), ih]
      · rw [List.map_cons, scan_cons_of_not_mem _ h,
          scan_cons_of_not_mem _ (show (key ∘ f) b ∉ seen from h), ih]
        simp

/-- The kept elements are elements of the input, in their order. -/
theorem scan_sublist (key : α → κ) (seen : Finset κ) (as : List α) :
    (scan key seen as).1.Sublist as := by
  induction as generalizing seen with
  | nil => simp
  | cons a as ih =>
      by_cases h : key a ∈ seen
      · rw [scan_cons_of_mem _ h]
        exact (ih seen).cons a
      · rw [scan_cons_of_not_mem _ h]
        exact (ih _).cons_cons a

/-- A kept element had not been seen. -/
theorem not_mem_of_mem_scan {key : α → κ} {seen : Finset κ} {as : List α} {a : α}
    (h : a ∈ (scan key seen as).1) : key a ∉ seen := by
  induction as generalizing seen with
  | nil => simp at h
  | cons b as ih =>
      by_cases hb : key b ∈ seen
      · rw [scan_cons_of_mem _ hb] at h
        exact ih h
      · rw [scan_cons_of_not_mem _ hb] at h
        rcases List.mem_cons.mp h with rfl | hrest
        · exact hb
        · intro hmem
          exact ih hrest (Finset.mem_insert_of_mem hmem)

/-- An element whose key had not been seen is represented among the kept ones. -/
theorem exists_mem_scan (key : α → κ) {seen : Finset κ} {as : List α} {a : α}
    (ha : a ∈ as) (hseen : key a ∉ seen) : ∃ b ∈ (scan key seen as).1, key b = key a := by
  induction as generalizing seen with
  | nil => simp at ha
  | cons c as ih =>
      by_cases hc : key c ∈ seen
      · rw [scan_cons_of_mem _ hc]
        rcases List.mem_cons.mp ha with rfl | ha
        · exact absurd hc hseen
        · exact ih ha hseen
      · rw [scan_cons_of_not_mem _ hc]
        by_cases hkey : key a = key c
        · exact ⟨c, by simp, hkey.symm⟩
        · have ha' : a ∈ as := by
            rcases List.mem_cons.mp ha with rfl | ha
            · exact absurd rfl hkey
            · exact ha
          have hnew : key a ∉ insert (key c) seen := by
            simp [hkey, hseen]
          obtain ⟨b, hb, hbkey⟩ := ih ha' hnew
          exact ⟨b, List.mem_cons_of_mem _ hb, hbkey⟩

/-- A kept element is the first one of its key. -/
theorem exists_split_of_mem_scan {key : α → κ} {seen : Finset κ} {as : List α} {a : α}
    (h : a ∈ (scan key seen as).1) :
    ∃ before after, as = before ++ a :: after ∧ ∀ b ∈ before, key b ≠ key a := by
  induction as generalizing seen with
  | nil => simp at h
  | cons c as ih =>
      by_cases hc : key c ∈ seen
      · rw [scan_cons_of_mem _ hc] at h
        obtain ⟨before, after, rfl, hbefore⟩ := ih h
        refine ⟨c :: before, after, rfl, ?_⟩
        intro b hb
        rcases List.mem_cons.mp hb with rfl | hb
        · exact fun hkey => not_mem_of_mem_scan h (hkey ▸ hc)
        · exact hbefore b hb
      · rw [scan_cons_of_not_mem _ hc] at h
        rcases List.mem_cons.mp h with rfl | hrest
        · exact ⟨[], as, rfl, by simp⟩
        · obtain ⟨before, after, rfl, hbefore⟩ := ih hrest
          refine ⟨c :: before, after, rfl, ?_⟩
          intro b hb
          rcases List.mem_cons.mp hb with rfl | hb
          · exact fun hkey => not_mem_of_mem_scan hrest (by simp [hkey])
          · exact hbefore b hb

/-- The first element of a new key is kept. -/
theorem mem_scan_of_split {key : α → κ} {seen : Finset κ} {a : α} (hseen : key a ∉ seen)
    {before : List α} (hbefore : ∀ b ∈ before, key b ≠ key a) (after : List α) :
    a ∈ (scan key seen (before ++ a :: after)).1 := by
  have hnew : key a ∉ (scan key seen before).2 := by
    rw [mem_scan_snd]
    rintro (hold | ⟨b, hb, hkey⟩)
    · exact hseen hold
    · exact hbefore b hb hkey
  rw [scan_append, scan_cons_of_not_mem _ hnew]
  simp

/-- No key is kept twice. -/
theorem scan_nodup (key : α → κ) (seen : Finset κ) (as : List α) :
    ((scan key seen as).1.map key).Nodup := by
  induction as generalizing seen with
  | nil => simp
  | cons a as ih =>
      by_cases h : key a ∈ seen
      · rw [scan_cons_of_mem _ h]
        exact ih seen
      · rw [scan_cons_of_not_mem _ h, List.map_cons, List.nodup_cons]
        -- what is kept later had a key outside a set that holds this one
        refine ⟨?_, ih _⟩
        intro hmem
        obtain ⟨b, hb, hkey⟩ := List.mem_map.mp hmem
        have hnew := not_mem_of_mem_scan hb
        exact hnew (by simp [hkey])

/-- A search whose answer only depends on the key finds the same thing in the
kept elements: the first element with an answer is the first with its key. -/
theorem findSome?_scan {key : α → κ} {f : α → Option β} (hf : ∀ a b, key a = key b → f a = f b)
    {seen : Finset κ} {as : List α} (hseen : ∀ a ∈ as, key a ∈ seen → f a = none) :
    (scan key seen as).1.findSome? f = as.findSome? f := by
  induction as generalizing seen with
  | nil => rfl
  | cons a as ih =>
      have htail : ∀ b ∈ as, key b ∈ seen → f b = none := fun b hb => hseen b (by simp [hb])
      by_cases h : key a ∈ seen
      · rw [scan_cons_of_mem _ h, List.findSome?_cons, hseen a (by simp) h]
        exact ih htail
      · rw [scan_cons_of_not_mem _ h, List.findSome?_cons, List.findSome?_cons]
        cases hfa : f a with
        | some b => rfl
        | none =>
            -- later elements with this key have no answer either
            refine ih fun b hb hmem => ?_
            rcases Finset.mem_insert.mp hmem with heq | hmem
            · rw [hf b a heq, hfa]
            · exact htail b hb hmem

/-- A filter by a finer key placed in front of a filter by `key` changes
neither what passes nor what is seen. -/
theorem scan_scan (key : α → κ) (fine : α → τ) (hfine : ∀ a b, fine a = fine b → key a = key b)
    (seen : Finset κ) (seenFine : Finset τ) (as : List α)
    (hseen : ∀ a ∈ as, fine a ∈ seenFine → key a ∈ seen) :
    scan key seen (scan fine seenFine as).1 = scan key seen as := by
  induction as generalizing seen seenFine with
  | nil => simp
  | cons a as ih =>
      have htail : ∀ b ∈ as, fine b ∈ seenFine → key b ∈ seen :=
        fun b hb => hseen b (by simp [hb])
      by_cases hf : fine a ∈ seenFine
      · have hk := hseen a (by simp) hf
        rw [scan_cons_of_mem _ hf, scan_cons_of_mem _ hk]
        exact ih seen seenFine htail
      · rw [scan_cons_of_not_mem _ hf]
        by_cases hk : key a ∈ seen
        · rw [scan_cons_of_mem _ hk, scan_cons_of_mem _ hk]
          refine ih seen _ fun b hb hmem => ?_
          rcases Finset.mem_insert.mp hmem with heq | hmem
          · rw [hfine b a heq]
            exact hk
          · exact htail b hb hmem
        · rw [scan_cons_of_not_mem _ hk, scan_cons_of_not_mem _ hk, ih]
          intro b hb hmem
          rcases Finset.mem_insert.mp hmem with heq | hmem
          · rw [hfine b a heq]
            exact Finset.mem_insert_self _ _
          · exact Finset.mem_insert_of_mem (htail b hb hmem)

/-- Two keys that identify the same elements, on an input for which they also
agree on what was seen, keep the same elements. -/
theorem scan_congr {key : α → κ} {val : α → τ} {seen : Finset κ} {seenVal : Finset τ}
    {as : List α} (hinj : ∀ a ∈ as, ∀ b ∈ as, key a = key b ↔ val a = val b)
    (hseen : ∀ a ∈ as, key a ∈ seen ↔ val a ∈ seenVal) :
    (scan key seen as).1 = (scan val seenVal as).1 := by
  induction as generalizing seen seenVal with
  | nil => simp
  | cons a as ih =>
      have hinj' : ∀ b ∈ as, ∀ c ∈ as, key b = key c ↔ val b = val c :=
        fun b hb c hc => hinj b (by simp [hb]) c (by simp [hc])
      have hseen' : ∀ b ∈ as, key b ∈ seen ↔ val b ∈ seenVal :=
        fun b hb => hseen b (by simp [hb])
      by_cases h : key a ∈ seen
      · have hv := (hseen a (by simp)).mp h
        rw [scan_cons_of_mem _ h, scan_cons_of_mem _ hv]
        exact ih hinj' hseen'
      · have hv : val a ∉ seenVal := fun hv => h ((hseen a (by simp)).mpr hv)
        rw [scan_cons_of_not_mem _ h, scan_cons_of_not_mem _ hv]
        -- both sets grow by this element, so they still agree on the rest
        have hrest : (scan key (insert (key a) seen) as).1 =
            (scan val (insert (val a) seenVal) as).1 := by
          refine ih hinj' fun b hb => ?_
          rw [Finset.mem_insert, Finset.mem_insert, hseen' b hb,
            hinj b (by simp [hb]) a (by simp)]
        simp only [hrest]

/-- **First occurrences by key and by value.**  Let `key` be computed from
`val`.  Filtering by the key keeps exactly the first occurrence of every value
if and only if no two elements of the input with different values share a key. -/
theorem scan_eq_scan_iff {key : α → κ} {val : α → τ}
    (hkey : ∀ a b, val a = val b → key a = key b) (as : List α) :
    (scan key ∅ as).1 = (scan val ∅ as).1 ↔
      ∀ a ∈ as, ∀ b ∈ as, key a = key b → val a = val b := by
  constructor
  · intro h a ha b hb hab
    obtain ⟨a', ha', haval⟩ := exists_mem_scan val ha (Finset.notMem_empty _)
    obtain ⟨b', hb', hbval⟩ := exists_mem_scan val hb (Finset.notMem_empty _)
    rw [← h] at ha' hb'
    -- both representatives survive the filter by key, which keeps no key twice
    have hab' : key a' = key b' := by
      rw [hkey a' a haval, hkey b' b hbval, hab]
    have heq : a' = b' :=
      List.inj_on_of_nodup_map (scan_nodup key ∅ as) ha' hb' hab'
    rw [← haval, ← hbval, heq]
  · intro hinj
    refine scan_congr (fun a ha b hb => ⟨hinj a ha b hb, hkey a b⟩) fun a _ => ?_
    simp

end FirstSeen
end Library
end LanDiscovery
