import LanDiscovery.Library.Segments
import LanDiscovery.Library.Walk
import LanDiscovery.Scanner.Wire

/-!
# Domain names on the wire

What a domain name is in a message (`NameAt`): labels of 1 to 63 octets, pointers to
anywhere in the message, and a terminator at the end.  `parse_qname` returns exactly
these names, and its guard against loops stops only the names that never end
(`parseQname_correct`).
-/

namespace LanDiscovery
namespace Scanner

open Library Library.Outcome Library.Segments Library.Walk

/-! ## Names -/

/-- A label starts at the position. -/
def LabelAt (buf : Bytes) (pos : Nat) (label : Bytes) : Prop :=
  1 ≤ label.length ∧ label.length ≤ 63 ∧ wireLabel label <+: buf.drop pos

/-- A compression pointer starts at the position and leads into the message. -/
def PointerAt (buf : Bytes) (pos target : Nat) : Prop :=
  target < buf.length ∧ ∃ high low : UInt8, [high, low] <+: buf.drop pos ∧
    192 ≤ high.toNat ∧ target = high.toNat % 64 * 256 + low.toNat

/-- A name with the labels starts at the position; behind its part there, which ends
with the first pointer or with the terminator, is the position `next`. -/
inductive NameAt (buf : Bytes) : Nat → List Bytes → Nat → Prop
  | terminator {pos : Nat} (h : [kQnameTerminator] <+: buf.drop pos) : NameAt buf pos [] (pos + 1)
  | label {pos : Nat} {label : Bytes} {labels : List Bytes} {next : Nat}
      (h : LabelAt buf pos label) (rest : NameAt buf (pos + 1 + label.length) labels next) :
      NameAt buf pos (label :: labels) next
  | pointer {pos target : Nat} {labels : List Bytes} {next : Nat}
      (h : PointerAt buf pos target) (rest : NameAt buf target labels next) :
      NameAt buf pos labels (pos + 2)

/-- Where the name goes on after what starts at the position. -/
def nameNext (buf : Bytes) (pos : Nat) : Option Nat :=
  match buf.drop pos with
  | [] => none
  | first :: rest =>
      if first = kQnameTerminator then none
      else if first.toNat < 64 then
        if first.toNat ≤ rest.length then some (pos + 1 + first.toNat) else none
      else if first.toNat < 192 then none
      else
        match rest with
        | [] => none
        | low :: _ =>
            if first.toNat % 64 * 256 + low.toNat < buf.length then
              some (first.toNat % 64 * 256 + low.toNat)
            else none

/-- The labels of a name, joined with dots. -/
def dotted (labels : List Bytes) : Bytes :=
  [dot].intercalate labels

/-! ## Octets -/

theorem and_prefix_eq_zero_iff (b : UInt8) : b &&& kQnamePointerPrefix = 0 ↔ b.toNat < 64 := by
  have hall : ∀ n < 256, n &&& 192 = 0 ↔ n < 64 := by decide +kernel
  rw [← UInt8.toNat_inj, UInt8.toNat_and]
  exact hall b.toNat b.toNat_lt

theorem and_prefix_eq_prefix_iff (b : UInt8) :
    b &&& kQnamePointerPrefix = kQnamePointerPrefix ↔ 192 ≤ b.toNat := by
  have hall : ∀ n < 256, n &&& 192 = 192 ↔ 192 ≤ n := by decide +kernel
  rw [← UInt8.toNat_inj, UInt8.toNat_and]
  exact hall b.toNat b.toNat_lt

/-- The fourteen bits of a pointer. -/
theorem toNat_pointer (high low : UInt8) :
    (((high &&& kQnamePointerOffsetMask).toUInt16 <<< 8) ||| low.toUInt16).toNat =
      high.toNat % 64 * 256 + low.toNat := by
  have hmask : (high &&& kQnamePointerOffsetMask).toNat = high.toNat % 64 := by
    rw [UInt8.toNat_and]
    exact Nat.and_two_pow_sub_one_eq_mod high.toNat 6
  rw [toNat_u16_be, hmask]

theorem getElem?_of_prefix_drop {buf : Bytes} {pos : Nat} {b : UInt8} {rest : Bytes}
    (h : b :: rest <+: buf.drop pos) : buf[pos]? = some b := by
  obtain ⟨after, hafter⟩ := h
  have hget : (buf.drop pos)[0]? = some b := by
    rw [← hafter]
    rfl
  simpa using hget

theorem length_of_prefix_drop {buf : Bytes} {pos : Nat} {front : Bytes}
    (h : front <+: buf.drop pos) (hne : front ≠ []) : pos + front.length ≤ buf.length := by
  have hlength := h.length_le
  have hpos := List.length_pos_iff.mpr hne
  rw [List.length_drop] at hlength
  omega

theorem toNat_length_label {label : Bytes} (h : label.length ≤ 63) :
    (UInt8.ofNat label.length).toNat = label.length := by
  rw [UInt8.toNat_ofNat']
  omega

/-- The octet in front of a label is not the terminator. -/
theorem length_label_ne_terminator {label : Bytes} (hpos : 1 ≤ label.length)
    (hle : label.length ≤ 63) : UInt8.ofNat label.length ≠ kQnameTerminator := by
  intro heq
  have hzero := congrArg UInt8.toNat heq
  rw [toNat_length_label hle] at hzero
  exact absurd (hzero ▸ hpos) (by decide)

/-- The first octet of a pointer is not the terminator. -/
theorem ne_terminator_of_pointer {high : UInt8} (hmark : 192 ≤ high.toNat) :
    high ≠ kQnameTerminator := by
  intro heq
  rw [heq] at hmark
  exact absurd hmark (by decide)

theorem LabelAt.getElem? {buf : Bytes} {pos : Nat} {label : Bytes} (h : LabelAt buf pos label) :
    buf[pos]? = some (UInt8.ofNat label.length) :=
  getElem?_of_prefix_drop h.2.2

theorem LabelAt.le {buf : Bytes} {pos : Nat} {label : Bytes} (h : LabelAt buf pos label) :
    pos + 1 + label.length ≤ buf.length := by
  have hle := length_of_prefix_drop h.2.2 (by simp [wireLabel])
  rw [wireLabel, List.length_cons] at hle
  omega

theorem LabelAt.slice {buf : Bytes} {pos : Nat} {label : Bytes} (h : LabelAt buf pos label) :
    (buf.drop (pos + 1)).take label.length = label := by
  obtain ⟨after, hafter⟩ := h.2.2
  have hdrop : buf.drop (pos + 1) = label ++ after := by
    rw [← List.drop_drop, ← hafter]
    rfl
  rw [hdrop, List.take_left]

/-- The octets that start a label. -/
theorem labelAt_of_octet {buf : Bytes} {pos : Nat} {first : UInt8} (h : buf[pos]? = some first)
    (hne : first ≠ kQnameTerminator) (hshort : first.toNat < 64)
    (hle : pos + 1 + first.toNat ≤ buf.length) :
    LabelAt buf pos ((buf.drop (pos + 1)).take first.toNat) := by
  have hlength : ((buf.drop (pos + 1)).take first.toNat).length = first.toNat := by
    rw [List.length_take, List.length_drop]
    omega
  have hpos : first.toNat ≠ 0 := fun hzero => hne (UInt8.toNat_inj.mp hzero)
  obtain ⟨hlt, hget⟩ := List.getElem?_eq_some_iff.mp h
  refine ⟨by omega, by omega, ?_⟩
  rw [wireLabel, hlength, UInt8.ofNat_toNat, List.drop_eq_getElem_cons hlt, hget]
  exact List.prefix_cons_inj _ |>.mpr (List.take_prefix _ _)

theorem PointerAt.getElem? {buf : Bytes} {pos target : Nat} (h : PointerAt buf pos target) :
    ∃ high low : UInt8, buf[pos]? = some high ∧ buf[pos + 1]? = some low ∧ 192 ≤ high.toNat ∧
      target = high.toNat % 64 * 256 + low.toNat := by
  obtain ⟨-, high, low, hprefix, hhigh, htarget⟩ := h
  refine ⟨high, low, getElem?_of_prefix_drop hprefix, ?_, hhigh, htarget⟩
  obtain ⟨after, hafter⟩ := hprefix
  have hdrop : buf.drop (pos + 1) = low :: after := by
    rw [← List.drop_drop, ← hafter]
    rfl
  have hlow : [low] <+: buf.drop (pos + 1) := ⟨after, hdrop.symm⟩
  exact getElem?_of_prefix_drop hlow

theorem pointerAt_of_octets {buf : Bytes} {pos : Nat} {high low : UInt8}
    (hhigh : buf[pos]? = some high) (hlow : buf[pos + 1]? = some low) (hmark : 192 ≤ high.toNat)
    (hlt : high.toNat % 64 * 256 + low.toNat < buf.length) :
    PointerAt buf pos (high.toNat % 64 * 256 + low.toNat) := by
  obtain ⟨hpos, hget⟩ := List.getElem?_eq_some_iff.mp hhigh
  obtain ⟨hpos', hget'⟩ := List.getElem?_eq_some_iff.mp hlow
  refine ⟨hlt, high, low, ?_, hmark, rfl⟩
  rw [List.drop_eq_getElem_cons hpos, List.drop_eq_getElem_cons hpos', hget, hget']
  exact ⟨buf.drop (pos + 1 + 1), rfl⟩

/-! ## The way of a name -/

theorem nameNext_of_label {buf : Bytes} {pos : Nat} {label : Bytes}
    (h : LabelAt buf pos label) :
    nameNext buf pos = some (pos + 1 + label.length) := by
  have hlength := toNat_length_label h.2.1
  have hne := length_label_ne_terminator h.1 h.2.1
  obtain ⟨after, hafter⟩ := h.2.2
  rw [nameNext, ← hafter]
  simp only [wireLabel, List.cons_append, hne, if_false, hlength, Nat.lt_succ_of_le h.2.1,
    List.length_append, Nat.le_add_right, if_true]

theorem nameNext_of_pointer {buf : Bytes} {pos target : Nat}
    (h : PointerAt buf pos target) :
    nameNext buf pos = some target := by
  obtain ⟨hlt, high, low, ⟨after, hafter⟩, hmark, rfl⟩ := h
  have hne := ne_terminator_of_pointer hmark
  rw [nameNext, ← hafter]
  simp only [List.cons_append, hne, if_false, show ¬ high.toNat < 64 by omega,
    show ¬ high.toNat < 192 by omega, hlt, if_true]

theorem nameNext_of_terminator {buf : Bytes} {pos : Nat}
    (h : [kQnameTerminator] <+: buf.drop pos) : nameNext buf pos = none := by
  obtain ⟨after, hafter⟩ := h
  rw [nameNext, ← hafter]
  simp

/-- A name goes on behind a label, or where a pointer leads. -/
theorem nameNext_eq_some {buf : Bytes} {pos q : Nat} (h : nameNext buf pos = some q) :
    (∃ label, LabelAt buf pos label ∧ q = pos + 1 + label.length) ∨ PointerAt buf pos q := by
  unfold nameNext at h
  split at h
  · exact absurd h (by simp)
  · next first rest hdrop =>
      have hfirst : [first] <+: buf.drop pos := ⟨rest, hdrop.symm⟩
      have hget := getElem?_of_prefix_drop hfirst
      have hlt := length_of_prefix_drop hfirst (by simp)
      have hlength := congrArg List.length hdrop
      rw [List.length_drop, List.length_cons] at hlength
      rw [List.length_singleton] at hlt
      split_ifs at h with hterm hshort hle hmark
      · obtain rfl := Option.some.inj h
        have hlabel := labelAt_of_octet hget hterm hshort (by omega)
        refine Or.inl ⟨_, hlabel, ?_⟩
        rw [List.length_take, List.length_drop]
        omega
      · split at h
        · exact absurd h (by simp)
        · next low after =>
            split_ifs at h with hin
            obtain rfl := Option.some.inj h
            exact Or.inr ⟨hin, first, low, ⟨after, hdrop.symm⟩, by omega, rfl⟩

/-- The name goes on at a position inside the message or ends at its end. -/
theorem lt_of_nameNext_eq_some {buf : Bytes} {pos q : Nat} (h : nameNext buf pos = some q) :
    pos < buf.length := by
  rcases nameNext_eq_some h with ⟨label, hlabel, -⟩ | hpointer
  · exact (List.getElem?_eq_some_iff.mp hlabel.getElem?).1
  · obtain ⟨high, -, hhigh, -⟩ := hpointer.getElem?
    exact (List.getElem?_eq_some_iff.mp hhigh).1

/-! ## One iteration -/

/-- The name with one more label. -/
def withLabel (name label : Bytes) : Bytes :=
  (if name.isEmpty then name else name ++ [dot]) ++ label

section

variable {buf : Bytes} {pos : Nat} (budget consumed : Nat) (jumped : Bool) (name : Bytes)

theorem qnameLoop_terminator (h : [kQnameTerminator] <+: buf.drop pos) :
    qnameLoop buf (budget + 1) pos consumed jumped name =
      .ok { name, pos, consumed := if jumped then consumed else pos + 1 } := by
  have hget := getElem?_of_prefix_drop h
  obtain ⟨hlt, -⟩ := List.getElem?_eq_some_iff.mp hget
  simp [qnameLoop, hlt, (readByte_eq_ok_iff _ _ _).mpr hget]

theorem qnameLoop_label {label : Bytes} (h : LabelAt buf pos label) :
    qnameLoop buf (budget + 1) pos consumed jumped name =
      qnameLoop buf budget (pos + 1 + label.length)
        (if jumped then consumed else pos + 1 + label.length) jumped (withLabel name label) := by
  have hlength := toNat_length_label h.2.1
  have hlt : pos < buf.length := by have hle := h.le; omega
  have hne := length_label_ne_terminator h.1 h.2.1
  have hzero : UInt8.ofNat label.length &&& kQnamePointerPrefix = 0 := by
    rw [and_prefix_eq_zero_iff, hlength]
    exact Nat.lt_succ_of_le h.2.1
  have hmark : UInt8.ofNat label.length &&& kQnamePointerPrefix ≠ kQnamePointerPrefix := by
    rw [hzero]
    decide
  have hslice : readSlice buf (pos + 1) label.length = .ok label := by
    rw [readSlice_of_le h.le, h.slice]
  rw [qnameLoop, if_pos hlt, (readByte_eq_ok_iff _ _ _).mpr h.getElem?, ok_bind, if_neg hne,
    if_neg hmark, if_neg (not_not.mpr hzero), hlength, if_neg (by have hle := h.le; omega), hslice,
    ok_bind, ← Nat.add_assoc]
  rfl

theorem qnameLoop_pointer {target : Nat} (h : PointerAt buf pos target) :
    qnameLoop buf (budget + 1) pos consumed jumped name =
      qnameLoop buf budget target (if jumped then consumed else pos + 2) true name := by
  obtain ⟨high, low, hhigh, hlow, hmark, htarget⟩ := h.getElem?
  obtain ⟨hlt, -⟩ := List.getElem?_eq_some_iff.mp hhigh
  obtain ⟨hlt', -⟩ := List.getElem?_eq_some_iff.mp hlow
  have hne := ne_terminator_of_pointer hmark
  rw [qnameLoop, if_pos hlt, (readByte_eq_ok_iff _ _ _).mpr hhigh, ok_bind, if_neg hne,
    if_pos ((and_prefix_eq_prefix_iff high).mpr hmark), if_neg (by omega),
    (readByte_eq_ok_iff _ _ _).mpr hlow, ok_bind]
  dsimp only
  rw [toNat_pointer, ← htarget, if_neg (by have hin := h.1; omega)]

theorem qnameLoop_of_ge (h : buf.length ≤ pos) :
    qnameLoop buf budget pos consumed jumped name = .ok { name, pos, consumed } := by
  cases budget <;> simp [qnameLoop, h]

/-- The error of the guard against loops. -/
def pointerLoop : Fault :=
  .invalidArgument "QNAME pointer loop detected"

/-- Where a name neither ends nor goes on, it is rejected for what is found there. -/
theorem qnameLoop_malformed (hlt : pos < buf.length) (hend : ¬ [kQnameTerminator] <+: buf.drop pos)
    (hnext : nameNext buf pos = none) :
    ∃ what, Fault.invalidArgument what ≠ pointerLoop ∧
      qnameLoop buf (budget + 1) pos consumed jumped name = .error (.invalidArgument what) := by
  have hget := List.getElem?_eq_getElem hlt
  have hne : buf[pos] ≠ kQnameTerminator := by
    intro heq
    refine hend ⟨buf.drop (pos + 1), ?_⟩
    rw [List.drop_eq_getElem_cons hlt, heq]
    rfl
  rw [qnameLoop, if_pos hlt, readByte_of_lt hlt, ok_bind, if_neg hne]
  -- by the two high bits of the octet: a pointer, a label, or neither
  by_cases hmark : buf[pos] &&& kQnamePointerPrefix = kQnamePointerPrefix
  · rw [if_pos hmark]
    by_cases hlow : pos + 1 ≥ buf.length
    · rw [if_pos hlow]
      exact ⟨_, by decide, rfl⟩
    · have hlt' : pos + 1 < buf.length := by omega
      rw [if_neg hlow, readByte_of_lt hlt', ok_bind]
      dsimp only
      rw [toNat_pointer]
      by_cases hin : buf[pos].toNat % 64 * 256 + buf[pos + 1].toNat ≥ buf.length
      · rw [if_pos hin]
        exact ⟨_, by decide, rfl⟩
      · have hpointer := pointerAt_of_octets hget (List.getElem?_eq_getElem hlt')
          ((and_prefix_eq_prefix_iff _).mp hmark) (by omega)
        rw [nameNext_of_pointer hpointer] at hnext
        exact absurd hnext (by simp)
  · rw [if_neg hmark]
    by_cases hzero : buf[pos] &&& kQnamePointerPrefix = 0
    · rw [if_neg (not_not.mpr hzero)]
      by_cases hle : pos + 1 + buf[pos].toNat > buf.length
      · rw [if_pos hle]
        exact ⟨_, by decide, rfl⟩
      · have hlabel := labelAt_of_octet hget hne ((and_prefix_eq_zero_iff _).mp hzero) (by omega)
        rw [nameNext_of_label hlabel] at hnext
        exact absurd hnext (by simp)
    · rw [if_pos hzero]
      exact ⟨_, by decide, rfl⟩

end

/-! ## The loop -/

/-- The guard stops a name that goes on for as many steps as are left. -/
theorem qnameLoop_eq_pointerLoop_iff {buf : Bytes} (budget pos consumed : Nat) (jumped : Bool)
    (name : Bytes) :
    qnameLoop buf budget pos consumed jumped name = .error pointerLoop ↔
      ∃ q, walk (nameNext buf) budget pos = some q ∧ q < buf.length := by
  induction budget generalizing pos consumed jumped name with
  | zero =>
      rw [qnameLoop]
      by_cases hlt : pos < buf.length
      · rw [if_pos hlt]
        exact iff_of_true rfl ⟨pos, rfl, hlt⟩
      · rw [if_neg hlt]
        simp [hlt]
  | succ budget ih =>
      rw [walk_succ]
      cases hnext : nameNext buf pos with
      | some q =>
          rw [Option.bind_some]
          rcases nameNext_eq_some hnext with ⟨label, hlabel, rfl⟩ | hpointer
          · rw [qnameLoop_label _ _ _ _ hlabel]
            exact ih _ _ _ _
          · rw [qnameLoop_pointer _ _ _ _ hpointer]
            exact ih _ _ _ _
      | none =>
          -- the name ends here, or it is rejected for another reason
          refine iff_of_false ?_ (by simp)
          by_cases hlt : pos < buf.length
          · by_cases hend : [kQnameTerminator] <+: buf.drop pos
            · rw [qnameLoop_terminator _ _ _ _ hend]
              simp
            · obtain ⟨what, hwhat, heq⟩ :=
                qnameLoop_malformed budget consumed jumped name hlt hend hnext
              rw [heq]
              simpa using hwhat
          · rw [qnameLoop_of_ge _ _ _ _ (by omega)]
            simp

theorem withLabel_dotted {done : List Bytes} (hdone : ∀ l ∈ done, l ≠ []) (label : Bytes) :
    withLabel (dotted done) label = dotted (done ++ [label]) := by
  unfold withLabel dotted
  by_cases hnil : done = []
  · subst hnil
    simp
  · have hne : [dot].intercalate done ≠ [] := by
      rw [Ne, intercalate_eq_nil_iff hdone]
      exact hnil
    rw [intercalate_append_singleton hnil, if_neg (by simpa using hne)]

theorem ne_nil_of_labelAt {buf : Bytes} {pos : Nat} {label : Bytes} (h : LabelAt buf pos label) :
    label ≠ [] :=
  List.length_pos_iff.mp h.1

theorem forall_ne_nil_append {done : List Bytes} (hdone : ∀ l ∈ done, l ≠ []) {label : Bytes}
    (hlabel : label ≠ []) : ∀ l ∈ done ++ [label], l ≠ [] := by
  intro l hl
  rcases List.mem_append.mp hl with hold | hlast
  · exact hdone l hold
  · exact List.mem_singleton.mp hlast ▸ hlabel

/-- What the loop returns inside the message is a name that starts where it started. -/
theorem nameAt_of_qnameLoop {buf : Bytes} (budget pos consumed : Nat) (jumped : Bool)
    {done : List Bytes} (hdone : ∀ l ∈ done, l ≠ []) {final : QnameState}
    (h : qnameLoop buf budget pos consumed jumped (dotted done) = .ok final)
    (hin : final.pos < buf.length) :
    ∃ labels next, NameAt buf pos labels next ∧ final.name = dotted (done ++ labels) ∧
      final.consumed = if jumped then consumed else next := by
  -- by the budget; the labels done and the position are whatever the loop has reached
  induction budget generalizing pos consumed jumped done with
  | zero =>
      rw [qnameLoop] at h
      split_ifs at h with hlt
      obtain rfl := Except.ok.inj h
      exact absurd hin hlt
  | succ budget ih =>
      cases hnext : nameNext buf pos with
      | some q =>
          rcases nameNext_eq_some hnext with ⟨label, hlabel, rfl⟩ | hpointer
          · rw [qnameLoop_label _ _ _ _ hlabel, withLabel_dotted hdone] at h
            obtain ⟨labels, next, hname, hfinal, hconsumed⟩ :=
              ih _ _ _ (forall_ne_nil_append hdone (ne_nil_of_labelAt hlabel)) h
            refine ⟨label :: labels, next, .label hlabel hname, ?_, ?_⟩
            · rw [hfinal, List.append_assoc, List.singleton_append]
            · -- once it has jumped, what is consumed is settled
              rw [hconsumed]
              cases jumped <;> rfl
          · rw [qnameLoop_pointer _ _ _ _ hpointer] at h
            obtain ⟨labels, next, hname, hfinal, hconsumed⟩ := ih _ _ _ hdone h
            exact ⟨labels, pos + 2, .pointer hpointer hname, hfinal, hconsumed⟩
      | none =>
          by_cases hlt : pos < buf.length
          · by_cases hend : [kQnameTerminator] <+: buf.drop pos
            · rw [qnameLoop_terminator _ _ _ _ hend] at h
              obtain rfl := Except.ok.inj h
              exact ⟨[], pos + 1, .terminator hend, by rw [List.append_nil], rfl⟩
            · obtain ⟨what, -, heq⟩ :=
                qnameLoop_malformed budget consumed jumped (dotted done) hlt hend hnext
              rw [heq] at h
              exact absurd h (by simp)
          · rw [qnameLoop_of_ge _ _ _ _ (by omega)] at h
            obtain rfl := Except.ok.inj h
            exact absurd hin hlt

/-- The loop returns a name whose way ends before the guard fires. -/
theorem qnameLoop_of_nameAt {buf : Bytes} {pos : Nat} {labels : List Bytes} {next : Nat}
    (h : NameAt buf pos labels next) {budget : Nat}
    (hends : walk (nameNext buf) budget pos = none) (consumed : Nat) (jumped : Bool)
    {done : List Bytes} (hdone : ∀ l ∈ done, l ≠ []) :
    ∃ final, qnameLoop buf budget pos consumed jumped (dotted done) = .ok final ∧
      final.pos < buf.length ∧ final.name = dotted (done ++ labels) ∧
      final.consumed = if jumped then consumed else next := by
  -- by the derivation of the name, each step of which is one round of the loop
  induction h generalizing budget consumed jumped done with
  | @terminator pos hend =>
      obtain ⟨hlt, -⟩ := List.getElem?_eq_some_iff.mp (getElem?_of_prefix_drop hend)
      cases budget with
      | zero => simp at hends
      | succ budget =>
          rw [qnameLoop_terminator _ _ _ _ hend]
          exact ⟨_, rfl, hlt, by rw [List.append_nil], rfl⟩
  | @label pos label labels next hlabel rest ih =>
      cases budget with
      | zero => simp at hends
      | succ budget =>
          rw [walk_succ, nameNext_of_label hlabel, Option.bind_some] at hends
          obtain ⟨final, hfinal, hin, hname, hconsumed⟩ :=
            ih hends (if jumped then consumed else pos + 1 + label.length) jumped
              (forall_ne_nil_append hdone (ne_nil_of_labelAt hlabel))
          refine ⟨final, ?_, hin, ?_, ?_⟩
          · rw [qnameLoop_label _ _ _ _ hlabel, withLabel_dotted hdone]
            exact hfinal
          · rw [hname, List.append_assoc, List.singleton_append]
          · rw [hconsumed]
            cases jumped <;> rfl
  | @pointer pos target labels next hpointer rest ih =>
      cases budget with
      | zero => simp at hends
      | succ budget =>
          rw [walk_succ, nameNext_of_pointer hpointer, Option.bind_some] at hends
          obtain ⟨final, hfinal, hin, hname, hconsumed⟩ :=
            ih hends (if jumped then consumed else pos + 2) true hdone
          refine ⟨final, ?_, hin, hname, hconsumed⟩
          rw [qnameLoop_pointer _ _ _ _ hpointer]
          exact hfinal

/-! ## Names end -/

/-- The way of a name stays inside the message. -/
theorem NameAt.lt_of_walk {buf : Bytes} {pos : Nat} {labels : List Bytes} {next : Nat}
    (h : NameAt buf pos labels next) {n q : Nat} (hwalk : walk (nameNext buf) n pos = some q) :
    q < buf.length := by
  induction h generalizing n with
  | @terminator pos hend =>
      cases n with
      | zero =>
          obtain rfl := Option.some.inj hwalk
          exact (List.getElem?_eq_some_iff.mp (getElem?_of_prefix_drop hend)).1
      | succ n =>
          rw [walk_succ, nameNext_of_terminator hend] at hwalk
          exact absurd hwalk (by simp)
  | @label pos label labels next hlabel rest ih =>
      cases n with
      | zero =>
          obtain rfl := Option.some.inj hwalk
          exact lt_of_nameNext_eq_some (nameNext_of_label hlabel)
      | succ n =>
          rw [walk_succ, nameNext_of_label hlabel, Option.bind_some] at hwalk
          exact ih hwalk
  | @pointer pos target labels next hpointer rest ih =>
      cases n with
      | zero =>
          obtain rfl := Option.some.inj hwalk
          exact lt_of_nameNext_eq_some (nameNext_of_pointer hpointer)
      | succ n =>
          rw [walk_succ, nameNext_of_pointer hpointer, Option.bind_some] at hwalk
          exact ih hwalk

/-- A name ends. -/
theorem NameAt.exists_walk_eq_none {buf : Bytes} {pos : Nat} {labels : List Bytes} {next : Nat}
    (h : NameAt buf pos labels next) : ∃ n, walk (nameNext buf) n pos = none := by
  induction h with
  | @terminator pos hend =>
      exact ⟨1, by rw [walk_succ, nameNext_of_terminator hend, Option.bind_none]⟩
  | label hlabel rest ih =>
      obtain ⟨n, hn⟩ := ih
      exact ⟨n + 1, by rw [walk_succ, nameNext_of_label hlabel, Option.bind_some, hn]⟩
  | pointer hpointer rest ih =>
      obtain ⟨n, hn⟩ := ih
      exact ⟨n + 1, by rw [walk_succ, nameNext_of_pointer hpointer, Option.bind_some, hn]⟩

/-- **A way inside the message that makes as many steps as there are octets comes back
to a position.** -/
theorem revisits_of_walk_length {buf : Bytes} {pos q : Nat}
    (hwalk : walk (nameNext buf) buf.length pos = some q) (hq : q < buf.length) :
    Revisits (nameNext buf) pos := by
  refine revisits_of_walk_card (Finset.range buf.length) fun i hi => ?_
  rw [Finset.card_range] at hi
  rcases hi.lt_or_eq with hlt | rfl
  · -- before the last step every position has a successor
    have hsome : (walk (nameNext buf) (i + 1) pos).isSome :=
      isSome_walk_of_le hlt (by rw [hwalk]; rfl)
    rw [walk_add] at hsome
    obtain ⟨p, hp⟩ := Option.isSome_iff_exists.mp
      (isSome_walk_of_le hlt.le (by rw [hwalk]; rfl : (walk (nameNext buf) _ pos).isSome))
    rw [hp, Option.bind_some, walk_succ] at hsome
    cases hnext : nameNext buf p with
    | none => simp [hnext] at hsome
    | some _ => exact ⟨p, Finset.mem_range.mpr (lt_of_nameNext_eq_some hnext), hp⟩
  · exact ⟨q, Finset.mem_range.mpr hq, hwalk⟩

theorem NameAt.walk_length_eq_none {buf : Bytes} {pos : Nat} {labels : List Bytes} {next : Nat}
    (h : NameAt buf pos labels next) : walk (nameNext buf) buf.length pos = none := by
  by_contra hne
  obtain ⟨q, hq⟩ := Option.ne_none_iff_exists'.mp hne
  have hrevisits := revisits_of_walk_length hq (h.lt_of_walk hq)
  obtain ⟨n, hn⟩ := h.exists_walk_eq_none
  have hsome := hrevisits.isSome_walk n
  simp [hn] at hsome

/-! ## `parse_qname` -/

/-- The part of a name in place is not empty and lies inside the message. -/
theorem NameAt.next_bounds {buf : Bytes} {pos : Nat} {labels : List Bytes} {next : Nat}
    (h : NameAt buf pos labels next) : pos < next ∧ next ≤ buf.length := by
  induction h with
  | terminator hend => exact ⟨by omega, length_of_prefix_drop hend (by simp)⟩
  | label hlabel rest ih => exact ⟨by omega, ih.2⟩
  | @pointer pos target labels next hpointer rest ih =>
      obtain ⟨-, high, low, hprefix, -⟩ := hpointer
      exact ⟨by omega, length_of_prefix_drop hprefix (by simp)⟩

theorem parseQname_eq_ok_iff {buf : Bytes} {offset : Nat} {name : Bytes} {next : Nat} :
    parseQname buf offset = .ok (name, next) ↔
      ∃ labels, NameAt buf offset labels next ∧ name = dotted labels := by
  have hnone : ∀ l ∈ ([] : List Bytes), l ≠ [] := by simp
  rw [parseQname, bind_eq_ok_iff]
  constructor
  · rintro ⟨final, hloop, hfinal⟩
    split_ifs at hfinal with hge
    obtain ⟨rfl, rfl⟩ := Prod.mk.inj (Except.ok.inj hfinal)
    obtain ⟨labels, next, hname, hjoined, hconsumed⟩ :=
      nameAt_of_qnameLoop buf.length offset offset false hnone hloop (by omega)
    exact ⟨labels, hconsumed ▸ hname, hjoined⟩
  · rintro ⟨labels, hname, rfl⟩
    obtain ⟨final, hloop, hin, hjoined, hconsumed⟩ :=
      qnameLoop_of_nameAt hname hname.walk_length_eq_none offset false hnone
    refine ⟨final, hloop, ?_⟩
    rw [if_neg (by omega), hjoined, hconsumed]
    rfl

theorem parseQname_eq_pointerLoop_iff {buf : Bytes} {offset : Nat} :
    parseQname buf offset = .error pointerLoop ↔ Revisits (nameNext buf) offset := by
  have hloop : parseQname buf offset = .error pointerLoop ↔
      qnameLoop buf buf.length offset offset false [] = .error pointerLoop := by
    rw [parseQname]
    cases qnameLoop buf buf.length offset offset false [] with
    | error e => rw [error_bind, Except.error.injEq, Except.error.injEq]
    | ok final =>
        rw [ok_bind]
        split_ifs
        · exact iff_of_false (by decide) (by simp)
        · exact iff_of_false (by simp) (by simp)
  rw [hloop, qnameLoop_eq_pointerLoop_iff]
  constructor
  · rintro ⟨q, hwalk, hq⟩
    exact revisits_of_walk_length hwalk hq
  · intro hrevisits
    -- the walk goes on behind the last step that the guard lets it make
    obtain ⟨r, hr⟩ := Option.isSome_iff_exists.mp (hrevisits.isSome_walk (buf.length + 1))
    rw [walk_add] at hr
    obtain ⟨q, hq, hlast⟩ := Option.bind_eq_some_iff.mp hr
    rw [walk_succ] at hlast
    obtain ⟨_, hnext, -⟩ := Option.bind_eq_some_iff.mp hlast
    exact ⟨q, hq, lt_of_nameNext_eq_some hnext⟩

/-- **Domain names.**  `parse_qname` returns a name and an offset exactly when the
octets at its offset are a name with these; the offset is behind the part in place.
Otherwise it throws, and for a loop exactly when the way of the name comes back to a
position. -/
theorem parseQname_correct (buf : Bytes) (offset : Nat) :
    (∀ name next, parseQname buf offset = .ok (name, next) ↔
      ∃ labels, NameAt buf offset labels next ∧ name = dotted labels) ∧
    (∀ labels next, NameAt buf offset labels next → offset < next ∧ next ≤ buf.length) ∧
    ((¬ ∃ labels next, NameAt buf offset labels next) →
      ∃ what, parseQname buf offset = .error (.invalidArgument what)) ∧
    (parseQname buf offset = .error pointerLoop ↔ Revisits (nameNext buf) offset) := by
  refine ⟨fun _ _ => parseQname_eq_ok_iff, fun _ _ h => h.next_bounds, ?_,
    parseQname_eq_pointerLoop_iff⟩
  intro hno
  have hfails := parseQname_failsOnly buf offset
  cases hparse : parseQname buf offset with
  | ok result =>
      obtain ⟨labels, hname, -⟩ := parseQname_eq_ok_iff.mp hparse
      exact absurd ⟨labels, result.2, hname⟩ hno
  | error fault =>
      obtain ⟨what, rfl⟩ := hfails fault hparse
      exact ⟨what, rfl⟩

end Scanner
end LanDiscovery
