import LanDiscovery.Library.Json
import LanDiscovery.Library.Words

/-!
# MAC addresses on the scanner side

`MacResolver::normalize_mac` and the search of the ARP table.  The character classes
of `<cctype>` are those of the C locale.
-/

namespace LanDiscovery
namespace Scanner
namespace MacResolver

open Library Library.Utf8 Library.Json Library.Words

/-- `std::toupper`. -/
def toUpper (c : UInt8) : UInt8 :=
  if 97 ≤ c ∧ c ≤ 122 then c - 32 else c

/-- `std::isxdigit`. -/
def isXDigit (c : UInt8) : Bool :=
  (48 ≤ c && c ≤ 57) || (65 ≤ c && c ≤ 70) || (97 ≤ c && c ≤ 102)

/-- The test of the second loop of `normalize_mac` at index `i`. -/
def isMacOctet (c : UInt8) (i : Nat) : Bool :=
  if i % 3 = 2 then c == 58 else isXDigit c

/-- `normalize_mac`. -/
def normalizeMac (mac : Bytes) : Option Bytes :=
  if mac = ascii "00:00:00:00:00:00" ∨ mac = ascii "<incomplete>" then none
  else
    let mac := mac.map fun c => toUpper (if c = 45 then 58 else c)
    if mac.length ≠ 17 then none
    else if mac.zipIdx.all fun p => isMacOctet p.1 p.2 then some mac
    else none

theorem range_of_isMacOctet {c : UInt8} {i : Nat} (h : isMacOctet c i = true) :
    48 ≤ c.toNat ∧ c.toNat < 128 ∧ c.toNat ≠ 92 := by
  unfold isMacOctet at h
  split at h
  · rw [beq_iff_eq] at h
    rw [h]
    decide
  · simp only [isXDigit, Bool.or_eq_true, Bool.and_eq_true, decide_eq_true_eq,
      UInt8.le_iff_toNat_le, show (48 : UInt8).toNat = 48 from rfl,
      show (57 : UInt8).toNat = 57 from rfl, show (65 : UInt8).toNat = 65 from rfl,
      show (70 : UInt8).toNat = 70 from rfl, show (97 : UInt8).toNat = 97 from rfl,
      show (102 : UInt8).toNat = 102 from rfl] at h
    omega

/-- A normalised address consists of hexadecimal digits and colons. -/
theorem range_of_mem_normalizeMac {raw mac : Bytes} (h : normalizeMac raw = some mac) :
    ∀ b ∈ mac, 48 ≤ b.toNat ∧ b.toNat < 128 ∧ b.toNat ≠ 92 := by
  unfold normalizeMac at h
  split at h
  · exact absurd h (by simp)
  · dsimp only at h
    split at h
    · exact absurd h (by simp)
    · split at h
      · next hall =>
          obtain rfl := Option.some.inj h
          intro b hb
          obtain ⟨i, hi⟩ := List.mem_iff_getElem?.mp hb
          have hoctet := List.all_eq_true.mp hall (b, i) (List.mk_mem_zipIdx_iff_getElem?.mpr hi)
          exact range_of_isMacOctet hoctet
      · exact absurd h (by simp)

/-- An address with dashes and lower-case digits. -/
example : normalizeMac (ascii "aa-bb-cc-dd-ee-0f") = some (ascii "AA:BB:CC:DD:EE:0F") := by
  decide

/-! ## The ARP table -/

/-- `std::isspace`. -/
def isSpace (c : UInt8) : Bool :=
  c == 32 || (9 ≤ c && c ≤ 13)

/-- `parse_arp_line`: the first four fields of a line, read with `>>`. -/
def parseArpLine (line srcIp : Bytes) : Option Bytes :=
  match words isSpace line with
  | ip :: _hwType :: _flags :: mac :: _ => if ip ≠ srcIp then none else normalizeMac mac
  | _ => none

/-- `std::getline` on what is left of a stream: the line and what is left after it. -/
def getline (stream : Bytes) : Option (Bytes × Bytes) :=
  if stream = [] then none
  else some (stream.takeWhile fun c => !(c == 10), (stream.dropWhile fun c => !(c == 10)).tail)

theorem length_lt_of_getline {stream line rest : Bytes} (h : getline stream = some (line, rest)) :
    rest.length < stream.length := by
  unfold getline at h
  split at h
  · exact absurd h (by simp)
  · next hne =>
      obtain ⟨-, rfl⟩ := Prod.mk.inj (Option.some.inj h)
      have hle := (List.dropWhile_suffix (fun c : UInt8 => !(c == 10)) (l := stream)).length_le
      have hpos := List.length_pos_iff.mpr hne
      rw [List.length_tail]
      omega

/-- The loop of `lookup_in_table`. -/
def lookupLines (stream srcIp : Bytes) : Option Bytes :=
  match _hline : getline stream with
  | none => none
  | some (line, rest) =>
      match parseArpLine line srcIp with
      | some mac => some mac
      | none => lookupLines rest srcIp
  termination_by stream.length
  decreasing_by exact length_lt_of_getline ‹_›

/-- `lookup_in_table`: the first line is the header. -/
def lookupInTable (arpTable srcIp : Bytes) : Option Bytes :=
  match getline arpTable with
  | none => lookupLines [] srcIp
  | some (_, rest) => lookupLines rest srcIp

theorem linesOf_of_getline {stream line rest : Bytes} (h : getline stream = some (line, rest)) :
    linesOf (· == 10) stream = line :: linesOf (· == 10) rest := by
  unfold getline at h
  split at h
  · exact absurd h (by simp)
  · next hne =>
      obtain ⟨rfl, rfl⟩ := Prod.mk.inj (Option.some.inj h)
      exact linesOf_of_ne_nil _ hne

/-- The loop goes over the lines. -/
theorem lookupLines_eq (stream srcIp : Bytes) :
    lookupLines stream srcIp =
      (linesOf (· == 10) stream).findSome? fun line => parseArpLine line srcIp := by
  fun_induction lookupLines stream srcIp with
  | case1 stream h =>
      have hnil : stream = [] := by simpa [getline] using h
      rw [hnil]
      rfl
  | case2 stream line rest h mac hmac =>
      rw [linesOf_of_getline h, List.findSome?_cons, hmac]
  | case3 stream line rest h hmac ih =>
      rw [linesOf_of_getline h, List.findSome?_cons, hmac, ih]

/-- **The search of the table.**  The answer is the first address of a line behind the
header. -/
theorem lookupInTable_eq (arpTable srcIp : Bytes) :
    lookupInTable arpTable srcIp =
      (linesOf (· == 10) arpTable).tail.findSome? fun line => parseArpLine line srcIp := by
  unfold lookupInTable
  cases h : getline arpTable with
  | none =>
      have hnil : arpTable = [] := by simpa [getline] using h
      rw [hnil, lookupLines_eq]
      rfl
  | some header =>
      obtain ⟨line, rest⟩ := header
      rw [linesOf_of_getline h, List.tail_cons]
      exact lookupLines_eq rest srcIp

/-- An answer is a normalised address. -/
theorem exists_normalizeMac_of_lookupInTable {arpTable srcIp mac : Bytes}
    (h : lookupInTable arpTable srcIp = some mac) : ∃ raw, normalizeMac raw = some mac := by
  rw [lookupInTable_eq] at h
  obtain ⟨line, -, hline⟩ := List.exists_of_findSome?_eq_some h
  unfold parseArpLine at hline
  split at hline
  · split_ifs at hline
    exact ⟨_, hline⟩
  · exact absurd hline (by simp)

/-- The table of a machine with two neighbours. -/
example :
    lookupInTable (ascii "IP address HW type\n10.0.0.1 0x1 0x2 00:00:00:00:00:00 * eth0\n" ++
        ascii "10.0.0.2 0x1 0x2 aa:bb:cc:dd:ee:ff * eth0\n") (ascii "10.0.0.2") =
      some (ascii "AA:BB:CC:DD:EE:FF") := by
  rw [lookupInTable_eq]
  decide +kernel

end MacResolver
end Scanner
end LanDiscovery
