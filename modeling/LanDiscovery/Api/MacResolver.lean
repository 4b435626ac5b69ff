import LanDiscovery.Api.PyText
import LanDiscovery.Library.Words

/-!
# MAC addresses on the API side

`normalize_mac` of `mac_resolver.py` and the search of the ARP table.  An address is a
text in canonical form, so that the tables cannot hold any other.  An ingest takes the
answers of the neighbour table as input; where they come from `/proc/net/arp` they are
those of `_lookup_proc_arp`.
-/

namespace LanDiscovery
namespace Api

open Library Library.Words

/-- The character class `[0-9A-Fa-f]`. -/
def isHexDigit (c : Char) : Bool :=
  let n := c.toNat
  (48 ≤ n && n ≤ 57) || (65 ≤ n && n ≤ 70) || (97 ≤ n && n ≤ 102)

/-- The character class at a place of `_MAC_RE`. -/
def isMacChar (c : Char) (i : Nat) : Bool :=
  if i % 3 = 2 then c == ':' || c == '-' else isHexDigit c

/-- `_MAC_RE.match`. -/
def matchesMacRe (s : Str) : Bool :=
  s.length == 17 && s.zipIdx.all fun p => isMacChar p.1 p.2

/-- A text that `_MAC_RE` matches, without dashes and small letters. -/
def IsCanonicalMac (s : Str) : Prop :=
  matchesMacRe s = true ∧ ∀ c ∈ s, c ≠ '-' ∧ ¬ (97 ≤ c.toNat ∧ c.toNat ≤ 122)

theorem isCanonicalMac_iff (s : Str) :
    IsCanonicalMac s ↔
      matchesMacRe s = true ∧
        (s.all fun c => c ≠ '-' ∧ ¬ (97 ≤ c.toNat ∧ c.toNat ≤ 122)) = true := by
  rw [IsCanonicalMac, List.all_eq_true]
  simp only [decide_eq_true_eq]

instance (s : Str) : Decidable (IsCanonicalMac s) :=
  decidable_of_iff _ (isCanonicalMac_iff s).symm

/-- A MAC address in canonical form. -/
structure Mac where
  text : Str
  canonical : IsCanonicalMac text
  deriving DecidableEq

/-- `value.strip().upper().replace("-", ":")`. -/
def cleanedMac (value : Str) : Str :=
  (upper (strip value)).map fun c => if c = '-' then ':' else c

theorem cleanedMac_chars {value : Str} :
    ∀ c ∈ cleanedMac value, c ≠ '-' ∧ ¬ (97 ≤ c.toNat ∧ c.toNat ≤ 122) := by
  intro c hc
  obtain ⟨d, hd, rfl⟩ := List.mem_map.mp hc
  by_cases hdash : d = '-'
  · rw [if_pos hdash]
    decide
  · rw [if_neg hdash]
    exact ⟨hdash, not_lower_of_mem_upper hd⟩

/-- `normalize_mac`. -/
def normalizeMac (value : Option Str) : Option Mac :=
  match truthy value with
  | none => none
  | some value =>
      if h : matchesMacRe (cleanedMac value) = true then
        some { text := cleanedMac value, canonical := ⟨h, cleanedMac_chars⟩ }
      else none

/-- A value that is taken for false has no address. -/
theorem normalizeMac_of_truthy_eq_none {value : Option Str} (h : truthy value = none) :
    normalizeMac value = none := by
  rw [normalizeMac, h]

/-- Surrounding space, small letters and dashes do not matter. -/
example :
    (normalizeMac (some (str " aa-bb-cc-dd-ee-0f\n"))).map Mac.text =
      some (str "AA:BB:CC:DD:EE:0F") := by
  decide

/-! ## The ARP table -/

/-- The characters at which `str.splitlines` breaks. -/
def isLineBreak (c : Char) : Bool :=
  let n := c.toNat
  (10 ≤ n && n ≤ 13) || (28 ≤ n && n ≤ 30) || n == 0x85 || n == 0x2028 || n == 0x2029

/-- The line ends of a text file as `read_text` gives them. -/
def universalNewlines : Str → Str
  | [] => []
  | '\r' :: '\n' :: text => '\n' :: universalNewlines text
  | c :: text => (if c = '\r' then '\n' else c) :: universalNewlines text

/-- `str.splitlines`, of a text with line ends of one character. -/
def splitlines (text : Str) : List Str :=
  linesOf isLineBreak text

/-- `str.split`. -/
def split (line : Str) : List Str :=
  words isSpace line

/-- The addresses that are passed over. -/
def isIncompleteMac (mac : Str) : Bool :=
  mac == str "00:00:00:00:00:00" || mac == str "<incomplete>"

/-- The loop of `_lookup_proc_arp`. -/
def lookupLines (srcIp : Str) : List Str → Option Mac
  | [] => none
  | line :: lines =>
      match split line with
      | ip :: _hwType :: _flags :: mac :: _ =>
          if ip ≠ srcIp then lookupLines srcIp lines
          else if isIncompleteMac mac then lookupLines srcIp lines
          else normalizeMac (some mac)
      | _ => lookupLines srcIp lines

/-- `_lookup_proc_arp`, with the file as it is decoded, if it is there and can be read. -/
def lookupProcArp (file : Option Str) (srcIp : Str) : Option Mac :=
  match file with
  | none => none
  | some text => lookupLines srcIp ((splitlines (universalNewlines text)).drop 1)

/-- The address of a line that the loop stops at. -/
def arpEntry (srcIp line : Str) : Option Str :=
  match split line with
  | ip :: _hwType :: _flags :: mac :: _ =>
      if ip = srcIp ∧ isIncompleteMac mac = false then some mac else none
  | _ => none

/-- The loop answers the first of these addresses, normalised. -/
theorem lookupLines_eq (srcIp : Str) (lines : List Str) :
    lookupLines srcIp lines =
      (lines.filterMap (arpEntry srcIp)).head?.bind fun mac => normalizeMac (some mac) := by
  induction lines with
  | nil => rfl
  | cons line lines ih =>
      rw [lookupLines, List.filterMap_cons, arpEntry]
      -- a line has an address if it has four fields
      rcases split line with _ | ⟨ip, _ | ⟨hwType, _ | ⟨flags, _ | ⟨mac, rest⟩⟩⟩⟩
      · exact ih
      · exact ih
      · exact ih
      · exact ih
      · by_cases hip : ip = srcIp
        · cases hincomplete : isIncompleteMac mac with
          | true => simp [hip, hincomplete, ih]
          | false => simp [hip, hincomplete]
        · simp [hip, ih]

theorem universalNewlines_of_notMem {text : Str} (h : '\r' ∉ text) :
    universalNewlines text = text := by
  induction text with
  | nil => rfl
  | cons c text ih =>
      obtain ⟨hc, htext⟩ := not_or.mp (mt List.mem_cons.mpr h)
      rw [universalNewlines, ih htext, if_neg (Ne.symm hc)]
      rintro - rfl
      simp at hc

end Api
end LanDiscovery
