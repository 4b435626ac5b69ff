import LanDiscovery.Api.MacResolver
import LanDiscovery.Library.EncodedText
import LanDiscovery.Scanner.MacResolver

/-!
# The ARP table on both sides

Scanner and API search the same text for the address of a source.  The scanner answers
the first entry that is an address, the API only looks at the first entry that it does not
pass over.  So the answers are the same, and an address in use, exactly if that entry is
one or no entry is an address (`sameAddress_iff`).
-/

namespace LanDiscovery
namespace EndToEnd

open Library Library.Utf8 Library.Words Scanner Api

/-! ## ASCII -/

/-- What holds of the first characters by computation. -/
theorem forall_ascii {P : Char → Prop} (h : ∀ n < 128, P (Char.ofNat n)) {c : Char}
    (hc : IsAscii c) : P c := by
  have hP := h c.toNat hc
  rwa [Char.ofNat_toNat] at hP

theorem encode_of_ascii {text : Str} (h : ∀ c ∈ text, IsAscii c) :
    encode text = text.map octet := by
  induction text with
  | nil => rfl
  | cons c text ih =>
      obtain ⟨hc, htext⟩ := List.forall_mem_cons.mp h
      rw [encode_cons_ascii hc, ih htext, List.map_cons]

/-! ## One address -/

/-- The upper case of an ASCII character, with colons for dashes. -/
def cleanedChar (c : Char) : Char :=
  if c = '-' then ':' else if 97 ≤ c.toNat ∧ c.toNat ≤ 122 then Char.ofNat (c.toNat - 32) else c

theorem map_upperChar {c : Char} (hc : IsAscii c) :
    ((upperChar c).map fun d => if d = '-' then ':' else d) = [cleanedChar c] :=
  forall_ascii (P := fun c => ((upperChar c).map fun d => if d = '-' then ':' else d) =
    [cleanedChar c]) (by decide +kernel) hc

theorem octet_cleanedChar {c : Char} (hc : IsAscii c) :
    MacResolver.toUpper (if octet c = 45 then 58 else octet c) = octet (cleanedChar c) :=
  forall_ascii (P := fun c => MacResolver.toUpper (if octet c = 45 then 58 else octet c) =
    octet (cleanedChar c)) (by decide +kernel) hc

theorem isAscii_cleanedChar {c : Char} (hc : IsAscii c) : IsAscii (cleanedChar c) :=
  forall_ascii (P := fun c => IsAscii (cleanedChar c)) (by decide +kernel) hc

/-- The two tests of a place of the address. -/
theorem isMacOctet_cleanedChar {c : Char} (hc : IsAscii c) (i : Nat) :
    MacResolver.isMacOctet (octet (cleanedChar c)) i = isMacChar (cleanedChar c) i := by
  have hsame : ((octet (cleanedChar c) == 58) = (cleanedChar c == ':' || cleanedChar c == '-')) ∧
      MacResolver.isXDigit (octet (cleanedChar c)) = isHexDigit (cleanedChar c) :=
    forall_ascii (P := fun c =>
      ((octet (cleanedChar c) == 58) = (cleanedChar c == ':' || cleanedChar c == '-')) ∧
        MacResolver.isXDigit (octet (cleanedChar c)) = isHexDigit (cleanedChar c))
      (by decide +kernel) hc
  rw [MacResolver.isMacOctet, isMacChar, hsame.1, hsame.2]

theorem all_isMacOctet {mac : Str} (hascii : ∀ c ∈ mac, IsAscii c) (i : Nat) :
    (((mac.map cleanedChar).map octet).zipIdx i).all
        (fun place => MacResolver.isMacOctet place.1 place.2) =
      ((mac.map cleanedChar).zipIdx i).all fun place => isMacChar place.1 place.2 := by
  induction mac generalizing i with
  | nil => rfl
  | cons c mac ih =>
      obtain ⟨hc, hmac⟩ := List.forall_mem_cons.mp hascii
      rw [List.map_cons, List.map_cons, List.zipIdx_cons, List.zipIdx_cons, List.all_cons,
        List.all_cons, ih hmac, isMacOctet_cleanedChar hc]

theorem dropWhile_isSpace {text : Str} (h : ∀ c ∈ text, isSpace c = false) :
    text.dropWhile isSpace = text := by
  cases text with
  | nil => rfl
  | cons c text => rw [List.dropWhile_cons_of_neg (by simp [h c])]

theorem strip_of_noSpace {text : Str} (h : ∀ c ∈ text, isSpace c = false) : strip text = text := by
  have hreverse : ∀ c ∈ text.reverse, isSpace c = false := fun c hc =>
    h c (List.mem_reverse.mp hc)
  rw [strip, dropWhile_isSpace h, dropWhile_isSpace hreverse, List.reverse_reverse]

theorem cleanedMac_of_ascii {mac : Str} (hascii : ∀ c ∈ mac, IsAscii c)
    (hspace : ∀ c ∈ mac, isSpace c = false) : cleanedMac mac = mac.map cleanedChar := by
  rw [cleanedMac, strip_of_noSpace hspace]
  clear hspace
  induction mac with
  | nil => rfl
  | cons c mac ih =>
      obtain ⟨hc, hmac⟩ := List.forall_mem_cons.mp hascii
      rw [upper, List.flatMap_cons, List.map_append, map_upperChar hc, List.map_cons, ← ih hmac]
      rfl

theorem isIncompleteMac_iff (mac : Str) :
    isIncompleteMac mac = true ↔
      encode mac = ascii "00:00:00:00:00:00" ∨ encode mac = ascii "<incomplete>" := by
  have hzeros : ascii "00:00:00:00:00:00" = encode (str "00:00:00:00:00:00") := by decide
  have hincomplete : ascii "<incomplete>" = encode (str "<incomplete>") := by decide
  rw [hzeros, hincomplete, encode_injective.eq_iff, encode_injective.eq_iff, isIncompleteMac,
    Bool.or_eq_true, beq_iff_eq, beq_iff_eq]

/-- **One address is normalised in one way**, but for the two that are passed over. -/
theorem normalizeMac_encode {mac : Str} (hne : mac ≠ []) (hascii : ∀ c ∈ mac, IsAscii c)
    (hspace : ∀ c ∈ mac, isSpace c = false) :
    MacResolver.normalizeMac (encode mac) =
      if isIncompleteMac mac then none
      else (normalizeMac (some mac)).map fun address => encode address.text := by
  unfold MacResolver.normalizeMac
  by_cases hincomplete : isIncompleteMac mac = true
  · rw [if_pos ((isIncompleteMac_iff mac).mp hincomplete), if_pos hincomplete]
  have hcleaned := cleanedMac_of_ascii hascii hspace
  have hoctets : (encode mac).map (fun c => MacResolver.toUpper (if c = 45 then 58 else c)) =
      (cleanedMac mac).map octet := by
    rw [encode_of_ascii hascii, hcleaned, List.map_map, List.map_map]
    exact List.map_congr_left fun c hc => octet_cleanedChar (hascii c hc)
  have hplaces := all_isMacOctet hascii 0
  rw [← hcleaned] at hplaces
  have hpresent : truthy (some mac) = some mac := truthy_of_ne (by simpa using hne)
  have hencode : encode (cleanedMac mac) = (cleanedMac mac).map octet := by
    refine encode_of_ascii fun c hc => ?_
    rw [hcleaned] at hc
    obtain ⟨d, hd, rfl⟩ := List.mem_map.mp hc
    exact isAscii_cleanedChar (hascii d hd)
  rw [if_neg (mt (isIncompleteMac_iff mac).mpr hincomplete), if_neg hincomplete, hoctets,
    normalizeMac, hpresent]
  dsimp only
  rw [hplaces, List.length_map, ← hencode]
  by_cases hlength : (cleanedMac mac).length = 17
  · cases hall : (cleanedMac mac).zipIdx.all fun place => isMacChar place.1 place.2 with
    | true => simp [matchesMacRe, hlength, hall]
    | false => simp [matchesMacRe, hlength, hall]
  · simp [matchesMacRe, hlength]

/-! ## Lines and fields -/

/-- A table in ASCII with lines of fields: no white space but spaces and line ends. -/
def PlainTable (table : Str) : Prop :=
  ∀ c ∈ table, IsAscii c ∧ (isSpace c = true → c = ' ' ∨ c = '\n')

theorem plainTable_of_all {table : Str}
    (h : (table.all fun c => c.toNat < 128 && (!isSpace c || c == ' ' || c == '\n')) = true) :
    PlainTable table := by
  intro c hc
  have hchar := List.all_eq_true.mp h c hc
  rw [Bool.and_eq_true, Bool.or_eq_true, Bool.or_eq_true, beq_iff_eq, beq_iff_eq] at hchar
  refine ⟨of_decide_eq_true hchar.1, fun hspace => ?_⟩
  rcases hchar.2 with (hno | hblank) | hend
  · rw [hspace] at hno
    exact absurd hno (by simp)
  · exact Or.inl hblank
  · exact Or.inr hend

/-- In such a table the two sides break at the same places. -/
theorem breaks_of_plain {c : Char} (hc : IsAscii c)
    (hplain : isSpace c = true → c = ' ' ∨ c = '\n') :
    (octet c == 10) = isLineBreak c ∧ MacResolver.isSpace (octet c) = isSpace c ∧ c ≠ '\r' :=
  forall_ascii (P := fun c => (isSpace c = true → c = ' ' ∨ c = '\n') →
    (octet c == 10) = isLineBreak c ∧ MacResolver.isSpace (octet c) = isSpace c ∧ c ≠ '\r')
    (by decide +kernel) hc hplain

/-- One line has one address. -/
theorem parseArpLine_encode {line : Str} (hplain : PlainTable line) (srcIp : Str) :
    MacResolver.parseArpLine (line.map octet) (encode srcIp) =
      (arpEntry srcIp line).bind fun mac =>
        (normalizeMac (some mac)).map fun address => encode address.text := by
  have hwords : words MacResolver.isSpace (line.map octet) = (split line).map (List.map octet) :=
    words_map fun c hc => (breaks_of_plain (hplain c hc).1 (hplain c hc).2).2.1
  have hword : ∀ word ∈ split line, word ≠ [] ∧ (∀ c ∈ word, IsAscii c) ∧
      ∀ c ∈ word, isSpace c = false := by
    intro word hmem
    obtain ⟨hne, hchars⟩ := mem_of_mem_words hmem
    exact ⟨hne, fun c hc => (hplain c (hchars c hc).1).1, fun c hc => (hchars c hc).2⟩
  rw [MacResolver.parseArpLine, hwords, arpEntry]
  rcases hfields : split line with _ | ⟨ip, _ | ⟨hwType, _ | ⟨flags, _ | ⟨mac, rest⟩⟩⟩⟩
  · rfl
  · rfl
  · rfl
  · rfl
  · rw [hfields] at hword
    obtain ⟨-, hip, -⟩ := hword ip (by simp)
    obtain ⟨hne, hascii, hspace⟩ := hword mac (by simp)
    simp only [List.map_cons, ← encode_of_ascii hip, ← encode_of_ascii hascii, ne_eq,
      encode_injective.eq_iff, normalizeMac_encode hne hascii hspace]
    by_cases hsrc : ip = srcIp
    · cases isIncompleteMac mac <;> simp [hsrc]
    · simp [hsrc]

/-- The entries of a source in a table, without those that are passed over. -/
def arpEntries (table srcIp : Str) : List Str :=
  (splitlines table).tail.filterMap (arpEntry srcIp)

theorem findSome?_parseArpLine {lines : List Str} (hplain : ∀ line ∈ lines, PlainTable line)
    (srcIp : Str) :
    ((lines.map (List.map octet)).findSome? fun line =>
        MacResolver.parseArpLine line (encode srcIp)) =
      (lines.filterMap (arpEntry srcIp)).findSome? fun mac =>
        (normalizeMac (some mac)).map fun address => encode address.text := by
  induction lines with
  | nil => rfl
  | cons line lines ih =>
      obtain ⟨hline, hlines⟩ := List.forall_mem_cons.mp hplain
      rw [List.map_cons, List.findSome?_cons, parseArpLine_encode hline, ih hlines,
        List.filterMap_cons]
      cases hentry : arpEntry srcIp line with
      | none => rfl
      | some mac => rw [Option.bind_some, List.findSome?_cons]

/-- The scanner answers the first entry that is an address. -/
theorem lookupInTable_encode {table : Str} (hplain : PlainTable table) (srcIp : Str) :
    MacResolver.lookupInTable (encode table) (encode srcIp) =
      (arpEntries table srcIp).findSome? fun mac =>
        (normalizeMac (some mac)).map fun address => encode address.text := by
  have hlines : linesOf (· == 10) (table.map octet) = (splitlines table).map (List.map octet) :=
    linesOf_map fun c hc => (breaks_of_plain (hplain c hc).1 (hplain c hc).2).1
  rw [MacResolver.lookupInTable_eq, encode_of_ascii fun c hc => (hplain c hc).1, hlines,
    ← List.map_tail, arpEntries]
  refine findSome?_parseArpLine (fun line hline c hc => ?_) srcIp
  exact hplain c (mem_of_mem_linesOf (List.mem_of_mem_tail hline) hc)

/-- The API looks at the first entry. -/
theorem lookupProcArp_eq {table : Str} (hplain : PlainTable table) (srcIp : Str) :
    lookupProcArp (some table) srcIp =
      (arpEntries table srcIp).head?.bind fun mac => normalizeMac (some mac) := by
  have hreturn : '\r' ∉ table := fun hmem =>
    (breaks_of_plain (hplain _ hmem).1 (hplain _ hmem).2).2.2 rfl
  rw [lookupProcArp, universalNewlines_of_notMem hreturn, lookupLines_eq, List.drop_one]
  rfl

/-! ## The two answers -/

/-- An address that a device may have. -/
def InUse (address : Mac) : Prop :=
  IsCanonicalMac address.text ∧ address.text ≠ str "00:00:00:00:00:00"

/-- Both sides answer the same for a source, and the address is in use. -/
structure SameAddress (table srcIp : Str) : Prop where
  same : MacResolver.lookupInTable (encode table) (encode srcIp) =
    (lookupProcArp (some table) srcIp).map fun address => encode address.text
  inUse : ∀ address ∈ lookupProcArp (some table) srcIp, InUse address

/-- No entry of a source is an address, or the first one is an address in use. -/
def FirstEntryDecides (table srcIp : Str) : Prop :=
  (∀ mac ∈ arpEntries table srcIp, normalizeMac (some mac) = none) ∨
    ∃ mac ∈ (arpEntries table srcIp).head?, ∃ address,
      normalizeMac (some mac) = some address ∧ InUse address

/-- **When both sides find one address.** -/
theorem sameAddress_iff (table srcIp : Str) (hplain : PlainTable table) :
    SameAddress table srcIp ↔ FirstEntryDecides table srcIp := by
  have hiff : SameAddress table srcIp ↔
      ((arpEntries table srcIp).findSome? fun mac =>
          (normalizeMac (some mac)).map fun address => encode address.text) =
        ((arpEntries table srcIp).head?.bind fun mac => normalizeMac (some mac)).map
          (fun address => encode address.text) ∧
      ∀ address ∈ (arpEntries table srcIp).head?.bind fun mac => normalizeMac (some mac),
        InUse address := by
    rw [← lookupInTable_encode hplain, ← lookupProcArp_eq hplain]
    exact ⟨fun h => ⟨h.same, h.inUse⟩, fun h => ⟨h.1, h.2⟩⟩
  rw [hiff, FirstEntryDecides]
  cases arpEntries table srcIp with
  | nil => simp
  | cons mac rest =>
      rw [List.findSome?_cons, List.head?_cons, Option.bind_some]
      cases hmac : normalizeMac (some mac) with
      | some address => simp [hmac]
      | none =>
          -- the scanner goes on behind an entry that is no address
          simp [hmac, List.findSome?_eq_none_iff]

/-! ### An entry that is no address -/

/-- A table with a cut address of a source in front of its address. -/
def cutTable (source : String) : Str :=
  str "IP address HW type Flags HW address\n" ++
    str "10.0.0.5 0x1 0x2 aa:bb:cc:dd:ee\n" ++
    str source ++ str " 0x1 0x2 aa:bb:cc:dd:ee:ff\n"

/-- The address of another source is found by both. -/
theorem cutTable_same : SameAddress (cutTable "10.0.0.6") (str "10.0.0.6") := by
  refine (sameAddress_iff (cutTable "10.0.0.6") (str "10.0.0.6") ?_).mpr (Or.inr
    ⟨str "aa:bb:cc:dd:ee:ff", ?_, ⟨str "AA:BB:CC:DD:EE:FF", ?_⟩, ?_, ?_, ?_⟩)
  · exact plainTable_of_all (by decide +kernel)
  all_goals decide +kernel

/-- The API gives up at the cut address. -/
theorem cutTable_differs :
    ¬ ∀ table srcIp, PlainTable table → SameAddress table srcIp := by
  intro h
  have hplain : PlainTable (cutTable "10.0.0.5") := plainTable_of_all (by decide +kernel)
  have hsame := (h (cutTable "10.0.0.5") (str "10.0.0.5") hplain).same
  rw [lookupInTable_encode hplain] at hsame
  revert hsame
  decide +kernel

end EndToEnd
end LanDiscovery
