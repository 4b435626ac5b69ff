import LanDiscovery.Scanner.Decimal
import LanDiscovery.Scanner.MacResolver
import LanDiscovery.Scanner.PacketInterpreter

/-!
# The event as JSON

`DiscoveryJson.cpp`: the text that is posted for an event.  `json_escape`
escapes quotation marks, backslashes and three control characters; every other
octet is copied.  The text is therefore valid exactly when what is copied is
clean (`toJson_valid_iff`): for a received packet, when the owner names and RDATA
texts of its displayable records are (`toJson_createDiscoveryEvent_valid_iff`).
-/

namespace LanDiscovery
namespace Scanner

open Library Library.Outcome Library.Utf8 Library.FirstSeen Library.Json MdnsNames

/-- The `switch` of `json_escape`. -/
def escapeOctet (c : UInt8) : Bytes :=
  if c = 34 then [92, 34]
  else if c = 92 then [92, 92]
  else if c = 10 then [92, 110]
  else if c = 13 then [92, 114]
  else if c = 9 then [92, 116]
  else [c]

/-- `json_escape`. -/
def jsonEscape (s : Bytes) : Bytes :=
  s.flatMap escapeOctet

/-- An optional member of a record: it is left out when its text is empty. -/
def optionalText (key text : Bytes) : Bytes :=
  if text.isEmpty then [] else key ++ jsonEscape text ++ ascii "\""

/-- One round of the loop of `to_json`, without the separating comma. -/
def recordJson (r : ResourceRecordView) : Bytes :=
  ascii "\x7b\"owner_name\":\"" ++ jsonEscape r.ownerName ++ ascii "\"" ++
  ascii ",\"type\":" ++ decimal r.type.toNat ++
  ascii ",\"type_name\":\"" ++ jsonEscape (dnsTypeName r.type) ++ ascii "\"" ++
  ascii ",\"rdata_text\":\"" ++ jsonEscape r.rdataText ++ ascii "\"" ++
  ascii ",\"ttl\":" ++ decimal r.ttl.toNat ++
  ascii ",\"last_seen_ms\":" ++ decimal r.observedAtMs.toNat ++
  optionalText (ascii ",\"service\":\"") (serviceLabel r) ++
  optionalText (ascii ",\"host\":\"") (hostLabel r) ++
  ascii "\x7d"

/-- `to_json`. -/
def toJson (ev : DiscoveryEvent) (mac : Option Bytes) : Bytes :=
  ascii "\x7b\"timestamp_ms\":" ++ decimal ev.timestampMs.toNat ++
  ascii ",\"src_ip\":\"" ++ jsonEscape ev.srcIp ++ ascii "\"" ++
  optionalText (ascii ",\"mac\":\"") (mac.getD []) ++
  ascii ",\"records\":[" ++ joinComma (ev.records.map recordJson) ++ ascii "]\x7d"

/-! ## The text as an object -/

/-- A member: the name between quotation marks, a colon, the value. -/
def field (name : String) (value : Bytes) : Bytes :=
  34 :: (ascii name ++ 34 :: 58 :: value)

/-- A string value. -/
def quoted (s : Bytes) : Bytes :=
  34 :: (jsonEscape s ++ [34])

/-- A member that is left out when its text is empty. -/
def optionalField (name : String) (text : Bytes) : List Bytes :=
  if text.isEmpty then [] else [field name (quoted text)]

/-- The members of a record. -/
def recordFields (r : ResourceRecordView) : List Bytes :=
  [field "owner_name" (quoted r.ownerName), field "type" (decimal r.type.toNat),
    field "type_name" (quoted (dnsTypeName r.type)), field "rdata_text" (quoted r.rdataText),
    field "ttl" (decimal r.ttl.toNat), field "last_seen_ms" (decimal r.observedAtMs.toNat)] ++
  optionalField "service" (serviceLabel r) ++ optionalField "host" (hostLabel r)

/-- The members of an event. -/
def eventFields (ev : DiscoveryEvent) (mac : Option Bytes) : List Bytes :=
  [field "timestamp_ms" (decimal ev.timestampMs.toNat), field "src_ip" (quoted ev.srcIp)] ++
  optionalField "mac" (mac.getD []) ++
  [field "records" (91 :: (joinComma (ev.records.map recordJson) ++ [93]))]

theorem recordJson_eq (r : ResourceRecordView) :
    recordJson r = 123 :: (joinComma (recordFields r) ++ [125]) := by
  -- the equation lemma would evaluate the literals
  delta recordJson recordFields
  by_cases hservice : (serviceLabel r).isEmpty = true <;>
    by_cases hhost : (hostLabel r).isEmpty = true <;>
    simp [optionalText, optionalField, hservice, hhost, joinComma, field, quoted, ascii]

theorem toJson_eq (ev : DiscoveryEvent) (mac : Option Bytes) :
    toJson ev mac = 123 :: (joinComma (eventFields ev mac) ++ [125]) := by
  delta toJson eventFields
  by_cases hmac : (mac.getD []).isEmpty = true <;>
    simp [optionalText, optionalField, hmac, joinComma, field, quoted, ascii]

/-! ## Escaping -/

theorem jsonEscape_append (s t : Bytes) : jsonEscape (s ++ t) = jsonEscape s ++ jsonEscape t := by
  simp [jsonEscape]

@[simp] theorem jsonEscape_cons (c : UInt8) (s : Bytes) :
    jsonEscape (c :: s) = escapeOctet c ++ jsonEscape s := by
  simp [jsonEscape]

/-- An octet is either copied or written with one of five two-octet escapes. -/
theorem escapeOctet_cases (c : UInt8) :
    escapeOctet c = [c] ∧ c ∉ ([34, 92, 10, 13, 9] : Bytes) ∨
    isAsciiText c = true ∧ ∃ letter, escapeOctet c = [92, letter] ∧ isAsciiText letter = true ∧
      simpleEscape letter = some c.toNat := by
  unfold escapeOctet
  split
  · next h => exact Or.inr ⟨by rw [h]; decide, 34, rfl, by decide, by rw [h]; rfl⟩
  split
  · next h => exact Or.inr ⟨by rw [h]; decide, 92, rfl, by decide, by rw [h]; rfl⟩
  split
  · next h => exact Or.inr ⟨by rw [h]; decide, 110, rfl, by decide, by rw [h]; rfl⟩
  split
  · next h => exact Or.inr ⟨by rw [h]; decide, 114, rfl, by decide, by rw [h]; rfl⟩
  split
  · next h => exact Or.inr ⟨by rw [h]; decide, 116, rfl, by decide, by rw [h]; rfl⟩
  · next hquote hback hlf hcr htab => exact Or.inl ⟨rfl, by simp [hquote, hback, hlf, hcr, htab]⟩

theorem escapeOctet_of_high {c : UInt8} (h : 128 ≤ c.toNat) : escapeOctet c = [c] := by
  rcases escapeOctet_cases c with ⟨hcopy, -⟩ | ⟨hascii, -⟩
  · exact hcopy
  · have hlow : c.toNat < 128 ∧ isTextOctet c = true := by
      simpa [isAsciiText] using hascii
    omega

/-- Escaping neither repairs nor spoils a text. -/
theorem cleanText_jsonEscape (s : Bytes) : CleanText (jsonEscape s) ↔ CleanText s := by
  induction hn : s.length using Nat.strong_induction_on generalizing s with
  | _ n ih =>
      by_cases hcopied : ∀ c ∈ s, escapeOctet c = [c]
      · have hid : jsonEscape s = s := by
          unfold jsonEscape
          rw [List.flatMap_congr hcopied]
          simp
        rw [hid]
      · -- cut the text at an escaped octet, which is a character of its own
        push Not at hcopied
        obtain ⟨c, hc, hne⟩ := hcopied
        obtain ⟨xs, ys, rfl⟩ := List.append_of_mem hc
        rcases escapeOctet_cases c with ⟨hcopy, -⟩ | ⟨hascii, letter, hescape, hletter, -⟩
        · exact absurd hcopy hne
        · simp only [List.length_append, List.length_cons] at hn
          rw [jsonEscape_append, jsonEscape_cons, hescape]
          change CleanText (jsonEscape xs ++ 92 :: letter :: jsonEscape ys) ↔ _
          rw [cleanText_append_cons (by decide), cleanText_cons hletter,
            cleanText_append_cons hascii, ih xs.length (by omega) xs rfl,
            ih ys.length (by omega) ys rfl]

/-- The characters that a JSON string can show after escaping. -/
def isTextChar (c : Char) : Bool :=
  0x20 ≤ c.toNat || c.toNat == 9 || c.toNat == 10 || c.toNat == 13

/-- A clean text is the encoding of characters without further controls. -/
theorem exists_chars_of_cleanText {s : Bytes} (h : CleanText s) :
    ∃ cs, encode cs = s ∧ ∀ c ∈ cs, isTextChar c = true := by
  obtain ⟨⟨cs, rfl⟩, htext⟩ := h
  refine ⟨cs, rfl, fun c hc => ?_⟩
  by_cases hascii : c.toNat < 128
  · have hmem : UInt8.ofNat c.toNat ∈ encode cs := by
      refine List.mem_flatMap.mpr ⟨c, hc, ?_⟩
      rw [utf8EncodeChar_ascii c hascii]
      simp
    have hoctet := htext _ hmem
    have hval : (UInt8.ofNat c.toNat).toNat = c.toNat := by
      rw [UInt8.toNat_ofNat']
      omega
    simp only [isTextOctet, isTextChar, Bool.or_eq_true, decide_eq_true_eq, beq_iff_eq,
      ← UInt8.toNat_inj, hval] at hoctet ⊢
    exact hoctet
  · have hhigh : 0x20 ≤ c.toNat := by omega
    simp [isTextChar, hhigh]

/-- An escaped text is the body of a string with the same characters. -/
theorem stringBody_jsonEscape {cs : List Char} (h : ∀ c ∈ cs, isTextChar c = true) :
    StringBody (jsonEscape (encode cs)) (cs.map Char.toNat) := by
  induction cs with
  | nil => exact .nil
  | cons c cs ih =>
      have htail := ih fun d hd => h d (by simp [hd])
      rw [encode_cons, jsonEscape_append, List.map_cons]
      -- the escaper works on octets: an ASCII character is one of them, the octets of
      -- any other are copied
      by_cases hascii : c.toNat < 128
      · have hval : (UInt8.ofNat c.toNat).toNat = c.toNat := by
          rw [UInt8.toNat_ofNat']
          omega
        rw [utf8EncodeChar_ascii c hascii, jsonEscape_cons, jsonEscape, List.flatMap_nil,
          List.append_nil]
        rcases escapeOctet_cases (UInt8.ofNat c.toNat) with
          ⟨hcopy, hplain⟩ | ⟨-, letter, hescape, -, hcode⟩
        · rw [hcopy, ← utf8EncodeChar_ascii c hascii]
          have htext := h c (by simp)
          simp only [isTextChar, Bool.or_eq_true, decide_eq_true_eq, beq_iff_eq] at htext
          simp only [List.mem_cons, List.not_mem_nil, or_false, not_or, ← UInt8.toNat_inj, hval,
            UInt8.reduceToNat] at hplain
          exact .char (by omega) (by omega) (by omega) htail
        · rw [hescape]
          rw [hval] at hcode
          exact .escape hcode htail
      · have hcopy : jsonEscape (String.utf8EncodeChar c) = String.utf8EncodeChar c := by
          unfold jsonEscape
          rw [List.flatMap_congr fun b hb => escapeOctet_of_high
            (le_of_mem_utf8EncodeChar c (by omega) b hb)]
          simp
        rw [hcopy]
        exact .char (by omega) (by omega) (by omega) htail

/-! ## The members -/

theorem intText_decimal (n : Nat) : IntText (decimal n) := by
  rcases Nat.eq_zero_or_pos n with rfl | hn
  · exact .zero
  · obtain ⟨d, ds, hhead, hd, hne, hds⟩ := decimal_of_pos hn
    rw [hhead]
    exact .digits hd hne hds

theorem numberText_decimal (n : Nat) : NumberText (decimal n) := by
  have h := NumberText.mk (Or.inl rfl) (intText_decimal n) .none .none
  simpa using h

theorem valueText_decimal (n : Nat) : ValueText (decimal n) (.number (decimal n)) :=
  .number (numberText_decimal n)

theorem valueText_quoted {s : Bytes} {codes : List Nat} (h : StringBody (jsonEscape s) codes) :
    ValueText (quoted s) (.string codes) :=
  .string h

theorem cleanText_quoted (s : Bytes) : CleanText (quoted s) ↔ CleanText s := by
  rw [quoted, cleanText_cons (by decide), cleanText_append_cons (by decide),
    cleanText_jsonEscape]
  simp

/-- The member names of `to_json`. -/
def memberNames : List String :=
  ["timestamp_ms", "src_ip", "mac", "records", "owner_name", "type", "type_name", "rdata_text",
    "ttl", "last_seen_ms", "service", "host"]

/-- The code points of a member name. -/
def nameCodes (name : String) : List Nat :=
  (ascii name).map UInt8.toNat

theorem stringBody_memberNames {name : String} (h : name ∈ memberNames) :
    StringBody (ascii name) (nameCodes name) := by
  have hplain : (memberNames.all fun name => (ascii name).all isPlainOctet) = true := by
    decide
  exact StringBody.of_plain (List.all_eq_true.mp hplain name h)

theorem member_field {name : String} (hname : name ∈ memberNames) {bs : Bytes} {v : Value}
    (h : ValueText bs v) : Member (field name bs) (nameCodes name, v) :=
  .of_field (stringBody_memberNames hname) h

theorem cleanText_field {name : String} (hname : name ∈ memberNames) (bs : Bytes) :
    CleanText (field name bs) ↔ CleanText bs := by
  have hbody := (stringBody_memberNames hname).clean
  rw [field, cleanText_cons (by decide), cleanText_append_cons (by decide),
    cleanText_cons (by decide)]
  simp [hbody]

/-- A text that is left out when it is empty, and its code points otherwise. -/
def OptionalCodes (text : Bytes) : Option (List Nat) → Prop
  | none => text = []
  | some codes => text ≠ [] ∧ StringBody (jsonEscape text) codes

/-- The members a text contributes under a name. -/
def optionalMember (name : String) (codes : Option (List Nat)) : List (List Nat × Value) :=
  (codes.map fun s => (nameCodes name, Value.string s)).toList

theorem member_optionalField {name : String} (hname : name ∈ memberNames) {text : Bytes}
    {codes : Option (List Nat)} (h : OptionalCodes text codes) :
    List.Forall₂ Member (optionalField name text) (optionalMember name codes) := by
  cases codes with
  | none =>
      obtain rfl : text = [] := h
      exact .nil
  | some codes =>
      obtain ⟨hne, hbody⟩ := h
      have hempty : text.isEmpty = false := by simpa using hne
      rw [optionalField, hempty]
      exact .cons (member_field hname (valueText_quoted hbody)) .nil

/-- The value of a record. -/
def recordValue (r : ResourceRecordView) (owner typeName rdata : List Nat)
    (service host : Option (List Nat)) : Value :=
  .object
    ([(nameCodes "owner_name", .string owner),
        (nameCodes "type", .number (decimal r.type.toNat)),
        (nameCodes "type_name", .string typeName), (nameCodes "rdata_text", .string rdata),
        (nameCodes "ttl", .number (decimal r.ttl.toNat)),
        (nameCodes "last_seen_ms", .number (decimal r.observedAtMs.toNat))] ++
      optionalMember "service" service ++ optionalMember "host" host)

theorem recordJson_valueText {r : ResourceRecordView} {owner typeName rdata : List Nat}
    {service host : Option (List Nat)} (howner : StringBody (jsonEscape r.ownerName) owner)
    (htype : StringBody (jsonEscape (dnsTypeName r.type)) typeName)
    (hrdata : StringBody (jsonEscape r.rdataText) rdata)
    (hservice : OptionalCodes (serviceLabel r) service) (hhost : OptionalCodes (hostLabel r) host) :
    ValueText (recordJson r) (recordValue r owner typeName rdata service host) := by
  rw [recordJson_eq]
  apply ValueText.of_members
  refine List.rel_append (List.rel_append ?_ (member_optionalField (by decide) hservice))
    (member_optionalField (by decide) hhost)
  exact .cons (member_field (by decide) (valueText_quoted howner)) <|
    .cons (member_field (by decide) (valueText_decimal _)) <|
    .cons (member_field (by decide) (valueText_quoted htype)) <|
    .cons (member_field (by decide) (valueText_quoted hrdata)) <|
    .cons (member_field (by decide) (valueText_decimal _)) <|
    .cons (member_field (by decide) (valueText_decimal _)) .nil

/-- The value of an event whose records have the given values. -/
def eventValue (ev : DiscoveryEvent) (srcIp : List Nat) (mac : Option (List Nat))
    (records : List Value) : Value :=
  .object
    ([(nameCodes "timestamp_ms", .number (decimal ev.timestampMs.toNat)),
        (nameCodes "src_ip", .string srcIp)] ++
      optionalMember "mac" mac ++ [(nameCodes "records", .array records)])

theorem toJson_valueText {ev : DiscoveryEvent} {mac : Option Bytes} {srcIp : List Nat}
    {macCodes : Option (List Nat)} {records : List Value}
    (hsrc : StringBody (jsonEscape ev.srcIp) srcIp) (hmac : OptionalCodes (mac.getD []) macCodes)
    (hrecords : List.Forall₂ (fun r v => ValueText (recordJson r) v) ev.records records) :
    ValueText (toJson ev mac) (eventValue ev srcIp macCodes records) := by
  rw [toJson_eq]
  apply ValueText.of_members
  refine List.rel_append (List.rel_append ?_ (member_optionalField (by decide) hmac)) ?_
  · exact .cons (member_field (by decide) (valueText_decimal _)) <|
      .cons (member_field (by decide) (valueText_quoted hsrc)) .nil
  · refine .cons (member_field (by decide) (ValueText.of_elements ?_)) .nil
    exact List.forall₂_map_left_iff.mpr hrecords

/-! ## When the text is valid -/

theorem exists_codes {s : Bytes} (h : CleanText s) :
    ∃ codes, StringBody (jsonEscape s) codes := by
  obtain ⟨cs, rfl, hchars⟩ := exists_chars_of_cleanText h
  exact ⟨_, stringBody_jsonEscape hchars⟩

theorem exists_optionalCodes {text : Bytes} (h : CleanText text) :
    ∃ codes, OptionalCodes text codes := by
  by_cases hempty : text = []
  · exact ⟨none, hempty⟩
  · obtain ⟨codes, hcodes⟩ := exists_codes h
    exact ⟨some codes, hempty, hcodes⟩

theorem cleanText_serviceLabel {r : ResourceRecordView} (howner : CleanText r.ownerName)
    (hrdata : CleanText r.rdataText) : CleanText (serviceLabel r) := by
  unfold serviceLabel
  split_ifs
  · exact hrdata
  · exact howner
  · exact howner
  · exact howner
  · exact cleanText_nil

/-- What follows an ASCII prefix in a clean text is clean. -/
theorem cleanText_srvTarget {r : ResourceRecordView} (h : CleanText r.rdataText) :
    CleanText (srvTarget r) := by
  unfold srvTarget extractAfterPrefix
  split
  · exact cleanText_nil
  · next pos hpos =>
      obtain ⟨before, hsplit⟩ := Text.find?_drop hpos
      have hcut : r.rdataText = (before ++ ascii "target") ++
          61 :: r.rdataText.drop (pos + (ascii "target=").length) := by
        conv_lhs => rw [hsplit]
        rw [show ascii "target=" = ascii "target" ++ [61] from rfl]
        simp
      rw [hcut, cleanText_append_cons (by decide)] at h
      exact h.2

theorem cleanText_hostLabel {r : ResourceRecordView} (howner : CleanText r.ownerName)
    (hrdata : CleanText r.rdataText) : CleanText (hostLabel r) := by
  unfold hostLabel
  split_ifs
  · exact cleanText_srvTarget hrdata
  · exact howner
  · exact ((howner.append (cleanText_of_all (by decide))).append hrdata).append
      (cleanText_of_all (by decide))
  · exact howner
  · exact cleanText_nil

theorem cleanText_dnsTypeName (type : UInt16) : CleanText (dnsTypeName type) := by
  unfold dnsTypeName
  split_ifs <;> exact cleanText_of_all (by decide)

/-- The two texts of a record are clean. -/
def CleanRecord (r : ResourceRecordView) : Prop :=
  CleanText r.ownerName ∧ CleanText r.rdataText

theorem exists_recordValue {r : ResourceRecordView} (h : CleanRecord r) :
    ∃ v, ValueText (recordJson r) v := by
  obtain ⟨owner, howner⟩ := exists_codes h.1
  obtain ⟨typeName, htype⟩ := exists_codes (cleanText_dnsTypeName r.type)
  obtain ⟨rdata, hrdata⟩ := exists_codes h.2
  obtain ⟨service, hservice⟩ := exists_optionalCodes (cleanText_serviceLabel h.1 h.2)
  obtain ⟨host, hhost⟩ := exists_optionalCodes (cleanText_hostLabel h.1 h.2)
  exact ⟨_, recordJson_valueText howner htype hrdata hservice hhost⟩

/-- The text of an event is a JSON text exactly when the texts of its records
are clean, provided that the address and the MAC are. -/
theorem toJson_valid_iff {ev : DiscoveryEvent} {mac : Option Bytes} (hsrc : CleanText ev.srcIp)
    (hmac : CleanText (mac.getD [])) :
    Valid (toJson ev mac) ↔ ∀ r ∈ ev.records, CleanRecord r := by
  constructor
  · intro hvalid r hr
    have hclean := hvalid.clean
    rw [toJson_eq, cleanText_delimited (by decide) (by decide)] at hclean
    -- cleanliness goes down from the text to its members
    have hrecords := hclean (field "records" _)
      (List.mem_append_right _ (List.mem_singleton.mpr rfl))
    rw [cleanText_field (by decide), cleanText_delimited (by decide) (by decide)] at hrecords
    have hrecord := hrecords _ (List.mem_map_of_mem hr)
    rw [recordJson_eq, cleanText_delimited (by decide) (by decide)] at hrecord
    have howner := hrecord (field "owner_name" (quoted r.ownerName)) (by simp [recordFields])
    have hrdata := hrecord (field "rdata_text" (quoted r.rdataText)) (by simp [recordFields])
    rw [cleanText_field (by decide), cleanText_quoted] at howner hrdata
    exact ⟨howner, hrdata⟩
  · intro hrecords
    obtain ⟨srcIp, hsrcIp⟩ := exists_codes hsrc
    obtain ⟨macCodes, hmacCodes⟩ := exists_optionalCodes hmac
    have hvalues : ∀ rs : List ResourceRecordView, (∀ r ∈ rs, CleanRecord r) →
        ∃ vs, List.Forall₂ (fun r v => ValueText (recordJson r) v) rs vs := by
      intro rs
      induction rs with
      | nil => exact fun _ => ⟨[], .nil⟩
      | cons r rs ih =>
          intro h
          obtain ⟨v, hv⟩ := exists_recordValue (h r (by simp))
          obtain ⟨vs, hvs⟩ := ih fun r' hr' => h r' (by simp [hr'])
          exact ⟨v :: vs, .cons hv hvs⟩
    obtain ⟨values, hvalues⟩ := hvalues ev.records hrecords
    exact ⟨_, [], _, [], by simp, whitespace_nil, toJson_valueText hsrcIp hmacCodes hvalues,
      whitespace_nil⟩

/-! ## Received packets -/

/-- The text of an IPv4 sender address (`inet_ntop`). -/
def ipv4Text (a b c d : UInt8) : Bytes :=
  decimal a.toNat ++ ascii "." ++ decimal b.toNat ++ ascii "." ++ decimal c.toNat ++
    ascii "." ++ decimal d.toNat

theorem ipv4Text_eq (a b c d : UInt8) :
    ipv4Text a b c d = decimal a.toNat ++ (46 :: (decimal b.toNat ++
      (46 :: (decimal c.toNat ++ (46 :: decimal d.toNat))))) := by
  rw [ipv4Text, show ascii "." = [46] by decide]
  simp only [List.append_assoc, List.cons_append, List.nil_append]

/-- A MAC as `MacResolver::lookup` answers it: absent or normalised. -/
def IsMacAnswer (mac : Option Bytes) : Prop :=
  ∀ m, mac = some m → ∃ raw, MacResolver.normalizeMac raw = some m

/-- A search of the ARP table answers so. -/
theorem isMacAnswer_lookupInTable (arpTable srcIp : Bytes) :
    IsMacAnswer (MacResolver.lookupInTable arpTable srcIp) :=
  fun _ h => MacResolver.exists_normalizeMac_of_lookupInTable h

theorem cleanText_decimal (n : Nat) : CleanText (decimal n) :=
  (numberText_decimal n).clean

theorem cleanText_ipv4Text (a b c d : UInt8) : CleanText (ipv4Text a b c d) := by
  have hdot : CleanText (ascii ".") := cleanText_of_all (by decide)
  unfold ipv4Text
  exact (((((( cleanText_decimal _).append hdot).append (cleanText_decimal _)).append
    hdot).append (cleanText_decimal _)).append hdot).append (cleanText_decimal _)

theorem cleanText_of_isMacAnswer {mac : Option Bytes} (h : IsMacAnswer mac) :
    CleanText (mac.getD []) := by
  cases mac with
  | none => exact cleanText_nil
  | some m =>
      obtain ⟨raw, hraw⟩ := h m rfl
      apply cleanText_of_all
      apply List.all_eq_true.mpr
      intro b hb
      obtain ⟨hlow, hhigh, -⟩ := MacResolver.range_of_mem_normalizeMac hraw b hb
      exact isAsciiText_of_range (by omega) hhigh

/-- Cleanliness of a record can be read off its content key. -/
theorem cleanText_recordContentKey (r : ResourceRecordView) :
    CleanText (recordContentKey r) ↔ CleanRecord r := by
  have hsep : isAsciiText keySeparator = true := by decide
  rw [recordContentKey_eq, cleanText_append_cons hsep, cleanText_append_cons hsep, CleanRecord]
  simp [cleanText_decimal]

/-- **When a received packet is posted as valid JSON.**  For every packet with
its message, every IPv4 sender and every absent or normalised MAC, the text is
valid exactly when the owner name and the RDATA text of each displayable record
are well-formed UTF-8 without control octets other than tab, line feed and
carriage return. -/
theorem toJson_createDiscoveryEvent_valid_iff (packet : Bytes) (msg : MdnsParsedMessage)
    (nowMs : UInt64) (a b c d : UInt8) (mac : Option Bytes) (hmac : IsMacAnswer mac)
    (ev : DiscoveryEvent)
    (hev : createDiscoveryEvent nowMs (ipv4Text a b c d) packet msg = .ok ev) :
    Valid (toJson ev mac) ↔
      ∀ rr ∈ sectionRecords msg, isDisplayableRecord (recordView packet nowMs rr) = true →
        CleanText rr.name ∧ CleanText (rdataText rr packet) := by
  rw [createDiscoveryEvent_eq] at hev
  obtain rfl := Except.ok.inj hev
  rw [toJson_valid_iff (cleanText_ipv4Text a b c d) (cleanText_of_isMacAnswer hmac)]
  constructor
  · intro hclean rr hrr hshow
    have hmem : recordView packet nowMs rr ∈ displayableViews packet nowMs (sectionRecords msg) :=
      List.mem_filter.mpr ⟨List.mem_map_of_mem hrr, hshow⟩
    -- a record that is not in the event has the content key of one that is
    obtain ⟨r, hr, hkey⟩ := exists_mem_scan recordContentKey hmem (Finset.notMem_empty _)
    have hrecord := (cleanText_recordContentKey r).mpr (hclean r hr)
    rw [hkey, cleanText_recordContentKey] at hrecord
    exact hrecord
  · intro hclean r hr
    have hmem := (scan_sublist _ _ _).subset hr
    obtain ⟨hview, hshow⟩ := List.mem_filter.mp hmem
    obtain ⟨rr, hrr, rfl⟩ := List.mem_map.mp hview
    exact hclean rr hrr hshow

/-! ### A host name with a control octet -/

/-- A response with one address record, for the name made of `label` and
`local`. -/
def addressPacket (label : Bytes) : Bytes :=
  [0, 0, 0x84, 0, 0, 0, 0, 1, 0, 0, 0, 0] ++ wireLabel label ++ wireLabel (ascii "local") ++
    [0, 0, 1, 0, 1, 0, 0, 0, 120, 0, 4, 10, 0, 0, 7]

/-- The decoded response. -/
def addressMessage (label : Bytes) : MdnsParsedMessage where
  header :=
    { transactionId := 0, flags := 0x8400, questions := 0, answerRrs := 1, authorityRrs := 0,
      additionalRrs := 0 }
  questions := []
  answers :=
    [{ name := label ++ ascii ".local", type := typeA, classCode := 1, ttl := 120,
       rdata := [10, 0, 0, 7], rdataOffset := 30 + label.length }]
  authorities := []
  additionals := []

theorem addressPacket_valid :
    ∃ ev, decodePacket (addressPacket (ascii "h")) = .ok (addressMessage (ascii "h")) ∧
      createDiscoveryEvent 1000 (ipv4Text 10 0 0 7) (addressPacket (ascii "h"))
        (addressMessage (ascii "h")) = .ok ev ∧ Valid (toJson ev none) := by
  refine ⟨_, by decide +kernel, createDiscoveryEvent_eq _ _ _ _, ?_⟩
  refine (toJson_createDiscoveryEvent_valid_iff (addressPacket (ascii "h"))
    (addressMessage (ascii "h")) 1000 10 0 0 7 none (by simp [IsMacAnswer]) _
    (createDiscoveryEvent_eq _ _ _ _)).mpr ?_
  intro rr hrr _
  obtain rfl := List.mem_singleton.mp hrr
  exact ⟨cleanText_of_all (by decide), cleanText_of_all (by decide)⟩

/-- A control octet in a host name makes the posted text invalid. -/
theorem controlOctet_posted_raw :
    ¬ ∀ (packet : Bytes) (msg : MdnsParsedMessage) (nowMs : UInt64) (a b c d : UInt8)
      (mac : Option Bytes) (ev : DiscoveryEvent), decodePacket packet = .ok msg →
      IsMacAnswer mac → createDiscoveryEvent nowMs (ipv4Text a b c d) packet msg = .ok ev →
      Valid (toJson ev mac) := by
  intro h
  have hvalid := h (addressPacket [1]) (addressMessage [1]) 1000 10 0 0 7 none _
    (by decide +kernel) (by simp [IsMacAnswer]) (createDiscoveryEvent_eq _ _ _ _)
  have hmac : CleanText ((none : Option Bytes).getD []) := cleanText_nil
  have hrecords := (toJson_valid_iff (cleanText_ipv4Text 10 0 0 7) hmac).mp hvalid
  have hmem : recordView (addressPacket [1]) 1000
      { name := [1] ++ ascii ".local", type := typeA, classCode := 1, ttl := 120,
        rdata := [10, 0, 0, 7], rdataOffset := 31 } ∈
      (scan recordContentKey ∅ (displayableViews (addressPacket [1]) 1000
        (sectionRecords (addressMessage [1])))).1 := by
    decide +kernel
  have hclean := (hrecords _ hmem).1.2 1 (by decide)
  exact absurd hclean (by decide)

end Scanner
end LanDiscovery
