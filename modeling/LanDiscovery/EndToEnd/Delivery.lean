import LanDiscovery.Api.Models
import LanDiscovery.Scanner.DeviceRegistry
import LanDiscovery.Scanner.DiscoveryJson

/-!
# From the scanner to the API

An event is *delivered* as the request that the API reads from its JSON text: the
same numbers, and the characters whose encoding the octets of a text are.  Only
events with clean texts are, since the text of any other is not valid JSON.
The text of a delivered event denotes the JSON value of the request
(`Delivered.valueText`).
-/

namespace LanDiscovery
namespace EndToEnd

open Library Library.Utf8 Library.Json Scanner Api

/-- A record and the record of the request. -/
structure DeliveredRecord (r : ResourceRecordView) (rec : DiscoveryRecordIn) : Prop where
  clean : CleanRecord r
  ownerName : encode rec.ownerName = r.ownerName
  type : rec.type = r.type.toNat
  typeName : rec.typeName.map encode = some (dnsTypeName r.type)
  rdataText : encode rec.rdataText = r.rdataText
  ttl : rec.ttl = r.ttl.toNat
  lastSeenMs : rec.lastSeenMs = r.observedAtMs.toNat
  service : rec.service.map encode = present (serviceLabel r)
  host : rec.host.map encode = present (hostLabel r)

/-- An event with its MAC address and the request. -/
structure Delivered (ev : DiscoveryEvent) (mac : Option Bytes) (event : DiscoveryEventIn) :
    Prop where
  cleanSrcIp : CleanText ev.srcIp
  cleanMac : CleanText (mac.getD [])
  timestampMs : event.timestampMs = ev.timestampMs.toNat
  srcIp : encode event.srcIp = ev.srcIp
  mac : event.mac.map encode = present (mac.getD [])
  records : List.Forall₂ DeliveredRecord ev.records event.records

/-! ## The JSON value of a request -/

/-- The code points of a text. -/
def textCodes (s : Str) : List Nat :=
  s.map Char.toNat

/-- A number that is not negative. -/
def numberValue (n : Int) : Value :=
  .number (decimal n.toNat)

/-- The JSON value of a record. -/
def recordJsonValue (rec : DiscoveryRecordIn) : Value :=
  .object
    ([(nameCodes "owner_name", .string (textCodes rec.ownerName)),
        (nameCodes "type", numberValue rec.type),
        (nameCodes "type_name", .string (textCodes (rec.typeName.getD []))),
        (nameCodes "rdata_text", .string (textCodes rec.rdataText)),
        (nameCodes "ttl", numberValue rec.ttl),
        (nameCodes "last_seen_ms", numberValue rec.lastSeenMs)] ++
      optionalMember "service" (rec.service.map textCodes) ++
      optionalMember "host" (rec.host.map textCodes))

/-- The JSON value of a request. -/
def eventJsonValue (event : DiscoveryEventIn) : Value :=
  .object
    ([(nameCodes "timestamp_ms", numberValue event.timestampMs),
        (nameCodes "src_ip", .string (textCodes event.srcIp))] ++
      optionalMember "mac" (event.mac.map textCodes) ++
      [(nameCodes "records", .array (event.records.map recordJsonValue))])

/-- The string with the characters of a clean text. -/
theorem stringBody_of_encode {bs : Bytes} (h : CleanText bs) {s : Str} (hs : encode s = bs) :
    StringBody (jsonEscape bs) (textCodes s) := by
  obtain ⟨cs, hcs, htext⟩ := exists_chars_of_cleanText h
  obtain rfl : cs = s := encode_injective (hcs.trans hs.symm)
  rw [← hs]
  exact stringBody_jsonEscape htext

/-- A text that is left out when it is empty. -/
theorem optionalCodes_of_encode {bs : Bytes} (h : CleanText bs) {s : Option Str}
    (hs : s.map encode = present bs) : OptionalCodes bs (s.map textCodes) := by
  by_cases hempty : bs = []
  · rw [hempty, present_nil, Option.map_eq_none_iff] at hs
    rw [hs]
    exact hempty
  · rw [present_of_ne_nil hempty] at hs
    obtain ⟨text, rfl, htext⟩ := Option.map_eq_some_iff.mp hs
    exact ⟨hempty, stringBody_of_encode h htext⟩

theorem DeliveredRecord.valueText {r : ResourceRecordView} {rec : DiscoveryRecordIn}
    (h : DeliveredRecord r rec) : ValueText (recordJson r) (recordJsonValue rec) := by
  obtain ⟨name, hname, hencode⟩ := Option.map_eq_some_iff.mp h.typeName
  have hvalue := recordJson_valueText (stringBody_of_encode h.clean.1 h.ownerName)
    (stringBody_of_encode (cleanText_dnsTypeName r.type) hencode)
    (stringBody_of_encode h.clean.2 h.rdataText)
    (optionalCodes_of_encode (cleanText_serviceLabel h.clean.1 h.clean.2) h.service)
    (optionalCodes_of_encode (cleanText_hostLabel h.clean.1 h.clean.2) h.host)
  simpa [recordJsonValue, recordValue, numberValue, hname, h.type, h.ttl, h.lastSeenMs] using hvalue

/-- The text that is posted for a delivered event denotes the value of the
request. -/
theorem Delivered.valueText {ev : DiscoveryEvent} {mac : Option Bytes} {event : DiscoveryEventIn}
    (h : Delivered ev mac event) : ValueText (toJson ev mac) (eventJsonValue event) := by
  have hrecords : List.Forall₂ (fun r v => ValueText (recordJson r) v) ev.records
      (event.records.map recordJsonValue) := by
    rw [List.forall₂_map_right_iff]
    exact h.records.imp fun r rec hrec => hrec.valueText
  have hvalue := toJson_valueText (stringBody_of_encode h.cleanSrcIp h.srcIp)
    (optionalCodes_of_encode h.cleanMac h.mac) hrecords
  simpa [eventJsonValue, eventValue, numberValue, h.timestampMs] using hvalue

end EndToEnd
end LanDiscovery
