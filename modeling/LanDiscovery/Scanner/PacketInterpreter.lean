import LanDiscovery.Library.FirstSeen
import LanDiscovery.Scanner.DiscoveryRecord

/-!
# From a packet to a discovery event

`MdnsPacketInterpreter`: decoding a received packet and collecting its
displayable records, each content once.  The clock reading of
`create_discovery_event` is an argument.

The main results are a closed form of `create_discovery_event` (the displayable
records of the three sections in wire order, first occurrence of each content
key) and memory safety of the whole path from the packet to the event.
-/

namespace LanDiscovery
namespace Scanner

open Library Library.Outcome Library.FirstSeen

/-- `MdnsPacketInterpreter::kDnsQrResponse`. -/
def kDnsQrResponse : UInt16 := 0x8000

/-- `MdnsPacketInterpreter::is_dns_response`. -/
def isDnsResponse (msg : MdnsParsedMessage) : Bool :=
  msg.header.flags &&& kDnsQrResponse != 0

/-- `MdnsPacketInterpreter::decode_packet`. -/
def decodePacket (buffer : Bytes) : Except Fault MdnsParsedMessage :=
  decode buffer

/-- `append_records`: the loop over one section, with `out` and `seen` carried
from section to section. -/
def appendRecords (packet : Bytes) (observedAtMs : UInt64) :
    List MdnsResourceRecord → List ResourceRecordView × Finset Bytes →
      Except Fault (List ResourceRecordView × Finset Bytes)
  | [], acc => return acc
  | rr :: rrs, (out, seen) => do
      let view ← makeRecordView rr packet observedAtMs
      if !isDisplayableRecord view then
        appendRecords packet observedAtMs rrs (out, seen)
      else if recordContentKey view ∈ seen then
        appendRecords packet observedAtMs rrs (out, seen)
      else
        appendRecords packet observedAtMs rrs
          (out ++ [view], insert (recordContentKey view) seen)

/-- `MdnsPacketInterpreter::create_discovery_event`. -/
def createDiscoveryEvent (nowMs : UInt64) (srcIp packet : Bytes)
    (parsedPacket : MdnsParsedMessage) : Except Fault DiscoveryEvent := do
  let acc ← appendRecords packet nowMs parsedPacket.answers ([], ∅)
  let acc ← appendRecords packet nowMs parsedPacket.authorities acc
  let acc ← appendRecords packet nowMs parsedPacket.additionals acc
  return { timestampMs := nowMs, srcIp, records := acc.1 }

/-! ## Closed form -/

/-- The text of a record, as a function: `rdata_str` always returns. -/
def rdataText (rr : MdnsResourceRecord) (message : Bytes) : Bytes :=
  match rdataStr rr message with
  | .ok text => text
  | .error _ => []

theorem rdataStr_eq (rr : MdnsResourceRecord) (message : Bytes) :
    rdataStr rr message = .ok (rdataText rr message) := by
  obtain ⟨text, h⟩ := rdataStr_eq_ok rr message
  simp [rdataText, h]

/-- The view of a record, as a function. -/
def recordView (packet : Bytes) (nowMs : UInt64) (rr : MdnsResourceRecord) :
    ResourceRecordView where
  ownerName := rr.name
  type := rr.type
  rdataText := rdataText rr packet
  ttl := rr.ttl
  observedAtMs := nowMs

theorem makeRecordView_eq (rr : MdnsResourceRecord) (packet : Bytes) (nowMs : UInt64) :
    makeRecordView rr packet nowMs = .ok (recordView packet nowMs rr) := by
  simp [makeRecordView, rdataStr_eq, recordView]

/-- The records of the three sections in wire order. -/
def sectionRecords (msg : MdnsParsedMessage) : List MdnsResourceRecord :=
  msg.answers ++ msg.authorities ++ msg.additionals

/-- The displayable views of some records, in order, repetitions included. -/
def displayableViews (packet : Bytes) (nowMs : UInt64) (rrs : List MdnsResourceRecord) :
    List ResourceRecordView :=
  (rrs.map (recordView packet nowMs)).filter isDisplayableRecord

@[simp] theorem displayableViews_append (packet : Bytes) (nowMs : UInt64)
    (rrs rrs' : List MdnsResourceRecord) :
    displayableViews packet nowMs (rrs ++ rrs') =
      displayableViews packet nowMs rrs ++ displayableViews packet nowMs rrs' := by
  simp [displayableViews]

/-- One section: the first occurrences of the displayable views are appended. -/
theorem appendRecords_eq (packet : Bytes) (nowMs : UInt64) (rrs : List MdnsResourceRecord)
    (out : List ResourceRecordView) (seen : Finset Bytes) :
    appendRecords packet nowMs rrs (out, seen) =
      .ok (out ++ (scan recordContentKey seen (displayableViews packet nowMs rrs)).1,
        (scan recordContentKey seen (displayableViews packet nowMs rrs)).2) := by
  induction rrs generalizing out seen with
  | nil => simp [appendRecords, displayableViews]
  | cons rr rrs ih =>
      simp only [appendRecords, makeRecordView_eq, ok_bind]
      by_cases hshow : isDisplayableRecord (recordView packet nowMs rr) = true
      · have hviews : displayableViews packet nowMs (rr :: rrs) =
            recordView packet nowMs rr :: displayableViews packet nowMs rrs := by
          simp [displayableViews, hshow]
        rw [hviews]
        by_cases hseen : recordContentKey (recordView packet nowMs rr) ∈ seen
        · rw [scan_cons_of_mem _ hseen, ← ih]
          simp [hshow, hseen]
        · rw [scan_cons_of_not_mem _ hseen]
          simp [hshow, hseen, ih]
      · have hviews : displayableViews packet nowMs (rr :: rrs) =
            displayableViews packet nowMs rrs := by
          simp [displayableViews, hshow]
        -- a record that is not displayable leaves the set of keys alone
        rw [hviews, ← ih]
        simp [hshow]

/-- **Closed form of `create_discovery_event`.**  It always returns; the event
holds the displayable records of the answers, authorities and additionals in
wire order, each content key once. -/
theorem createDiscoveryEvent_eq (nowMs : UInt64) (srcIp packet : Bytes)
    (msg : MdnsParsedMessage) :
    createDiscoveryEvent nowMs srcIp packet msg =
      .ok {
        timestampMs := nowMs
        srcIp := srcIp
        records := (scan recordContentKey ∅
          (displayableViews packet nowMs (sectionRecords msg))).1 } := by
  simp only [createDiscoveryEvent, appendRecords_eq, ok_bind, pure_eq_ok, sectionRecords,
    displayableViews_append, scan_append, List.nil_append]

/-! ## Memory safety -/

/-- **Interpreting a packet is memory safe.**  For every buffer, either the
decoder throws `invalid_argument`, or decoding and event creation both return.
In particular no octet outside the buffer or outside a record's RDATA vector is
read on the way, since such a read would be the outcome `Fault.outOfBounds`. -/
theorem interpret_packet_memory_safe (nowMs : UInt64) (srcIp buffer : Bytes) :
    (∃ what, decodePacket buffer = .error (.invalidArgument what)) ∨
    (∃ msg ev, decodePacket buffer = .ok msg ∧
      createDiscoveryEvent nowMs srcIp buffer msg = .ok ev) := by
  cases hdecode : decodePacket buffer with
  | error f =>
      left
      obtain ⟨what, rfl⟩ := decode_failsOnly buffer f hdecode
      exact ⟨what, rfl⟩
  | ok msg =>
      right
      exact ⟨msg, _, rfl, createDiscoveryEvent_eq nowMs srcIp buffer msg⟩

end Scanner
end LanDiscovery
