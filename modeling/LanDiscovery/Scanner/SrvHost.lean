import LanDiscovery.Scanner.RDataBounds

/-!
# The target of an SRV record and the label of its host

`SRVRecordFormatter::format` writes the target of an SRV record behind the marker
`target=` of a text line, and `host_label` finds it again by searching the line.  The
target is whatever the sender put there, but the first marker of the line is always the
formatter's own: nothing in front of it has the letter `a` (`notMem_srvNumbers`).
-/

namespace LanDiscovery
namespace Scanner

open Library Library.Outcome Library.Utf8

/-! ## Searching behind a text -/

/-- The octet of the letter `a`. -/
def letterA : UInt8 := 97

theorem targetMarker_eq : ascii "target=" = ascii "t" ++ letterA :: ascii "rget=" := by
  decide

/-- What stands behind the marker at the front of a text. -/
theorem extractAfterPrefix_append_self (key text : Bytes) :
    extractAfterPrefix (key ++ text) key = text := by
  rw [extractAfterPrefix, Text.find?_append_self]
  dsimp only
  rw [Nat.zero_add, List.drop_left]

/-- A text without the letter `a` does not hide the marker behind it. -/
theorem extractAfterPrefix_target_append {before text : Bytes} (hbefore : letterA ∉ before)
    (htext : letterA ∉ text.take 1) :
    extractAfterPrefix (before ++ text) (ascii "target=") =
      extractAfterPrefix text (ascii "target=") := by
  have hfind : Text.find? (ascii "target=") (before ++ text) =
      (Text.find? (ascii "target=") text).map (· + before.length) := by
    rw [targetMarker_eq]
    exact Text.find?_append_of_notMem (ascii "t") (ascii "rget=") hbefore htext
  rw [extractAfterPrefix, extractAfterPrefix, hfind]
  cases Text.find? (ascii "target=") text with
  | none => rfl
  | some pos =>
      dsimp only [Option.map_some]
      rw [show pos + before.length + (ascii "target=").length =
          before.length + (pos + (ascii "target=").length) by omega, List.drop_length_add_append]

/-! ## The branches of the formatter -/

theorem letterA_notMem_decimal (n : Nat) : letterA ∉ decimal n := by
  intro hmem
  exact absurd (isDigit_of_mem_decimal hmem) (by decide)

theorem notMem_srvNumbers (priority weight port : UInt16) :
    letterA ∉ srvNumbers priority weight port := by
  have hpriority : letterA ∉ ascii "priority=" := by decide
  have hweight : letterA ∉ ascii " weight=" := by decide
  have hport : letterA ∉ ascii " port=" := by decide
  rw [srvNumbers]
  simp only [List.mem_append, not_or]
  exact ⟨⟨⟨⟨⟨hpriority, letterA_notMem_decimal _⟩, hweight⟩, letterA_notMem_decimal _⟩, hport⟩,
    letterA_notMem_decimal _⟩

section

variable (priority weight port : UInt16)

/-- A line with a target gives the target back, whatever it is. -/
theorem extractAfterPrefix_srvLine (target : Bytes) :
    extractAfterPrefix (srvNumbers priority weight port ++ ascii " target=" ++ target)
      (ascii "target=") = target := by
  have hsplit : srvNumbers priority weight port ++ ascii " target=" ++ target =
      (srvNumbers priority weight port ++ ascii " ") ++ (ascii "target=" ++ target) := by
    rw [show ascii " target=" = ascii " " ++ ascii "target=" by decide]
    simp only [List.append_assoc]
  have hbefore : letterA ∉ srvNumbers priority weight port ++ ascii " " := by
    rw [List.mem_append, not_or]
    exact ⟨notMem_srvNumbers priority weight port, by decide⟩
  have hmarker : letterA ∉ (ascii "target=" ++ target).take 1 := by
    rw [List.take_append_of_le_length (by decide)]
    decide
  rw [hsplit, extractAfterPrefix_target_append hbefore hmarker, extractAfterPrefix_append_self]

/-- The line of a malformed target has no marker. -/
theorem extractAfterPrefix_malformed :
    extractAfterPrefix (srvNumbers priority weight port ++ ascii " (malformed target name)")
      (ascii "target=") = [] := by
  rw [extractAfterPrefix_target_append (notMem_srvNumbers priority weight port) (by decide)]
  decide

/-- The line of a record that ends behind its numbers has no marker. -/
theorem extractAfterPrefix_srvNumbers :
    extractAfterPrefix (srvNumbers priority weight port) (ascii "target=") = [] := by
  have hnil : letterA ∉ ([] : Bytes).take 1 := by decide
  have hrest := extractAfterPrefix_target_append (notMem_srvNumbers priority weight port) hnil
  rw [List.append_nil] at hrest
  rw [hrest]
  decide

end

/-! ## The label of the host -/

section

variable {packet : Bytes} {rr : MdnsResourceRecord}

theorem hostLabel_recordView_of_srv (htype : rr.type = typeSrv) (nowMs : UInt64)
    {text : Bytes} (htext : rdataText rr packet = text) :
    hostLabel (recordView packet nowMs rr) = extractAfterPrefix text (ascii "target=") := by
  rw [hostLabel_of_srv htype, srvTarget, recordView, htext]

/-- A target that is read is the label. -/
theorem hostLabel_of_target (htype : rr.type = typeSrv) (nowMs : UInt64)
    (hpacket : packet ≠ []) (hlong : 6 < rr.rdata.length) {target : Bytes} {next : Nat}
    (hparse : parseQname packet (rr.rdataOffset + 6) = .ok (target, next)) :
    hostLabel (recordView packet nowMs rr) = target := by
  obtain ⟨priority, weight, port, htext⟩ := rdataText_srv_of_ok hpacket htype hlong hparse
  rw [hostLabel_recordView_of_srv htype nowMs htext]
  exact extractAfterPrefix_srvLine priority weight port target

/-- A target that cannot be read leaves the record without a label. -/
theorem hostLabel_of_malformed (htype : rr.type = typeSrv) (nowMs : UInt64)
    (hpacket : packet ≠ []) (hlong : 6 < rr.rdata.length) {fault : Fault}
    (hparse : parseQname packet (rr.rdataOffset + 6) = .error fault) :
    hostLabel (recordView packet nowMs rr) = [] := by
  obtain ⟨what, rfl⟩ := parseQname_failsOnly packet _ fault hparse
  obtain ⟨priority, weight, port, htext⟩ := rdataText_srv_of_error hpacket htype hlong hparse
  rw [hostLabel_recordView_of_srv htype nowMs htext]
  exact extractAfterPrefix_malformed priority weight port

/-- A record without room for a target has no label. -/
theorem hostLabel_of_short (htype : rr.type = typeSrv) (nowMs : UInt64)
    (hshort : rr.rdata.length ≤ 6) :
    hostLabel (recordView packet nowMs rr) = [] := by
  rcases Nat.lt_or_eq_of_le hshort with hlt | hsix
  · rw [hostLabel_recordView_of_srv htype nowMs (rdataText_srv_of_short packet htype hlt)]
    decide
  · obtain ⟨priority, weight, port, htext⟩ := rdataText_srv_of_six packet htype hsix
    rw [hostLabel_recordView_of_srv htype nowMs htext]
    exact extractAfterPrefix_srvNumbers priority weight port

end

/-- **The label undoes the formatting.**  In every decoded message the label of an SRV
record is the target that is read behind the numbers, whatever text it is; there is no
label if the RDATA ends before, if no name can be read there, or if it is the root. -/
theorem hostLabel_srv_eq (packet : Bytes) (msg : MdnsParsedMessage)
    (hdecode : decode packet = .ok msg) (nowMs : UInt64) :
    ∀ rr ∈ sectionRecords msg, rr.type = typeSrv →
      ∃ view, makeRecordView rr packet nowMs = .ok view ∧
        (6 < rr.rdata.length → ∀ target next,
          parseQname packet (rr.rdataOffset + 6) = .ok (target, next) → hostLabel view = target) ∧
        (rr.rdata.length ≤ 6 ∨
          (∃ fault, parseQname packet (rr.rdataOffset + 6) = .error fault) ∨
          (∃ next, parseQname packet (rr.rdataOffset + 6) = .ok ([], next)) →
            hostLabel view = []) := by
  have hpacket := packet_ne_nil hdecode
  intro rr _ htype
  refine ⟨recordView packet nowMs rr, makeRecordView_eq rr packet nowMs, ?_, ?_⟩
  · intro hlong target next hparse
    exact hostLabel_of_target htype nowMs hpacket hlong hparse
  · intro hnone
    by_cases hshort : rr.rdata.length ≤ 6
    · exact hostLabel_of_short htype nowMs hshort
    · have hlong : 6 < rr.rdata.length := by omega
      rcases hnone with hle | ⟨fault, hparse⟩ | ⟨next, hparse⟩
      · exact absurd hle hshort
      · exact hostLabel_of_malformed htype nowMs hpacket hlong hparse
      · exact hostLabel_of_target htype nowMs hpacket hlong hparse

/-- The record of a response with the given target. -/
def srvRecord (target : Bytes) : MdnsResourceRecord where
  name := []
  type := typeSrv
  classCode := 1
  ttl := 120
  rdata := [0, 0, 0, 0, 0, 80] ++ wireLabel target ++ [kQnameTerminator]
  rdataOffset := 23

/-- A response with one SRV record of the root, for port 80 of a target with one label. -/
def srvPacket (target : Bytes) : Bytes :=
  [0, 0, 0x84, 0, 0, 0, 0, 1, 0, 0, 0, 0] ++ [0, 0, 33, 0, 1, 0, 0, 0, 120] ++
    [0, UInt8.ofNat (srvRecord target).rdata.length] ++ (srvRecord target).rdata

/-- The message of such a response. -/
def srvMessage (target : Bytes) : MdnsParsedMessage where
  header := ⟨0, 0x8400, 0, 1, 0, 0⟩
  questions := []
  answers := [srvRecord target]
  authorities := []
  additionals := []

/-- A target that has a marker of its own. -/
theorem markedTarget_label :
    ∃ view, makeRecordView (srvRecord (ascii "a target=b")) (srvPacket (ascii "a target=b")) 1 =
        .ok view ∧
      hostLabel view = ascii "a target=b" := by
  obtain ⟨view, hview, htarget, -⟩ := hostLabel_srv_eq (srvPacket (ascii "a target=b"))
    (srvMessage (ascii "a target=b")) (by decide +kernel) 1 (srvRecord (ascii "a target=b"))
    (by decide) rfl
  exact ⟨view, hview, htarget (by decide) (ascii "a target=b") 41 (by decide +kernel)⟩

end Scanner
end LanDiscovery
