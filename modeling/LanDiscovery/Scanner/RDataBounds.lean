import LanDiscovery.Scanner.Decimal
import LanDiscovery.Scanner.PacketInterpreter
import LanDiscovery.Scanner.Qname

/-!
# Targets and the end of the RDATA

The formatters of PTR and SRV records read the target from the whole message, from an
offset in the RDATA on.  They do not look where the RDATA ends: a target that is cut off
there goes on in the octets behind the record.  The part of the target in place lies in
the RDATA exactly if the RDATA has it whole or the message does not go on to a name
(`rdata_confined_iff`).
-/

namespace LanDiscovery
namespace Scanner

open Library Library.Outcome Library.Utf8

/-- The octets begin with the part of a name in place: labels up to a terminator or a
pointer. -/
def holdsName : Bytes → Bool
  | [] => false
  | first :: rest =>
      if first = kQnameTerminator then true
      else if 192 ≤ first.toNat then !rest.isEmpty
      else if first.toNat ≤ rest.length then holdsName (rest.drop first.toNat)
      else false
  termination_by octets => octets.length
  decreasing_by
    rw [List.length_drop, List.length_cons]
    omega

/-- The octets of the RDATA in front of the target, in a record with a target. -/
def targetStart (rr : MdnsResourceRecord) : Option Nat :=
  if rr.type = typePtr ∧ rr.rdata ≠ [] then some 0
  else if rr.type = typeSrv ∧ 6 < rr.rdata.length then some 6
  else none

/-- The text of a record shows a target that was read up to the offset `next`. -/
structure ShowsTarget (packet : Bytes) (rr : MdnsResourceRecord) (target : Bytes) (next : Nat) :
    Prop where
  parsed : ∃ start ∈ targetStart rr, parseQname packet (rr.rdataOffset + start) = .ok (target, next)
  shown : target <:+ rdataText rr packet

/-- The text of a record says that there is no target to show. -/
def ReportsMalformed (packet : Bytes) (rr : MdnsResourceRecord) : Prop :=
  rdataText rr packet = ascii "(empty PTR record)" ∨
  rdataText rr packet = ascii "(malformed PTR record)" ∨
  rdataText rr packet = ascii "(malformed SRV record)" ∨
  ascii " (malformed target name)" <:+ rdataText rr packet

/-- The target that is shown lies in the RDATA, but for where a pointer leads. -/
def Confined (packet : Bytes) (rr : MdnsResourceRecord) : Prop :=
  ∀ target next, ShowsTarget packet rr target next → next ≤ rr.rdataOffset + rr.rdata.length

/-- A record without a target to show is reported. -/
def Reported (packet : Bytes) (rr : MdnsResourceRecord) : Prop :=
  (¬ ∃ target next, ShowsTarget packet rr target next) → ReportsMalformed packet rr

/-- The RDATA ends inside of the target, and the message goes on to a name. -/
def RunsOver (packet : Bytes) (rr : MdnsResourceRecord) : Prop :=
  ∃ start ∈ targetStart rr, holdsName (rr.rdata.drop start) = false ∧
    ∃ labels next, NameAt packet (rr.rdataOffset + start) labels next

/-- An SRV record that ends behind its numbers. -/
def LacksTarget (rr : MdnsResourceRecord) : Prop :=
  rr.type = typeSrv ∧ rr.rdata.length = 6

/-! ## The end of a name in place -/

@[simp] theorem holdsName_terminator (rest : Bytes) :
    holdsName (kQnameTerminator :: rest) = true := by
  rw [holdsName, if_pos rfl]

@[simp] theorem holdsName_pointer {high : UInt8} (hmark : 192 ≤ high.toNat) (rest : Bytes) :
    holdsName (high :: rest) = !rest.isEmpty := by
  rw [holdsName, if_neg (ne_terminator_of_pointer hmark), if_pos hmark]

theorem holdsName_label {label : Bytes} (rest : Bytes) (hpos : 1 ≤ label.length)
    (hle : label.length ≤ 63) :
    holdsName (wireLabel label ++ rest) = holdsName rest := by
  have hlength := toNat_length_label hle
  have hne := length_label_ne_terminator hpos hle
  rw [wireLabel, List.cons_append, holdsName, if_neg hne, hlength, if_neg (by omega),
    if_pos (by simp), List.drop_left]

/-- A label that is cut off is not the part of a name in place. -/
theorem holdsName_cutLabel {label octets : Bytes} (hpos : 1 ≤ label.length)
    (hle : label.length ≤ 63) (hcut : octets <+: wireLabel label)
    (hshort : octets.length < (wireLabel label).length) : holdsName octets = false := by
  cases octets with
  | nil => rw [holdsName]
  | cons first rest =>
      obtain ⟨hfirst, hrest⟩ := List.cons_prefix_cons.mp hcut
      have hlength := toNat_length_label hle
      have hne : first ≠ kQnameTerminator := hfirst ▸ length_label_ne_terminator hpos hle
      rw [wireLabel, List.length_cons, List.length_cons] at hshort
      rw [holdsName, if_neg hne, hfirst, hlength, if_neg (by omega), if_neg (by omega)]

theorem NameAt.next_le_nil_iff {buf : Bytes} {pos : Nat} {labels : List Bytes} {next : Nat}
    (h : NameAt buf pos labels next) : next ≤ pos + ([] : Bytes).length ↔ holdsName [] = true := by
  have hbounds := h.next_bounds
  rw [holdsName]
  exact iff_of_false (Nat.not_le.mpr hbounds.1) (by simp)

/-- **Where a name in place ends.** -/
theorem NameAt.next_le_iff {buf : Bytes} {pos : Nat} {labels : List Bytes} {next : Nat}
    (h : NameAt buf pos labels next) {octets after : Bytes}
    (hoctets : buf.drop pos = octets ++ after) :
    next ≤ pos + octets.length ↔ holdsName octets = true := by
  induction h generalizing octets with
  | @terminator pos hend =>
      cases octets with
      | nil => exact (NameAt.terminator hend).next_le_nil_iff
      | cons first rest =>
          rw [hoctets, List.cons_append, List.cons_prefix_cons] at hend
          rw [← hend.1, holdsName_terminator, List.length_cons]
          exact iff_of_true (by omega) rfl
  | @pointer pos target labels next hpointer rest ih =>
      -- a pointer ends the name in place, whatever it points to
      rcases octets with _ | ⟨first, _ | ⟨second, octets⟩⟩
      · exact (NameAt.pointer hpointer rest).next_le_nil_iff
      · obtain ⟨-, high, low, hprefix, hmark, -⟩ := hpointer
        rw [hoctets, List.cons_append, List.cons_prefix_cons] at hprefix
        rw [← hprefix.1, holdsName_pointer hmark]
        simp
      · obtain ⟨-, high, low, hprefix, hmark, -⟩ := hpointer
        rw [hoctets, List.cons_append, List.cons_prefix_cons] at hprefix
        rw [← hprefix.1, holdsName_pointer hmark]
        simp
  | @label pos label labels next hlabel rest ih =>
      obtain ⟨hpos, hle, hprefix⟩ := hlabel
      have hbounds := rest.next_bounds
      have hwire : (wireLabel label).length = 1 + label.length := by
        rw [wireLabel, List.length_cons, Nat.add_comm]
      rw [hoctets] at hprefix
      by_cases hshort : octets.length < (wireLabel label).length
      · -- the octets end inside the label
        have hcut := List.prefix_of_prefix_length_le (List.prefix_append octets after) hprefix
          (Nat.le_of_lt hshort)
        rw [holdsName_cutLabel hpos hle hcut hshort]
        exact iff_of_false (by omega) (by simp)
      · -- the label is there, and the name goes on behind it
        obtain ⟨behind, rfl⟩ := List.prefix_of_prefix_length_le hprefix
          (List.prefix_append octets after) (Nat.le_of_not_lt hshort)
        have hbehind : buf.drop (pos + 1 + label.length) = behind ++ after := by
          rw [Nat.add_assoc, ← hwire, ← List.drop_drop, hoctets, List.append_assoc, List.drop_left]
        rw [holdsName_label _ hpos hle, ← ih hbehind, List.length_append, hwire, Nat.add_assoc,
          Nat.add_assoc, Nat.add_assoc]

/-! ## The text of a record -/

theorem rdataText_of_ptr {rr : MdnsResourceRecord} (htype : rr.type = typePtr) (packet : Bytes)
    {text : Bytes} (h : formatPtr ⟨packet, rr.rdataOffset, rr.rdata⟩ = .ok text) :
    rdataText rr packet = text := by
  have hstr : rdataStr rr packet = formatPtr ⟨packet, rr.rdataOffset, rr.rdata⟩ := by
    rw [rdataStr, htype]
    rfl
  rw [rdataText, hstr, h]

theorem rdataText_of_srv {rr : MdnsResourceRecord} (htype : rr.type = typeSrv) (packet : Bytes)
    {text : Bytes} (h : formatSrv ⟨packet, rr.rdataOffset, rr.rdata⟩ = .ok text) :
    rdataText rr packet = text := by
  have hstr : rdataStr rr packet = formatSrv ⟨packet, rr.rdataOffset, rr.rdata⟩ := by
    rw [rdataStr, htype]
    rfl
  rw [rdataText, hstr, h]

/-- The text of a PTR record that is not empty. -/
theorem formatPtr_eq (ctx : RDataFormatContext) (hrdata : ctx.rdata ≠ [])
    (hmessage : ctx.message ≠ []) :
    formatPtr ctx =
      catchAll
        (do
          let (ptrName, _) ← parseQname ctx.message ctx.rdataOffset
          return ptrName)
        (ascii "(malformed PTR record)") := by
  rw [formatPtr, if_neg (by simpa using hrdata), if_neg (by simpa using hmessage)]

/-- The numbers of an SRV record as text. -/
def srvNumbers (priority weight port : UInt16) : Bytes :=
  ascii "priority=" ++ decimal priority.toNat ++ ascii " weight=" ++ decimal weight.toNat ++
    ascii " port=" ++ decimal port.toNat

/-- The text of an SRV record that is long enough. -/
theorem formatSrv_eq (ctx : RDataFormatContext) (h : 6 ≤ ctx.rdata.length) :
    ∃ priority weight port, formatSrv ctx =
      if 6 < ctx.rdata.length ∧ ¬ ctx.message.isEmpty then
        catchAll
          (do
            let (target, _) ← parseQname ctx.message (ctx.rdataOffset + 6)
            return srvNumbers priority weight port ++ ascii " target=" ++ target)
          (srvNumbers priority weight port ++ ascii " (malformed target name)")
      else .ok (srvNumbers priority weight port) := by
  obtain ⟨priority, hpriority, -⟩ := readU16Be_of_le (show 0 + 2 ≤ ctx.rdata.length by omega)
  obtain ⟨weight, hweight, -⟩ := readU16Be_of_le (show 2 + 2 ≤ ctx.rdata.length by omega)
  obtain ⟨port, hport, -⟩ := readU16Be_of_le (show 4 + 2 ≤ ctx.rdata.length by omega)
  refine ⟨priority, weight, port, ?_⟩
  rw [formatSrv, if_neg (by omega), hpriority, hweight, hport]
  rfl

/-- The text of a record that is too short for its numbers. -/
theorem rdataText_srv_of_short {rr : MdnsResourceRecord} (packet : Bytes)
    (htype : rr.type = typeSrv) (hshort : rr.rdata.length < 6) :
    rdataText rr packet = ascii "(malformed SRV record)" := by
  refine rdataText_of_srv htype packet ?_
  rw [formatSrv, if_pos hshort]
  rfl

/-- The text of a record that ends behind its numbers. -/
theorem rdataText_srv_of_six {rr : MdnsResourceRecord} (packet : Bytes)
    (htype : rr.type = typeSrv) (hsix : rr.rdata.length = 6) :
    ∃ priority weight port, rdataText rr packet = srvNumbers priority weight port := by
  obtain ⟨priority, weight, port, hformat⟩ :=
    formatSrv_eq ⟨packet, rr.rdataOffset, rr.rdata⟩ (Nat.le_of_eq hsix.symm)
  rw [if_neg (by simp [hsix])] at hformat
  exact ⟨priority, weight, port, rdataText_of_srv htype packet hformat⟩

section

variable {packet : Bytes} {rr : MdnsResourceRecord} (hpacket : packet ≠ [])
  (htype : rr.type = typeSrv) (hlong : 6 < rr.rdata.length)

include hpacket htype hlong

omit htype in
/-- The text of an SRV record with a target. -/
theorem formatSrv_of_lt :
    ∃ priority weight port, formatSrv ⟨packet, rr.rdataOffset, rr.rdata⟩ =
      catchAll
        (do
          let (target, _) ← parseQname packet (rr.rdataOffset + 6)
          return srvNumbers priority weight port ++ ascii " target=" ++ target)
        (srvNumbers priority weight port ++ ascii " (malformed target name)") := by
  obtain ⟨priority, weight, port, hformat⟩ :=
    formatSrv_eq ⟨packet, rr.rdataOffset, rr.rdata⟩ (Nat.le_of_lt hlong)
  rw [if_pos ⟨hlong, by simpa using hpacket⟩] at hformat
  exact ⟨priority, weight, port, hformat⟩

/-- The text of a record whose target can be read. -/
theorem rdataText_srv_of_ok {target : Bytes} {next : Nat}
    (hparse : parseQname packet (rr.rdataOffset + 6) = .ok (target, next)) :
    ∃ priority weight port,
      rdataText rr packet = srvNumbers priority weight port ++ ascii " target=" ++ target := by
  obtain ⟨priority, weight, port, hformat⟩ := formatSrv_of_lt hpacket hlong
  rw [hparse] at hformat
  exact ⟨priority, weight, port, rdataText_of_srv htype packet hformat⟩

/-- The text of a record whose target cannot be read. -/
theorem rdataText_srv_of_error {what : String}
    (hparse : parseQname packet (rr.rdataOffset + 6) = .error (.invalidArgument what)) :
    ∃ priority weight port, rdataText rr packet =
      srvNumbers priority weight port ++ ascii " (malformed target name)" := by
  obtain ⟨priority, weight, port, hformat⟩ := formatSrv_of_lt hpacket hlong
  rw [hparse] at hformat
  exact ⟨priority, weight, port, rdataText_of_srv htype packet hformat⟩

end

theorem mem_targetStart {rr : MdnsResourceRecord} {start : Nat} (h : start ∈ targetStart rr) :
    (rr.type = typePtr ∧ rr.rdata ≠ [] ∧ start = 0) ∨
      (rr.type = typeSrv ∧ 6 < rr.rdata.length ∧ start = 6) := by
  unfold targetStart at h
  split_ifs at h with hptr hsrv
  · exact Or.inl ⟨hptr.1, hptr.2, (Option.some.inj h).symm⟩
  · exact Or.inr ⟨hsrv.1, hsrv.2, (Option.some.inj h).symm⟩
  · exact absurd h (by simp)

theorem start_lt_length {rr : MdnsResourceRecord} {start : Nat} (h : start ∈ targetStart rr) :
    start < rr.rdata.length := by
  rcases mem_targetStart h with ⟨-, hne, rfl⟩ | ⟨-, hlt, rfl⟩
  · exact List.length_pos_iff.mpr hne
  · exact hlt

/-- A target that is read is shown. -/
theorem suffix_rdataText {packet : Bytes} {rr : MdnsResourceRecord} {start : Nat}
    (hpacket : packet ≠ []) (hstart : start ∈ targetStart rr) {target : Bytes} {next : Nat}
    (hparse : parseQname packet (rr.rdataOffset + start) = .ok (target, next)) :
    target <:+ rdataText rr packet := by
  rcases mem_targetStart hstart with ⟨htype, hne, rfl⟩ | ⟨htype, hlt, rfl⟩
  · have htext := formatPtr_eq ⟨packet, rr.rdataOffset, rr.rdata⟩ hne hpacket
    rw [Nat.add_zero] at hparse
    dsimp only at htext
    rw [hparse] at htext
    rw [rdataText_of_ptr htype packet htext]
  · obtain ⟨priority, weight, port, htext⟩ := rdataText_srv_of_ok hpacket htype hlt hparse
    rw [htext]
    exact List.suffix_append _ _

/-- A target that cannot be read is reported. -/
theorem reportsMalformed_of_error {packet : Bytes} {rr : MdnsResourceRecord} {start : Nat}
    (hpacket : packet ≠ []) (hstart : start ∈ targetStart rr) {fault : Fault}
    (hparse : parseQname packet (rr.rdataOffset + start) = .error fault) :
    ReportsMalformed packet rr := by
  obtain ⟨what, rfl⟩ := parseQname_failsOnly packet _ fault hparse
  rcases mem_targetStart hstart with ⟨htype, hne, rfl⟩ | ⟨htype, hlt, rfl⟩
  · have htext := formatPtr_eq ⟨packet, rr.rdataOffset, rr.rdata⟩ hne hpacket
    rw [Nat.add_zero] at hparse
    dsimp only at htext
    rw [hparse] at htext
    exact Or.inr (Or.inl (rdataText_of_ptr htype packet htext))
  · obtain ⟨priority, weight, port, htext⟩ := rdataText_srv_of_error hpacket htype hlt hparse
    rw [ReportsMalformed, htext]
    exact Or.inr (Or.inr (Or.inr (List.suffix_append _ _)))

/-- The numbers alone report nothing. -/
theorem not_reportsMalformed_of_numbers {packet : Bytes} {rr : MdnsResourceRecord}
    {priority weight port : UInt16} (h : rdataText rr packet = srvNumbers priority weight port) :
    ¬ ReportsMalformed packet rr := by
  obtain ⟨front, hfront⟩ : ∃ front, srvNumbers priority weight port = 112 :: front := ⟨_, rfl⟩
  rintro (hempty | hptr | hsrv | ⟨before, htarget⟩)
  · rw [h, hfront] at hempty
    exact absurd (List.cons.inj hempty).1 (by decide)
  · rw [h, hfront] at hptr
    exact absurd (List.cons.inj hptr).1 (by decide)
  · rw [h, hfront] at hsrv
    exact absurd (List.cons.inj hsrv).1 (by decide)
  · -- the text ends in a digit
    rw [h, srvNumbers] at htarget
    have hlast := congrArg List.getLast? htarget
    rw [List.getLast?_append, List.getLast?_append] at hlast
    cases hport : (decimal port.toNat).getLast? with
    | none => exact decimal_ne_nil _ (List.getLast?_eq_none_iff.mp hport)
    | some digit =>
        have hdigit := isDigit_of_mem_decimal (List.mem_of_getLast? hport)
        rw [hport] at hlast
        obtain rfl : 41 = digit := by simpa [ascii] using hlast
        exact absurd hdigit (by decide)

/-! ## The end of the RDATA -/

theorem drop_rdataOffset {packet : Bytes} {msg : MdnsParsedMessage}
    (hdecode : decode packet = .ok msg) {rr : MdnsResourceRecord} (hrr : rr ∈ sectionRecords msg) :
    ∃ after, packet.drop rr.rdataOffset = rr.rdata ++ after := by
  obtain ⟨-, -, -, -, -, answers, authorities, additionals, stop, -, hanswers, hauthorities,
    hadditionals⟩ := (decode_eq_ok_iff packet msg).mp hdecode
  have hlayout : ∃ start stop, RecordLayout packet start rr stop := by
    rcases List.mem_append.mp hrr with hfirst | hadditional
    · rcases List.mem_append.mp hfirst with hanswer | hauthority
      · exact hanswers.exists_of_mem hanswer
      · exact hauthorities.exists_of_mem hauthority
    · exact hadditionals.exists_of_mem hadditional
  obtain ⟨-, -, fields, rdlength, -, -, -, -, -, -, -, hrdata, -⟩ := hlayout
  exact ⟨(packet.drop rr.rdataOffset).drop rdlength, by rw [hrdata, List.take_append_drop]⟩

theorem packet_ne_nil {packet : Bytes} {msg : MdnsParsedMessage}
    (hdecode : decode packet = .ok msg) : packet ≠ [] := by
  rintro rfl
  have hbounds := bigEndianAt_le ((decode_eq_ok_iff [] msg).mp hdecode).header.transactionId
  simp at hbounds

theorem confined_iff {packet : Bytes} {rr : MdnsResourceRecord} (hpacket : packet ≠ [])
    {after : Bytes} (hafter : packet.drop rr.rdataOffset = rr.rdata ++ after) :
    Confined packet rr ↔ ¬ RunsOver packet rr := by
  have hends : ∀ start ∈ targetStart rr, ∀ labels next,
      NameAt packet (rr.rdataOffset + start) labels next →
        (next ≤ rr.rdataOffset + rr.rdata.length ↔ holdsName (rr.rdata.drop start) = true) := by
    intro start hstart labels next hname
    have hlt := start_lt_length hstart
    have hdrop : packet.drop (rr.rdataOffset + start) = rr.rdata.drop start ++ after := by
      rw [← List.drop_drop, hafter, List.drop_append_of_le_length (Nat.le_of_lt hlt)]
    rw [← hname.next_le_iff hdrop, List.length_drop, Nat.add_assoc, Nat.add_sub_cancel' hlt.le]
  constructor
  · rintro hconfined ⟨start, hstart, hholds, labels, next, hname⟩
    have hparse := parseQname_eq_ok_iff.mpr ⟨labels, hname, rfl⟩
    have hle := hconfined _ next
      ⟨⟨start, hstart, hparse⟩, suffix_rdataText hpacket hstart hparse⟩
    rw [hends start hstart labels next hname, hholds] at hle
    exact absurd hle (by simp)
  · intro hover target next hshows
    obtain ⟨start, hstart, hparse⟩ := hshows.parsed
    obtain ⟨labels, hname, -⟩ := parseQname_eq_ok_iff.mp hparse
    rw [hends start hstart labels next hname]
    by_contra hholds
    exact hover ⟨start, hstart, by simpa using hholds, labels, next, hname⟩

/-- A record with a target shows it or reports it. -/
theorem reported_of_targetStart {packet : Bytes} {rr : MdnsResourceRecord} {start : Nat}
    (hpacket : packet ≠ []) (hstart : start ∈ targetStart rr) : Reported packet rr := by
  intro hnone
  cases hparse : parseQname packet (rr.rdataOffset + start) with
  | ok result =>
      exact absurd ⟨result.1, result.2, ⟨start, hstart, hparse⟩,
        suffix_rdataText hpacket hstart hparse⟩ hnone
  | error fault => exact reportsMalformed_of_error hpacket hstart hparse

theorem not_showsTarget_of_eq_none {packet : Bytes} {rr : MdnsResourceRecord}
    (h : targetStart rr = none) : ¬ ∃ target next, ShowsTarget packet rr target next := by
  rintro ⟨target, next, ⟨start, hstart, -⟩, -⟩
  rw [h] at hstart
  exact absurd hstart (by simp)

theorem reported_of_ptr {packet : Bytes} {rr : MdnsResourceRecord} (hpacket : packet ≠ [])
    (htype : rr.type = typePtr) : Reported packet rr := by
  by_cases hempty : rr.rdata = []
  · refine fun _ => Or.inl (rdataText_of_ptr htype packet ?_)
    rw [formatPtr, if_pos (by simpa using hempty)]
    rfl
  · have hstart : 0 ∈ targetStart rr := by
      rw [targetStart, if_pos ⟨htype, hempty⟩]
      rfl
    exact reported_of_targetStart hpacket hstart

theorem reported_srv_iff {packet : Bytes} {rr : MdnsResourceRecord} (hpacket : packet ≠ [])
    (htype : rr.type = typeSrv) : Reported packet rr ↔ rr.rdata.length ≠ 6 := by
  have hnotPtr : ¬ (rr.type = typePtr ∧ rr.rdata ≠ []) := fun hptr =>
    absurd (htype.symm.trans hptr.1) (by decide)
  rcases lt_trichotomy rr.rdata.length 6 with hshort | hsix | hlong
  · refine iff_of_true (fun _ => ?_) hshort.ne
    exact Or.inr (Or.inr (Or.inl (rdataText_srv_of_short packet htype hshort)))
  · -- the numbers are there, and nothing else is said
    have hnone : targetStart rr = none := by
      rw [targetStart, if_neg hnotPtr, if_neg (by omega)]
    obtain ⟨priority, weight, port, htext⟩ := rdataText_srv_of_six packet htype hsix
    refine iff_of_false (fun hreported => ?_) (not_not.mpr hsix)
    exact not_reportsMalformed_of_numbers htext (hreported (not_showsTarget_of_eq_none hnone))
  · have hstart : 6 ∈ targetStart rr := by
      rw [targetStart, if_neg hnotPtr, if_pos ⟨htype, hlong⟩]
      rfl
    exact iff_of_true (reported_of_targetStart hpacket hstart) hlong.ne'

theorem reported_iff {packet : Bytes} {rr : MdnsResourceRecord} (hpacket : packet ≠ [])
    (htype : rr.type = typePtr ∨ rr.type = typeSrv) : Reported packet rr ↔ ¬ LacksTarget rr := by
  rcases htype with hptr | hsrv
  · refine iff_of_true (reported_of_ptr hpacket hptr) fun hlacks => ?_
    exact absurd (hptr.symm.trans hlacks.1) (by decide)
  · rw [reported_srv_iff hpacket hsrv, LacksTarget, and_iff_right hsrv]

/-- **Which targets lie in the RDATA.**  In a decoded message the target of a PTR or SRV
record is confined to its RDATA exactly if the RDATA does not end inside of a name that
goes on in the message.  A record that shows no target is reported as well exactly if it
is no SRV record of six octets. -/
theorem rdata_confined_iff (packet : Bytes) (msg : MdnsParsedMessage)
    (hdecode : decode packet = .ok msg) (rr : MdnsResourceRecord) (hrr : rr ∈ sectionRecords msg)
    (htype : rr.type = typePtr ∨ rr.type = typeSrv) :
    (Confined packet rr ∧ Reported packet rr ↔ ¬ RunsOver packet rr ∧ ¬ LacksTarget rr) ∧
    (Confined packet rr ↔ ¬ RunsOver packet rr) := by
  obtain ⟨after, hafter⟩ := drop_rdataOffset hdecode hrr
  have hpacket := packet_ne_nil hdecode
  have hconfined := confined_iff hpacket hafter
  exact ⟨and_congr hconfined (reported_iff hpacket htype), hconfined⟩

/-! ### A pointer that is cut off -/

/-- The record of a response with the given RDATA. -/
def pointerRecord (rdata : Bytes) : MdnsResourceRecord where
  name := []
  type := typePtr
  classCode := 1
  ttl := 120
  rdata := rdata
  rdataOffset := 23

/-- A response with one pointer of the root, and two octets behind it. -/
def pointerPacket (rdata : Bytes) : Bytes :=
  [0, 0, 0x84, 0, 0, 0, 0, 1, 0, 0, 0, 0] ++ [0, 0, 12, 0, 1, 0, 0, 0, 120] ++
    [0, UInt8.ofNat rdata.length] ++ rdata ++ [97, 0]

/-- The message of such a response. -/
def pointerMessage (rdata : Bytes) : MdnsParsedMessage where
  header := ⟨0, 0x8400, 0, 1, 0, 0⟩
  questions := []
  answers := [pointerRecord rdata]
  authorities := []
  additionals := []

/-- A whole target is confined. -/
theorem wholeTarget_confined :
    Confined (pointerPacket [1, 98, 0]) (pointerRecord [1, 98, 0]) ∧
      Reported (pointerPacket [1, 98, 0]) (pointerRecord [1, 98, 0]) := by
  refine (rdata_confined_iff (pointerPacket [1, 98, 0]) (pointerMessage [1, 98, 0])
    (by decide +kernel) (pointerRecord [1, 98, 0]) (by decide) (Or.inl rfl)).1.mpr ⟨?_, ?_⟩
  · rintro ⟨start, hstart, hholds, -⟩
    rcases mem_targetStart hstart with ⟨-, -, rfl⟩ | ⟨hsrv, -⟩
    · have hlabel : holdsName [1, 98, 0] = holdsName [0] :=
        @holdsName_label [98] [0] (by decide) (by decide)
      have hwhole := hlabel.trans (holdsName_terminator [])
      exact absurd (hwhole.symm.trans hholds) (by simp)
    · exact absurd hsrv (by decide)
  · rintro ⟨hsrv, -⟩
    exact absurd hsrv (by decide)

/-- A target of one octet goes on behind the record. -/
theorem cutTarget_not_confined :
    ¬ ∀ packet msg, decode packet = .ok msg → ∀ rr ∈ sectionRecords msg,
      rr.type = typePtr ∨ rr.type = typeSrv → Confined packet rr := by
  intro h
  have hconfined := h (pointerPacket [1]) (pointerMessage [1]) (by decide +kernel)
    (pointerRecord [1]) (by decide) (Or.inl rfl)
  have hstart : 0 ∈ targetStart (pointerRecord [1]) := by decide
  have hparse : parseQname (pointerPacket [1]) ((pointerRecord [1]).rdataOffset + 0) =
      .ok ([97], 26) := by
    decide +kernel
  have hle := hconfined [97] 26
    ⟨⟨0, hstart, hparse⟩, suffix_rdataText (by decide) hstart hparse⟩
  exact absurd hle (by decide)

end Scanner
end LanDiscovery
