import LanDiscovery.Scanner.MdnsProbePlanner
import LanDiscovery.Scanner.PacketInterpreter
import LanDiscovery.Scanner.QueryBuilder

/-!
# The names that probes ask for

A name that is advertised comes as labels, is turned into a dotted text, and goes out
as labels again.  The labels that are asked for are those of the target when none of
them has a dot in it, and the name is a valid one when the target is not too long
(`probe_asks_for_target_iff`).
-/

namespace LanDiscovery
namespace Scanner

open Library Library.Outcome Library.Segments Library.Utf8 MdnsNames

/-- `DnsClass::IN`. -/
def classIn : UInt16 := 1

/-- What a query asks for a request, with the name on the wire. -/
def Emits (req : MdnsProbeRequest) (qname : Bytes) : Prop :=
  ∀ builder : QueryBuilder, (builder.addQuestion req.qname req.qtype classIn).buffer =
    builder.buffer ++ qname ++ QueryBuilder.fieldOctets req.qtype ++
      QueryBuilder.fieldOctets classIn

/-- A name of labels of 1 to 63 octets that takes 255 octets at most. -/
structure ValidName (labels : List Bytes) : Prop where
  nonempty : ∀ label ∈ labels, 1 ≤ label.length
  short : ∀ label ∈ labels, label.length ≤ 63
  size : (wireName labels).length ≤ 255

/-- The labels of the target have no dots in them, and fit a name. -/
def Askable (labels : List Bytes) : Prop :=
  (∀ label ∈ labels, dot ∉ label) ∧ (wireName labels).length ≤ 255

instance (labels : List Bytes) : Decidable (Askable labels) :=
  inferInstanceAs (Decidable (_ ∧ _))

/-! ## The target -/

theorem NameAt.label_length {buf : Bytes} {pos : Nat} {labels : List Bytes} {next : Nat}
    (h : NameAt buf pos labels next) : ∀ label ∈ labels, 1 ≤ label.length ∧ label.length ≤ 63 := by
  induction h with
  | terminator => simp
  | label hlabel rest ih =>
      intro l hl
      rcases List.mem_cons.mp hl with rfl | hrest
      · exact ⟨hlabel.1, hlabel.2.1⟩
      · exact ih l hrest
  | pointer hpointer rest ih => exact ih

/-- Labels on the wire are separated by their lengths. -/
theorem wireName_injective {labels labels' : List Bytes}
    (hlabels : ∀ l ∈ labels, 1 ≤ l.length ∧ l.length ≤ 63)
    (hlabels' : ∀ l ∈ labels', 1 ≤ l.length ∧ l.length ≤ 63)
    (h : wireName labels = wireName labels') : labels = labels' := by
  induction labels generalizing labels' with
  | nil =>
      cases labels' with
      | nil => rfl
      | cons l' labels' =>
          obtain ⟨hpos, hle⟩ := hlabels' l' (by simp)
          exact absurd (List.cons.inj h).1.symm (length_label_ne_terminator hpos hle)
  | cons l labels ih =>
      obtain ⟨hpos, hle⟩ := hlabels l (by simp)
      cases labels' with
      | nil => exact absurd (List.cons.inj h).1 (length_label_ne_terminator hpos hle)
      | cons l' labels' =>
          obtain ⟨hpos', hle'⟩ := hlabels' l' (by simp)
          obtain ⟨hlength, hrest⟩ := List.cons.inj h
          have hnat := congrArg UInt8.toNat hlength
          rw [toNat_length_label hle, toNat_length_label hle'] at hnat
          obtain ⟨rfl, htail⟩ := List.append_inj (by simpa using hrest) hnat
          rw [ih (fun l hl => hlabels l (by simp [hl])) (fun l hl => hlabels' l (by simp [hl]))
            htail]

/-- The records that are asked for: PTR records that name a service type or an
instance. -/
theorem probeBatch_eq_some {rec : ResourceRecordView} {batch : List MdnsProbeRequest}
    (h : probeBatch rec = some batch) :
    rec.type = typePtr ∧ (Text.find? (ascii "(malformed") rec.rdataText).isSome = false ∧
      (isServiceTypeName rec.rdataText || isInstanceName rec.rdataText) = true ∧
      ∀ req ∈ batch, req.qname = rec.rdataText := by
  unfold probeBatch at h
  split_ifs at h with htype hempty hmalformed hmeta hinstance
  · obtain rfl := Option.some.inj h
    obtain ⟨-, hname⟩ := (Bool.and_eq_true ..).mp hmeta
    exact ⟨not_not.mp htype, by simpa using hmalformed, by simp [hname], by simp⟩
  · obtain rfl := Option.some.inj h
    obtain ⟨-, hname⟩ := (Bool.and_eq_true ..).mp hinstance
    exact ⟨not_not.mp htype, by simpa using hmalformed, by simp [hname], by simp⟩

theorem rdataText_ptr {rr : MdnsResourceRecord} (htype : rr.type = typePtr) (packet : Bytes) :
    rdataText rr packet = ascii "(empty PTR record)" ∨
    rdataText rr packet = ascii "(malformed PTR record)" ∨
    ∃ labels next, NameAt packet rr.rdataOffset labels next ∧
      rdataText rr packet = dotted labels := by
  have hstr : rdataStr rr packet =
      formatPtr { message := packet, rdataOffset := rr.rdataOffset, rdata := rr.rdata } := by
    rw [rdataStr, htype]
    rfl
  unfold rdataText
  rw [hstr, formatPtr]
  split_ifs with hempty hmessage
  · exact Or.inl rfl
  · exact Or.inr (Or.inl rfl)
  · cases hparse : parseQname packet rr.rdataOffset with
    | ok result =>
        obtain ⟨labels, hname, hjoined⟩ := parseQname_eq_ok_iff.mp hparse
        exact Or.inr (Or.inr ⟨labels, result.2, hname, hjoined⟩)
    | error fault =>
        obtain ⟨what, rfl⟩ := parseQname_failsOnly packet rr.rdataOffset fault hparse
        exact Or.inr (Or.inl rfl)

/-- The text of a record that is asked for is the name of its target. -/
theorem rdataText_of_probeBatch {packet : Bytes} {nowMs : UInt64} {rr : MdnsResourceRecord}
    {batch : List MdnsProbeRequest} (h : probeBatch (recordView packet nowMs rr) = some batch) :
    ∃ labels next, NameAt packet rr.rdataOffset labels next ∧
      rdataText rr packet = dotted labels := by
  obtain ⟨htype, hformed, hname, -⟩ := probeBatch_eq_some h
  change (Text.find? (ascii "(malformed") (rdataText rr packet)).isSome = false at hformed
  change (isServiceTypeName (rdataText rr packet) ||
    isInstanceName (rdataText rr packet)) = true at hname
  rcases rdataText_ptr htype packet with hempty | hmalformed | htarget
  · rw [hempty] at hname
    exact absurd hname (by decide)
  · rw [hmalformed] at hformed
    exact absurd hformed (by decide)
  · exact htarget

/-! ## The question -/

theorem emits_iff {req : MdnsProbeRequest} {qname : Bytes} :
    Emits req qname ↔ qname = wireName (segments dot req.qname) := by
  have hquestion : ∀ builder : QueryBuilder,
      (builder.addQuestion req.qname req.qtype classIn).buffer =
        builder.buffer ++ wireName (segments dot req.qname) ++
          QueryBuilder.fieldOctets req.qtype ++ QueryBuilder.fieldOctets classIn := by
    intro builder
    rw [QueryBuilder.addQuestion_eq builder ⟨req.qname, req.qtype, classIn⟩]
    simp only [wireQuestion, List.append_assoc]
  constructor
  · intro h
    have heq := (h (.new 0)).symm.trans (hquestion (.new 0))
    simp only [List.append_assoc, List.append_cancel_left_eq] at heq
    exact List.append_cancel_right heq
  · rintro rfl
    exact hquestion

/-- The segments of the dotted text are the labels when these have no dots. -/
theorem emits_wireName_iff {labels : List Bytes} {req : MdnsProbeRequest}
    (hlabels : ∀ l ∈ labels, 1 ≤ l.length ∧ l.length ≤ 63) (hqname : req.qname = dotted labels) :
    Emits req (wireName labels) ↔ ∀ label ∈ labels, dot ∉ label := by
  have hne : ∀ l ∈ labels, l ≠ [] := fun l hl => List.length_pos_iff.mp (hlabels l hl).1
  rw [emits_iff, hqname, ← segments_intercalate_eq_self_iff hne]
  constructor
  · intro h
    refine (wireName_injective hlabels ?_ h).symm
    intro segment hsegment
    refine ⟨List.length_pos_iff.mpr (ne_nil_of_mem_segments hsegment), ?_⟩
    -- a segment is a part of a label
    rw [dotted, segments_intercalate] at hsegment
    obtain ⟨label, hlabel, hpart⟩ := List.mem_flatMap.mp hsegment
    exact (length_le_of_mem_segments hpart).trans (hlabels label hlabel).2
  · intro h
    rw [dotted, h]

/-- **What probes ask for.**  A record of a packet that is asked for has a target, and
each request for it asks for the labels of the target, as a valid name, exactly when
these have no dots in them and fit a name. -/
theorem probe_asks_for_target_iff (packet : Bytes) (nowMs : UInt64) (rr : MdnsResourceRecord)
    (batch : List MdnsProbeRequest)
    (hbatch : probeBatch (recordView packet nowMs rr) = some batch) :
    (∃ labels next, NameAt packet rr.rdataOffset labels next) ∧
    ∀ req ∈ batch, ∀ labels next, NameAt packet rr.rdataOffset labels next →
      (Emits req (wireName labels) ∧ ValidName labels ↔ Askable labels) := by
  obtain ⟨labels, next, hname, htext⟩ := rdataText_of_probeBatch hbatch
  refine ⟨⟨labels, next, hname⟩, fun req hreq labels' next' hname' => ?_⟩
  have hqname : req.qname = dotted labels' := by
    rw [(probeBatch_eq_some hbatch).2.2.2 req hreq]
    change rdataText rr packet = dotted labels'
    have hparse := parseQname_eq_ok_iff.mpr ⟨labels, hname, rfl⟩
    have hparse' := parseQname_eq_ok_iff.mpr ⟨labels', hname', rfl⟩
    rw [htext]
    exact (Prod.mk.inj (Except.ok.inj (hparse.symm.trans hparse'))).1
  have hlabels := hname'.label_length
  rw [emits_wireName_iff hlabels hqname, Askable]
  refine and_congr_right fun _ => ⟨ValidName.size, fun hsize => ?_⟩
  exact ⟨fun l hl => (hlabels l hl).1, fun l hl => (hlabels l hl).2, hsize⟩

/-! ### An instance with a dot in its name -/

/-- A response with one PTR record, from `_x._tcp.local` to the given labels. -/
def instancePacket (target : List Bytes) : Bytes :=
  [0, 0, 132, 0, 0, 0, 0, 1, 0, 0, 0, 0] ++
    wireName [ascii "_x", ascii "_tcp", ascii "local"] ++
    [0, 12, 0, 1, 0, 0, 0, 120, 0, UInt8.ofNat (wireName target).length] ++ wireName target

/-- The record of such a packet. -/
def instanceRecord (target : List Bytes) : MdnsResourceRecord where
  name := ascii "_x._tcp.local"
  type := typePtr
  classCode := classIn
  ttl := 120
  rdata := wireName target
  rdataOffset := 37

theorem nameAt_instancePacket {target : List Bytes} (hne : ∀ l ∈ target, l ≠ [])
    (hshort : ∀ l ∈ target, l.length ≤ 63) :
    NameAt (instancePacket target) (instanceRecord target).rdataOffset target
      (37 + (wireName target).length) := by
  have hname := nameAt_wireName ([0, 0, 132, 0, 0, 0, 0, 1, 0, 0, 0, 0] ++
    wireName [ascii "_x", ascii "_tcp", ascii "local"] ++
    [0, 12, 0, 1, 0, 0, 0, 120, 0, UInt8.ofNat (wireName target).length]) [] hne hshort
  rw [List.append_nil] at hname
  exact hname

/-- The labels of `tv._x._tcp.local`. -/
def plainTarget : List Bytes :=
  [ascii "tv", ascii "_x", ascii "_tcp", ascii "local"]

/-- The labels of an instance with the name `a.b`. -/
def dottedTarget : List Bytes :=
  [ascii "a.b", ascii "_x", ascii "_tcp", ascii "local"]

/-- The requests for a record of such a packet. -/
def instanceRequests (target : List Bytes) : List MdnsProbeRequest :=
  [⟨dotted target, typeSrv⟩, ⟨dotted target, typeTxt⟩]

/-- A plain instance is asked for by its labels. -/
theorem plainInstance_asked :
    Emits ⟨dotted plainTarget, typeSrv⟩ (wireName plainTarget) ∧
      Emits ⟨dotted plainTarget, typeTxt⟩ (wireName plainTarget) ∧ ValidName plainTarget := by
  have hiff := (probe_asks_for_target_iff (instancePacket plainTarget) 1
    (instanceRecord plainTarget) (instanceRequests plainTarget) (by decide +kernel)).2
  have hname : NameAt (instancePacket plainTarget) (instanceRecord plainTarget).rdataOffset
      plainTarget (37 + (wireName plainTarget).length) :=
    nameAt_instancePacket (by decide) (by decide)
  have hsrv := (hiff ⟨dotted plainTarget, typeSrv⟩ (by decide) plainTarget _ hname).mpr (by decide)
  have htxt := (hiff ⟨dotted plainTarget, typeTxt⟩ (by decide) plainTarget _ hname).mpr (by decide)
  exact ⟨hsrv.1, htxt.1, hsrv.2⟩

/-- The instance with a dot in its name is asked for by other labels. -/
theorem dottedInstance_not_asked :
    ¬ ∀ (packet : Bytes) (msg : MdnsParsedMessage) (nowMs : UInt64),
      decodePacket packet = .ok msg → ∀ rr ∈ sectionRecords msg,
        ∀ batch ∈ probeBatch (recordView packet nowMs rr), ∀ req ∈ batch,
          ∀ labels next, NameAt packet rr.rdataOffset labels next →
            Emits req (wireName labels) ∧ ValidName labels := by
  intro h
  have hdecode : decodePacket (instancePacket dottedTarget) =
      .ok { header := ⟨0, 0x8400, 0, 1, 0, 0⟩, questions := [],
            answers := [instanceRecord dottedTarget], authorities := [], additionals := [] } := by
    decide +kernel
  have hemits := (h _ _ 1 hdecode (instanceRecord dottedTarget) (by decide)
    (instanceRequests dottedTarget) (by decide +kernel)
    ⟨dotted dottedTarget, typeSrv⟩ (by decide) dottedTarget _
    (nameAt_instancePacket (by decide) (by decide))).1
  rw [emits_iff] at hemits
  revert hemits
  decide +kernel

end Scanner
end LanDiscovery
