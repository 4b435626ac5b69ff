import LanDiscovery.Scanner.Wire

/-!
# The message decoder

`MdnsMessageDecoder` and `parse_questions`: a header followed by four counted
sections that share one moving cursor.

The abstract side of this file is `MessageLayout`, the wire format stated
without any cursor: every item of a section occupies an interval of the buffer
and the intervals are laid out back to back from offset 12.  Each reader below
is shown to succeed exactly on its layout, so `decode` returns a message exactly
when the buffer starts with the layout of that message.  Octets behind the last
record are not looked at, neither by the code nor by the layout.
-/

namespace LanDiscovery
namespace Scanner

open Library Library.Outcome

/-- `MdnsHeaderInfo`. -/
structure MdnsHeaderInfo where
  transactionId : UInt16
  flags : UInt16
  questions : UInt16
  answerRrs : UInt16
  authorityRrs : UInt16
  additionalRrs : UInt16
  deriving DecidableEq, Repr

/-- `MdnsQuestion`. -/
structure MdnsQuestion where
  name : Bytes
  type : UInt16
  classCode : UInt16
  deriving DecidableEq, Repr

/-- `MdnsResourceRecord`. -/
structure MdnsResourceRecord where
  name : Bytes
  type : UInt16
  classCode : UInt16
  ttl : UInt32
  rdata : Bytes
  rdataOffset : Nat
  deriving DecidableEq, Repr

/-- `MdnsParsedMessage`. -/
structure MdnsParsedMessage where
  header : MdnsHeaderInfo
  questions : List MdnsQuestion
  answers : List MdnsResourceRecord
  authorities : List MdnsResourceRecord
  additionals : List MdnsResourceRecord
  deriving DecidableEq, Repr

/-- `from_dns_header`. -/
def fromDnsHeader (h : DnsHeaderHost) : MdnsHeaderInfo where
  transactionId := h.transactionId
  flags := h.flags
  questions := h.questions
  answerRrs := h.answerRrs
  authorityRrs := h.authorityRrs
  additionalRrs := h.additionalRrs

/-- The body of the loop of `parse_questions`. -/
def parseQuestion (buf : Bytes) (pos : Nat) : Except Fault (MdnsQuestion × Nat) :=
  if pos ≥ buf.length then
    throw (.invalidArgument "Questions truncated at buffer end")
  else do
    let (name, pos) ← parseQname buf pos
    ensureReadable pos 2 buf.length "Question TYPE field"
    let type ← readU16Be buf pos
    let pos := pos + 2
    ensureReadable pos 2 buf.length "Question CLASS field"
    let classCode ← readU16Be buf pos
    let pos := pos + 2
    return ({ name, type, classCode }, pos)

/-- `parse_questions`. -/
def parseQuestions (buf : Bytes) (offset : Nat) (count : UInt16) :
    Except Fault (List MdnsQuestion × Nat) :=
  readMany (parseQuestion buf) count.toNat offset

/-- `MdnsMessageDecoder::parse_record_impl`. -/
def parseRecordImpl (buf : Bytes) (pos : Nat) :
    Except Fault (MdnsResourceRecord × Nat) :=
  if pos ≥ buf.length then
    throw (.invalidArgument "Resource record offset out of bounds")
  else do
    let (name, pos) ← parseQname buf pos
    ensureReadable pos 2 buf.length "RR TYPE field"
    let type ← readU16Be buf pos
    let pos := pos + 2
    ensureReadable pos 2 buf.length "RR CLASS field"
    let classCode ← readU16Be buf pos
    let pos := pos + 2
    ensureReadable pos 4 buf.length "RR TTL field"
    let ttl ← readU32Be buf pos
    let pos := pos + 4
    ensureReadable pos 2 buf.length "RR RDLENGTH field"
    let rdlength ← readU16Be buf pos
    let pos := pos + 2
    ensureReadable pos rdlength.toNat buf.length "RR RDATA"
    let rdataOffset := pos
    let rdata ← readSlice buf pos rdlength.toNat
    let pos := pos + rdlength.toNat
    return ({ name, type, classCode, ttl, rdata, rdataOffset }, pos)

/-- `MdnsMessageDecoder::parse_record_section`. -/
def parseRecordSection (buf : Bytes) (count : UInt16) (pos : Nat) :
    Except Fault (List MdnsResourceRecord × Nat) :=
  readMany (parseRecordImpl buf) count.toNat pos

/-- The `if (header.questions > 0)` block of `decode`. -/
def parseQuestionSection (buf : Bytes) (count : UInt16) (pos : Nat) :
    Except Fault (List MdnsQuestion × Nat) :=
  if count > 0 then parseQuestions buf pos count else return ([], pos)

/-- `MdnsMessageDecoder::decode` (also `parse_full_message`). -/
def decode (buf : Bytes) : Except Fault MdnsParsedMessage := do
  let header := fromDnsHeader (← parseDnsHeader buf)
  let pos := 12
  let (questions, pos) ← parseQuestionSection buf header.questions pos
  let (answers, pos) ← parseRecordSection buf header.answerRrs pos
  let (authorities, pos) ← parseRecordSection buf header.authorityRrs pos
  let (additionals, _) ← parseRecordSection buf header.additionalRrs pos
  return { header, questions, answers, authorities, additionals }

/-! ## The wire format -/

/-- The 12-octet header with the given field values. -/
structure HeaderLayout (buf : Bytes) (h : MdnsHeaderInfo) : Prop where
  transactionId : BigEndianAt buf 0 2 h.transactionId.toNat
  flags : BigEndianAt buf 2 2 h.flags.toNat
  questions : BigEndianAt buf 4 2 h.questions.toNat
  answerRrs : BigEndianAt buf 6 2 h.answerRrs.toNat
  authorityRrs : BigEndianAt buf 8 2 h.authorityRrs.toNat
  additionalRrs : BigEndianAt buf 10 2 h.additionalRrs.toNat

/-- A question occupying `[start, stop)`: a name, a type and a class. -/
def QuestionLayout (buf : Bytes) (start : Nat) (q : MdnsQuestion) (stop : Nat) : Prop :=
  ∃ fields, parseQname buf start = .ok (q.name, fields) ∧
    BigEndianAt buf fields 2 q.type.toNat ∧
    BigEndianAt buf (fields + 2) 2 q.classCode.toNat ∧
    stop = fields + 4

/-- A resource record occupying `[start, stop)`: a name, the fixed fields, and
`rdlength` octets of RDATA that end the record. -/
def RecordLayout (buf : Bytes) (start : Nat) (rr : MdnsResourceRecord) (stop : Nat) : Prop :=
  ∃ fields rdlength, parseQname buf start = .ok (rr.name, fields) ∧
    BigEndianAt buf fields 2 rr.type.toNat ∧
    BigEndianAt buf (fields + 2) 2 rr.classCode.toNat ∧
    BigEndianAt buf (fields + 4) 4 rr.ttl.toNat ∧
    BigEndianAt buf (fields + 8) 2 rdlength ∧
    rr.rdataOffset = fields + 10 ∧
    rr.rdataOffset + rdlength ≤ buf.length ∧
    rr.rdata = (buf.drop rr.rdataOffset).take rdlength ∧
    stop = rr.rdataOffset + rdlength

/-- The whole message: the header, then four sections back to back from offset
12, each with exactly the number of items that the header announces. -/
structure MessageLayout (buf : Bytes) (msg : MdnsParsedMessage) : Prop where
  header : HeaderLayout buf msg.header
  questionCount : msg.questions.length = msg.header.questions.toNat
  answerCount : msg.answers.length = msg.header.answerRrs.toNat
  authorityCount : msg.authorities.length = msg.header.authorityRrs.toNat
  additionalCount : msg.additionals.length = msg.header.additionalRrs.toNat
  sections : ∃ answers authorities additionals stop,
    BackToBack (QuestionLayout buf) 12 msg.questions answers ∧
    BackToBack (RecordLayout buf) answers msg.answers authorities ∧
    BackToBack (RecordLayout buf) authorities msg.authorities additionals ∧
    BackToBack (RecordLayout buf) additionals msg.additionals stop

theorem bigEndianAt_le {buf : Bytes} {offset width value : Nat}
    (h : BigEndianAt buf offset width value) : offset + width ≤ buf.length := h.1

/-! ## Every reader succeeds exactly on its layout -/

theorem parseDnsHeader_eq_ok_iff (buf : Bytes) (h : DnsHeaderHost) :
    parseDnsHeader buf = .ok h ↔ HeaderLayout buf (fromDnsHeader h) := by
  by_cases hlen : buf.length < kHeaderSize
  · constructor
    · intro hparse
      simp [parseDnsHeader, hlen] at hparse
    · intro hlayout
      have hlast := bigEndianAt_le hlayout.additionalRrs
      simp only [kHeaderSize] at hlen
      omega
  · simp only [kHeaderSize] at hlen
    constructor
    · intro hparse
      simp only [parseDnsHeader, kHeaderSize, hlen, if_false, pure_eq_ok,
        bind_eq_ok_iff, Except.ok.injEq] at hparse
      obtain ⟨tid, htid, flags, hflags, qd, hqd, an, han, ns, hns, ar, har, rfl⟩ := hparse
      exact {
        transactionId := (readU16Be_eq_ok_iff (by omega) _).mp htid
        flags := (readU16Be_eq_ok_iff (by omega) _).mp hflags
        questions := (readU16Be_eq_ok_iff (by omega) _).mp hqd
        answerRrs := (readU16Be_eq_ok_iff (by omega) _).mp han
        authorityRrs := (readU16Be_eq_ok_iff (by omega) _).mp hns
        additionalRrs := (readU16Be_eq_ok_iff (by omega) _).mp har }
    · intro hlayout
      have htid := (readU16Be_eq_ok_iff (by omega) _).mpr hlayout.transactionId
      have hflags := (readU16Be_eq_ok_iff (by omega) _).mpr hlayout.flags
      have hqd := (readU16Be_eq_ok_iff (by omega) _).mpr hlayout.questions
      have han := (readU16Be_eq_ok_iff (by omega) _).mpr hlayout.answerRrs
      have hns := (readU16Be_eq_ok_iff (by omega) _).mpr hlayout.authorityRrs
      have har := (readU16Be_eq_ok_iff (by omega) _).mpr hlayout.additionalRrs
      simp [parseDnsHeader, kHeaderSize, hlen, htid, hflags, hqd, han, hns, har,
        fromDnsHeader]

/-- A checked field: the bounds check and the read together succeed exactly when the
field is there. -/
theorem checked_eq_ok_iff {α β : Type} {buf : Bytes} {pos width : Nat} {read : Except Fault α}
    {value : α → Nat}
    (hread : pos + width ≤ buf.length → ∀ v, read = .ok v ↔ BigEndianAt buf pos width (value v))
    (field : String) (rest : α → Except Fault β) (b : β) :
    (do ensureReadable pos width buf.length field; rest (← read)) = .ok b ↔
      ∃ v, BigEndianAt buf pos width (value v) ∧ rest v = .ok b := by
  constructor
  · intro h
    obtain ⟨u, hcheck, h⟩ := bind_eq_ok_iff.mp h
    obtain ⟨v, hvalue, hrest⟩ := bind_eq_ok_iff.mp h
    have hle := (ensureReadable_eq_ok_iff _ _ _ _ _).mp hcheck
    exact ⟨v, (hread hle v).mp hvalue, hrest⟩
  · intro h
    obtain ⟨v, hfield, hrest⟩ := h
    have hle := bigEndianAt_le hfield
    have hcheck := (ensureReadable_eq_ok_iff pos width buf.length field ()).mpr hle
    have hvalue := (hread hle v).mpr hfield
    simp [hcheck, hvalue, hrest]

theorem checkedU16_eq_ok_iff {β : Type} (buf : Bytes) (pos : Nat) (field : String)
    (rest : UInt16 → Except Fault β) (b : β) :
    (do ensureReadable pos 2 buf.length field; rest (← readU16Be buf pos)) = .ok b ↔
      ∃ v : UInt16, BigEndianAt buf pos 2 v.toNat ∧ rest v = .ok b :=
  checked_eq_ok_iff readU16Be_eq_ok_iff field rest b

theorem checkedU32_eq_ok_iff {β : Type} (buf : Bytes) (pos : Nat) (field : String)
    (rest : UInt32 → Except Fault β) (b : β) :
    (do ensureReadable pos 4 buf.length field; rest (← readU32Be buf pos)) = .ok b ↔
      ∃ v : UInt32, BigEndianAt buf pos 4 v.toNat ∧ rest v = .ok b :=
  checked_eq_ok_iff readU32Be_eq_ok_iff field rest b

theorem parseQuestion_eq_ok_iff (buf : Bytes) (start stop : Nat) (q : MdnsQuestion) :
    parseQuestion buf start = .ok (q, stop) ↔ QuestionLayout buf start q stop := by
  constructor
  · intro h
    obtain ⟨_, h⟩ := guard_eq_ok_iff.mp h
    obtain ⟨⟨name, fields⟩, hname, h⟩ := bind_eq_ok_iff.mp h
    obtain ⟨type, htype, h⟩ := (checkedU16_eq_ok_iff _ _ _ _ _).mp h
    obtain ⟨cls, hcls, h⟩ := (checkedU16_eq_ok_iff _ _ _ _ _).mp h
    obtain ⟨rfl, rfl⟩ := Prod.mk.inj (Except.ok.inj h)
    exact ⟨fields, hname, htype, hcls, by omega⟩
  · rintro ⟨fields, hname, htype, hcls, rfl⟩
    have hin := lt_of_parseQname_eq_ok hname
    unfold parseQuestion
    rw [if_neg (by omega), hname, ok_bind]
    refine (checkedU16_eq_ok_iff _ _ _ _ _).mpr ⟨q.type, htype, ?_⟩
    exact (checkedU16_eq_ok_iff _ _ _ _ _).mpr ⟨q.classCode, hcls, rfl⟩

theorem parseRecordImpl_eq_ok_iff (buf : Bytes) (start stop : Nat)
    (rr : MdnsResourceRecord) :
    parseRecordImpl buf start = .ok (rr, stop) ↔ RecordLayout buf start rr stop := by
  constructor
  · intro h
    obtain ⟨_, h⟩ := guard_eq_ok_iff.mp h
    obtain ⟨⟨name, fields⟩, hname, h⟩ := bind_eq_ok_iff.mp h
    obtain ⟨type, htype, h⟩ := (checkedU16_eq_ok_iff _ _ _ _ _).mp h
    obtain ⟨cls, hcls, h⟩ := (checkedU16_eq_ok_iff _ _ _ _ _).mp h
    obtain ⟨ttl, httl, h⟩ := (checkedU32_eq_ok_iff _ _ _ _ _).mp h
    obtain ⟨rdlength, hlen, h⟩ := (checkedU16_eq_ok_iff _ _ _ _ _).mp h
    obtain ⟨_, hcheck, h⟩ := bind_eq_ok_iff.mp h
    have hfit := (ensureReadable_eq_ok_iff _ _ _ _ _).mp hcheck
    dsimp only at h hfit
    rw [readSlice_of_le hfit, ok_bind] at h
    obtain ⟨rfl, rfl⟩ := Prod.mk.inj (Except.ok.inj h)
    exact ⟨fields, rdlength.toNat, hname, htype, hcls, httl, hlen, rfl, hfit, rfl, rfl⟩
  · rintro ⟨fields, rdlength, hname, htype, hcls, httl, hlen, hoff, hfit, hrdata, rfl⟩
    have hin := lt_of_parseQname_eq_ok hname
    -- the layout names the length as a number, the decoder reads it as a field
    obtain ⟨v, hread, hval⟩ := readU16Be_of_le (bigEndianAt_le hlen)
    have hv : v.toNat = rdlength := hval.trans hlen.2
    unfold parseRecordImpl
    rw [if_neg (by omega), hname, ok_bind]
    refine (checkedU16_eq_ok_iff _ _ _ _ _).mpr ⟨rr.type, htype, ?_⟩
    refine (checkedU16_eq_ok_iff _ _ _ _ _).mpr ⟨rr.classCode, hcls, ?_⟩
    refine (checkedU32_eq_ok_iff _ _ _ _ _).mpr ⟨rr.ttl, httl, ?_⟩
    refine (checkedU16_eq_ok_iff _ _ _ _ _).mpr ⟨v, by rw [hv]; exact hlen, ?_⟩
    dsimp only
    rw [hv, show fields + 2 + 2 + 4 + 2 = rr.rdataOffset by omega,
      (ensureReadable_eq_ok_iff _ _ _ _ ()).mpr hfit, ok_bind, readSlice_of_le hfit, ok_bind,
      ← hrdata]
    rfl

/-- The guard on the question count only skips an empty loop. -/
theorem parseQuestionSection_eq (buf : Bytes) (count : UInt16) (pos : Nat) :
    parseQuestionSection buf count pos = readMany (parseQuestion buf) count.toNat pos := by
  unfold parseQuestionSection
  split
  · rfl
  · next hzero =>
      have hcount : count.toNat = 0 := by
        have := UInt16.not_lt.mp hzero
        have := UInt16.le_iff_toNat_le.mp this
        simpa using this
      simp [hcount, readMany]

/-! ## Failures -/

theorem parseDnsHeader_failsOnly (buf : Bytes) :
    FailsOnly IsInvalidArgument (parseDnsHeader buf) := by
  unfold parseDnsHeader
  split
  · exact FailsOnly.error (isInvalidArgument_mk _)
  · next hlen =>
      simp only [kHeaderSize] at hlen
      refine (readU16Be_failsOnly (by omega)).bind fun _ _ => ?_
      refine (readU16Be_failsOnly (by omega)).bind fun _ _ => ?_
      refine (readU16Be_failsOnly (by omega)).bind fun _ _ => ?_
      refine (readU16Be_failsOnly (by omega)).bind fun _ _ => ?_
      refine (readU16Be_failsOnly (by omega)).bind fun _ _ => ?_
      refine (readU16Be_failsOnly (by omega)).bind fun _ _ => ?_
      exact FailsOnly.ok _

/-- A read behind its own bounds check cannot leave the buffer. -/
theorem checked_failsOnly {α β : Type} {buf : Bytes} {pos n : Nat} {field : String}
    {read : Except Fault α} {rest : α → Except Fault β}
    (hread : pos + n ≤ buf.length → FailsOnly IsInvalidArgument read)
    (hrest : ∀ a, FailsOnly IsInvalidArgument (rest a)) :
    FailsOnly IsInvalidArgument
      (do ensureReadable pos n buf.length field; rest (← read)) := by
  refine (ensureReadable_failsOnly _ _ _ _).bind fun u hcheck => ?_
  have hle := (ensureReadable_eq_ok_iff _ _ _ _ u).mp hcheck
  exact (hread hle).bind fun a _ => hrest a

theorem parseQuestion_failsOnly (buf : Bytes) (pos : Nat) :
    FailsOnly IsInvalidArgument (parseQuestion buf pos) := by
  unfold parseQuestion
  split
  · exact FailsOnly.error (isInvalidArgument_mk _)
  · refine (parseQname_failsOnly _ _).bind fun p _ => ?_
    refine checked_failsOnly readU16Be_failsOnly fun _ => ?_
    refine checked_failsOnly readU16Be_failsOnly fun _ => ?_
    exact FailsOnly.ok _

theorem parseRecordImpl_failsOnly (buf : Bytes) (pos : Nat) :
    FailsOnly IsInvalidArgument (parseRecordImpl buf pos) := by
  unfold parseRecordImpl
  split
  · exact FailsOnly.error (isInvalidArgument_mk _)
  · refine (parseQname_failsOnly _ _).bind fun p _ => ?_
    refine checked_failsOnly readU16Be_failsOnly fun _ => ?_
    refine checked_failsOnly readU16Be_failsOnly fun _ => ?_
    refine checked_failsOnly readU32Be_failsOnly fun _ => ?_
    refine checked_failsOnly readU16Be_failsOnly fun _ => ?_
    refine checked_failsOnly readSlice_failsOnly fun _ => ?_
    exact FailsOnly.ok _

/-- No input makes the decoder read outside its buffer. -/
theorem decode_failsOnly (buf : Bytes) :
    FailsOnly IsInvalidArgument (decode buf) := by
  unfold decode
  simp only [parseQuestionSection_eq]
  refine (parseDnsHeader_failsOnly buf).bind fun h _ => ?_
  refine (readMany_failsOnly (parseQuestion_failsOnly buf) _ _).bind fun p _ => ?_
  refine (readMany_failsOnly (parseRecordImpl_failsOnly buf) _ _).bind fun p _ => ?_
  refine (readMany_failsOnly (parseRecordImpl_failsOnly buf) _ _).bind fun p _ => ?_
  refine (readMany_failsOnly (parseRecordImpl_failsOnly buf) _ _).bind fun p _ => ?_
  exact FailsOnly.ok _

theorem decode_eq_ok_iff (buf : Bytes) (msg : MdnsParsedMessage) :
    decode buf = .ok msg ↔ MessageLayout buf msg := by
  constructor
  · intro h
    obtain ⟨host, hhost, h⟩ := bind_eq_ok_iff.mp h
    obtain ⟨⟨questions, p₁⟩, hq, h⟩ := bind_eq_ok_iff.mp h
    rw [parseQuestionSection_eq] at hq
    obtain ⟨⟨answers, p₂⟩, han, h⟩ := bind_eq_ok_iff.mp h
    obtain ⟨⟨authorities, p₃⟩, hns, h⟩ := bind_eq_ok_iff.mp h
    obtain ⟨⟨additionals, p₄⟩, har, h⟩ := bind_eq_ok_iff.mp h
    obtain rfl := Except.ok.inj h
    have hquestion := parseQuestion_eq_ok_iff buf
    have hrecord := parseRecordImpl_eq_ok_iff buf
    obtain ⟨hqlen, hqs⟩ :=
      (readMany_eq_ok_iff (fun s a e => hquestion s e a) _ _ _ _).mp hq
    obtain ⟨hanlen, hans⟩ :=
      (readMany_eq_ok_iff (fun s a e => hrecord s e a) _ _ _ _).mp han
    obtain ⟨hnslen, hnss⟩ :=
      (readMany_eq_ok_iff (fun s a e => hrecord s e a) _ _ _ _).mp hns
    obtain ⟨harlen, hars⟩ :=
      (readMany_eq_ok_iff (fun s a e => hrecord s e a) _ _ _ _).mp har
    -- the sections are back to back because each loop starts where the last one ended
    exact {
      header := (parseDnsHeader_eq_ok_iff buf host).mp hhost
      questionCount := hqlen
      answerCount := hanlen
      authorityCount := hnslen
      additionalCount := harlen
      sections := ⟨p₁, p₂, p₃, p₄, hqs, hans, hnss, hars⟩ }
  · rintro ⟨hheader, hqlen, hanlen, hnslen, harlen, p₁, p₂, p₃, p₄, hqs, hans, hnss, hars⟩
    obtain ⟨header, questions, answers, authorities, additionals⟩ := msg
    dsimp only at *
    obtain ⟨host, rfl⟩ : ∃ host, fromDnsHeader host = header :=
      ⟨⟨header.transactionId, header.flags, header.questions, header.answerRrs,
        header.authorityRrs, header.additionalRrs⟩, rfl⟩
    have hhost := (parseDnsHeader_eq_ok_iff buf host).mpr hheader
    have hquestion := parseQuestion_eq_ok_iff buf
    have hrecord := parseRecordImpl_eq_ok_iff buf
    have hq := (readMany_eq_ok_iff (fun s a e => hquestion s e a) _ _ _ _).mpr ⟨hqlen, hqs⟩
    have han := (readMany_eq_ok_iff (fun s a e => hrecord s e a) _ _ _ _).mpr ⟨hanlen, hans⟩
    have hns := (readMany_eq_ok_iff (fun s a e => hrecord s e a) _ _ _ _).mpr ⟨hnslen, hnss⟩
    have har := (readMany_eq_ok_iff (fun s a e => hrecord s e a) _ _ _ _).mpr ⟨harlen, hars⟩
    unfold decode
    simp only [parseQuestionSection_eq, parseRecordSection, hhost, hq, han, hns, har,
      ok_bind, pure_eq_ok]

/-- **The decoder recognises exactly the wire format.**  It returns `msg` if and
only if the buffer starts with the layout of `msg`; on a buffer that starts with
no layout it throws `invalid_argument`. -/
theorem decode_recognises_exactly_the_layouts (buf : Bytes) :
    (∀ msg, decode buf = .ok msg ↔ MessageLayout buf msg) ∧
    ((¬ ∃ msg, MessageLayout buf msg) →
      ∃ what, decode buf = .error (.invalidArgument what)) := by
  refine ⟨decode_eq_ok_iff buf, fun hnone => ?_⟩
  cases hdecode : decode buf with
  | ok msg => exact (hnone ⟨msg, (decode_eq_ok_iff buf msg).mp hdecode⟩).elim
  | error f =>
      obtain ⟨what, rfl⟩ := decode_failsOnly buf f hdecode
      exact ⟨what, rfl⟩

end Scanner
end LanDiscovery
