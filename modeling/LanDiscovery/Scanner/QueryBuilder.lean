import LanDiscovery.Library.Text
import LanDiscovery.Scanner.MessageDecoder
import LanDiscovery.Scanner.Qname

/-!
# Queries

`QueryBuilder.cpp`.  A query that is built is a message with its questions and
nothing else, and the decoder reads it back, each name without its empty segments
(`decode_build`).
-/

namespace LanDiscovery
namespace Scanner

open Library Library.Outcome Library.Segments

/-- `QueryBuilder`. -/
structure QueryBuilder where
  transactionId : UInt16
  questionCount : UInt16
  buffer : Bytes

namespace QueryBuilder

/-- The constructor: the octets of the header are zero so far. -/
def new (tid : UInt16) : QueryBuilder where
  transactionId := tid
  questionCount := 0
  buffer := List.replicate kHeaderSize 0

/-- `append_label`. -/
def appendLabel (builder : QueryBuilder) (label : Bytes) : QueryBuilder :=
  { builder with buffer := builder.buffer ++ wireLabel label }

/-- `name.find('.', pos)`. -/
def findDot (name : Bytes) (pos : Nat) : Option Nat :=
  (Text.find? [dot] (name.drop pos)).map (· + pos)

/-- The `while (pos < name.length())` loop of `add_question`.  The first argument
bounds the number of iterations, each of which moves `pos` forward. -/
def appendLabels (name : Bytes) : Nat → Nat → QueryBuilder → QueryBuilder
  | 0, _, builder => builder
  | budget + 1, pos, builder =>
      if pos < name.length then
        match findDot name pos with
        | none =>
            let label := name.drop pos
            if label.isEmpty then builder else builder.appendLabel label
        | some dotPos =>
            let label := (name.drop pos).take (dotPos - pos)
            appendLabels name budget (dotPos + 1)
              (if label.isEmpty then builder else builder.appendLabel label)
      else builder

/-- The two octets of a field, the more significant one first. -/
def fieldOctets (value : UInt16) : Bytes :=
  [(value >>> 8).toUInt8, (value &&& 0xFF).toUInt8]

/-- `add_question`. -/
def addQuestion (builder : QueryBuilder) (name : Bytes) (type classCode : UInt16) :
    QueryBuilder :=
  let builder := appendLabels name name.length 0 builder
  { builder with
    buffer := builder.buffer ++ [kQnameTerminator] ++ fieldOctets type ++ fieldOctets classCode
    questionCount := builder.questionCount + 1 }

/-- `build`: the octets of the header are filled in. -/
def build (builder : QueryBuilder) : Bytes :=
  let result := builder.buffer
  let result := result.set 0 (builder.transactionId >>> 8).toUInt8
  let result := result.set 1 (builder.transactionId &&& 0xFF).toUInt8
  let result := result.set 2 0x00
  let result := result.set 3 0x00
  let result := result.set 4 (builder.questionCount >>> 8).toUInt8
  let result := result.set 5 (builder.questionCount &&& 0xFF).toUInt8
  (List.range' 6 (kHeaderSize - 6)).foldl (fun result i => result.set i 0x00) result

end QueryBuilder

/-- The query that asks the questions. -/
def buildQuery (tid : UInt16) (questions : List MdnsQuestion) : Bytes :=
  (questions.foldl (fun builder q => builder.addQuestion q.name q.type q.classCode)
    (QueryBuilder.new tid)).build

/-! ## What is built -/

/-- A name on the wire: its labels and the terminator. -/
def wireName (labels : List Bytes) : Bytes :=
  labels.flatMap wireLabel ++ [kQnameTerminator]

/-- A question on the wire. -/
def wireQuestion (q : MdnsQuestion) : Bytes :=
  wireName (segments dot q.name) ++ QueryBuilder.fieldOctets q.type ++
    QueryBuilder.fieldOctets q.classCode

/-- The header of a query on the wire. -/
def wireHeader (tid count : UInt16) : Bytes :=
  QueryBuilder.fieldOctets tid ++ [0, 0] ++ QueryBuilder.fieldOctets count ++ [0, 0, 0, 0, 0, 0]

namespace QueryBuilder

theorem appendLabels_eq (name : Bytes) (budget pos : Nat) (builder : QueryBuilder)
    (h : name.length ≤ pos + budget) :
    appendLabels name budget pos builder =
      { builder with
        buffer := builder.buffer ++ (segments dot (name.drop pos)).flatMap wireLabel } := by
  have hlabel : ∀ (builder : QueryBuilder) (label : Bytes), dot ∉ label →
      (if label.isEmpty then builder else builder.appendLabel label) =
        { builder with
          buffer := builder.buffer ++ (segments dot label).flatMap wireLabel } := by
    intro builder label hdot
    by_cases hnil : label = []
    · simp [hnil]
    · simp [hnil, segments_of_notMem hdot hnil, appendLabel]
  -- each iteration takes the segment in front of the next dot
  induction budget generalizing pos builder with
  | zero =>
      have hend : name.drop pos = [] := List.drop_eq_nil_of_le h
      simp [appendLabels, hend]
  | succ budget ih =>
      rw [appendLabels]
      by_cases hpos : pos < name.length
      · rw [if_pos hpos, findDot]
        cases hfind : Text.find? [dot] (name.drop pos) with
        | none => exact hlabel builder _ (Text.find?_singleton_eq_none hfind)
        | some i =>
            obtain ⟨hbefore, hsplit⟩ := Text.find?_singleton_eq_some hfind
            have hrest : (name.drop pos).drop (i + 1) = name.drop (i + pos + 1) := by
              rw [List.drop_drop]
              congr 1
              omega
            dsimp only [Option.map_some]
            rw [ih _ _ (by omega), Nat.add_sub_cancel, hlabel builder _ hbefore]
            conv_rhs => rw [hsplit, segments_append_cons, hrest, List.flatMap_append]
            simp only [List.append_assoc]
      · rw [if_neg hpos]
        simp [List.drop_eq_nil_of_le (Nat.le_of_not_lt hpos)]

theorem addQuestion_eq (builder : QueryBuilder) (q : MdnsQuestion) :
    builder.addQuestion q.name q.type q.classCode =
      { builder with
        buffer := builder.buffer ++ wireQuestion q
        questionCount := builder.questionCount + 1 } := by
  rw [addQuestion, appendLabels_eq _ _ _ _ (by omega), List.drop_zero]
  simp only [wireQuestion, wireName, List.append_assoc]

/-- The octets that the builder writes behind the header. -/
theorem foldl_addQuestion (builder : QueryBuilder) (questions : List MdnsQuestion) :
    questions.foldl (fun builder q => builder.addQuestion q.name q.type q.classCode) builder =
      { builder with
        buffer := builder.buffer ++ questions.flatMap wireQuestion
        questionCount := builder.questionCount + UInt16.ofNat questions.length } := by
  induction questions generalizing builder with
  | nil => simp
  | cons q questions ih =>
      rw [List.foldl_cons, addQuestion_eq, ih]
      simp [UInt16.ofNat_add, UInt16.add_assoc, UInt16.add_comm]

end QueryBuilder

theorem buildQuery_eq (tid : UInt16) (questions : List MdnsQuestion) :
    buildQuery tid questions =
      wireHeader tid (UInt16.ofNat questions.length) ++ questions.flatMap wireQuestion := by
  rw [buildQuery, QueryBuilder.foldl_addQuestion]
  simp only [QueryBuilder.new, UInt16.zero_add]
  rfl

/-! ## What is read back -/

theorem toNat_shiftRight_eight (v : UInt16) : (v >>> 8).toUInt8.toNat = v.toNat / 256 := by
  have hlt := v.toNat_lt
  rw [UInt16.toNat_toUInt8, UInt16.toNat_shiftRight]
  change v.toNat >>> 8 % 2 ^ 8 = _
  rw [Nat.shiftRight_eq_div_pow]
  omega

theorem toNat_low_octet (v : UInt16) : (v &&& 0xFF).toUInt8.toNat = v.toNat % 256 := by
  have hmask : v.toNat &&& 255 = v.toNat % 256 := Nat.and_two_pow_sub_one_eq_mod v.toNat 8
  rw [UInt16.toNat_toUInt8, UInt16.toNat_and]
  change (v.toNat &&& 255) % 2 ^ 8 = _
  omega

/-- The two octets are the number. -/
theorem bigEndian_fieldOctets (v : UInt16) : bigEndian (QueryBuilder.fieldOctets v) = v.toNat := by
  simp only [QueryBuilder.fieldOctets, bigEndian, List.foldl_cons, List.foldl_nil,
    toNat_shiftRight_eight, toNat_low_octet]
  omega

theorem bigEndianAt_append (before after : Bytes) (v : UInt16) :
    BigEndianAt (before ++ QueryBuilder.fieldOctets v ++ after) before.length 2 v.toNat := by
  have hlength : (QueryBuilder.fieldOctets v).length = 2 := rfl
  refine ⟨by simp only [List.length_append, hlength]; omega, ?_⟩
  rw [List.append_assoc, List.drop_left, ← hlength, List.take_left]
  exact bigEndian_fieldOctets v

/-- A name that is written is a name where it is written. -/
theorem nameAt_wireName (before after : Bytes) {labels : List Bytes}
    (hne : ∀ l ∈ labels, l ≠ []) (hshort : ∀ l ∈ labels, l.length ≤ 63) :
    NameAt (before ++ wireName labels ++ after) before.length labels
      (before.length + (wireName labels).length) := by
  induction labels generalizing before with
  | nil =>
      refine .terminator ⟨after, ?_⟩
      rw [List.append_assoc, List.drop_left]
      rfl
  | cons label labels ih =>
      have hsplit : before ++ wireName (label :: labels) ++ after =
          before ++ wireLabel label ++ wireName labels ++ after := by
        simp [wireName]
      have hlabel : LabelAt (before ++ wireLabel label ++ wireName labels ++ after) before.length
          label := by
        refine ⟨List.length_pos_iff.mpr (hne label (by simp)), hshort label (by simp), ?_⟩
        rw [List.append_assoc, List.append_assoc, List.drop_left]
        exact List.prefix_append _ _
      have hrest := ih (before ++ wireLabel label) (fun l hl => hne l (by simp [hl]))
        (fun l hl => hshort l (by simp [hl]))
      have hstart : (before ++ wireLabel label).length = before.length + 1 + label.length := by
        rw [List.length_append, wireLabel, List.length_cons]
        omega
      have hstop : before.length + 1 + label.length + (wireName labels).length =
          before.length + (wireName (label :: labels)).length := by
        simp only [wireName, wireLabel, List.flatMap_cons, List.length_append, List.length_cons]
        omega
      rw [hstart, hstop] at hrest
      rw [hsplit]
      exact .label hlabel hrest

/-- The question without the empty segments of its name. -/
def MdnsQuestion.normalized (q : MdnsQuestion) : MdnsQuestion :=
  { q with name := dotted (segments dot q.name) }

theorem questionLayout_wireQuestion (before after : Bytes) {q : MdnsQuestion}
    (hshort : ∀ l ∈ segments dot q.name, l.length ≤ 63) :
    QuestionLayout (before ++ wireQuestion q ++ after) before.length q.normalized
      (before.length + (wireQuestion q).length) := by
  have hname := nameAt_wireName before
    (QueryBuilder.fieldOctets q.type ++ QueryBuilder.fieldOctets q.classCode ++ after)
    (fun _ hl => ne_nil_of_mem_segments hl) hshort
  have htype := bigEndianAt_append (before ++ wireName (segments dot q.name))
    (QueryBuilder.fieldOctets q.classCode ++ after) q.type
  have hclass := bigEndianAt_append (before ++ wireName (segments dot q.name) ++
    QueryBuilder.fieldOctets q.type) after q.classCode
  have hlength : (QueryBuilder.fieldOctets q.type).length = 2 := rfl
  have hlength' : (QueryBuilder.fieldOctets q.classCode).length = 2 := rfl
  simp only [List.append_assoc, List.length_append, hlength] at hname htype hclass
  refine ⟨before.length + (wireName (segments dot q.name)).length, ?_, ?_, ?_, ?_⟩
  · rw [parseQname_eq_ok_iff]
    refine ⟨segments dot q.name, ?_, rfl⟩
    simpa only [wireQuestion, List.append_assoc] using hname
  · simpa only [wireQuestion, MdnsQuestion.normalized, List.append_assoc] using htype
  · simpa only [wireQuestion, MdnsQuestion.normalized, List.append_assoc, Nat.add_assoc]
      using hclass
  · simp only [wireQuestion, List.length_append, hlength, hlength']
    omega

/-- Questions that are written one after the other are read one after the other. -/
theorem backToBack_wireQuestion (before after : Bytes) {questions : List MdnsQuestion}
    (hshort : ∀ q ∈ questions, ∀ l ∈ segments dot q.name, l.length ≤ 63) :
    BackToBack (QuestionLayout (before ++ questions.flatMap wireQuestion ++ after)) before.length
      (questions.map MdnsQuestion.normalized)
      (before.length + (questions.flatMap wireQuestion).length) := by
  induction questions generalizing before with
  | nil => exact .nil before.length
  | cons q questions ih =>
      have hhead := questionLayout_wireQuestion before (questions.flatMap wireQuestion ++ after)
        (hshort q (by simp))
      have htail := ih (before ++ wireQuestion q) fun q' hq' => hshort q' (by simp [hq'])
      simp only [List.append_assoc, List.length_append] at hhead htail
      simp only [List.flatMap_cons, List.append_assoc, List.map_cons, List.length_append,
        ← Nat.add_assoc]
      exact .cons hhead htail

theorem headerLayout_wireHeader (tid count : UInt16) (after : Bytes) :
    HeaderLayout (wireHeader tid count ++ after)
      { transactionId := tid, flags := 0, questions := count, answerRrs := 0, authorityRrs := 0,
        additionalRrs := 0 } := by
  have hzero : ∀ offset, offset = 2 ∨ offset = 6 ∨ offset = 8 ∨ offset = 10 →
      BigEndianAt (wireHeader tid count ++ after) offset 2 0 := by
    intro offset hoffset
    refine ⟨?_, ?_⟩
    · simp only [wireHeader, List.length_append, QueryBuilder.fieldOctets, List.length_cons]
      omega
    · rcases hoffset with rfl | rfl | rfl | rfl <;> rfl
  have hcount := bigEndianAt_append (QueryBuilder.fieldOctets tid ++ [0, 0])
    ([0, 0, 0, 0, 0, 0] ++ after) count
  have htid := bigEndianAt_append [] ([0, 0] ++ QueryBuilder.fieldOctets count ++
    [0, 0, 0, 0, 0, 0] ++ after) tid
  simp only [List.append_assoc, List.nil_append] at hcount htid
  refine ⟨?_, hzero 2 (by simp), ?_, hzero 6 (by simp), hzero 8 (by simp), hzero 10 (by simp)⟩
  · rw [wireHeader]
    simp only [List.append_assoc]
    exact htid
  · rw [wireHeader]
    simp only [List.append_assoc]
    exact hcount

/-- **Encode, then decode.**  The decoder reads a query back: the transaction
identifier, no flags, no records, and the questions in order, each name without its
empty segments. -/
theorem decode_build (tid : UInt16) (questions : List MdnsQuestion)
    (hcount : questions.length ≤ 65535)
    (hshort : ∀ q ∈ questions, ∀ segment ∈ q.name.splitOn dot, segment.length ≤ 63) :
    ∃ msg, decode (buildQuery tid questions) = .ok msg ∧
      msg.header.transactionId = tid ∧ msg.header.flags = 0 ∧
      msg.header.questions.toNat = questions.length ∧
      msg.header.answerRrs = 0 ∧ msg.header.authorityRrs = 0 ∧ msg.header.additionalRrs = 0 ∧
      msg.answers = [] ∧ msg.authorities = [] ∧ msg.additionals = [] ∧
      msg.questions = questions.map fun q =>
        { q with name := [dot].intercalate ((q.name.splitOn dot).filter fun l => l ≠ []) } := by
  have hnat : (UInt16.ofNat questions.length).toNat = questions.length := by
    rw [UInt16.toNat_ofNat']
    omega
  have hlabels : ∀ q ∈ questions, ∀ l ∈ segments dot q.name, l.length ≤ 63 :=
    fun q hq l hl => hshort q hq l (List.mem_filter.mp hl).1
  have hquestions := backToBack_wireQuestion
    (wireHeader tid (UInt16.ofNat questions.length)) [] hlabels
  rw [List.append_nil, ← buildQuery_eq] at hquestions
  have hheader := headerLayout_wireHeader tid (UInt16.ofNat questions.length)
    (questions.flatMap wireQuestion)
  rw [← buildQuery_eq] at hheader
  -- the layout of the query determines what the decoder returns
  let msg : MdnsParsedMessage :=
    { header :=
        { transactionId := tid, flags := 0, questions := UInt16.ofNat questions.length,
          answerRrs := 0, authorityRrs := 0, additionalRrs := 0 }
      questions := questions.map MdnsQuestion.normalized
      answers := [], authorities := [], additionals := [] }
  have hlayout : MessageLayout (buildQuery tid questions) msg :=
    { header := hheader
      questionCount := by rw [List.length_map, hnat]
      answerCount := rfl
      authorityCount := rfl
      additionalCount := rfl
      sections := ⟨_, _, _, _, hquestions, .nil _, .nil _, .nil _⟩ }
  exact ⟨msg, (decode_eq_ok_iff _ _).mpr hlayout, rfl, rfl, hnat, rfl, rfl, rfl, rfl, rfl, rfl,
    rfl⟩

/-- A question for a name with empty segments. -/
theorem sampleQuery_decoded :
    ∃ msg, decode (buildQuery 7 [⟨[46, 97, 46, 46, 98, 46], 12, 1⟩]) = .ok msg ∧
      msg.questions = [⟨[97, 46, 98], 12, 1⟩] := by
  obtain ⟨msg, hdecode, -, -, -, -, -, -, -, -, -, hquestions⟩ :=
    decode_build 7 [⟨[46, 97, 46, 46, 98, 46], 12, 1⟩] (by decide) (by decide)
  exact ⟨msg, hdecode, hquestions.trans (by decide)⟩

end Scanner
end LanDiscovery
