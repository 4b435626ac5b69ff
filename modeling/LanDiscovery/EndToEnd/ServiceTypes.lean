import LanDiscovery.Api.PointerNames
import LanDiscovery.EndToEnd.Delivery

/-!
# The service types on both sides

The registry of the scanner and the API classify the same names, the first as octets
and the second as characters.  On one name they agree (`serviceTypeFromName_encode`),
but the API strips the text of a pointer first.  The sets of a list of records are the
same exactly when that makes no difference to the list (`sameServiceTypes_iff`).
-/

namespace LanDiscovery
namespace EndToEnd

open Library Library.Utf8 Library.Json Scanner Api

/-! ## One name -/

theorem hasMdnsServiceSuffix_encode (name : Str) :
    Scanner.MdnsNames.hasMdnsServiceSuffix (encode name) =
      Api.MdnsNames.hasMdnsServiceSuffix name := by
  have htcp : Scanner.MdnsNames.tcpSuffix = encode ('.' :: str "_tcp.local") := by decide
  have hudp : Scanner.MdnsNames.udpSuffix = encode ('.' :: str "_udp.local") := by decide
  rw [Bool.eq_iff_iff, Api.MdnsNames.hasMdnsServiceSuffix_iff,
    Scanner.MdnsNames.hasMdnsServiceSuffix_iff, htcp, hudp]
  exact or_congr (suffix_encode_iff (by decide) _ _) (suffix_encode_iff (by decide) _ _)

@[simp] theorem encode_eq_nil_iff {text : Str} : encode text = [] ↔ text = [] :=
  encode_injective.eq_iff' rfl

theorem labelCount_encode (name : Str) :
    Scanner.MdnsNames.labelCount (encode name) = Api.MdnsNames.labelCount name := by
  have hcount : (encode name).count 46 = name.count '.' := count_encode (c := '.') (by decide) name
  unfold Scanner.MdnsNames.labelCount Api.MdnsNames.labelCount
  simp only [List.isEmpty_iff, encode_eq_nil_iff, hcount, Nat.add_comm]

@[simp] theorem isMeta_encode (name : Str) :
    (encode name == Scanner.MdnsNames.kDnsSdMetaService) = (name == Api.MdnsNames.metaService) := by
  have hmeta : Scanner.MdnsNames.kDnsSdMetaService = encode Api.MdnsNames.metaService := by decide
  rw [hmeta, Bool.eq_iff_iff, beq_iff_eq, beq_iff_eq, encode_injective.eq_iff]

@[simp] theorem isServiceTypeName_encode (name : Str) :
    Scanner.MdnsNames.isServiceTypeName (encode name) = Api.MdnsNames.isServiceTypeName name := by
  unfold Scanner.MdnsNames.isServiceTypeName Api.MdnsNames.isServiceTypeName
    Scanner.MdnsNames.isDnsSdMetaService
  rw [hasMdnsServiceSuffix_encode, labelCount_encode, isMeta_encode]
  cases Api.MdnsNames.hasMdnsServiceSuffix name <;> cases name == Api.MdnsNames.metaService <;> rfl

theorem isInstanceName_encode (name : Str) :
    Scanner.MdnsNames.isInstanceName (encode name) = Api.MdnsNames.isInstanceName name := by
  unfold Scanner.MdnsNames.isInstanceName Api.MdnsNames.isInstanceName
    Scanner.MdnsNames.isDnsSdMetaService
  rw [hasMdnsServiceSuffix_encode, labelCount_encode, isMeta_encode]
  cases Api.MdnsNames.hasMdnsServiceSuffix name <;> cases name == Api.MdnsNames.metaService <;> rfl

/-- The search of the scanner as a composition. -/
theorem scanner_serviceTypeFromName_eq (name : Bytes) :
    Scanner.MdnsNames.serviceTypeFromName name =
      if Scanner.MdnsNames.isServiceTypeName name then name
      else if !Scanner.MdnsNames.isInstanceName name then []
      else
        (((Text.rfind? Scanner.MdnsNames.tcpSuffix name).or
          (Text.rfind? Scanner.MdnsNames.udpSuffix name)).bind fun pos =>
            (Text.rfind? [46] (name.take pos)).map fun dotBefore =>
              name.drop (dotBefore + 1)).getD [] := by
  unfold Scanner.MdnsNames.serviceTypeFromName
  split_ifs
  · rfl
  · rfl
  -- a suffix at the very start has no dot in front of it
  rcases Text.rfind? Scanner.MdnsNames.tcpSuffix name with _ | _ | pos
  · rcases Text.rfind? Scanner.MdnsNames.udpSuffix name with _ | _ | pos
    · rfl
    · rfl
    · dsimp only [Option.or, Option.bind_some]
      cases Text.rfind? [46] (name.take (pos + 1)) <;> rfl
  · rfl
  · dsimp only [Option.or, Option.bind_some]
    cases Text.rfind? [46] (name.take (pos + 1)) <;> rfl

/-- What follows the last dot before a character, in octets and in characters. -/
theorem drop_rfind?_dot_encode (name : Str) (pos : Nat) :
    ((Text.rfind? [46] ((encode name).take (encode (name.take pos)).length)).map
        fun dotBefore => (encode name).drop (dotBefore + 1)) =
      ((Text.rfind? ['.'] (name.take pos)).map fun dotBefore => name.drop (dotBefore + 1)).map
        encode := by
  have hnone : ∀ c ∈ ([] : Str), IsAscii c := by simp
  have hdot : Text.rfind? [46] (encode (name.take pos)) =
      (Text.rfind? ['.'] (name.take pos)).map fun i => (encode ((name.take pos).take i)).length :=
    rfind?_encode (c := '.') (by decide) hnone (name.take pos)
  rw [take_encode, hdot]
  cases hfound : Text.rfind? ['.'] (name.take pos) with
  | none => rfl
  | some dotBefore =>
      -- both sides are what follows the dot
      obtain ⟨before, after, hsplit, rfl⟩ := Text.rfind?_eq_some hfound
      have hname : name = before ++ '.' :: (after ++ name.drop pos) := by
        conv_lhs => rw [← List.take_append_drop pos name, hsplit]
        simp
      have hbefore : (name.take pos).take before.length = before := by
        rw [hsplit, List.append_assoc, List.take_left]
      have hleft := drop_encode_append_cons (c := '.') (by decide) before (after ++ name.drop pos)
      have hright : name.drop (before.length + 1) = after ++ name.drop pos := by
        conv_lhs => rw [hname]
        rw [List.drop_length_add_append, List.drop_one, List.tail_cons]
      rw [← hname] at hleft
      simp only [Option.map_some, hbefore, hleft, hright]

/-- **One name has one service type.**  The scanner has the empty text for none. -/
theorem serviceTypeFromName_encode (name : Str) :
    Scanner.MdnsNames.serviceTypeFromName (encode name) =
      encode ((Api.MdnsNames.serviceTypeFromName name).getD []) := by
  rw [scanner_serviceTypeFromName_eq, Api.MdnsNames.serviceTypeFromName_eq,
    isServiceTypeName_encode, isInstanceName_encode]
  split_ifs
  · rfl
  · rfl
  rw [Api.MdnsNames.transportType_eq]
  have htcpAscii := @isAscii_of_all (str "_tcp.local") (by decide)
  have hudpAscii := @isAscii_of_all (str "_udp.local") (by decide)
  have htcp : Text.rfind? Scanner.MdnsNames.tcpSuffix (encode name) =
      (Text.rfind? Api.MdnsNames.tcpSuffix name).map fun i => (encode (name.take i)).length :=
    rfind?_encode (c := '.') (by decide) htcpAscii name
  have hudp : Text.rfind? Scanner.MdnsNames.udpSuffix (encode name) =
      (Text.rfind? Api.MdnsNames.udpSuffix name).map fun i => (encode (name.take i)).length :=
    rfind?_encode (c := '.') (by decide) hudpAscii name
  have hor : (Text.rfind? Scanner.MdnsNames.tcpSuffix (encode name)).or
        (Text.rfind? Scanner.MdnsNames.udpSuffix (encode name)) =
      ((Text.rfind? Api.MdnsNames.tcpSuffix name).or
        (Text.rfind? Api.MdnsNames.udpSuffix name)).map fun i => (encode (name.take i)).length := by
    rw [htcp, hudp]
    cases Text.rfind? Api.MdnsNames.tcpSuffix name <;> rfl
  rw [hor, Option.bind_map]
  cases (Text.rfind? Api.MdnsNames.tcpSuffix name).or
      (Text.rfind? Api.MdnsNames.udpSuffix name) with
  | none => rfl
  | some pos =>
      rw [Option.bind_some, Option.bind_some, Function.comp_apply, drop_rfind?_dot_encode]
      cases (Text.rfind? ['.'] (name.take pos)).map fun dotBefore =>
        name.drop (dotBefore + 1) <;> rfl

/-! ## One record -/

/-- The service types of a pointer with the given target. -/
def pointedTypes (owner target : Str) : List Str :=
  if owner = Api.MdnsNames.metaService then
    if Api.MdnsNames.isServiceTypeName target then [target] else []
  else if Api.MdnsNames.isServiceTypeName owner then
    if Api.MdnsNames.isInstanceName target then
      (truthy (Api.MdnsNames.serviceTypeFromName target)).toList
    else []
  else []

/-- The service types of a record, if the given text is its RDATA. -/
def namedTypes (rdataText : Str) (rec : DiscoveryRecordIn) : List Str :=
  if rec.type = 12 then pointedTypes rec.ownerName rdataText
  else if rec.type = 33 ∨ rec.type = 16 then
    (truthy (Api.MdnsNames.serviceTypeFromName rec.ownerName)).toList
  else []

theorem typeName_of_delivered {r : ResourceRecordView} {rec : DiscoveryRecordIn} (name : String)
    (h : DeliveredRecord r rec) (hname : dnsTypeName r.type = encode (str name)) :
    rec.typeName = some (str name) := by
  have hsame := h.typeName
  rw [hname] at hsame
  exact Option.map_injective encode_injective hsame

theorem nonemptySingleton_encode (text : Option Str) :
    nonemptySingleton (encode (text.getD [])) = ((truthy text).toList.map encode).toFinset := by
  cases text with
  | none => rfl
  | some text =>
      by_cases hempty : text = []
      · rw [hempty]
        rfl
      · have htrue : truthy (some text) = some text := truthy_of_ne (by simpa using hempty)
        rw [htrue, nonemptySingleton, if_neg]
        · simp
        · simpa using hempty

/-- The shapes of a displayable record with what the request says about it. -/
inductive Shape (r : ResourceRecordView) (rec : DiscoveryRecordIn) : Prop where
  /-- a pointer of the meta service -/
  | metaPointer (scannerType : r.type = typePtr) (type : rec.type = 12)
      (owner : rec.ownerName = Api.MdnsNames.metaService)
      (target : Api.MdnsNames.isServiceTypeName rec.rdataText = true)
  /-- a pointer of a service type -/
  | instancePointer (scannerType : r.type = typePtr) (type : rec.type = 12)
      (owner : Api.MdnsNames.isServiceTypeName rec.ownerName = true)
      (target : Api.MdnsNames.isInstanceName rec.rdataText = true)
  /-- a record under a name -/
  | named (scannerType : r.type = typeSrv ∨ r.type = typeTxt) (type : rec.type = 33 ∨ rec.type = 16)
  /-- an address -/
  | address (scannerType : r.type = typeA) (type : rec.type = 1)

theorem shape_of_delivered {r : ResourceRecordView} {rec : DiscoveryRecordIn}
    (hdisplay : isDisplayableRecord r = true) (h : DeliveredRecord r rec) : Shape r rec := by
  rcases isDisplayableRecord_cases hdisplay with hptr | ⟨hnamed, -⟩ | ⟨haddr, -⟩
  · have htype : rec.type = 12 := by
      rw [h.type, hptr]
      rfl
    have hrelevant : isAuditRelevantRecord r = true := by
      unfold isDisplayableRecord at hdisplay
      exact ((Bool.and_eq_true ..).mp hdisplay).2
    unfold isAuditRelevantRecord at hrelevant
    rw [if_pos hptr, ← h.ownerName, ← h.rdataText, isMeta_encode, isServiceTypeName_encode,
      isServiceTypeName_encode, isInstanceName_encode] at hrelevant
    split_ifs at hrelevant with harpa hmeta
    · rw [Bool.and_eq_true, beq_iff_eq] at hmeta
      exact .metaPointer hptr htype hmeta.1 hmeta.2
    · rw [Bool.and_eq_true] at hrelevant
      exact .instancePointer hptr htype hrelevant.1 hrelevant.2
  · refine .named hnamed ?_
    rw [h.type]
    rcases hnamed with hsrv | htxt
    · exact Or.inl (by rw [hsrv]; rfl)
    · exact Or.inr (by rw [htxt]; rfl)
  · refine .address haddr ?_
    rw [h.type, haddr]
    rfl

/-- A service type is not the name of the meta service. -/
theorem ne_metaService_of_isServiceTypeName {name : Str}
    (h : Api.MdnsNames.isServiceTypeName name = true) : name ≠ Api.MdnsNames.metaService := by
  rintro rfl
  revert h
  decide

theorem ne_nil_of_isServiceTypeName {name : Str}
    (h : Api.MdnsNames.isServiceTypeName name = true) : name ≠ [] :=
  Api.MdnsNames.ne_nil_of_hasMdnsServiceSuffix (Api.MdnsNames.isServiceTypeName_iff.mp h).1

/-- What the scanner takes from a record. -/
theorem contributedServiceTypes_of_delivered {r : ResourceRecordView} {rec : DiscoveryRecordIn}
    (hdisplay : isDisplayableRecord r = true) (h : DeliveredRecord r rec) :
    contributedServiceTypes r = ((namedTypes rec.rdataText rec).map encode).toFinset := by
  have hmeta : isMetaPointer r = (rec.ownerName == Api.MdnsNames.metaService &&
      r.type = typePtr && Api.MdnsNames.isServiceTypeName rec.rdataText) := by
    rw [isMetaPointer, ← h.ownerName, ← h.rdataText, isMeta_encode, isServiceTypeName_encode]
  have hinstance : isInstancePointer r = (Api.MdnsNames.isServiceTypeName rec.ownerName &&
      r.type = typePtr && Api.MdnsNames.isInstanceName rec.rdataText) := by
    rw [isInstancePointer, ← h.ownerName, ← h.rdataText, isServiceTypeName_encode,
      isInstanceName_encode]
  unfold contributedServiceTypes
  rw [hmeta, hinstance, ← h.ownerName, ← h.rdataText, serviceTypeFromName_encode,
    serviceTypeFromName_encode, nonemptySingleton_encode, nonemptySingleton_encode]
  cases shape_of_delivered hdisplay h with
  | metaPointer hptr htype howner htarget =>
      have htext := ne_nil_of_isServiceTypeName htarget
      have hone : nonemptySingleton (encode rec.rdataText) = {encode rec.rdataText} := by
        simp [nonemptySingleton, htext]
      have hmetaType : Api.MdnsNames.isServiceTypeName Api.MdnsNames.metaService = false := by
        decide
      simp [namedTypes, pointedTypes, hptr, htype, howner, htarget, hmetaType, hone, typePtr,
        typeSrv, typeTxt]
  | instancePointer hptr htype howner htarget =>
      have hne := ne_metaService_of_isServiceTypeName howner
      simp [namedTypes, pointedTypes, hptr, htype, howner, htarget, hne, typePtr, typeSrv, typeTxt]
  | named hnamed htype =>
      have hptr : r.type ≠ typePtr := by
        rcases hnamed with hsrv | htxt
        · rw [hsrv]
          decide
        · rw [htxt]
          decide
      have htype' : rec.type ≠ 12 := by omega
      simp [namedTypes, hptr, htype', hnamed, htype]
  | address haddr htype =>
      simp [namedTypes, haddr, htype, typeA, typePtr, typeSrv, typeTxt]

/-- The target that the API reads from a displayable pointer. -/
theorem ptrRdata_of_delivered {r : ResourceRecordView} {rec : DiscoveryRecordIn}
    (h : DeliveredRecord r rec) (hptr : r.type = typePtr)
    (hsuffix : Api.MdnsNames.hasMdnsServiceSuffix rec.rdataText = true) :
    Api.MdnsNames.ptrRdata rec = strip rec.rdataText := by
  have hne : r.rdataText ≠ [] := by
    rw [← h.rdataText, Ne, encode_eq_nil_iff]
    exact Api.MdnsNames.ne_nil_of_hasMdnsServiceSuffix hsuffix
  have hlabel : serviceLabel r = r.rdataText := by
    rw [serviceLabel, if_pos]
    rw [← h.rdataText, hasMdnsServiceSuffix_encode]
    exact ⟨hptr, hsuffix⟩
  have hservice : rec.service = some rec.rdataText := by
    have hsame := h.service
    rw [hlabel, present_of_ne_nil hne, ← h.rdataText] at hsame
    exact Option.map_injective encode_injective hsame
  have htrue : truthy rec.service = some rec.rdataText := by
    rw [hservice]
    exact truthy_of_ne (by simpa using Api.MdnsNames.ne_nil_of_hasMdnsServiceSuffix hsuffix)
  rw [Api.MdnsNames.ptrRdata, htrue]
  rfl

/-- What the API takes from it. -/
theorem serviceTypesFromRecord_of_delivered {r : ResourceRecordView} {rec : DiscoveryRecordIn}
    (hdisplay : isDisplayableRecord r = true) (h : DeliveredRecord r rec) :
    Api.MdnsNames.serviceTypesFromRecord rec = namedTypes (strip rec.rdataText) rec := by
  have hptrName : r.type = typePtr → upper (rec.typeName.getD []) = str "PTR" := by
    intro hptr
    rw [typeName_of_delivered "PTR" h (by rw [hptr]; decide)]
    decide
  unfold Api.MdnsNames.serviceTypesFromRecord
  cases shape_of_delivered hdisplay h with
  | metaPointer hptr htype howner htarget =>
      have hrdata := ptrRdata_of_delivered h hptr (Api.MdnsNames.isServiceTypeName_iff.mp htarget).1
      simp [namedTypes, pointedTypes, hptrName hptr, htype, howner, hrdata]
  | instancePointer hptr htype howner htarget =>
      have hrdata := ptrRdata_of_delivered h hptr (Api.MdnsNames.isInstanceName_iff.mp htarget).1
      have hne := ne_metaService_of_isServiceTypeName howner
      simp [namedTypes, pointedTypes, hptrName hptr, htype, howner, hrdata, hne]
  | named hnamed htype =>
      have htype' : rec.type ≠ 12 := by omega
      have hname : upper (rec.typeName.getD []) = str "SRV" ∨
          upper (rec.typeName.getD []) = str "TXT" := by
        rcases hnamed with hsrv | htxt
        · left
          rw [typeName_of_delivered "SRV" h (by rw [hsrv]; decide)]
          decide
        · right
          rw [typeName_of_delivered "TXT" h (by rw [htxt]; decide)]
          decide
      have hptr' : upper (rec.typeName.getD []) ≠ str "PTR" := by
        rcases hname with hsrv | htxt
        · rw [hsrv]
          decide
        · rw [htxt]
          decide
      simp [namedTypes, htype', htype, hname, hptr']
  | address haddr htype =>
      have hname : upper (rec.typeName.getD []) = str "A" := by
        rw [typeName_of_delivered "A" h (by rw [haddr]; decide)]
        decide
      simp [namedTypes, htype, hname, str]

/-! ## Where trimming shows -/

/-- A pointer of the meta service whose target has white space in front. -/
def TrimmedType (rec : DiscoveryRecordIn) : Prop :=
  rec.type = 12 ∧ rec.ownerName = Api.MdnsNames.metaService ∧ strip rec.rdataText ≠ rec.rdataText

/-- A pointer of a service type whose target is, behind white space, the name of the
meta service. -/
def HiddenMeta (rec : DiscoveryRecordIn) : Prop :=
  rec.type = 12 ∧ rec.ownerName ≠ Api.MdnsNames.metaService ∧
    strip rec.rdataText = Api.MdnsNames.metaService

instance (rec : DiscoveryRecordIn) : Decidable (TrimmedType rec) :=
  inferInstanceAs (Decidable (_ ∧ _ ∧ _))

instance (rec : DiscoveryRecordIn) : Decidable (HiddenMeta rec) :=
  inferInstanceAs (Decidable (_ ∧ _ ∧ _))

/-- The record names the service type, in its target or as its owner, where trimming
does not show. -/
def NamesType (rec : DiscoveryRecordIn) (serviceType : Str) : Prop :=
  ¬ TrimmedType rec ∧ ¬ HiddenMeta rec ∧
    if rec.type = 12 then
      if rec.ownerName = Api.MdnsNames.metaService then rec.rdataText = serviceType
      else truthy (Api.MdnsNames.serviceTypeFromName rec.rdataText) = some serviceType
    else (rec.type = 33 ∨ rec.type = 16) ∧
      truthy (Api.MdnsNames.serviceTypeFromName rec.ownerName) = some serviceType

/-- The service type that the scanner finds in the name of the meta service behind white
space. -/
def hiddenType : Str :=
  str "_dns-sd._udp.local"

section

variable {r : ResourceRecordView} {rec : DiscoveryRecordIn}

/-- Only the target of a pointer is trimmed. -/
theorem mem_namedTypes_of_type_ne (htype : rec.type ≠ 12) {text t : Str} :
    t ∈ namedTypes text rec ↔ NamesType rec t := by
  have htrim : ¬ TrimmedType rec := fun h => htype h.1
  have hhidden : ¬ HiddenMeta rec := fun h => htype h.1
  by_cases hnamed : rec.type = 33 ∨ rec.type = 16
  · simp [namedTypes, htype, hnamed, NamesType, htrim, hhidden]
  · simp [namedTypes, htype, hnamed, NamesType]

/-- The types of a record as it is. -/
theorem mem_namedTypes_iff (h : Shape r rec) {t : Str} :
    t ∈ namedTypes rec.rdataText rec ↔
      (TrimmedType rec ∧ t = rec.rdataText) ∨ (HiddenMeta rec ∧ t = hiddenType) ∨
        NamesType rec t := by
  cases h with
  | metaPointer hptr htype howner htarget =>
      have hhidden : ¬ HiddenMeta rec := fun h => h.2.1 howner
      simp only [namedTypes, htype, if_true, pointedTypes, howner, htarget, List.mem_singleton,
        NamesType, hhidden, false_and, false_or, not_false_eq_true, true_and]
      by_cases htrim : TrimmedType rec
      · simp [htrim]
      · simp [htrim, eq_comm]
  | instancePointer hptr htype howner htarget =>
      have hne := ne_metaService_of_isServiceTypeName howner
      have htrim : ¬ TrimmedType rec := fun h => hne h.2.1
      have hsuffix := (Api.MdnsNames.isInstanceName_iff.mp htarget).1
      simp only [namedTypes, htype, if_true, pointedTypes, hne, if_false, howner, htarget,
        Option.mem_toList, NamesType, htrim, false_and, false_or, not_false_eq_true, true_and]
      by_cases hhidden : HiddenMeta rec
      · -- the scanner takes a part of the name for a service type
        have hfound : truthy (Api.MdnsNames.serviceTypeFromName rec.rdataText) =
            some hiddenType := by
          rw [Api.MdnsNames.serviceTypeFromName_of_isInstanceName htarget,
            ← Api.MdnsNames.transportType_strip hsuffix, hhidden.2.2]
          decide
        simp [hhidden, hfound, eq_comm]
      · simp [hhidden]
  | named _ htype =>
      have htype' : rec.type ≠ 12 := by omega
      simp [mem_namedTypes_of_type_ne htype', TrimmedType, HiddenMeta, htype']
  | address _ htype =>
      have htype' : rec.type ≠ 12 := by omega
      simp [mem_namedTypes_of_type_ne htype', TrimmedType, HiddenMeta, htype']

/-- The types of a record with the target stripped. -/
theorem mem_namedTypes_strip_iff (h : Shape r rec) {t : Str} :
    t ∈ namedTypes (strip rec.rdataText) rec ↔
      (TrimmedType rec ∧ t = strip rec.rdataText) ∨ NamesType rec t := by
  cases h with
  | metaPointer hptr htype howner htarget =>
      have hhidden : ¬ HiddenMeta rec := fun h => h.2.1 howner
      simp only [namedTypes, htype, if_true, pointedTypes, howner,
        Api.MdnsNames.isServiceTypeName_strip htarget, List.mem_singleton, NamesType, hhidden,
        not_false_eq_true, true_and]
      by_cases htrim : TrimmedType rec
      · simp [htrim]
      · -- a type that is not trimmed is its own target
        have hsame : strip rec.rdataText = rec.rdataText := by
          by_contra hne
          exact htrim ⟨htype, howner, hne⟩
        simp [htrim, hsame, eq_comm]
  | instancePointer hptr htype howner htarget =>
      have hne := ne_metaService_of_isServiceTypeName howner
      have htrim : ¬ TrimmedType rec := fun h => hne h.2.1
      have hsuffix := (Api.MdnsNames.isInstanceName_iff.mp htarget).1
      have hstrip := Api.MdnsNames.isInstanceName_strip htarget
      simp only [namedTypes, htype, if_true, pointedTypes, hne, if_false, howner, NamesType, htrim,
        false_and, false_or, not_false_eq_true, true_and]
      by_cases hhidden : HiddenMeta rec
      · -- what is left is the name of the meta service, which is no instance
        have hnot : Api.MdnsNames.isInstanceName (strip rec.rdataText) = false := by
          rw [hhidden.2.2]
          decide
        simp [hhidden, hnot]
      · have hmeta : strip rec.rdataText ≠ Api.MdnsNames.metaService :=
          fun h => hhidden ⟨htype, hne, h⟩
        have hsame : Api.MdnsNames.serviceTypeFromName (strip rec.rdataText) =
            Api.MdnsNames.serviceTypeFromName rec.rdataText := by
          rw [Api.MdnsNames.serviceTypeFromName_of_isInstanceName htarget,
            Api.MdnsNames.serviceTypeFromName_of_isInstanceName (hstrip.mpr hmeta),
            Api.MdnsNames.transportType_strip hsuffix]
        simp [hhidden, hstrip.mpr hmeta, hsame]
  | named _ htype =>
      have htype' : rec.type ≠ 12 := by omega
      simp [mem_namedTypes_of_type_ne htype', TrimmedType, htype']
  | address _ htype =>
      have htype' : rec.type ≠ 12 := by omega
      simp [mem_namedTypes_of_type_ne htype', TrimmedType, htype']

end

/-! ## A list of records -/

/-- Trimming makes no difference to the service types of the records: what a trimmed type
was before and what it is afterwards are named by other records, and so is what the
scanner finds in a hidden name, unless the one stands for the other. -/
structure TrimmingHarmless (recs : List DiscoveryRecordIn) : Prop where
  before : ∀ rec ∈ recs, TrimmedType rec → ∃ other ∈ recs, NamesType other rec.rdataText
  after : ∀ rec ∈ recs, TrimmedType rec →
    (∃ other ∈ recs, NamesType other (strip rec.rdataText)) ∨
      strip rec.rdataText = hiddenType ∧ ∃ other ∈ recs, HiddenMeta other
  hidden : ∀ rec ∈ recs, HiddenMeta rec →
    (∃ other ∈ recs, NamesType other hiddenType) ∨
      ∃ other ∈ recs, TrimmedType other ∧ strip other.rdataText = hiddenType

/-- A trimmed type is not trimmed again. -/
theorem TrimmedType.strip_strip {r : ResourceRecordView} {rec : DiscoveryRecordIn}
    (h : TrimmedType rec) (hshape : Shape r rec) :
    strip (strip rec.rdataText) = strip rec.rdataText := by
  cases hshape with
  | metaPointer _ _ _ htarget =>
      exact Api.MdnsNames.strip_strip (Api.MdnsNames.isServiceTypeName_iff.mp htarget).1
  | instancePointer _ _ howner _ =>
      exact absurd h.2.1 (ne_metaService_of_isServiceTypeName howner)
  | named _ htype => exact absurd h.1 (by omega)
  | address _ htype => exact absurd h.1 (by omega)

/-- The types of all records as they are, and with the targets stripped, are the same
exactly when trimming is harmless. -/
theorem trimmingHarmless_iff {recs : List DiscoveryRecordIn}
    (hshape : ∀ rec ∈ recs, ∃ r, Shape r rec) :
    (∀ t, (∃ rec ∈ recs, t ∈ namedTypes rec.rdataText rec) ↔
      ∃ rec ∈ recs, t ∈ namedTypes (strip rec.rdataText) rec) ↔ TrimmingHarmless recs := by
  have hscanned : ∀ t, (∃ rec ∈ recs, t ∈ namedTypes rec.rdataText rec) ↔
      ∃ rec ∈ recs, (TrimmedType rec ∧ t = rec.rdataText) ∨ (HiddenMeta rec ∧ t = hiddenType) ∨
        NamesType rec t := by
    intro t
    refine exists_congr fun rec => and_congr_right fun hrec => ?_
    obtain ⟨r, hr⟩ := hshape rec hrec
    exact mem_namedTypes_iff hr
  have hstored : ∀ t, (∃ rec ∈ recs, t ∈ namedTypes (strip rec.rdataText) rec) ↔
      ∃ rec ∈ recs, (TrimmedType rec ∧ t = strip rec.rdataText) ∨ NamesType rec t := by
    intro t
    refine exists_congr fun rec => and_congr_right fun hrec => ?_
    obtain ⟨r, hr⟩ := hshape rec hrec
    exact mem_namedTypes_strip_iff hr
  simp only [hscanned, hstored]
  constructor
  · intro h
    refine ⟨fun rec hrec htrim => ?_, fun rec hrec htrim => ?_, fun rec hrec hhidden => ?_⟩
    · obtain ⟨other, hother, ⟨htrim', heq⟩ | hnames⟩ :=
        (h rec.rdataText).mp ⟨rec, hrec, Or.inl ⟨htrim, rfl⟩⟩
      · -- a stripped text has no white space in front
        obtain ⟨r, hr⟩ := hshape other hother
        have hagain := htrim'.strip_strip hr
        rw [← heq] at hagain
        exact absurd hagain htrim.2.2
      · exact ⟨other, hother, hnames⟩
    · obtain ⟨other, hother, ⟨htrim', heq⟩ | ⟨hhidden, heq⟩ | hnames⟩ :=
        (h (strip rec.rdataText)).mpr ⟨rec, hrec, Or.inl ⟨htrim, rfl⟩⟩
      · -- nor is a stripped text a type that is trimmed
        obtain ⟨r, hr⟩ := hshape rec hrec
        have hagain := htrim.strip_strip hr
        rw [heq] at hagain
        exact absurd hagain htrim'.2.2
      · exact Or.inr ⟨heq, other, hother, hhidden⟩
      · exact Or.inl ⟨other, hother, hnames⟩
    · obtain ⟨other, hother, ⟨htrim, heq⟩ | hnames⟩ :=
        (h hiddenType).mp ⟨rec, hrec, Or.inr (Or.inl ⟨hhidden, rfl⟩)⟩
      · exact Or.inr ⟨other, hother, htrim, heq.symm⟩
      · exact Or.inl ⟨other, hother, hnames⟩
  · rintro ⟨hbefore, hafter, hhidden⟩ t
    constructor
    · rintro ⟨rec, hrec, ⟨htrim, rfl⟩ | ⟨hmeta, rfl⟩ | hnames⟩
      · obtain ⟨other, hother, hnames⟩ := hbefore rec hrec htrim
        exact ⟨other, hother, Or.inr hnames⟩
      · rcases hhidden rec hrec hmeta with ⟨other, hother, hnames⟩ | ⟨other, hother, htrim, heq⟩
        · exact ⟨other, hother, Or.inr hnames⟩
        · exact ⟨other, hother, Or.inl ⟨htrim, heq.symm⟩⟩
      · exact ⟨rec, hrec, Or.inr hnames⟩
    · rintro ⟨rec, hrec, ⟨htrim, rfl⟩ | hnames⟩
      · rcases hafter rec hrec htrim with ⟨other, hother, hnames⟩ | ⟨heq, other, hother, hmeta⟩
        · exact ⟨other, hother, Or.inr (Or.inr hnames)⟩
        · exact ⟨other, hother, Or.inr (Or.inl ⟨hmeta, heq⟩)⟩
      · exact ⟨rec, hrec, Or.inr (Or.inr hnames)⟩

/-- What merging adds to the service types of a snapshot. -/
theorem mem_mergeRecords_serviceTypes (snap : DeviceSnapshot) (ev : DiscoveryEvent)
    (value : Bytes) :
    value ∈ (mergeRecords snap ev).1.serviceTypes ↔
      value ∈ snap.serviceTypes ∨ ∃ r ∈ ev.records, value ∈ contributedServiceTypes r := by
  have hprofile := congrArg Profile.serviceTypes
    (profile_foldl_mergeRecord (snap, false) ev.records)
  change value ∈ (mergeRecords snap ev).1.profile.serviceTypes ↔ _
  rw [mergeRecords, hprofile, mem_foldl_add_serviceTypes]
  rfl

/-- The scanner's types of some records, from the request. -/
theorem mem_contributed_iff {rs : List ResourceRecordView} {recs : List DiscoveryRecordIn}
    (hdelivered : List.Forall₂ DeliveredRecord rs recs)
    (hdisplay : ∀ r ∈ rs, isDisplayableRecord r = true) (value : Bytes) :
    (∃ r ∈ rs, value ∈ contributedServiceTypes r) ↔
      ∃ t, (∃ rec ∈ recs, t ∈ namedTypes rec.rdataText rec) ∧ encode t = value := by
  induction hdelivered with
  | nil => simp
  | cons hrec _ ih =>
      obtain ⟨hhead, htail⟩ := List.forall_mem_cons.mp hdisplay
      rw [List.exists_mem_cons_iff, ih htail, contributedServiceTypes_of_delivered hhead hrec]
      simp only [List.mem_toFinset, List.mem_map, List.exists_mem_cons_iff, or_and_right,
        exists_or]

/-- The types that the API stores for some records. -/
theorem mem_serviceTypesFromRecords_iff {rs : List ResourceRecordView}
    {recs : List DiscoveryRecordIn} (hdelivered : List.Forall₂ DeliveredRecord rs recs)
    (hdisplay : ∀ r ∈ rs, isDisplayableRecord r = true) (t : Str) :
    t ∈ Api.MdnsNames.serviceTypesFromRecords recs ↔
      ∃ rec ∈ recs, t ∈ namedTypes (strip rec.rdataText) rec := by
  rw [Api.MdnsNames.serviceTypesFromRecords, (sorted_perm _).mem_iff, List.mem_dedup,
    List.mem_flatMap]
  induction hdelivered with
  | nil => simp
  | cons hrec _ ih =>
      obtain ⟨hhead, htail⟩ := List.forall_mem_cons.mp hdisplay
      rw [List.exists_mem_cons_iff, List.exists_mem_cons_iff, ih htail,
        serviceTypesFromRecord_of_delivered hhead hrec]

theorem exists_shape_of_delivered {rs : List ResourceRecordView} {recs : List DiscoveryRecordIn}
    (hdelivered : List.Forall₂ DeliveredRecord rs recs)
    (hdisplay : ∀ r ∈ rs, isDisplayableRecord r = true) : ∀ rec ∈ recs, ∃ r, Shape r rec := by
  induction hdelivered with
  | nil => simp
  | cons hrec _ ih =>
      obtain ⟨hhead, htail⟩ := List.forall_mem_cons.mp hdisplay
      exact List.forall_mem_cons.mpr ⟨⟨_, shape_of_delivered hhead hrec⟩, ih htail⟩

/-- **The service types on both sides.**  What merging an event adds to a snapshot is what
the API takes from the records of the request, exactly when trimming is harmless. -/
theorem sameServiceTypes_iff (ev : DiscoveryEvent) (recs : List DiscoveryRecordIn)
    (hdisplay : ∀ r ∈ ev.records, isDisplayableRecord r = true)
    (hdelivered : List.Forall₂ DeliveredRecord ev.records recs) :
    (∀ snap, (mergeRecords snap ev).1.serviceTypes = snap.serviceTypes ∪
      ((Api.MdnsNames.serviceTypesFromRecords recs).map encode).toFinset) ↔
      TrimmingHarmless recs := by
  rw [← trimmingHarmless_iff (exists_shape_of_delivered hdelivered hdisplay)]
  have hscanner := mem_contributed_iff hdelivered hdisplay
  have hapi := mem_serviceTypesFromRecords_iff hdelivered hdisplay
  constructor
  · intro h t
    have hmerged := mem_mergeRecords_serviceTypes .empty ev (encode t)
    rw [h .empty, Finset.mem_union, hscanner] at hmerged
    have hencoded : encode t ∈ ((Api.MdnsNames.serviceTypesFromRecords recs).map encode).toFinset ↔
        ∃ rec ∈ recs, t ∈ namedTypes (strip rec.rdataText) rec := by
      rw [List.mem_toFinset, List.mem_map_of_injective encode_injective, hapi]
    have hempty : encode t ∉ DeviceSnapshot.empty.serviceTypes := by
      intro hmem
      exact absurd hmem (List.not_mem_nil)
    rw [hencoded, or_iff_right hempty, or_iff_right hempty] at hmerged
    have hscanned : (∃ other, (∃ rec ∈ recs, other ∈ namedTypes rec.rdataText rec) ∧
        encode other = encode t) ↔ ∃ rec ∈ recs, t ∈ namedTypes rec.rdataText rec := by
      constructor
      · rintro ⟨other, hother, heq⟩
        rwa [encode_injective heq] at hother
      · exact fun hrec => ⟨t, hrec, rfl⟩
    exact (hmerged.trans hscanned).symm
  · intro h snap
    ext value
    rw [mem_mergeRecords_serviceTypes, Finset.mem_union, hscanner]
    refine or_congr Iff.rfl ?_
    simp only [List.mem_toFinset, List.mem_map, hapi, h]

/-- Trimming is harmless where there is nothing to trim. -/
theorem trimmingHarmless_of_plain {recs : List DiscoveryRecordIn}
    (htrim : ∀ rec ∈ recs, ¬ TrimmedType rec) (hhidden : ∀ rec ∈ recs, ¬ HiddenMeta rec) :
    TrimmingHarmless recs where
  before := fun rec hrec h => absurd h (htrim rec hrec)
  after := fun rec hrec h => absurd h (htrim rec hrec)
  hidden := fun rec hrec h => absurd h (hhidden rec hrec)

/-! ### Two types under the meta service -/

/-- A pointer of the meta service, as it was received. -/
def metaView (target : String) : ResourceRecordView where
  ownerName := ascii "_services._dns-sd._udp.local"
  type := typePtr
  rdataText := ascii target
  ttl := 120
  observedAtMs := 1000

/-- The same pointer in a request. -/
def metaRecord (target : String) : DiscoveryRecordIn where
  ownerName := str "_services._dns-sd._udp.local"
  type := 12
  typeName := some (str "PTR")
  rdataText := str target
  ttl := 120
  lastSeenMs := 1000
  service := some (str target)
  host := none

/-- An event with one record. -/
def singleEvent (r : ResourceRecordView) : DiscoveryEvent where
  timestampMs := 1000
  srcIp := ascii "192.168.1.10"
  records := [r]

theorem airplay_delivered :
    DeliveredRecord (metaView "_airplay._tcp.local") (metaRecord "_airplay._tcp.local") where
  clean := ⟨cleanText_of_all (by decide), cleanText_of_all (by decide)⟩
  ownerName := by decide
  type := by decide
  typeName := by decide
  rdataText := by decide
  ttl := by decide
  lastSeenMs := by decide
  service := by decide
  host := by decide

theorem spacedType_delivered :
    DeliveredRecord (metaView " _x._tcp.local") (metaRecord " _x._tcp.local") where
  clean := ⟨cleanText_of_all (by decide), cleanText_of_all (by decide)⟩
  ownerName := by decide
  type := by decide
  typeName := by decide
  rdataText := by decide
  ttl := by decide
  lastSeenMs := by decide
  service := by decide
  host := by decide

/-- A type without white space is the same on both sides. -/
theorem airplay_same :
    (mergeRecords .empty (singleEvent (metaView "_airplay._tcp.local"))).1.serviceTypes =
      DeviceSnapshot.empty.serviceTypes ∪ ((Api.MdnsNames.serviceTypesFromRecords
        [metaRecord "_airplay._tcp.local"]).map encode).toFinset :=
  (sameServiceTypes_iff (singleEvent (metaView "_airplay._tcp.local"))
    [metaRecord "_airplay._tcp.local"] (by decide) (.cons airplay_delivered .nil)).mpr
    (trimmingHarmless_of_plain (by decide) (by decide)) .empty

/-- The control characters. -/
def isControl (c : Char) : Bool :=
  c.toNat < 32 || (127 ≤ c.toNat && c.toNat < 160)

/-- A type that begins with a space is another one for the API. -/
theorem spacedType_differs :
    ¬ ∀ (ev : DiscoveryEvent) (recs : List DiscoveryRecordIn),
      (∀ r ∈ ev.records, isDisplayableRecord r = true) →
      List.Forall₂ DeliveredRecord ev.records recs →
      (∀ rec ∈ recs, (rec.ownerName ++ rec.rdataText).any isControl = false) →
      ∀ snap, (mergeRecords snap ev).1.serviceTypes = snap.serviceTypes ∪
        ((Api.MdnsNames.serviceTypesFromRecords recs).map encode).toFinset := by
  intro h
  have hsame := h (singleEvent (metaView " _x._tcp.local")) [metaRecord " _x._tcp.local"]
    (by decide) (.cons spacedType_delivered .nil) (by decide) .empty
  revert hsame
  decide +kernel

end EndToEnd
end LanDiscovery
