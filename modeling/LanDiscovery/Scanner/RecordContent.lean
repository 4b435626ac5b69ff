import LanDiscovery.Scanner.EngineTraffic
import LanDiscovery.Scanner.DiscoveryJson
import LanDiscovery.Scanner.SrvHost

/-!
# What the displayable records say

The store tells records apart by the texts of `RDataFormatter.cpp`.  For an address, a
service or a pointer the text is as good as the RDATA: two records of one type have the same
text only when they carry the same octets, numbers and names (`rdataText_eq_iff_content`).
The strings of a TXT record are joined with spaces, and that is all that counts of them.

Over a run a record is therefore emitted exactly when what it says is new for its source,
owner and type (`contents_emitted_once`): a host that changes its address or its port is
always heard.
-/

namespace LanDiscovery
namespace Scanner

open Library Library.Outcome Library.FirstSeen Library.PrefixCode Library.Transition
open Library.Utf8 MdnsNames

/-! ## The content of a record -/

/-- What the RDATA of a displayable record says. -/
inductive Content where
  /-- the octets of an address, if there are four -/
  | address (octets : Option (UInt8 × UInt8 × UInt8 × UInt8))
  /-- the name that a PTR record points to, if it can be read -/
  | pointer (name : Option Bytes)
  /-- priority, weight and port, and the target where there is one and where it can be read -/
  | service (numbers : Option (UInt16 × UInt16 × UInt16)) (target : Option (Option Bytes))
  /-- the strings of a TXT record, joined with spaces -/
  | strings (joined : Bytes)
  | other
  deriving DecidableEq

/-- The name at an offset, if it can be read. -/
def nameAt (message : Bytes) (offset : Nat) : Option Bytes :=
  match parseQname message offset with
  | .ok (name, _) => some name
  | .error _ => none

/-- The octets of an address. -/
def addressOctets : Bytes → Option (UInt8 × UInt8 × UInt8 × UInt8)
  | [a, b, c, d] => some (a, b, c, d)
  | _ => none

/-- Two octets, the high one first. -/
def wordOf (hi lo : UInt8) : UInt16 :=
  (hi.toUInt16 <<< 8) ||| lo.toUInt16

/-- The numbers in front of the target of a service. -/
def serviceNumbers : Bytes → Option (UInt16 × UInt16 × UInt16)
  | p₁ :: p₂ :: w₁ :: w₂ :: q₁ :: q₂ :: _ => some (wordOf p₁ p₂, wordOf w₁ w₂, wordOf q₁ q₂)
  | _ => none

/-- The character strings of a TXT record, each behind its length, as far as they are
complete.  Every string takes an octet at least, so `fuel` is at most the number of octets. -/
def characterStrings : Nat → Bytes → List Bytes
  | fuel + 1, length :: rest =>
      if length.toNat ≤ rest.length then
        rest.take length.toNat :: characterStrings fuel (rest.drop length.toNat)
      else []
  | _, _ => []

/-- What the RDATA of a record says. -/
def content (packet : Bytes) (rr : MdnsResourceRecord) : Content :=
  if rr.type = typeA then .address (addressOctets rr.rdata)
  else if rr.type = typePtr then .pointer (nameAt packet rr.rdataOffset)
  else if rr.type = typeSrv then
    .service (serviceNumbers rr.rdata)
      (if 6 < rr.rdata.length then some (nameAt packet (rr.rdataOffset + 6)) else none)
  else if rr.type = typeTxt then
    .strings ((ascii " ").intercalate (characterStrings rr.rdata.length rr.rdata))
  else .other

/-! ## The texts of addresses -/

/-- The text of an address. -/
def addressText : Option (UInt8 × UInt8 × UInt8 × UInt8) → Bytes
  | some (a, b, c, d) => ipv4Text a b c d
  | none => ascii "(malformed A record)"

theorem ipv4Text_inj {a b c d a' b' c' d' : UInt8} (h : ipv4Text a b c d = ipv4Text a' b' c' d') :
    a = a' ∧ b = b' ∧ c = c' ∧ d = d' := by
  have hdot : ∀ rest : Bytes, ∀ x ∈ (46 :: rest).head?, ¬ Json.isDigit x = true :=
    not_of_mem_head?_cons (by decide)
  rw [ipv4Text_eq, ipv4Text_eq] at h
  obtain ⟨ha, h⟩ := decimal_append_inj (hdot _) (hdot _) h
  obtain ⟨hb, h⟩ := decimal_append_inj (hdot _) (hdot _) (List.cons.inj h).2
  obtain ⟨hc, h⟩ := decimal_append_inj (hdot _) (hdot _) (List.cons.inj h).2
  have hd := decimal_injective (List.cons.inj h).2
  exact ⟨UInt8.toNat_inj.mp ha, UInt8.toNat_inj.mp hb, UInt8.toNat_inj.mp hc,
    UInt8.toNat_inj.mp hd⟩

/-- An address starts with a digit. -/
theorem ipv4Text_ne_malformed (a b c d : UInt8) :
    ipv4Text a b c d ≠ ascii "(malformed A record)" := by
  intro h
  obtain ⟨first, rest, hfirst⟩ := List.exists_cons_of_ne_nil (decimal_ne_nil a.toNat)
  have hdigit : Json.isDigit first = true :=
    isDigit_of_mem_decimal (n := a.toNat) (by rw [hfirst]; exact List.mem_cons_self)
  rw [ipv4Text_eq, hfirst, show ascii "(malformed A record)" =
    40 :: ascii "malformed A record)" by decide] at h
  rw [(List.cons.inj h).1] at hdigit
  exact absurd hdigit (by decide)

theorem addressText_injective : Function.Injective addressText := by
  intro o o' h
  rcases o with - | ⟨a, b, c, d⟩ <;> rcases o' with - | ⟨a', b', c', d'⟩
  · rfl
  · exact absurd h.symm (ipv4Text_ne_malformed a' b' c' d')
  · exact absurd h (ipv4Text_ne_malformed a b c d)
  · obtain ⟨rfl, rfl, rfl, rfl⟩ := ipv4Text_inj h
    rfl

theorem formatA_eq (ctx : RDataFormatContext) :
    formatA ctx = .ok (addressText (addressOctets ctx.rdata)) := by
  obtain ⟨message, offset, rdata⟩ := ctx
  match rdata with
  | [a, b, c, d] => rfl
  | [] => rfl
  | [_] => rfl
  | [_, _] => rfl
  | [_, _, _] => rfl
  | _ :: _ :: _ :: _ :: _ :: rest =>
      rw [formatA, if_pos (by simp)]
      rfl

/-! ## The texts of services -/

/-- What stands behind the numbers of a service. -/
def targetText : Option (Option Bytes) → Bytes
  | none => []
  | some none => ascii " (malformed target name)"
  | some (some target) => ascii " target=" ++ target

/-- The text of a service. -/
def serviceText (numbers : Option (UInt16 × UInt16 × UInt16)) (target : Option (Option Bytes)) :
    Bytes :=
  match numbers with
  | some (priority, weight, port) => srvNumbers priority weight port ++ targetText target
  | none => ascii "(malformed SRV record)"

theorem targetText_head (target : Option (Option Bytes)) :
    ∀ b ∈ (targetText target).head?, ¬ Json.isDigit b = true := by
  have hspace : ∀ rest : Bytes, ∀ b ∈ (32 :: rest).head?, ¬ Json.isDigit b = true :=
    not_of_mem_head?_cons (by decide)
  rcases target with - | - | name
  · simp [targetText]
  · exact hspace (ascii "(malformed target name)")
  · exact hspace (ascii "target=" ++ name)

theorem targetText_injective : Function.Injective targetText := by
  have hmark : ∀ name, ascii " (malformed target name)" ≠ ascii " target=" ++ name := by
    intro name h
    rw [show ascii " (malformed target name)" = 32 :: 40 :: ascii "malformed target name)" by
      decide, show ascii " target=" = 32 :: 116 :: ascii "arget=" by decide] at h
    simp at h
  have hspace : ∀ name, ([] : Bytes) ≠ ascii " target=" ++ name := by
    intro name h
    rw [show ascii " target=" = 32 :: ascii "target=" by decide] at h
    simp at h
  intro target target' h
  rcases target with - | - | name <;> rcases target' with - | - | name'
  · rfl
  · exact absurd h (by decide)
  · exact absurd h (hspace name')
  · exact absurd h (by decide)
  · rfl
  · exact absurd h (hmark name')
  · exact absurd h.symm (hspace name)
  · exact absurd h.symm (hmark name)
  · rw [List.append_cancel_left h]

theorem srvNumbers_append_inj {priority weight port priority' weight' port' : UInt16}
    {s t : Bytes} (hs : ∀ b ∈ s.head?, ¬ Json.isDigit b = true)
    (ht : ∀ b ∈ t.head?, ¬ Json.isDigit b = true)
    (h : srvNumbers priority weight port ++ s = srvNumbers priority' weight' port' ++ t) :
    priority = priority' ∧ weight = weight' ∧ port = port' ∧ s = t := by
  have hspace : ∀ rest : Bytes, ∀ x ∈ (32 :: rest).head?, ¬ Json.isDigit x = true :=
    not_of_mem_head?_cons (by decide)
  rw [srvNumbers, srvNumbers, show ascii " weight=" = 32 :: ascii "weight=" by decide,
    show ascii " port=" = 32 :: ascii "port=" by decide] at h
  simp only [List.append_assoc, List.cons_append] at h
  obtain ⟨hpriority, h⟩ := decimal_append_inj (hspace _) (hspace _) (List.append_cancel_left h)
  obtain ⟨hweight, h⟩ := decimal_append_inj (hspace _) (hspace _)
    (List.append_cancel_left (List.cons.inj h).2)
  obtain ⟨hport, h⟩ := decimal_append_inj hs ht (List.append_cancel_left (List.cons.inj h).2)
  exact ⟨UInt16.toNat_inj.mp hpriority, UInt16.toNat_inj.mp hweight, UInt16.toNat_inj.mp hport, h⟩

theorem srvNumbers_append_ne_malformed (priority weight port : UInt16) (s : Bytes) :
    srvNumbers priority weight port ++ s ≠ ascii "(malformed SRV record)" := by
  intro h
  rw [srvNumbers, show ascii "priority=" = 112 :: ascii "riority=" by decide,
    show ascii "(malformed SRV record)" = 40 :: ascii "malformed SRV record)" by decide] at h
  simp at h

/-- A service that can be read is read off its text. -/
theorem serviceText_inj {numbers numbers' : Option (UInt16 × UInt16 × UInt16)}
    {target target' : Option (Option Bytes)} (hnone : numbers = none → target = none)
    (hnone' : numbers' = none → target' = none)
    (h : serviceText numbers target = serviceText numbers' target') :
    numbers = numbers' ∧ target = target' := by
  rcases numbers with - | ⟨priority, weight, port⟩ <;>
    rcases numbers' with - | ⟨priority', weight', port'⟩
  · exact ⟨rfl, (hnone rfl).trans (hnone' rfl).symm⟩
  · exact absurd h.symm (srvNumbers_append_ne_malformed _ _ _ _)
  · exact absurd h (srvNumbers_append_ne_malformed _ _ _ _)
  · obtain ⟨rfl, rfl, rfl, htarget⟩ :=
      srvNumbers_append_inj (targetText_head target) (targetText_head target') h
    exact ⟨rfl, targetText_injective htarget⟩

/-- Only RDATA of six octets or more has the numbers of a service. -/
theorem serviceNumbers_eq_none_iff {rdata : Bytes} :
    serviceNumbers rdata = none ↔ rdata.length < 6 := by
  match rdata with
  | _ :: _ :: _ :: _ :: _ :: _ :: rest => simp [serviceNumbers]
  | [] => simp [serviceNumbers]
  | [_] => simp [serviceNumbers]
  | [_, _] => simp [serviceNumbers]
  | [_, _, _] => simp [serviceNumbers]
  | [_, _, _, _] => simp [serviceNumbers]
  | [_, _, _, _, _] => simp [serviceNumbers]

theorem exists_six_octets {rdata : Bytes} (h : ¬ rdata.length < 6) :
    ∃ p₁ p₂ w₁ w₂ q₁ q₂ rest, rdata = p₁ :: p₂ :: w₁ :: w₂ :: q₁ :: q₂ :: rest := by
  match rdata with
  | p₁ :: p₂ :: w₁ :: w₂ :: q₁ :: q₂ :: rest => exact ⟨p₁, p₂, w₁, w₂, q₁, q₂, rest, rfl⟩
  | [] => simp at h
  | [_] => simp at h
  | [_, _] => simp at h
  | [_, _, _] => simp at h
  | [_, _, _, _] => simp at h
  | [_, _, _, _, _] => simp at h

theorem formatSrv_eq_serviceText (ctx : RDataFormatContext) (hmessage : ctx.message ≠ []) :
    formatSrv ctx =
      .ok (serviceText (serviceNumbers ctx.rdata)
        (if 6 < ctx.rdata.length then some (nameAt ctx.message (ctx.rdataOffset + 6))
        else none)) := by
  obtain ⟨message, offset, rdata⟩ := ctx
  have hnonempty : ¬ message.isEmpty = true := by simpa using hmessage
  by_cases hshort : rdata.length < 6
  · rw [formatSrv, if_pos hshort]
    dsimp only
    rw [serviceNumbers_eq_none_iff.mpr hshort]
    rfl
  · obtain ⟨p₁, p₂, w₁, w₂, q₁, q₂, rest, rfl⟩ := exists_six_octets hshort
    rw [formatSrv, if_neg hshort]
    dsimp only
    have hread : readU16Be (p₁ :: p₂ :: w₁ :: w₂ :: q₁ :: q₂ :: rest) 0 = .ok (wordOf p₁ p₂) ∧
        readU16Be (p₁ :: p₂ :: w₁ :: w₂ :: q₁ :: q₂ :: rest) 2 = .ok (wordOf w₁ w₂) ∧
        readU16Be (p₁ :: p₂ :: w₁ :: w₂ :: q₁ :: q₂ :: rest) 4 = .ok (wordOf q₁ q₂) :=
      ⟨rfl, rfl, rfl⟩
    obtain ⟨hpriority, hweight, hport⟩ := hread
    simp only [hpriority, hweight, hport, ok_bind]
    by_cases hlong : 6 < (p₁ :: p₂ :: w₁ :: w₂ :: q₁ :: q₂ :: rest).length
    · rw [if_pos ⟨hlong, hnonempty⟩, if_pos hlong]
      cases hname : parseQname message (offset + 6) with
      | ok found =>
          simp only [nameAt, hname, ok_bind, pure_eq_ok, catchAll]
          simp only [serviceText, serviceNumbers, targetText, srvNumbers, List.append_assoc]
      | error f =>
          obtain ⟨what, rfl⟩ := parseQname_failsOnly message (offset + 6) f hname
          simp only [nameAt, hname, error_bind, catchAll]
          simp only [serviceText, serviceNumbers, targetText, srvNumbers, List.append_assoc]
    · rw [if_neg (fun h => hlong h.1), if_neg hlong]
      simp only [serviceText, serviceNumbers, targetText, srvNumbers, List.append_nil, pure_eq_ok]

/-! ## The texts of strings -/

/-- A round of the loop behind the first string. -/
theorem formatTxtLoop_eq (rdata : Bytes) (fuel pos : Nat) (out : Bytes) :
    formatTxtLoop rdata fuel pos false out =
      .ok (out ++ (characterStrings fuel (rdata.drop pos)).flatMap (ascii " " ++ ·)) := by
  induction fuel generalizing pos out with
  | zero => simp [formatTxtLoop, characterStrings]
  | succ fuel ih =>
      rw [formatTxtLoop]
      by_cases hpos : pos < rdata.length
      · rw [if_pos hpos, readByte_of_lt hpos, ok_bind, List.drop_eq_getElem_cons hpos,
          characterStrings]
        dsimp only
        by_cases hfit : (rdata[pos]).toNat ≤ (rdata.drop (pos + 1)).length
        · have hslice : pos + 1 + (rdata[pos]).toNat ≤ rdata.length := by
            rw [List.length_drop] at hfit
            omega
          rw [if_neg (by omega), readSlice_of_le hslice, ok_bind, if_pos hfit,
            if_neg Bool.false_ne_true, ih, List.flatMap_cons, List.drop_drop]
          simp only [List.append_assoc]
        · rw [if_pos (by rw [List.length_drop] at hfit; omega), if_neg hfit]
          simp
      · rw [if_neg hpos, List.drop_eq_nil_of_le (by omega)]
        simp [characterStrings]

theorem intercalate_cons_eq_flatMap {α : Type} (sep first : List α) (rest : List (List α)) :
    sep.intercalate (first :: rest) = first ++ rest.flatMap (sep ++ ·) := by
  induction rest generalizing first with
  | nil => simp
  | cons second rest ih => rw [List.intercalate_cons_cons, ih, List.flatMap_cons]; simp

theorem formatTxt_eq (ctx : RDataFormatContext) :
    formatTxt ctx =
      .ok ((ascii " ").intercalate (characterStrings ctx.rdata.length ctx.rdata)) := by
  obtain ⟨message, offset, rdata⟩ := ctx
  rw [formatTxt]
  dsimp only
  cases rdata with
  | nil => rfl
  | cons length rest =>
      rw [List.length_cons, formatTxtLoop, if_pos (by simp), readByte_of_lt (by simp), ok_bind,
        characterStrings]
      dsimp only [List.getElem_cons_zero]
      by_cases hfit : length.toNat ≤ rest.length
      · rw [if_neg (by rw [List.length_cons]; omega),
          readSlice_of_le (by rw [List.length_cons]; omega), ok_bind, if_pos hfit, if_pos rfl,
          formatTxtLoop_eq, intercalate_cons_eq_flatMap]
        rw [show 0 + 1 + length.toNat = length.toNat + 1 by omega, List.drop_succ_cons]
        simp
      · rw [if_pos (by rw [List.length_cons]; omega), if_neg hfit]
        rfl

/-! ## The text of a displayable record -/

section

variable {packet packet' : Bytes} {rr rr' : MdnsResourceRecord} {nowMs nowMs' : UInt64}

@[simp] theorem content_of_a (htype : rr.type = typeA) :
    content packet rr = .address (addressOctets rr.rdata) := by
  rw [content, htype]
  rfl

theorem content_of_ptr (htype : rr.type = typePtr) :
    content packet rr = .pointer (nameAt packet rr.rdataOffset) := by
  rw [content, htype]
  rfl

@[simp] theorem content_of_srv (htype : rr.type = typeSrv) :
    content packet rr = .service (serviceNumbers rr.rdata)
      (if 6 < rr.rdata.length then some (nameAt packet (rr.rdataOffset + 6)) else none) := by
  rw [content, htype]
  rfl

@[simp] theorem content_of_txt (htype : rr.type = typeTxt) :
    content packet rr =
      .strings ((ascii " ").intercalate (characterStrings rr.rdata.length rr.rdata)) := by
  rw [content, htype]
  rfl

/-- A displayable PTR record shows the name that it points to. -/
theorem nameAt_of_displayable (htype : rr.type = typePtr) (hpacket : packet ≠ [])
    (hshow : isDisplayableRecord (recordView packet nowMs rr) = true) :
    nameAt packet rr.rdataOffset = some (rdataText rr packet) := by
  have hrefused : ∀ text ∈ [ascii "(empty PTR record)", ascii "(malformed PTR record)"],
      rdataText rr packet ≠ text := by
    intro text htext heq
    have hlabels : isServiceTypeName text = false ∧ isInstanceName text = false := by
      have hboth : ∀ text ∈ [ascii "(empty PTR record)", ascii "(malformed PTR record)"],
          isServiceTypeName text = false ∧ isInstanceName text = false := by
        decide
      exact hboth text htext
    have hrelevant : isAuditRelevantRecord (recordView packet nowMs rr) = false := by
      have htypeView : (recordView packet nowMs rr).type = typePtr := htype
      rw [isAuditRelevantRecord, if_pos htypeView]
      have htextView : (recordView packet nowMs rr).rdataText = text := heq
      rw [htextView, hlabels.1, hlabels.2]
      simp
    rw [isDisplayableRecord, hrelevant, Bool.and_false] at hshow
    exact Bool.false_ne_true hshow
  by_cases hrdata : rr.rdata = []
  · have hempty : rdataText rr packet = ascii "(empty PTR record)" := by
      refine rdataText_of_ptr htype packet ?_
      rw [formatPtr, if_pos (by simpa using hrdata)]
      rfl
    exact absurd hempty (hrefused _ (by simp))
  · have hformat := formatPtr_eq ⟨packet, rr.rdataOffset, rr.rdata⟩ hrdata hpacket
    cases hname : parseQname packet rr.rdataOffset with
    | ok found =>
        simp only [hname, ok_bind, pure_eq_ok, catchAll] at hformat
        rw [rdataText_of_ptr htype packet hformat, nameAt, hname]
    | error f =>
        obtain ⟨what, rfl⟩ := parseQname_failsOnly packet rr.rdataOffset f hname
        simp only [hname, error_bind, catchAll] at hformat
        exact absurd (rdataText_of_ptr htype packet hformat) (hrefused _ (by simp))

/-- The text that a content is shown as. -/
def Content.text : Content → Bytes
  | .address octets => addressText octets
  | .pointer name => name.getD []
  | .service numbers target => serviceText numbers target
  | .strings joined => joined
  | .other => []

theorem rdataText_of_format {format : RDataFormatContext → Except Fault Bytes}
    (htype : getRdataFormatter rr.type = format) {text : Bytes}
    (h : format ⟨packet, rr.rdataOffset, rr.rdata⟩ = .ok text) : rdataText rr packet = text := by
  rw [rdataText, rdataStr, htype, h]

/-- **The text of a displayable record shows its content.** -/
theorem rdataText_eq_text (hpacket : packet ≠ [])
    (hshow : isDisplayableRecord (recordView packet nowMs rr) = true) :
    rdataText rr packet = (content packet rr).text := by
  rcases isDisplayableRecord_cases hshow with hptr | ⟨hsrv | htxt, -⟩ | ⟨ha, -⟩
  · replace hptr : rr.type = typePtr := hptr
    rw [content_of_ptr hptr, nameAt_of_displayable hptr hpacket hshow]
    rfl
  · replace hsrv : rr.type = typeSrv := hsrv
    rw [content_of_srv hsrv]
    exact rdataText_of_srv hsrv packet (formatSrv_eq_serviceText _ hpacket)
  · replace htxt : rr.type = typeTxt := htxt
    rw [content_of_txt htxt]
    exact rdataText_of_format (by rw [htxt]; rfl) (formatTxt_eq _)
  · replace ha : rr.type = typeA := ha
    rw [content_of_a ha]
    exact rdataText_of_format (by rw [ha]; rfl) (formatA_eq _)

/-- **Two displayable records of one type have the same text just if they say the same.** -/
theorem rdataText_eq_iff_content (hpacket : packet ≠ []) (hpacket' : packet' ≠ [])
    (hshow : isDisplayableRecord (recordView packet nowMs rr) = true)
    (hshow' : isDisplayableRecord (recordView packet' nowMs' rr') = true)
    (htype : rr.type = rr'.type) :
    rdataText rr packet = rdataText rr' packet' ↔ content packet rr = content packet' rr' := by
  have htext := rdataText_eq_text hpacket hshow
  have htext' := rdataText_eq_text hpacket' hshow'
  refine ⟨?_, fun heq => by rw [htext, htext', heq]⟩
  intro heq
  rcases isDisplayableRecord_cases hshow with hptr | ⟨hsrv | htxt, -⟩ | ⟨ha, -⟩
  · replace hptr : rr.type = typePtr := hptr
    have hptr' : rr'.type = typePtr := htype.symm.trans hptr
    rw [content_of_ptr hptr, content_of_ptr hptr', nameAt_of_displayable hptr hpacket hshow,
      nameAt_of_displayable hptr' hpacket' hshow', heq]
  · replace hsrv : rr.type = typeSrv := hsrv
    have hsrv' : rr'.type = typeSrv := htype.symm.trans hsrv
    have hshort : ∀ (rdata : Bytes) (target : Option Bytes), serviceNumbers rdata = none →
        (if 6 < rdata.length then some target else none) = none := by
      intro rdata target hnone
      have hlength := serviceNumbers_eq_none_iff.mp hnone
      exact if_neg (by omega)
    rw [htext, htext', content_of_srv hsrv, content_of_srv hsrv'] at heq
    obtain ⟨hnumbers, htarget⟩ := serviceText_inj (hshort _ _) (hshort _ _) heq
    rw [content_of_srv hsrv, content_of_srv hsrv', hnumbers, htarget]
  · replace htxt : rr.type = typeTxt := htxt
    have htxt' : rr'.type = typeTxt := htype.symm.trans htxt
    rw [htext, htext', content_of_txt htxt, content_of_txt htxt'] at heq
    rw [content_of_txt htxt, content_of_txt htxt']
    exact congrArg Content.strings heq
  · replace ha : rr.type = typeA := ha
    have ha' : rr'.type = typeA := htype.symm.trans ha
    rw [htext, htext', content_of_a ha, content_of_a ha'] at heq
    rw [content_of_a ha, content_of_a ha', addressText_injective heq]

end

/-! ## Over a run -/

/-- The displayable records of some responses, each with its response. -/
def announcements (rs : List DecodedResponse) : List (DecodedResponse × MdnsResourceRecord) :=
  rs.flatMap fun r =>
    ((sectionRecords r.message).filter fun rr =>
      isDisplayableRecord (recordView r.packet r.nowMs rr)).map fun rr => (r, rr)

/-- What an announcement is shown as. -/
def announcedView (p : DecodedResponse × MdnsResourceRecord) : Bytes × ResourceRecordView :=
  (p.1.srcIp, recordView p.1.packet p.1.nowMs p.2)

/-- Source, owner and type of an announcement, and what it says. -/
def announcedIdentity (p : DecodedResponse × MdnsResourceRecord) :
    Bytes × Bytes × UInt16 × Content :=
  (p.1.srcIp, p.2.name, p.2.type, content p.1.packet p.2)

/-- No source and no owner contains the separator of the keys. -/
def PlainNames (records : List (Bytes × ResourceRecordView)) : Prop :=
  ∀ p ∈ records, keySeparator ∉ p.1 ∧ keySeparator ∉ p.2.ownerName

instance (records : List (Bytes × ResourceRecordView)) : Decidable (PlainNames records) :=
  inferInstanceAs
    (Decidable (∀ p ∈ records, keySeparator ∉ p.1 ∧ keySeparator ∉ p.2.ownerName))

theorem displayableRecords_eq_map (rs : List DecodedResponse) :
    displayableRecords rs = (announcements rs).map announcedView := by
  rw [displayableRecords, announcements, List.map_flatMap]
  refine List.flatMap_congr fun r _ => ?_
  rw [DecodedResponse.displayable, displayableViews, List.filter_map, List.map_map, List.map_map]
  rfl

/-- A part without the separator is read off a key. -/
theorem append_keySeparator_inj {part part' s t : Bytes} (hpart : keySeparator ∉ part)
    (hpart' : keySeparator ∉ part') (h : part ++ keySeparator :: s = part' ++ keySeparator :: t) :
    part = part' ∧ s = t := by
  have hstop : ∀ rest : Bytes, ∀ b ∈ (keySeparator :: rest).head?, ¬ b ≠ keySeparator :=
    not_of_mem_head?_cons (not_not_intro rfl)
  obtain ⟨hsame, hrest⟩ := append_inj_of_stop (p := (· ≠ keySeparator))
    (fun b hb heq => hpart (heq ▸ hb)) (fun b hb heq => hpart' (heq ▸ hb)) (hstop _) (hstop _) h
  exact ⟨hsame, (List.cons.inj hrest).2⟩

/-- Behind plain names a key is read from its front. -/
theorem recordTuple_of_storeKey_eq {p q : Bytes × ResourceRecordView}
    (hp : keySeparator ∉ p.1 ∧ keySeparator ∉ p.2.ownerName)
    (hq : keySeparator ∉ q.1 ∧ keySeparator ∉ q.2.ownerName) (h : storeKey p = storeKey q) :
    recordTuple p = recordTuple q := by
  obtain ⟨src, r⟩ := p
  obtain ⟨src', r'⟩ := q
  simp only [storeKey, recordStoreKey_eq, recordContentKey_eq] at h
  obtain ⟨hsrc, h⟩ := append_keySeparator_inj hp.1 hq.1 h
  obtain ⟨howner, h⟩ := append_keySeparator_inj hp.2 hq.2 h
  have hstop : ∀ rest : Bytes, ∀ b ∈ (keySeparator :: rest).head?, ¬ Json.isDigit b = true :=
    not_of_mem_head?_cons (by decide)
  obtain ⟨htype, h⟩ := decimal_append_inj (hstop _) (hstop _) h
  simp only [recordTuple, Prod.mk.injEq]
  exact ⟨hsrc, howner, UInt16.toNat_inj.mp htype, (List.cons.inj h).2⟩

/-- The keys of announcements are the same just if the announcements are. -/
theorem storeKey_announced_iff {rs : List DecodedResponse}
    (hplain : PlainNames (displayableRecords rs)) {p q : DecodedResponse × MdnsResourceRecord}
    (hp : p ∈ announcements rs) (hq : q ∈ announcements rs) :
    storeKey (announcedView p) = storeKey (announcedView q) ↔
      announcedIdentity p = announcedIdentity q := by
  have hshown : ∀ p ∈ announcements rs,
      isDisplayableRecord (recordView p.1.packet p.1.nowMs p.2) = true := by
    intro p hp
    obtain ⟨r, -, hp⟩ := List.mem_flatMap.mp hp
    obtain ⟨rr, hrr, rfl⟩ := List.mem_map.mp hp
    exact (List.mem_filter.mp hrr).2
  have hnames : ∀ p ∈ announcements rs,
      keySeparator ∉ p.1.srcIp ∧ keySeparator ∉ p.2.name := by
    intro p hp
    refine hplain (announcedView p) ?_
    rw [displayableRecords_eq_map]
    exact List.mem_map_of_mem hp
  have hcontent : p.2.type = q.2.type →
      (rdataText p.2 p.1.packet = rdataText q.2 q.1.packet ↔
        content p.1.packet p.2 = content q.1.packet q.2) :=
    rdataText_eq_iff_content (packet_ne_nil p.1.decoded) (packet_ne_nil q.1.decoded)
      (hshown p hp) (hshown q hq)
  constructor
  · intro hkey
    have htuple := recordTuple_of_storeKey_eq (hnames p hp) (hnames q hq) hkey
    simp only [recordTuple, announcedView, recordView, Prod.mk.injEq] at htuple
    obtain ⟨hsrc, howner, htype, htext⟩ := htuple
    simp only [announcedIdentity, Prod.mk.injEq]
    exact ⟨hsrc, howner, htype, (hcontent htype).mp htext⟩
  · intro hidentity
    simp only [announcedIdentity, Prod.mk.injEq] at hidentity
    obtain ⟨hsrc, howner, htype, hsame⟩ := hidentity
    refine storeKey_of_recordTuple_eq ?_
    simp only [recordTuple, announcedView, recordView, Prod.mk.injEq]
    exact ⟨hsrc, howner, htype, (hcontent htype).mpr hsame⟩

/-- **What a record says decides whether it is emitted.**  In every state of the engine,
however its threads are interleaved, the records behind the change filter are the first
announcement of each content for its source, owner and type. -/
theorem contents_emitted_once (config : MdnsProbePlannerConfig) (clock : Nat → Int)
    (interfaceName : Bytes) (running : Bool) (actions : List EngineAction) (e : Engine)
    (hrun : Run (EngineStep config clock) (.called interfaceName running) actions e)
    (hplain : PlainNames (displayableRecords e.responses)) :
    emittedRecords (filterRun ∅ e.emitted).1 =
      (scan announcedIdentity ∅ (announcements e.responses)).1.map announcedView := by
  rw [(accounted_of_run hrun).filtered, displayableRecords_eq_map, scan_map]
  have hscan : (scan (storeKey ∘ announcedView) ∅ (announcements e.responses)).1 =
      (scan announcedIdentity ∅ (announcements e.responses)).1 :=
    scan_congr (fun p hp q hq => storeKey_announced_iff hplain hp hq) fun p _ => by simp
  rw [hscan]

/-! ### A host that moves -/

/-- A response with the address of a host. -/
def hostPacket (last : UInt8) : Bytes :=
  [0, 0, 0x84, 0, 0, 0, 0, 1, 0, 0, 0, 0] ++ [ascii "tv", ascii "local"].flatMap wireLabel ++
    [0, 0, 1, 0, 1, 0, 0, 0, 120, 0, 4, 10, 0, 0, last]

/-- The address is announced twice, and then another one. -/
def movingScan : List EngineAction :=
  [.main false false, .bind (some []) false false,
    .main false false, .main false false, .main false false] ++
    [7, 7, 8].flatMap (fun last =>
      [.receiver (.failed eAgain), .receiver (.received (hostPacket last) (ascii "10.0.0.1")),
        .receiver (.failed eAgain)]) ++
      List.replicate 15 (.worker 1000)

/-- What the scan leads to. -/
def movedEngine : Engine :=
  (exec (Engine.advance {} fun _ => 0) (.called [] false) movingScan).getD (.called [] false)

theorem movingScan_run :
    Run (EngineStep {} fun _ => 0) (.called [] false) movingScan movedEngine :=
  Run.mono (fun _ _ _ => Engine.advance_eq_some_iff.mp) (.of_exec_isSome (by decide +kernel))

/-- Of the three announcements the second one is left out. -/
theorem movingScan_emitted :
    (announcements movedEngine.responses).length = 3 ∧
      (emittedRecords (filterRun ∅ movedEngine.emitted).1).length = 2 ∧
      emittedRecords (filterRun ∅ movedEngine.emitted).1 =
        (scan announcedIdentity ∅ (announcements movedEngine.responses)).1.map announcedView :=
  ⟨by decide +kernel, by decide +kernel,
    contents_emitted_once {} (fun _ => 0) [] false movingScan movedEngine movingScan_run
      (by decide +kernel)⟩

end Scanner
end LanDiscovery
