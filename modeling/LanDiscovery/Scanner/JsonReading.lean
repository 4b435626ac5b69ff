import LanDiscovery.Scanner.DiscoveryJson

/-!
# Reading the posted text back

Whatever octets the fields of an event hold, the text that is posted for it can be read
in one way only.  A string ends at the first quotation mark that is not escaped, a number
where its digits end, and the optional members are told apart by their names; the labels
of a record follow from its other fields.
-/

namespace LanDiscovery
namespace Scanner

open Library Library.Utf8 Library.Json Library.PrefixCode

/-! ## Strings -/

theorem selfDelimiting_escapeOctet : SelfDelimiting escapeOctet := by
  refine .of_eq fun c d s t h => ?_
  rcases escapeOctet_cases c with ⟨hc, hplain⟩ | ⟨-, letter, hc, -, hcode⟩ <;>
    rcases escapeOctet_cases d with ⟨hd, hplain'⟩ | ⟨-, letter', hd, -, hcode'⟩
  · rw [hc, hd] at h
    exact (List.cons.inj h).1
  · -- a backslash is never copied
    rw [hc, hd] at h
    exact absurd (by simp [(List.cons.inj h).1]) hplain
  · rw [hc, hd] at h
    exact absurd (by simp [← (List.cons.inj h).1]) hplain'
  · rw [hc, hd] at h
    obtain ⟨rfl, -⟩ := List.cons.inj (List.cons.inj h).2
    rw [hcode] at hcode'
    exact UInt8.toNat_inj.mp (Option.some.inj hcode')

/-- No octet is written with a quotation mark in front. -/
theorem escapeOctet_head (c : UInt8) : ∃ b word, escapeOctet c = b :: word ∧ b ≠ 34 := by
  rcases escapeOctet_cases c with ⟨hc, hplain⟩ | ⟨-, letter, hc, -⟩
  · exact ⟨c, [], hc, fun h => hplain (by simp [h])⟩
  · exact ⟨92, [letter], hc, by decide⟩

/-- A string is read up to its closing quotation mark. -/
theorem jsonEscape_append_inj {s t x y : Bytes}
    (h : jsonEscape s ++ 34 :: x = jsonEscape t ++ 34 :: y) : s = t ∧ x = y := by
  have hread := selfDelimiting_flatMap selfDelimiting_escapeOctet escapeOctet_head
  refine hread ?_
  simpa [jsonEscape] using h

/-! ## Records -/

/-- What follows the numbers of a record: the labels and the closing brace. -/
def recordTail (r : ResourceRecordView) : Bytes :=
  optionalText (ascii ",\"service\":\"") (serviceLabel r) ++
  optionalText (ascii ",\"host\":\"") (hostLabel r) ++
  ascii "\x7d"

theorem recordJson_append (r : ResourceRecordView) (s : Bytes) :
    recordJson r ++ s =
      ascii "\x7b\"owner_name\":\"" ++ (jsonEscape r.ownerName ++ 34 ::
        (ascii ",\"type\":" ++ (decimal r.type.toNat ++
        (ascii ",\"type_name\":\"" ++ (jsonEscape (dnsTypeName r.type) ++ 34 ::
        (ascii ",\"rdata_text\":\"" ++ (jsonEscape r.rdataText ++ 34 ::
        (ascii ",\"ttl\":" ++ (decimal r.ttl.toNat ++
        (ascii ",\"last_seen_ms\":" ++ (decimal r.observedAtMs.toNat ++
        (recordTail r ++ s)))))))))))) := by
  delta recordJson recordTail
  have hquote : ascii "\"" = [34] := rfl
  simp only [List.append_assoc, hquote, List.cons_append, List.nil_append]

/-- A text that starts with a symbol other than a digit. -/
theorem not_isDigit_head {c : UInt8} {u : Bytes} (hu : u.head? = some c)
    (hc : Json.isDigit c = false) (s : Bytes) : ∀ b ∈ (u ++ s).head?, ¬ Json.isDigit b = true := by
  intro b hb
  rw [List.head?_append, hu, Option.some_or, Option.mem_some_iff] at hb
  simp [← hb, hc]

theorem recordTail_head (r : ResourceRecordView) :
    ∃ c, (recordTail r).head? = some c ∧ Json.isDigit c = false := by
  unfold recordTail optionalText
  split_ifs
  · exact ⟨125, rfl, by decide⟩
  · exact ⟨44, rfl, by decide⟩
  · exact ⟨44, rfl, by decide⟩
  · exact ⟨44, rfl, by decide⟩

/-- **A record is read off the text.** -/
theorem selfDelimiting_recordJson : SelfDelimiting recordJson := by
  refine .of_eq fun r r' s t h => ?_
  rw [recordJson_append, recordJson_append] at h
  obtain ⟨howner, h⟩ := jsonEscape_append_inj (List.append_cancel_left h)
  obtain ⟨htype, h⟩ := decimal_append_inj (not_isDigit_head (c := 44) rfl (by decide) _)
    (not_isDigit_head (c := 44) rfl (by decide) _) (List.append_cancel_left h)
  obtain ⟨-, h⟩ := jsonEscape_append_inj (List.append_cancel_left h)
  obtain ⟨hrdata, h⟩ := jsonEscape_append_inj (List.append_cancel_left h)
  obtain ⟨httl, h⟩ := decimal_append_inj (not_isDigit_head (c := 44) rfl (by decide) _)
    (not_isDigit_head (c := 44) rfl (by decide) _) (List.append_cancel_left h)
  obtain ⟨c, hc, hdigit⟩ := recordTail_head r
  obtain ⟨c', hc', hdigit'⟩ := recordTail_head r'
  obtain ⟨hobserved, -⟩ := decimal_append_inj (not_isDigit_head hc hdigit _)
    (not_isDigit_head hc' hdigit' _) (List.append_cancel_left h)
  cases r
  cases r'
  rw [ResourceRecordView.mk.injEq]
  exact ⟨howner, UInt16.toNat_inj.mp htype, hrdata, UInt32.toNat_inj.mp httl,
    UInt64.toNat_inj.mp hobserved⟩

theorem recordJson_head (r : ResourceRecordView) : (recordJson r).head? = some 123 := by
  rw [recordJson_eq]
  rfl

theorem joinComma_eq_intercalate (texts : List Bytes) : joinComma texts = [44].intercalate texts := by
  induction texts with
  | nil => rfl
  | cons text texts ih =>
      cases texts with
      | nil => simp [joinComma]
      | cons text' texts =>
          rw [joinComma, ih, List.intercalate_cons_cons, List.append_assoc]
          · rfl
          · simp

/-- The records are read off up to the closing bracket. -/
theorem selfDelimiting_records :
    SelfDelimiting fun rs : List ResourceRecordView => joinComma (rs.map recordJson) ++ [93] := by
  simp only [joinComma_eq_intercalate]
  exact selfDelimiting_list selfDelimiting_recordJson recordJson_head (by decide) (by decide)

/-! ## Events -/

/-- What follows the address of an event: the MAC and the records. -/
def eventTail (mac : Option Bytes) (records : List ResourceRecordView) : Bytes :=
  optionalText (ascii ",\"mac\":\"") (mac.getD []) ++
  ascii ",\"records\":[" ++ joinComma (records.map recordJson) ++ ascii "]\x7d"

theorem toJson_append (ev : DiscoveryEvent) (mac : Option Bytes) (s : Bytes) :
    toJson ev mac ++ s =
      ascii "\x7b\"timestamp_ms\":" ++ (decimal ev.timestampMs.toNat ++
        (ascii ",\"src_ip\":\"" ++ (jsonEscape ev.srcIp ++ 34 ::
        (eventTail mac ev.records ++ s)))) := by
  delta toJson eventTail
  have hquote : ascii "\"" = [34] := rfl
  simp only [List.append_assoc, hquote, List.cons_append, List.nil_append]

/-- The records with what follows them. -/
def recordsTail (records : List ResourceRecordView) : Bytes :=
  ascii ",\"records\":[" ++ (joinComma (records.map recordJson) ++ 93 :: [125])

theorem recordsTail_append_inj {records records' : List ResourceRecordView} {s t : Bytes}
    (h : recordsTail records ++ s = recordsTail records' ++ t) : records = records' := by
  rw [recordsTail, recordsTail, List.append_assoc, List.append_assoc] at h
  have hread := List.append_cancel_left h
  refine (selfDelimiting_records (s := 125 :: s) (t := 125 :: t) ?_).1
  simpa using hread

theorem eventTail_eq (mac : Option Bytes) (records : List ResourceRecordView) :
    eventTail mac records =
      if (mac.getD []).isEmpty then recordsTail records
      else ascii ",\"mac\":\"" ++ (jsonEscape (mac.getD []) ++ 34 :: recordsTail records) := by
  delta eventTail recordsTail optionalText
  have hquote : ascii "\"" = [34] := rfl
  have hclose : ascii "]\x7d" = [93, 125] := rfl
  split_ifs <;>
    simp only [List.append_assoc, hquote, hclose, List.cons_append, List.nil_append]

/-- A MAC and the records without one differ in the third octet. -/
theorem mac_ne_records (u v : Bytes) :
    ascii ",\"mac\":\"" ++ u ≠ ascii ",\"records\":[" ++ v := by
  intro h
  have hthird : some (109 : UInt8) = some 114 := congrArg (fun text => text[2]?) h
  exact absurd hthird (by decide)

/-- The MAC and the records are read off; an empty MAC counts as none. -/
theorem eventTail_append_inj {mac mac' : Option Bytes} {records records' : List ResourceRecordView}
    {s t : Bytes} (h : eventTail mac records ++ s = eventTail mac' records' ++ t) :
    mac.getD [] = mac'.getD [] ∧ records = records' := by
  rw [eventTail_eq, eventTail_eq] at h
  split_ifs at h with hmac hmac' hmac'
  · rw [List.isEmpty_iff.mp hmac, List.isEmpty_iff.mp hmac']
    exact ⟨rfl, recordsTail_append_inj h⟩
  · rw [recordsTail, List.append_assoc, List.append_assoc] at h
    exact absurd h.symm (mac_ne_records _ _)
  · rw [recordsTail, List.append_assoc, List.append_assoc] at h
    exact absurd h (mac_ne_records _ _)
  · simp only [List.append_assoc, List.cons_append] at h
    have hread := List.append_cancel_left h
    obtain ⟨hsame, hrecords⟩ := jsonEscape_append_inj hread
    exact ⟨hsame, recordsTail_append_inj hrecords⟩

/-- **No field can forge another.**  Two posted texts are the same exactly if the events
are, up to an absent or an empty MAC, whatever octets the fields hold; and a text between
quotation marks ends where its value does, whatever follows. -/
theorem toJson_eq_iff (ev ev' : DiscoveryEvent) (mac mac' : Option Bytes) :
    (toJson ev mac = toJson ev' mac' ↔ ev = ev' ∧ mac.getD [] = mac'.getD []) ∧
    (∀ s t x y : Bytes,
      jsonEscape s ++ 34 :: x = jsonEscape t ++ 34 :: y ↔ s = t ∧ x = y) := by
  refine ⟨⟨fun h => ?_, ?_⟩, fun s t x y => ⟨jsonEscape_append_inj, ?_⟩⟩
  · have happend : toJson ev mac ++ [] = toJson ev' mac' ++ [] := by rw [h]
    rw [toJson_append, toJson_append] at happend
    obtain ⟨htime, happend⟩ := decimal_append_inj (not_isDigit_head (c := 44) rfl (by decide) _)
      (not_isDigit_head (c := 44) rfl (by decide) _) (List.append_cancel_left happend)
    obtain ⟨hsrc, happend⟩ := jsonEscape_append_inj (List.append_cancel_left happend)
    obtain ⟨hmac, hrecords⟩ := eventTail_append_inj happend
    cases ev
    cases ev'
    rw [DiscoveryEvent.mk.injEq]
    exact ⟨⟨UInt64.toNat_inj.mp htime, hsrc, hrecords⟩, hmac⟩
  · rintro ⟨rfl, hmac⟩
    rw [toJson, toJson, hmac]
  · rintro ⟨rfl, rfl⟩
    rfl

end Scanner
end LanDiscovery
