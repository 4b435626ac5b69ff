import LanDiscovery.Library.Calendar
import LanDiscovery.Library.Lexicographic
import LanDiscovery.Scanner.Decimal

/-!
# Timestamps

`format_timestamp_iso`.  Different times have different texts, and up to the end of the
year 9999 the texts compare octet by octet as the times do (`formatTimestampIso_le_iff`).
-/

namespace LanDiscovery
namespace Scanner

open Library Library.Utf8 Library.Lexicographic Library.Calendar

/-- The order of octets. -/
abbrev octetsLe : Bytes → Bytes → Bool := lexLe UInt8.toNat

/-- A number on at least so many digits (`std::setw` with `std::setfill('0')`). -/
def padded (width n : Nat) : Bytes :=
  List.replicate (width - (decimal n).length) (digitOctet 0) ++ decimal n

/-- The time of day and what follows the date in `%Y-%m-%dT%H:%M:%S`, and the milliseconds. -/
def formatTimeOfDay (sec ms : Nat) : Bytes :=
  ascii "T" ++ padded 2 (sec / 3600) ++ ascii ":" ++ padded 2 (sec / 60 % 60) ++ ascii ":" ++
    padded 2 (sec % 60) ++ ascii "." ++ padded 3 ms ++ ascii "Z"

/-- Month and day with their separators. -/
def formatMonthDay (date : Date) : Bytes :=
  ascii "-" ++ padded 2 date.month ++ ascii "-" ++ padded 2 date.day

/-- `format_timestamp_iso`: `gmtime_r` and `std::put_time`. -/
def formatTimestampIso (timestampMs : UInt64) : Bytes :=
  let sec := timestampMs.toNat / 1000
  let ms := timestampMs.toNat % 1000
  let date := ofDays (sec / 86400)
  decimal date.year ++ (formatMonthDay date ++ formatTimeOfDay (sec % 86400) ms)

/-! ## Digits -/

theorem toNat_digitOctet {d : Nat} (h : d < 10) : (digitOctet d).toNat = 48 + d := by
  rw [digitOctet, UInt8.toNat_ofNat']
  omega

/-- Behind the last digit stand the ones before it. -/
theorem padded_succ {width : Nat} (hwidth : 0 < width) (n : Nat) :
    padded (width + 1) n = padded width (n / 10) ++ [digitOctet (n % 10)] := by
  by_cases hn : n < 10
  · have hdiv : n / 10 = 0 := by omega
    have hmod : n % 10 = n := by omega
    rw [padded, padded, hdiv, hmod, decimal_of_lt hn, decimal_of_lt (show 0 < 10 by omega)]
    obtain ⟨k, rfl⟩ := Nat.exists_eq_add_of_lt hwidth
    simp [List.replicate_succ']
  · have hlen : (decimal n).length = (decimal (n / 10)).length + 1 := by
      rw [decimal_of_le (Nat.le_of_not_lt hn)]
      simp
    rw [padded, padded, hlen, Nat.add_sub_add_right, decimal_of_le (Nat.le_of_not_lt hn),
      List.append_assoc]

/-- Numbers of at most so many digits compare as their texts. -/
@[simp] theorem ordersBelow_padded (width : Nat) :
    OrdersBelow UInt8.toNat (padded (width + 1)) (10 ^ (width + 1)) := by
  have hletter : ∀ d e, d < 10 → e < 10 →
      ((digitOctet d).toNat < (digitOctet e).toNat ↔ d < e) ∧
        ((digitOctet d).toNat = (digitOctet e).toNat ↔ d = e) := by
    intro d e hd he
    rw [toNat_digitOctet hd, toNat_digitOctet he]
    omega
  induction width with
  | zero =>
      intro n m hn hm s t
      rw [Nat.zero_add, Nat.pow_one] at hn hm
      obtain ⟨hlt, heq⟩ := hletter n m hn hm
      simp [padded, decimal_of_lt hn, decimal_of_lt hm, hlt, heq]
  | succ width ih =>
      have hcode : padded (width + 1 + 1) =
          fun n => padded (width + 1) (n / 10) ++ [digitOctet (n % 10)] := by
        funext n
        exact padded_succ (Nat.succ_pos width) n
      rw [hcode, Nat.pow_succ]
      exact ih.digit hletter

theorem decimal_eq_padded {n : Nat} (hlow : 1000 ≤ n) (hhigh : n < 10000) :
    decimal n = padded 4 n := by
  have hlen : (decimal n).length = 4 := by
    rw [decimal_of_le (by omega), decimal_of_le (by omega), decimal_of_le (by omega),
      decimal_of_lt (by omega)]
    simp
  rw [padded, hlen]
  rfl

/-! ## The order of the texts -/

theorem formatTimeOfDay_le_iff {sec sec' ms ms' : Nat} (hsec : sec < 86400) (hsec' : sec' < 86400)
    (hms : ms < 1000) (hms' : ms' < 1000) :
    octetsLe (formatTimeOfDay sec ms) (formatTimeOfDay sec' ms') = true ↔
      sec < sec' ∨ sec = sec' ∧ ms ≤ ms' := by
  unfold formatTimeOfDay octetsLe
  simp only [List.append_assoc]
  rw [lexLe_append_left, ordersBelow_padded 1 _ _ (by omega) (by omega), lexLe_append_left,
    ordersBelow_padded 1 _ _ (by omega) (by omega), lexLe_append_left,
    ordersBelow_padded 1 _ _ (by omega) (by omega), lexLe_append_left,
    ordersBelow_padded 2 _ _ (by omega) (by omega)]
  simp only [lexLe_refl, and_true]
  omega

theorem formatMonthDay_le_iff (n m : Nat) (s t : Bytes) :
    octetsLe (formatMonthDay (ofDays n) ++ s) (formatMonthDay (ofDays m) ++ t) = true ↔
      (ofDays n).month < (ofDays m).month ∨ (ofDays n).month = (ofDays m).month ∧
        ((ofDays n).day < (ofDays m).day ∨ (ofDays n).day = (ofDays m).day ∧
          octetsLe s t = true) := by
  obtain ⟨-, hmonth, -, hday⟩ := ofDays_bounds n
  obtain ⟨-, hmonth', -, hday'⟩ := ofDays_bounds m
  unfold formatMonthDay octetsLe
  simp only [List.append_assoc]
  rw [lexLe_append_left, ordersBelow_padded 1 _ _ (by omega) (by omega), lexLe_append_left,
    ordersBelow_padded 1 _ _ (by omega) (by omega)]

/-- What stands behind the year compares as the times do, for times of one year. -/
theorem afterYear_le_iff {t u : Nat}
    (hyear : (ofDays (t / 1000 / 86400)).year = (ofDays (u / 1000 / 86400)).year) :
    octetsLe
        (formatMonthDay (ofDays (t / 1000 / 86400)) ++
          formatTimeOfDay (t / 1000 % 86400) (t % 1000))
        (formatMonthDay (ofDays (u / 1000 / 86400)) ++
          formatTimeOfDay (u / 1000 % 86400) (u % 1000)) = true ↔ t ≤ u := by
  rw [formatMonthDay_le_iff, formatTimeOfDay_le_iff (by omega) (by omega) (by omega) (by omega)]
  have hle := ofDays_le_iff (t / 1000 / 86400) (u / 1000 / 86400)
  have hge := ofDays_le_iff (u / 1000 / 86400) (t / 1000 / 86400)
  unfold Date.le at hle hge
  have hsplit : t ≤ u ↔ t / 1000 / 86400 < u / 1000 / 86400 ∨
      t / 1000 / 86400 = u / 1000 / 86400 ∧ (t / 1000 % 86400 < u / 1000 % 86400 ∨
        t / 1000 % 86400 = u / 1000 % 86400 ∧ t % 1000 ≤ u % 1000) := by omega
  rw [hsplit]
  omega

/-- The last day of the year 9999. -/
def lastDay : Nat := 2932896

theorem ofDays_lastDay : ofDays lastDay = ⟨9999, 12, 31⟩ := by
  decide

/-- Years have four digits up to that day. -/
theorem year_bounds {n : Nat} (h : n ≤ lastDay) :
    1970 ≤ (ofDays n).year ∧ (ofDays n).year ≤ 9999 := by
  have hfirst := (ofDays_le_iff 0 n).mp (Nat.zero_le n)
  have hlast := (ofDays_le_iff n lastDay).mp h
  rw [ofDays_zero] at hfirst
  rw [ofDays_lastDay] at hlast
  simp only [Date.le] at hfirst hlast
  omega

/-- **Timestamps compare as times** up to the end of the year 9999. -/
theorem formatTimestampIso_le_iff {t u : UInt64} (ht : t.toNat / 1000 / 86400 ≤ lastDay)
    (hu : u.toNat / 1000 / 86400 ≤ lastDay) :
    octetsLe (formatTimestampIso t) (formatTimestampIso u) = true ↔ t ≤ u := by
  obtain ⟨htFirst, htLast⟩ := year_bounds ht
  obtain ⟨huFirst, huLast⟩ := year_bounds hu
  unfold formatTimestampIso octetsLe
  dsimp only
  rw [decimal_eq_padded (by omega) (by omega), decimal_eq_padded (by omega) (by omega),
    ordersBelow_padded 3 _ _ (by omega) (by omega), UInt64.le_iff_toNat_le]
  have hle := ofDays_le_iff (t.toNat / 1000 / 86400) (u.toNat / 1000 / 86400)
  have hge := ofDays_le_iff (u.toNat / 1000 / 86400) (t.toNat / 1000 / 86400)
  unfold Date.le at hle hge
  rcases Nat.lt_trichotomy (ofDays (t.toNat / 1000 / 86400)).year
      (ofDays (u.toNat / 1000 / 86400)).year with hlt | heq | hgt
  · exact iff_of_true (Or.inl hlt) (by omega)
  · have hrest := afterYear_le_iff heq
    rw [← hrest]
    exact ⟨fun h => (h.resolve_left (by omega)).2, fun h => Or.inr ⟨heq, h⟩⟩
  · exact iff_of_false (by omega) (by omega)

/-- Different times have different texts, in any year. -/
theorem formatTimestampIso_injective : Function.Injective formatTimestampIso := by
  intro t u h
  unfold formatTimestampIso at h
  dsimp only at h
  have hdash : ∀ (date : Date) (s : Bytes),
      ∀ b ∈ (formatMonthDay date ++ s).head?, ¬ Json.isDigit b = true := by
    intro date s b hb
    have hdash : b = 45 := by
      unfold formatMonthDay at hb
      simpa [ascii, eq_comm] using hb
    rw [hdash]
    decide
  obtain ⟨hyear, hrest⟩ := decimal_append_inj (hdash _ _) (hdash _ _) h
  apply UInt64.toNat_inj.mp
  apply Nat.le_antisymm
  · rw [← afterYear_le_iff hyear, hrest]
    exact lexLe_refl _
  · rw [← afterYear_le_iff hyear.symm, hrest]
    exact lexLe_refl _

/-- **A timestamp has the Gregorian date of its day**, different times have different texts,
and those up to the end of the year 9999 compare octet by octet as the times do. -/
theorem timestamps_sort_as_times :
    (∀ t : UInt64, ∃ timeOfDay : Bytes,
      formatTimestampIso t =
        decimal (Date.next^[t.toNat / 86400000] ⟨1970, 1, 1⟩).year ++
          (formatMonthDay (Date.next^[t.toNat / 86400000] ⟨1970, 1, 1⟩) ++ timeOfDay)) ∧
      Function.Injective formatTimestampIso ∧
      ∀ t u : UInt64, t.toNat < 253402300800000 → u.toNat < 253402300800000 →
        (octetsLe (formatTimestampIso t) (formatTimestampIso u) = true ↔ t ≤ u) := by
  refine ⟨?_, formatTimestampIso_injective, ?_⟩
  · intro t
    refine ⟨formatTimeOfDay (t.toNat / 1000 % 86400) (t.toNat % 1000), ?_⟩
    rw [← ofDays_eq_iterate, show t.toNat / 86400000 = t.toNat / 1000 / 86400 by omega]
    rfl
  · intro t u ht hu
    have hbound : ∀ n, n < 253402300800000 → n / 1000 / 86400 ≤ lastDay := by
      unfold lastDay
      omega
    exact formatTimestampIso_le_iff (hbound _ ht) (hbound _ hu)

example : formatTimestampIso 951827696123 = ascii "2000-02-29T12:34:56.123Z" := by
  decide +kernel

end Scanner
end LanDiscovery
