import LanDiscovery.Api.SecurityPolicy

/-!
# Baselines and fingerprints as JSON texts

`services_json`, `parse_services_json` and the payload of `diff_fingerprint`, with what
`json.dumps` writes and `json.loads` reads.  A text is ASCII: what is not printable is
written with `\u` escapes, and a character beyond the first plane with a pair of them.

Every list of services is read back as the sorted list, and a payload determines its host
and its services up to their order, so that a digest that tells texts apart tells deviations
apart (`stored_texts_faithful`).
-/

namespace LanDiscovery
namespace Api
namespace JsonText

open Library Library.Lexicographic

/-- The quotation mark. -/
def quote : Char := Char.ofNat 34

/-- The backslash. -/
def backslash : Char := Char.ofNat 92

/-! ## `json.dumps` -/

/-- A hexadecimal digit. -/
def hexChar (d : Nat) : Char :=
  if d < 10 then Char.ofNat (48 + d) else Char.ofNat (87 + d)

/-- Four hexadecimal digits. -/
def hex4 (n : Nat) : Str :=
  [hexChar (n / 4096 % 16), hexChar (n / 256 % 16), hexChar (n / 16 % 16), hexChar (n % 16)]

/-- A `\u` escape. -/
def unicodeEscape (n : Nat) : Str :=
  backslash :: Char.ofNat 117 :: hex4 n

/-- `ESCAPE_DCT`: the letter behind the backslash. -/
def escapeLetter (n : Nat) : Option Char :=
  match n with
  | 92 => some backslash
  | 34 => some quote
  | 8 => some (Char.ofNat 98)
  | 12 => some (Char.ofNat 102)
  | 10 => some (Char.ofNat 110)
  | 13 => some (Char.ofNat 114)
  | 9 => some (Char.ofNat 116)
  | _ => none

/-- A character of a string, as `py_encode_basestring_ascii` writes it. -/
def encodeChar (c : Char) : Str :=
  match escapeLetter c.toNat with
  | some letter => [backslash, letter]
  | none =>
      if 32 ≤ c.toNat ∧ c.toNat ≤ 126 then [c]
      else if c.toNat < 0x10000 then unicodeEscape c.toNat
      else
        unicodeEscape (0xD800 + (c.toNat - 0x10000) / 1024) ++
          unicodeEscape (0xDC00 + (c.toNat - 0x10000) % 1024)

/-- `json.dumps` of a string. -/
def dumpsStr (s : Str) : Str :=
  quote :: (s.flatMap encodeChar ++ [quote])

/-- `json.dumps` of a list of strings. -/
def dumpsList (items : List Str) : Str :=
  Char.ofNat 91 :: ((str ", ").intercalate (items.map dumpsStr) ++ [Char.ofNat 93])

/-- `services_json`. -/
def servicesText (serviceKeys : List Str) : Str :=
  dumpsList serviceKeys

/-- The payload of `diff_fingerprint`, with the keys in order. -/
def fingerprintPayload (state : Str × List Str) : Str :=
  str "\x7b\"mdns_host\": " ++
    (dumpsStr state.1 ++ (str ", \"services\": " ++ (dumpsList state.2 ++ str "\x7d")))

/-! ## `json.loads` -/

/-- What is loaded.  A number is its lexeme and a string the list of its code points, which
may be surrogates. -/
inductive Loaded where
  | null
  | bool (b : Bool)
  | number (lexeme : Str)
  | string (codes : List Nat)
  | array (items : List Loaded)
  | object (members : List (List Nat × Loaded))

/-- `WHITESPACE`. -/
def skipBlank (text : Str) : Str :=
  text.dropWhile fun c => c.toNat == 32 || c.toNat == 9 || c.toNat == 10 || c.toNat == 13

/-- The value of a hexadecimal digit. -/
def hexValue (c : Char) : Option Nat :=
  if 48 ≤ c.toNat ∧ c.toNat ≤ 57 then some (c.toNat - 48)
  else if 97 ≤ c.toNat ∧ c.toNat ≤ 102 then some (c.toNat - 87)
  else if 65 ≤ c.toNat ∧ c.toNat ≤ 70 then some (c.toNat - 55)
  else none

/-- `_decode_uXXXX`. -/
def readHex4 : Str → Option (Nat × Str)
  | a :: b :: c :: d :: rest => do
      let a ← hexValue a
      let b ← hexValue b
      let c ← hexValue c
      let d ← hexValue d
      return (((a * 16 + b) * 16 + c) * 16 + d, rest)
  | _ => none

/-- What stands behind `\u`; a high surrogate is joined with a low one that follows it. -/
def readUnicode (text : Str) : Option (Nat × Str) := do
  let (high, rest) ← readHex4 text
  if 0xD800 ≤ high ∧ high ≤ 0xDBFF ∧ rest.take 2 = [backslash, Char.ofNat 117] then
    let (low, rest') ← readHex4 (rest.drop 2)
    if 0xDC00 ≤ low ∧ low ≤ 0xDFFF then
      return (0x10000 + ((high - 0xD800) * 1024 + (low - 0xDC00)), rest')
    else return (high, rest)
  else return (high, rest)

/-- `BACKSLASH`: what a letter behind the backslash stands for. -/
def letterValue (c : Char) : Option Nat :=
  match c.toNat with
  | 34 => some 34
  | 92 => some 92
  | 47 => some 47
  | 98 => some 8
  | 102 => some 12
  | 110 => some 10
  | 114 => some 13
  | 116 => some 9
  | _ => none

/-- A character or an escape of a string. -/
def readChar : Str → Option (Nat × Str)
  | [] => none
  | c :: rest =>
      if c = backslash then
        match rest with
        | [] => none
        | letter :: rest =>
            if letter = Char.ofNat 117 then readUnicode rest
            else (letterValue letter).map fun code => (code, rest)
      else if c.toNat < 32 then none
      else some (c.toNat, rest)

/-- `py_scanstring`, behind the quotation mark.  Each round takes a character at least. -/
def readString : Nat → Str → Option (List Nat × Str)
  | fuel + 1, c :: rest =>
      if c = quote then some ([], rest)
      else do
        let (code, rest) ← readChar (c :: rest)
        let (codes, rest) ← readString fuel rest
        return (code :: codes, rest)
  | _, _ => none

/-- A decimal digit. -/
def isDigit (c : Char) : Bool :=
  48 ≤ c.toNat && c.toNat ≤ 57

/-- A part of a number that is there if digits follow what it starts with. -/
def optionalDigits (start rest : Str) (otherwise : Str) : Str × Str :=
  if (rest.takeWhile isDigit).isEmpty then ([], otherwise)
  else (start ++ rest.takeWhile isDigit, rest.dropWhile isDigit)

/-- The fraction of a number. -/
def readFraction : Str → Str × Str
  | c :: rest => if c.toNat = 46 then optionalDigits [c] rest (c :: rest) else ([], c :: rest)
  | [] => ([], [])

/-- The exponent of a number. -/
def readExponent : Str → Str × Str
  | e :: sign :: rest =>
      if e.toNat = 101 ∨ e.toNat = 69 then
        if sign.toNat = 43 ∨ sign.toNat = 45 then optionalDigits [e, sign] rest (e :: sign :: rest)
        else optionalDigits [e] (sign :: rest) (e :: sign :: rest)
      else ([], e :: sign :: rest)
  | text => ([], text)

/-- `NUMBER_RE`. -/
def readNumber (text : Str) : Option (Str × Str) :=
  let sign := text.takeWhile fun c => c.toNat == 45
  match text.drop sign.length with
  | [] => none
  | d :: rest =>
      if sign.length > 1 ∨ ¬ isDigit d then none
      else
        let (int, rest) :=
          if d.toNat = 48 then ([d], rest)
          else (d :: rest.takeWhile isDigit, rest.dropWhile isDigit)
        let (frac, rest) := readFraction rest
        let (exp, rest) := readExponent rest
        some (sign ++ int ++ frac ++ exp, rest)

/-- The constants. -/
def constants : List (Str × Loaded) :=
  [(str "null", .null), (str "true", .bool true), (str "false", .bool false),
    (str "NaN", .number (str "NaN")), (str "Infinity", .number (str "Infinity")),
    (str "-Infinity", .number (str "-Infinity"))]

/-- A constant or a number. -/
def readScalar (text : Str) : Option (Loaded × Str) :=
  match constants.find? fun p => p.1.isPrefixOf text with
  | some (word, value) => some (value, text.drop word.length)
  | none => (readNumber text).map fun p => (.number p.1, p.2)

mutual

/-- `scan_once`. -/
def readValue : Nat → Str → Option (Loaded × Str)
  | fuel + 1, c :: rest =>
      if c = quote then (readString fuel rest).map fun p => (.string p.1, p.2)
      else if c.toNat = 91 then
        match skipBlank rest with
        | d :: rest =>
            if d.toNat = 93 then some (.array [], rest)
            else (readItems fuel (d :: rest)).map fun p => (.array p.1, p.2)
        | [] => none
      else if c.toNat = 123 then
        match skipBlank rest with
        | d :: rest =>
            if d.toNat = 125 then some (.object [], rest)
            else (readMembers fuel (d :: rest)).map fun p => (.object p.1, p.2)
        | [] => none
      else readScalar (c :: rest)
  | _, _ => none

/-- `JSONArray`, from an item on. -/
def readItems : Nat → Str → Option (List Loaded × Str)
  | fuel + 1, text => do
      let (item, rest) ← readValue fuel text
      match skipBlank rest with
      | c :: rest =>
          if c.toNat = 93 then return ([item], rest)
          else if c.toNat = 44 then
            let (items, rest) ← readItems fuel (skipBlank rest)
            return (item :: items, rest)
          else none
      | [] => none
  | _, _ => none

/-- `JSONObject`, from a key on. -/
def readMembers : Nat → Str → Option (List (List Nat × Loaded) × Str)
  | fuel + 1, c :: rest =>
      if c = quote then do
        let (key, rest) ← readString fuel rest
        match skipBlank rest with
        | colon :: rest =>
            if colon.toNat = 58 then
              let (value, rest) ← readValue fuel (skipBlank rest)
              match skipBlank rest with
              | d :: rest =>
                  if d.toNat = 125 then return ([(key, value)], rest)
                  else if d.toNat = 44 then
                    let (members, rest) ← readMembers fuel (skipBlank rest)
                    return ((key, value) :: members, rest)
                  else none
              | [] => none
            else none
        | [] => none
      else none
  | _, _ => none

end

/-- `json.loads`; `none` is a `JSONDecodeError`.  A level of a text takes two rounds, and an
character at least. -/
def loads (text : Str) : Option Loaded := do
  let (value, rest) ← readValue (2 * text.length + 2) (skipBlank text)
  if (skipBlank rest).isEmpty then return value else none

/-- `str` of what was loaded. -/
def pyStr (strOfOther : Loaded → List Nat) : Loaded → List Nat
  | .string codes => codes
  | value => strOfOther value

/-- `parse_services_json`. -/
def parseServicesText (strOfOther : Loaded → List Nat) (raw : Option Str) :
    Option (List (List Nat)) :=
  match truthy raw with
  | none => some []
  | some text => do
      match ← loads text with
      | .array items => return sortTexts id (items.map (pyStr strOfOther))
      | _ => return []

/-! ## A character is read back -/

theorem hexValue_hexChar : ∀ d, d < 16 → hexValue (hexChar d) = some d := by
  decide

theorem readHex4_hex4 {n : Nat} (h : n < 0x10000) (rest : Str) :
    readHex4 (hex4 n ++ rest) = some (n, rest) := by
  have hvalue : ((n / 4096 % 16 * 16 + n / 256 % 16) * 16 + n / 16 % 16) * 16 + n % 16 = n := by
    omega
  simp only [hex4, List.cons_append, List.nil_append, readHex4,
    hexValue_hexChar _ (Nat.mod_lt _ (by omega : 0 < 16)), Option.bind_eq_bind, Option.bind_some,
    Option.pure_def, hvalue]

/-- An escape that is not a high surrogate stands for itself. -/
theorem readUnicode_hex4 {n : Nat} (h : n < 0x10000) (hhigh : ¬ (0xD800 ≤ n ∧ n ≤ 0xDBFF))
    (rest : Str) : readUnicode (hex4 n ++ rest) = some (n, rest) := by
  rw [readUnicode, readHex4_hex4 h]
  simp only [Option.bind_eq_bind, Option.bind_some]
  rw [if_neg (fun hboth => hhigh ⟨hboth.1, hboth.2.1⟩)]
  rfl

/-- A pair of escapes stands for one character. -/
theorem readUnicode_pair {high low : Nat} (hhigh : 0xD800 ≤ high ∧ high ≤ 0xDBFF)
    (hlow : 0xDC00 ≤ low ∧ low ≤ 0xDFFF) (rest : Str) :
    readUnicode (hex4 high ++ (unicodeEscape low ++ rest)) =
      some (0x10000 + ((high - 0xD800) * 1024 + (low - 0xDC00)), rest) := by
  have htake : (unicodeEscape low ++ rest).take 2 = [backslash, Char.ofNat 117] := by
    rw [unicodeEscape, List.cons_append, List.cons_append, List.take_succ_cons,
      List.take_succ_cons, List.take_zero]
  have hdrop : (unicodeEscape low ++ rest).drop 2 = hex4 low ++ rest := by
    rw [unicodeEscape, List.cons_append, List.cons_append, List.drop_succ_cons,
      List.drop_succ_cons, List.drop_zero]
  rw [readUnicode, readHex4_hex4 (by omega)]
  simp only [Option.bind_eq_bind, Option.bind_some]
  rw [if_pos ⟨hhigh.1, hhigh.2, htake⟩, hdrop, readHex4_hex4 (by omega)]
  simp only [Option.bind_some]
  rw [if_pos hlow, Option.pure_def]

/-- The code points of characters are not surrogates. -/
theorem toNat_range (c : Char) :
    c.toNat < 0xD800 ∨ 0xDFFF < c.toNat ∧ c.toNat < 0x110000 := by
  have hvalid := c.valid
  rcases hvalid with hlow | ⟨hlow, hhigh⟩
  · exact .inl hlow
  · exact .inr ⟨hlow, hhigh⟩

/-- The letter of an escape stands for the character. -/
theorem letterValue_of_escapeLetter {n : Nat} {letter : Char} (h : escapeLetter n = some letter) :
    letter ≠ Char.ofNat 117 ∧ letterValue letter = some n := by
  unfold escapeLetter at h
  split at h <;> first
    | (rw [← Option.some.inj h]; exact ⟨by decide, by decide⟩)
    | exact absurd h (by simp)

/-- A character without an escape of its own is neither a quotation mark nor a backslash. -/
theorem ne_of_escapeLetter_eq_none {c : Char} (h : escapeLetter c.toNat = none) :
    c ≠ quote ∧ c ≠ backslash := by
  constructor
  · rintro rfl
    exact absurd h (by decide)
  · rintro rfl
    exact absurd h (by decide)

theorem readChar_backslash (letter : Char) (rest : Str) :
    readChar (backslash :: letter :: rest) =
      if letter = Char.ofNat 117 then readUnicode rest
      else (letterValue letter).map fun code => (code, rest) := by
  rw [readChar, if_pos rfl]

/-- **A character is read back from what it is written as.** -/
theorem readChar_encodeChar (c : Char) (rest : Str) :
    readChar (encodeChar c ++ rest) = some (c.toNat, rest) := by
  unfold encodeChar
  cases hletter : escapeLetter c.toNat with
  | some letter =>
      obtain ⟨hother, hvalue⟩ := letterValue_of_escapeLetter hletter
      show readChar (backslash :: letter :: rest) = _
      rw [readChar_backslash, if_neg hother, hvalue]
      rfl
  | none =>
      dsimp only
      have hrange := toNat_range c
      split_ifs with hplain hbasic
      · show readChar (c :: rest) = _
        rw [readChar.eq_def]
        dsimp only
        rw [if_neg (ne_of_escapeLetter_eq_none hletter).2, if_neg (by omega)]
      · show readChar (backslash :: Char.ofNat 117 :: (hex4 c.toNat ++ rest)) = _
        rw [readChar_backslash, if_pos rfl, readUnicode_hex4 hbasic (by omega)]
      · have hvalue : 0x10000 + ((0xD800 + (c.toNat - 0x10000) / 1024 - 0xD800) * 1024 +
            (0xDC00 + (c.toNat - 0x10000) % 1024 - 0xDC00)) = c.toNat := by
          omega
        rw [List.append_assoc, unicodeEscape, List.cons_append, List.cons_append,
          readChar_backslash, if_pos rfl, readUnicode_pair (by omega) (by omega), hvalue]

example : encodeChar (Char.ofNat 0x1F600) = str "\\ud83d\\ude00" := by
  decide

/-- No character is written with a quotation mark in front. -/
theorem encodeChar_head (c : Char) :
    ∃ first more, encodeChar c = first :: more ∧ first ≠ quote := by
  unfold encodeChar
  cases hletter : escapeLetter c.toNat with
  | some letter => exact ⟨_, _, rfl, by decide⟩
  | none =>
      dsimp only
      split_ifs
      · exact ⟨_, _, rfl, (ne_of_escapeLetter_eq_none hletter).1⟩
      · exact ⟨_, _, rfl, by decide⟩
      · exact ⟨_, _, rfl, by decide⟩

/-! ## Strings and lists are read back -/

/-- The code points of a string. -/
def codes (s : Str) : List Nat :=
  s.map Char.toNat

theorem readString_flatMap (s : Str) (rest : Str) {fuel : Nat} (hfuel : s.length < fuel) :
    readString fuel (s.flatMap encodeChar ++ quote :: rest) = some (codes s, rest) := by
  induction s generalizing fuel with
  | nil =>
      obtain ⟨fuel, rfl⟩ : ∃ n, fuel = n + 1 := ⟨fuel - 1, by simp at hfuel; omega⟩
      show readString (fuel + 1) (quote :: rest) = _
      rw [readString, if_pos rfl]
      rfl
  | cons c s ih =>
      rw [List.length_cons] at hfuel
      obtain ⟨fuel, rfl⟩ : ∃ n, fuel = n + 1 := ⟨fuel - 1, by omega⟩
      obtain ⟨first, more, hfirst, hne⟩ := encodeChar_head c
      have hchar := readChar_encodeChar c (s.flatMap encodeChar ++ quote :: rest)
      rw [List.flatMap_cons, List.append_assoc]
      rw [hfirst, List.cons_append] at hchar ⊢
      rw [readString, if_neg hne, hchar]
      simp only [Option.bind_eq_bind, Option.bind_some]
      rw [ih (by omega)]
      rfl

theorem readValue_dumpsStr (s : Str) (rest : Str) {fuel : Nat} (hfuel : s.length + 1 < fuel) :
    readValue fuel (dumpsStr s ++ rest) = some (.string (codes s), rest) := by
  obtain ⟨fuel, rfl⟩ : ∃ n, fuel = n + 1 := ⟨fuel - 1, by omega⟩
  have htext : dumpsStr s ++ rest = quote :: (s.flatMap encodeChar ++ quote :: rest) := by
    simp [dumpsStr]
  rw [htext, readValue, if_pos rfl, readString_flatMap s rest (by omega)]
  rfl

theorem skipBlank_dumpsStr (s : Str) (rest : Str) :
    skipBlank (dumpsStr s ++ rest) = dumpsStr s ++ rest := by
  rw [dumpsStr, List.cons_append, skipBlank, List.dropWhile_cons_of_neg (by decide)]

theorem intercalate_dumpsStr_cons (first : Str) (items : List Str) (rest : Str) :
    ∃ more, (str ", ").intercalate ((first :: items).map dumpsStr) ++ rest =
      dumpsStr first ++ more := by
  cases items with
  | nil => exact ⟨rest, by simp⟩
  | cons second items =>
      rw [List.map_cons, List.map_cons, List.intercalate_cons_cons, List.append_assoc,
        List.append_assoc]
      exact ⟨_, rfl⟩

/-- Strings in a row, up to the bracket. -/
theorem readItems_intercalate (first : Str) (items : List Str) (rest : Str) {fuel : Nat}
    (hfuel : ∀ s ∈ first :: items, s.length + items.length + 3 ≤ fuel) :
    readItems fuel
        ((str ", ").intercalate ((first :: items).map dumpsStr) ++ Char.ofNat 93 :: rest) =
      some ((first :: items).map fun s => .string (codes s), rest) := by
  induction items generalizing first fuel with
  | nil =>
      have hfirst := hfuel first List.mem_cons_self
      rw [List.length_nil] at hfirst
      obtain ⟨fuel, rfl⟩ : ∃ n, fuel = n + 1 := ⟨fuel - 1, by omega⟩
      rw [List.map_cons, List.map_nil, List.intercalate_singleton, readItems,
        readValue_dumpsStr first _ (by omega)]
      rfl
  | cons second items ih =>
      have hfirst := hfuel first List.mem_cons_self
      rw [List.length_cons] at hfirst
      obtain ⟨fuel, rfl⟩ : ∃ n, fuel = n + 1 := ⟨fuel - 1, by omega⟩
      have hmore : readItems fuel
          ((str ", ").intercalate ((second :: items).map dumpsStr) ++ Char.ofNat 93 :: rest) =
            some ((second :: items).map fun s => .string (codes s), rest) := by
        refine ih second ?_
        intro s hs
        have hlater := hfuel s (List.mem_cons_of_mem _ hs)
        rw [List.length_cons] at hlater
        omega
      obtain ⟨tail, htail⟩ := intercalate_dumpsStr_cons second items (Char.ofNat 93 :: rest)
      -- behind the comma comes a blank
      have hcomma : ∀ more,
          skipBlank (str ", " ++ more) = Char.ofNat 44 :: Char.ofNat 32 :: more := by
        intro more
        rfl
      have hblank : ∀ more, skipBlank (Char.ofNat 32 :: more) = skipBlank more := by
        intro more
        rfl
      rw [List.map_cons, List.map_cons, List.intercalate_cons_cons, ← List.map_cons,
        List.append_assoc, List.append_assoc, readItems, readValue_dumpsStr first _ (by omega)]
      simp only [Option.bind_eq_bind, Option.bind_some]
      rw [hcomma]
      dsimp only
      rw [if_neg (by decide), if_pos (by decide), hblank, htail, skipBlank_dumpsStr, ← htail, hmore]
      rfl

theorem readValue_dumpsList (items : List Str) (rest : Str) {fuel : Nat}
    (hfuel : ∀ s ∈ items, s.length + items.length + 3 ≤ fuel) (hpos : 0 < fuel) :
    readValue fuel (dumpsList items ++ rest) =
      some (.array (items.map fun s => .string (codes s)), rest) := by
  obtain ⟨fuel, rfl⟩ : ∃ n, fuel = n + 1 := ⟨fuel - 1, by omega⟩
  cases items with
  | nil => rfl
  | cons first items =>
      have hitems : readItems fuel
          ((str ", ").intercalate ((first :: items).map dumpsStr) ++ Char.ofNat 93 :: rest) =
            some ((first :: items).map fun s => .string (codes s), rest) := by
        refine readItems_intercalate first items rest ?_
        intro s hs
        have hlater := hfuel s hs
        rw [List.length_cons] at hlater
        omega
      obtain ⟨tail, htail⟩ := intercalate_dumpsStr_cons first items (Char.ofNat 93 :: rest)
      have htext : dumpsList (first :: items) ++ rest = Char.ofNat 91 ::
          ((str ", ").intercalate ((first :: items).map dumpsStr) ++ Char.ofNat 93 :: rest) := by
        simp [dumpsList]
      rw [htext, readValue, if_neg (by decide), if_pos (by decide), htail, skipBlank_dumpsStr]
      rw [htail] at hitems
      have hhead : dumpsStr first ++ tail =
          quote :: (first.flatMap encodeChar ++ [quote] ++ tail) := rfl
      rw [hhead] at hitems ⊢
      dsimp only
      rw [if_neg (by decide), hitems]
      rfl

theorem length_le_dumpsStr (s : Str) : s.length + 2 ≤ (dumpsStr s).length := by
  have hbody : s.length ≤ (s.flatMap encodeChar).length := by
    induction s with
    | nil => exact Nat.le_refl _
    | cons c s ih =>
        obtain ⟨first, more, hfirst, -⟩ := encodeChar_head c
        rw [List.flatMap_cons, List.length_append, List.length_cons, hfirst, List.length_cons]
        omega
  rw [dumpsStr, List.length_cons, List.length_append, List.length_singleton]
  omega

/-- The text of a list is long enough to be read. -/
theorem length_le_intercalate (items : List Str) :
    items.length ≤ ((str ", ").intercalate (items.map dumpsStr)).length ∧
      ∀ s ∈ items, s.length + items.length ≤
        ((str ", ").intercalate (items.map dumpsStr)).length := by
  induction items with
  | nil => exact ⟨Nat.le_refl _, by simp⟩
  | cons first items ih =>
      have hfirst := length_le_dumpsStr first
      cases items with
      | nil =>
          rw [List.map_cons, List.map_nil, List.intercalate_singleton, List.length_singleton]
          refine ⟨by omega, ?_⟩
          intro s hs
          rw [List.mem_singleton.mp hs]
          omega
      | cons second items =>
          obtain ⟨hcount, hlengths⟩ := ih
          rw [List.map_cons, List.map_cons, List.intercalate_cons_cons, ← List.map_cons,
            List.length_append, List.length_append, List.length_cons]
          have hsep : (str ", ").length = 2 := by decide
          refine ⟨by omega, ?_⟩
          intro s hs
          rcases List.mem_cons.mp hs with rfl | hs
          · omega
          · have hlater := hlengths s hs
            omega

theorem length_dumpsList (items : List Str) :
    (dumpsList items).length = ((str ", ").intercalate (items.map dumpsStr)).length + 2 := by
  rw [dumpsList, List.length_cons, List.length_append, List.length_singleton]

/-- **A list of strings is loaded as it was dumped.** -/
theorem loads_dumpsList (items : List Str) :
    loads (dumpsList items) = some (.array (items.map fun s => .string (codes s))) := by
  have hread : readValue (2 * (dumpsList items).length + 2) (dumpsList items ++ []) =
      some (.array (items.map fun s => .string (codes s)), []) := by
    refine readValue_dumpsList items [] ?_ (by omega)
    intro s hs
    have hlength := (length_le_intercalate items).2 s hs
    rw [length_dumpsList]
    omega
  rw [List.append_nil] at hread
  have hskip : skipBlank (dumpsList items) = dumpsList items := by
    rw [dumpsList, skipBlank, List.dropWhile_cons_of_neg (by decide)]
  rw [loads, hskip, hread]
  rfl

/-! ## What the API stores and compares -/

theorem codes_injective : Function.Injective codes := by
  refine List.map_injective_iff.mpr fun c d h => ?_
  exact Char.ext (UInt32.toNat_inj.mp h)

/-- Services are read back in order. -/
theorem parseServicesText_servicesText (strOfOther : Loaded → List Nat) (serviceKeys : List Str) :
    parseServicesText strOfOther (some (servicesText serviceKeys)) =
      some ((sorted serviceKeys).map codes) := by
  have htext : truthy (some (servicesText serviceKeys)) = some (servicesText serviceKeys) :=
    truthy_eq_some.mpr ⟨rfl, by simp [servicesText, dumpsList]⟩
  rw [parseServicesText, htext]
  dsimp only
  rw [servicesText, loads_dumpsList]
  simp only [Option.bind_eq_bind, Option.bind_some, Option.pure_def, List.map_map]
  rw [show (pyStr strOfOther ∘ fun s => Loaded.string (codes s)) = codes from rfl]
  have hsort : sortTexts id (serviceKeys.map codes) = (sorted serviceKeys).map codes :=
    sortTexts_map (fun _ => rfl) serviceKeys
  rw [hsort]

/-- A string is read off a text. -/
theorem dumpsStr_append_inj {s s' rest rest' : Str}
    (h : dumpsStr s ++ rest = dumpsStr s' ++ rest') : s = s' ∧ rest = rest' := by
  have hread := readValue_dumpsStr s rest (show s.length + 1 < s.length + s'.length + 2 by omega)
  have hread' :=
    readValue_dumpsStr s' rest' (show s'.length + 1 < s.length + s'.length + 2 by omega)
  rw [h, hread'] at hread
  obtain ⟨hvalue, hrest⟩ := Prod.mk.inj (Option.some.inj hread)
  exact ⟨codes_injective (Loaded.string.inj hvalue).symm, hrest.symm⟩

/-- A list of strings is read off a text. -/
theorem dumpsList_injective : Function.Injective dumpsList := by
  intro items items' h
  have hload := loads_dumpsList items
  rw [h, loads_dumpsList items'] at hload
  have hstrings : Function.Injective fun s => Loaded.string (codes s) :=
    fun s s' hs => codes_injective (Loaded.string.inj hs)
  exact (List.map_injective_iff.mpr hstrings (Loaded.array.inj (Option.some.inj hload))).symm

theorem fingerprintPayload_injective : Function.Injective fingerprintPayload := by
  intro state state' h
  rw [fingerprintPayload, fingerprintPayload] at h
  obtain ⟨hhost, h⟩ := dumpsStr_append_inj (List.append_cancel_left h)
  have hservices := dumpsList_injective (List.append_cancel_right (List.append_cancel_left h))
  exact Prod.ext hhost hservices

/-- The Python library, with a digest of texts. -/
def textRuntime (digestText : Str → Str) (repr : Str → Str) : PyRuntime where
  digest := fun state => digestText (fingerprintPayload state)
  repr := repr

/-- That the texts are as good as what they stand for. -/
structure StoredTexts (strOfOther : Loaded → List Nat) : Prop where
  /-- a baseline is read back as the sorted list of its services -/
  services : ∀ serviceKeys : List Str,
    parseServicesText strOfOther (some (servicesText serviceKeys)) =
      some ((parseServicesJson (servicesJson serviceKeys)).map codes)
  /-- and compared with other services it gives what the lists themselves give -/
  compared : ∀ serviceKeys others : List Str,
    sortTexts id ((parseServicesJson (servicesJson serviceKeys)).map codes) =
        sortTexts id (others.map codes) ↔
      serviceSetsEqual (parseServicesJson (servicesJson serviceKeys)) others = true
  /-- two payloads are the same just if they are of the same state -/
  payload : ∀ (host host' : Option Str) (services services' : List Str),
    fingerprintPayload (host.getD [], sorted services) =
        fingerprintPayload (host'.getD [], sorted services') ↔
      SameState host services host' services'
  /-- a digest that tells texts apart tells states apart -/
  digest : ∀ digestText repr : Str → Str, Function.Injective digestText →
    Function.Injective (textRuntime digestText repr).digest

/-- **What is stored and hashed as text is faithful**, for all strings. -/
theorem stored_texts_faithful (strOfOther : Loaded → List Nat) : StoredTexts strOfOther := by
  refine ⟨parseServicesText_servicesText strOfOther, ?_, ?_, ?_⟩
  · intro serviceKeys others
    have hinjective : Function.Injective (List.map codes) :=
      List.map_injective_iff.mpr codes_injective
    have hsort : ∀ texts : List Str, sortTexts id (texts.map codes) = (sorted texts).map codes :=
      fun texts => sortTexts_map (fun _ => rfl) texts
    rw [hsort, hsort, hinjective.eq_iff, serviceSetsEqual, beq_iff_eq]
  · intro host host' services services'
    rw [fingerprintPayload_injective.eq_iff, Prod.mk.injEq, sorted_eq_iff_perm]
    rfl
  · intro digestText repr hdigest
    exact hdigest.comp fingerprintPayload_injective

end JsonText
end Api
end LanDiscovery
