import LanDiscovery.Library.Labels
import LanDiscovery.Scanner.Timestamp

/-!
# The address of the API

`ApiConfig.cpp`, the part of `CliArgs.cpp` that it calls, and `parse_post_url` of
`HttpEventSink.cpp`: from the command line and the environment to the host, port and path
that events are posted to.  A base URL is taken apart as it was meant whether or not slashes
follow it, as long as its host is a name or an IPv4 address; an IPv6 address without a port
is cut at its last colon (`base_url_posts_to`).
-/

namespace LanDiscovery
namespace Scanner

open Library Library.Utf8

/-! ## The command line -/

/-- The loop of `cli_get_option_value`. -/
def optionValueLoop (flag : Bytes) : List Bytes → Bytes
  | arg :: value :: rest => if arg = flag then value else optionValueLoop flag (value :: rest)
  | _ => []

/-- `cli_get_option_value`. -/
def cliGetOptionValue (argv : List Bytes) (flag : Bytes) : Bytes :=
  optionValueLoop flag argv.tail

/-! ## The configuration -/

/-- `ApiConfig`. -/
structure ApiConfig where
  baseUrl : Bytes
  apiToken : Bytes

/-- The octet of a slash. -/
def slash : UInt8 := 47

/-- The octet of a colon. -/
def colon : UInt8 := 58

/-- `trim_trailing_slashes`. -/
def trimTrailingSlashes (url : Bytes) : Bytes :=
  (url.reverse.dropWhile (· == slash)).reverse

/-- `load_api_config`, with the values of the environment. -/
def loadApiConfig (getenv : Bytes → Option Bytes) (argv : List Bytes) : ApiConfig :=
  let baseUrl := trimTrailingSlashes ((getenv (ascii "LAN_API_URL")).getD [])
  let apiToken := (getenv (ascii "LAN_API_TOKEN")).getD []
  let cliUrl := cliGetOptionValue argv (ascii "--api-url")
  let baseUrl := if cliUrl ≠ [] then trimTrailingSlashes cliUrl else baseUrl
  let cliToken := cliGetOptionValue argv (ascii "--api-token")
  let apiToken := if cliToken ≠ [] then cliToken else apiToken
  { baseUrl, apiToken }

/-- `discovery_events_post_url`. -/
def discoveryEventsPostUrl (api : ApiConfig) : Bytes :=
  api.baseUrl ++ ascii "/v1/discovery/events"

/-! ## The URL -/

/-- The value of decimal digits. -/
def digitsValue (digits : Bytes) : Nat :=
  digits.foldl (fun value b => 10 * value + (b.toNat - 48)) 0

/-- `std::stoi`; `none` where it throws. -/
def stoi (text : Bytes) : Option Int :=
  let text := text.dropWhile fun b => b == 32 || (9 ≤ b && b ≤ 13)
  let sign : Int := if text.head? = some 45 then -1 else 1
  let text := if text.head? = some 45 ∨ text.head? = some 43 then text.tail else text
  let digits := text.takeWhile Json.isDigit
  if digits.isEmpty then none
  else
    let value := sign * digitsValue digits
    if -2147483648 ≤ value ∧ value ≤ 2147483647 then some value else none

/-- What `parse_post_url` finds. -/
structure PostTarget where
  scheme : Bytes
  host : Bytes
  port : Int
  path : Bytes
  deriving DecidableEq

/-- The part of `parse_post_url` that takes the host from the port. -/
def splitHostPort (scheme hostPort : Bytes) : Option (Bytes × Int) :=
  let whole := (hostPort, if scheme = ascii "https" then 443 else 80)
  match Text.rfind? [colon] hostPort with
  | none => some whole
  | some pos =>
      if pos + 1 < hostPort.length then
        (stoi (hostPort.drop (pos + 1))).map fun port => (hostPort.take pos, port)
      else some whole

/-- `parse_post_url`, which is there where the sink is built with httplib. -/
def parsePostUrl (postUrl : Bytes) : Option PostTarget := do
  let schemeEnd ← Text.find? (ascii "://") postUrl
  let scheme := postUrl.take schemeEnd
  let rest := postUrl.drop (schemeEnd + 3)
  let pathStart := Text.find? [slash] rest
  let hostPort := (pathStart.map rest.take).getD rest
  let path := (pathStart.map rest.drop).getD (ascii "/")
  let (host, port) ← splitHostPort scheme hostPort
  if host.isEmpty then none else some { scheme, host, port, path }

/-! ## Ports -/

/-- One more digit. -/
theorem digitsValue_append (digits : Bytes) {d : Nat} (hd : d < 10) :
    digitsValue (digits ++ [digitOctet d]) = 10 * digitsValue digits + d := by
  rw [digitsValue, List.foldl_append, List.foldl_cons, List.foldl_nil, toNat_digitOctet hd,
    digitsValue]
  omega

theorem digitsValue_decimal (n : Nat) : digitsValue (decimal n) = n := by
  induction n using Nat.strong_induction_on with
  | _ n ih =>
      by_cases hlt : n < 10
      · have hdigit := digitsValue_append [] hlt
        rw [List.nil_append] at hdigit
        rw [decimal_of_lt hlt, hdigit, digitsValue, List.foldl_nil]
        omega
      · rw [decimal_of_le (by omega), digitsValue_append _ (by omega), ih (n / 10) (by omega)]
        omega

/-- A digit is none of what `std::stoi` skips or reads as a sign. -/
theorem unsigned_of_isDigit {b : UInt8} (hb : Json.isDigit b = true) :
    (b == 32 || (9 ≤ b && b ≤ 13)) = false ∧ b ≠ 45 ∧ b ≠ 43 := by
  refine ⟨?_, ?_, ?_⟩
  · have hhigh : ¬ b ≤ 13 := by
      simp only [Json.isDigit, Bool.and_eq_true, decide_eq_true_eq, UInt8.le_iff_toNat_le,
        show (48 : UInt8).toNat = 48 from rfl] at hb
      rw [UInt8.le_iff_toNat_le, show (13 : UInt8).toNat = 13 from rfl]
      omega
    have hspace : b ≠ 32 := by
      rintro rfl
      exact absurd hb (by decide)
    rw [beq_eq_false_iff_ne.mpr hspace, decide_eq_false hhigh, Bool.and_false, Bool.or_false]
  · rintro rfl
    exact absurd hb (by decide)
  · rintro rfl
    exact absurd hb (by decide)

/-- A port is read back from its digits. -/
theorem stoi_decimal {port : Nat} (hport : port ≤ 2147483647) :
    stoi (decimal port) = some (port : Int) := by
  obtain ⟨first, rest, hfirst⟩ := List.exists_cons_of_ne_nil (decimal_ne_nil port)
  have hall : ∀ b ∈ decimal port, Json.isDigit b = true := fun b => isDigit_of_mem_decimal
  obtain ⟨hblank, hminus, hplus⟩ :=
    unsigned_of_isDigit (hall first (by rw [hfirst]; exact List.mem_cons_self))
  have hskip : (decimal port).dropWhile (fun b => b == 32 || (9 ≤ b && b ≤ 13)) =
      decimal port := by
    rw [hfirst, List.dropWhile_cons_of_neg (by rw [hblank]; exact Bool.false_ne_true)]
  have hhead : ∀ c : UInt8, first ≠ c → (decimal port).head? ≠ some c := by
    intro c hne heq
    rw [hfirst, List.head?_cons] at heq
    exact hne (Option.some.inj heq)
  rw [stoi, hskip]
  simp only [hhead 45 hminus, hhead 43 hplus, or_self, if_false]
  rw [List.takeWhile_eq_self_iff.mpr hall, if_neg (by simpa using decimal_ne_nil port),
    digitsValue_decimal, one_mul, if_pos (by omega)]

/-! ## Hosts -/

section

variable {scheme : Bytes}

/-- The port of a scheme. -/
def defaultPort (scheme : Bytes) : Int :=
  if scheme = ascii "https" then 443 else 80

theorem splitHostPort_of_notMem {host : Bytes} (hhost : colon ∉ host) :
    splitHostPort scheme host = some (host, defaultPort scheme) := by
  rw [splitHostPort, Text.rfind?_singleton_eq_none_iff.mpr hhost]
  rfl

theorem splitHostPort_of_port {host : Bytes} {port : Nat} (hport : port ≤ 2147483647) :
    splitHostPort scheme (host ++ colon :: decimal port) = some (host, (port : Int)) := by
  have hdigits : colon ∉ decimal port := by
    intro hmem
    exact absurd (isDigit_of_mem_decimal hmem) (by decide)
  have hlength := List.length_pos_of_ne_nil (decimal_ne_nil port)
  have hbehind : host.length + 1 < (host ++ colon :: decimal port).length := by
    rw [List.length_append, List.length_cons]
    omega
  rw [splitHostPort, Text.rfind?_singleton_append hdigits]
  dsimp only
  rw [if_pos hbehind, List.drop_append, List.take_left, List.drop_eq_nil_of_le (by omega),
    show host.length + 1 - host.length = 1 by omega, List.nil_append, List.drop_succ_cons,
    List.drop_zero, stoi_decimal hport]
  rfl

/-- A colon that is not the last octet cuts the host. -/
theorem length_of_splitHostPort {host found : Bytes} {last : UInt8} {port : Int}
    (hhost : colon ∈ host) (hlast : last ≠ colon)
    (h : splitHostPort scheme (host ++ [last]) = some (found, port)) :
    found.length < (host ++ [last]).length := by
  rw [splitHostPort] at h
  cases hplace : Text.rfind? [colon] (host ++ [last]) with
  | none =>
      exact absurd (List.mem_append_left _ hhost) (Text.rfind?_singleton_eq_none_iff.mp hplace)
  | some pos =>
      rw [hplace] at h
      dsimp only at h
      obtain ⟨before, after, hsplit, hpos, -⟩ := Text.rfind?_singleton_eq_some hplace
      have hafter : after ≠ [] := by
        rintro rfl
        have hends := congrArg List.getLast? hsplit
        rw [List.getLast?_concat, List.getLast?_concat] at hends
        exact hlast (Option.some.inj hends)
      have hlength := congrArg List.length hsplit
      have hrest := List.length_pos_of_ne_nil hafter
      simp only [List.length_append, List.length_cons, List.length_nil] at hlength h ⊢
      rw [if_pos (by omega)] at h
      obtain ⟨number, -, hfound⟩ := Option.map_eq_some_iff.mp h
      rw [← (Prod.mk.inj hfound).1]
      simp only [List.length_take, List.length_append, List.length_cons, List.length_nil]
      omega

end

/-! ## The base URL -/

/-- The base URL that is given: on the command line, or in the environment. -/
def givenUrl (getenv : Bytes → Option Bytes) (argv : List Bytes) : Bytes :=
  if cliGetOptionValue argv (ascii "--api-url") ≠ [] then
    cliGetOptionValue argv (ascii "--api-url")
  else (getenv (ascii "LAN_API_URL")).getD []

theorem baseUrl_loadApiConfig (getenv : Bytes → Option Bytes) (argv : List Bytes) :
    (loadApiConfig getenv argv).baseUrl = trimTrailingSlashes (givenUrl getenv argv) := by
  rw [loadApiConfig, givenUrl]
  split_ifs <;> rfl

theorem trimTrailingSlashes_append {url : Bytes} (hurl : url.getLast? ≠ some slash)
    (slashes : Nat) : trimTrailingSlashes (url ++ List.replicate slashes slash) = url := by
  have hrest : url.reverse.dropWhile (· == slash) = url.reverse := by
    cases hreverse : url.reverse with
    | nil => rfl
    | cons last before =>
        have hlast : last ≠ slash := by
          rintro rfl
          rw [List.getLast?_eq_head?_reverse, hreverse, List.head?_cons] at hurl
          exact hurl rfl
        rw [List.dropWhile_cons_of_neg (by simpa using hlast)]
  have hslashes : (List.replicate slashes slash).dropWhile (· == slash) = [] := by
    rw [List.dropWhile_eq_nil_iff]
    intro b hb
    rw [List.eq_of_mem_replicate hb]
    decide
  rw [trimTrailingSlashes, List.reverse_append, List.reverse_replicate, List.dropWhile_append,
    hslashes]
  simp only [List.isEmpty_nil, if_true]
  rw [hrest, List.reverse_reverse]

/-- The parts of a URL are found where they stand. -/
theorem parsePostUrl_append {scheme authority path : Bytes} (hscheme : colon ∉ scheme)
    (hauthority : slash ∉ authority) :
    parsePostUrl (scheme ++ (ascii "://" ++ (authority ++ slash :: path))) =
      (splitHostPort scheme authority).bind fun found =>
        if found.1.isEmpty then none else some ⟨scheme, found.1, found.2, slash :: path⟩ := by
  have hmarker : ascii "://" = colon :: ascii "//" := by decide
  have hplace : Text.find? (ascii "://") (scheme ++ (ascii "://" ++ (authority ++ slash :: path))) =
      some scheme.length := by
    have hfind : Text.find? (colon :: ascii "//")
        (scheme ++ (ascii "://" ++ (authority ++ slash :: path))) =
          (Text.find? (colon :: ascii "//") (ascii "://" ++ (authority ++ slash :: path))).map
            (· + scheme.length) :=
      Text.find?_append_of_notMem [] (ascii "//") hscheme (by simp)
    rw [← hmarker, Text.find?_append_self] at hfind
    rw [hfind, Option.map_some, Nat.zero_add]
  have hpath : Text.find? [slash] (authority ++ slash :: path) = some authority.length := by
    have hfind : Text.find? [slash] (authority ++ slash :: path) =
        (Text.find? [slash] (slash :: path)).map (· + authority.length) :=
      Text.find?_append_of_notMem [] [] hauthority (by simp)
    rw [hfind, show slash :: path = [slash] ++ path from rfl, Text.find?_append_self,
      Option.map_some, Nat.zero_add]
  have hdrop : (scheme ++ (ascii "://" ++ (authority ++ slash :: path))).drop (scheme.length + 3) =
      authority ++ slash :: path := by
    rw [← List.drop_drop, List.drop_left, show 3 = (ascii "://").length by decide, List.drop_left]
  rw [parsePostUrl, hplace]
  simp only [Option.bind_eq_bind, Option.bind_some]
  rw [hdrop, List.take_left, hpath]
  simp only [Option.map_some, Option.getD_some]
  rw [List.take_left, List.drop_left]

theorem getLast?_url {scheme authority path : Bytes}
    (hauthority : authority ≠ [] ∧ slash ∉ authority) (hpath : path.getLast? ≠ some slash) :
    (scheme ++ (ascii "://" ++ (authority ++ path))).getLast? ≠ some slash := by
  obtain ⟨last, hlast⟩ : ∃ last, authority.getLast? = some last :=
    Option.isSome_iff_exists.mp (by simpa using hauthority.1)
  have hne : last ≠ slash := by
    rintro rfl
    exact hauthority.2 (List.mem_of_getLast? hlast)
  rw [List.getLast?_append, List.getLast?_append, List.getLast?_append]
  cases hend : path.getLast? with
  | none =>
      rw [hlast]
      simpa using hne
  | some b =>
      rw [hend] at hpath
      simpa using hpath

/-- The post URL is taken apart into the parts of the base URL that is given. -/
theorem parsePostUrl_discoveryEventsPostUrl {getenv : Bytes → Option Bytes} {argv : List Bytes}
    {scheme authority path : Bytes} {slashes : Nat} (hscheme : colon ∉ scheme)
    (hauthority : authority ≠ [] ∧ slash ∉ authority)
    (hpath : (path = [] ∨ path.head? = some slash) ∧ path.getLast? ≠ some slash)
    (hgiven : givenUrl getenv argv =
      scheme ++ (ascii "://" ++ (authority ++ path)) ++ List.replicate slashes slash) :
    parsePostUrl (discoveryEventsPostUrl (loadApiConfig getenv argv)) =
      (splitHostPort scheme authority).bind fun found =>
        if found.1.isEmpty then none
        else some ⟨scheme, found.1, found.2, path ++ ascii "/v1/discovery/events"⟩ := by
  obtain ⟨more, hmore⟩ : ∃ more, path ++ ascii "/v1/discovery/events" = slash :: more := by
    rcases hpath.1 with hnil | hhead
    · exact ⟨ascii "v1/discovery/events", by rw [hnil]; decide⟩
    · obtain ⟨rest, hrest⟩ := List.head?_eq_some_iff.mp hhead
      exact ⟨rest ++ ascii "/v1/discovery/events", by rw [hrest]; rfl⟩
  rw [discoveryEventsPostUrl, baseUrl_loadApiConfig, hgiven,
    trimTrailingSlashes_append (getLast?_url hauthority hpath.2)]
  simp only [List.append_assoc]
  rw [hmore]
  exact parsePostUrl_append hscheme hauthority.2

/-- Where the events go for a base URL with these parts. -/
structure PostsTo (api : ApiConfig) (scheme authority path : Bytes) : Prop where
  /-- a host without a port -/
  host : colon ∉ authority →
    parsePostUrl (discoveryEventsPostUrl api) =
      some ⟨scheme, authority, defaultPort scheme, path ++ ascii "/v1/discovery/events"⟩
  /-- a host with a port -/
  port : ∀ (host : Bytes) (port : Nat), host ≠ [] → port ≤ 2147483647 →
    authority = host ++ colon :: decimal port →
      parsePostUrl (discoveryEventsPostUrl api) =
        some ⟨scheme, host, port, path ++ ascii "/v1/discovery/events"⟩
  /-- an IPv6 address without a port is not what the events go to -/
  bracketed : ∀ (address : Bytes), colon ∈ address → authority = address ++ ascii "]" →
    ∀ target, parsePostUrl (discoveryEventsPostUrl api) = some target → target.host ≠ authority

/-- **A base URL is taken apart as it was put together**, whichever way it is given and
however many slashes follow it, but for an IPv6 address without a port. -/
theorem base_url_posts_to (getenv : Bytes → Option Bytes) (argv : List Bytes)
    (scheme authority path : Bytes) (slashes : Nat) (hscheme : colon ∉ scheme)
    (hauthority : authority ≠ [] ∧ slash ∉ authority)
    (hpath : (path = [] ∨ path.head? = some slash) ∧ path.getLast? ≠ some slash)
    (hgiven : givenUrl getenv argv =
      scheme ++ (ascii "://" ++ (authority ++ path)) ++ List.replicate slashes slash) :
    PostsTo (loadApiConfig getenv argv) scheme authority path := by
  have hparse := parsePostUrl_discoveryEventsPostUrl hscheme hauthority hpath hgiven
  refine ⟨?_, ?_, ?_⟩
  · intro hcolon
    rw [hparse, splitHostPort_of_notMem hcolon, Option.bind_some,
      if_neg (by simpa using hauthority.1)]
  · intro host port hhost hport hsplit
    rw [hparse, hsplit, splitHostPort_of_port hport, Option.bind_some,
      if_neg (by simpa using hhost)]
  · intro address haddress hsplit target htarget
    rw [hparse] at htarget
    obtain ⟨⟨found, number⟩, hfound, hbuilt⟩ := Option.bind_eq_some_iff.mp htarget
    rw [hsplit, show ascii "]" = [93] by decide] at hfound
    have hshorter := length_of_splitHostPort haddress (by decide) hfound
    dsimp only at hbuilt
    split_ifs at hbuilt
    rw [← Option.some.inj hbuilt]
    intro hsame
    replace hsame : found = authority := hsame
    rw [hsame, hsplit, show ascii "]" = [93] by decide] at hshorter
    exact Nat.lt_irrefl _ hshorter

/-- The command line wins over the environment, and its slashes are dropped. -/
def slashedArgv : List Bytes :=
  [ascii "scanner", ascii "--api-url", ascii "http://10.0.0.2:8000/lan//"]

theorem slashedArgv_posts_to :
    PostsTo (loadApiConfig (fun _ => some (ascii "http://other")) slashedArgv) (ascii "http")
        (ascii "10.0.0.2:8000") (ascii "/lan") :=
  base_url_posts_to (fun _ => some (ascii "http://other")) slashedArgv (ascii "http")
    (ascii "10.0.0.2:8000") (ascii "/lan") 2 (by decide) ⟨by decide, by decide⟩
    ⟨by decide, by decide⟩ (by decide +kernel)

end Scanner
end LanDiscovery
