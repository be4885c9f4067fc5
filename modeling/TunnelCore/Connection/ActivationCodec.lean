import TunnelCore.Connection.SplitTunnelConfig
import TunnelCore.Daemon.ParseConfig

namespace TunnelCore.Daemon

def IPAddress.contains (p : IPAddress) (address : QHostAddress) : Bool :=
  match p.address, address with
  | .ipv4 a, .ipv4 b => (a ^^^ b) >>> (32 - p.prefixLength).toNat = 0
  | .ipv6 a, .ipv6 b => (a ^^^ b) >>> (128 - p.prefixLength).toNat = 0
  | .null, .null => p.prefixLength = 0
  | _, _ => false

def Covers (ranges : List IPAddress) (address : QHostAddress) : Prop := ∃ p ∈ ranges, p.contains address = true

instance (ranges : List IPAddress) (address : QHostAddress) : Decidable (Covers ranges address) :=
  inferInstanceAs (Decidable (∃ p ∈ ranges, p.contains address = true))

theorem covers_sortRanges (ranges : List IPAddress) (address : QHostAddress) :
    Covers (sortRanges ranges) address ↔ Covers ranges address := by
  simp only [Covers, sortRanges, List.mem_insertionSort]

theorem contains_ipv6 (a b : BitVec 128) (length : Int) :
    (IPAddress.mk (.ipv6 a) length).contains (.ipv6 b) = decide ((a ^^^ b) >>> (128 - length).toNat = 0) := rfl

theorem contains_of_host {a : BitVec 128} {address : QHostAddress}
    (h : (IPAddress.mk (.ipv6 a) 128).contains address = true) (length : Int) :
    (IPAddress.mk (.ipv6 a) length).contains address = true := by
  cases address with
  | null | ipv4 b => cases h
  | ipv6 b =>
    rw [contains_ipv6, decide_eq_true_iff] at h ⊢
    rw [show (128 - (128 : Int)).toNat = 0 from rfl, BitVec.ushiftRight_zero] at h
    rw [h]
    exact BitVec.zero_ushiftRight

theorem parseRanges_eq_some {qt : Qt} {obj : JsonObject} {ranges : List IPAddress}
    (h : parseRanges qt obj = some ranges) :
    ∃ parsed, (obj.value "allowedIPAddressRanges").toArray.mapM (parseRange qt) = some parsed ∧
      ranges = sortRanges parsed := by
  rw [parseRanges] at h
  split at h
  next items hlookup =>
    obtain ⟨parsed, hparsed, hsort⟩ := Option.map_eq_some_iff.mp h
    exact ⟨parsed, by rwa [JsonObject.value, hlookup], hsort.symm⟩
  · cases h

theorem mapM_parseRange {α : Type} {qt : Qt} {f : α → Json} {g : α → IPAddress} {xs : List α}
    (h : ∀ x ∈ xs, parseRange qt (f x) = some (g x)) : (xs.map f).mapM (parseRange qt) = some (xs.map g) := by
  induction xs with
  | nil => rfl
  | cons x xs ih =>
    rw [List.forall_mem_cons] at h
    rw [List.map_cons, List.mapM_cons, h.1, ih h.2]
    rfl

end TunnelCore.Daemon

namespace TunnelCore.Connection

open Daemon KillSwitch.Windows Text

def addressWidth : QHostAddress → Nat
  | .ipv6 _ => 128
  | _ => 32

/-- The prefix that an entry of an AllowedIPs list stands for; a bare address is that host. -/
def listedPrefix (qt : Qt) (entry : String) : Option IPAddress :=
  match entry.toList.splitOn '/' with
  | [_] => if qt.hostAddress entry = .null then none else some (.ofHost (qt.hostAddress entry))
  | [address, length] =>
    let host := qt.hostAddress (.ofList address)
    if host ≠ .null ∧ length ≠ [] ∧ length.all Char.isDigit ∧ decimal length ≤ addressWidth host then
      some ⟨host, decimal length⟩
    else none
  | _ => none

def listed (qt : Qt) (allowedIps : List String) : List IPAddress := allowedIps.filterMap (listedPrefix qt)

def BareIpv6 (qt : Qt) (entry : String) (a : BitVec 128) : Prop :=
  '/' ∉ entry.toList ∧ qt.hostAddress entry = .ipv6 a

theorem not_isWhitespace_of_isDigit {c : Char} (h : c.isDigit = true) : c.isWhitespace = false := by
  by_contra hspace
  rw [Bool.not_eq_false, Char.isWhitespace] at hspace
  simp only [Bool.or_eq_true, decide_eq_true_eq] at hspace
  obtain ((rfl | rfl) | rfl) | rfl := hspace <;> exact absurd h (by decide)

theorem atoi_digits {digits : List Char} (h : digits.all Char.isDigit = true) : atoi digits = decimal digits := by
  have hspace : digits.dropWhile Char.isWhitespace = digits := by
    cases digits with
    | nil => rfl
    | cons c digits =>
      rw [List.all_cons, Bool.and_eq_true] at h
      exact List.dropWhile_cons_of_neg (by simp [not_isWhitespace_of_isDigit h.1])
  have htake : digits.takeWhile Char.isDigit = digits := List.takeWhile_eq_self_iff.mpr (List.all_eq_true.mp h)
  rw [atoi, hspace]
  split
  next rest => cases h
  next rest => cases h
  · rw [htake]

theorem parseRange_rangeObject (qt : Qt) (address : String) {range : Int} (isIpv6 : Bool) (h₀ : 0 ≤ range)
    (h : range < 2 ^ 31) :
    parseRange qt (rangeObject address range isIpv6) = some ⟨qt.hostAddress address, range⟩ := by
  have hint : (Json.number (range : Rat)).toInt = range := by
    rw [Json.toInt, Rat.den_intCast, Rat.num_intCast, if_pos ⟨rfl, by omega, h⟩]
  change some (IPAddress.mk (qt.hostAddress address) (Json.number (range : Rat)).toInt) = _
  rw [hint]

theorem parseRange_ipRange {qt : Qt} {entry : String} {p : IPAddress} (h : listedPrefix qt entry = some p) :
    parseRange qt (ipRange entry) = some (siteRange qt entry) ∧
      (siteRange qt entry = p ∨ ∃ a, BareIpv6 qt entry a ∧ p = ⟨.ipv6 a, 128⟩ ∧ siteRange qt entry = ⟨.ipv6 a, 32⟩) := by
  rw [listedPrefix] at h
  rw [ipRange, siteRange]
  split at h
  next part hsplit =>
    rw [hsplit]
    refine ⟨parseRange_rangeObject qt entry false (by decide) (by decide), ?_⟩
    have hslash : '/' ∉ entry.toList := length_splitOn_eq_one_iff.mp (by rw [hsplit, List.length_singleton])
    split at h
    · cases h
    next hnull =>
      cases h
      cases hhost : qt.hostAddress entry with
      | null => exact absurd hhost hnull
      | ipv4 a => exact .inl rfl
      | ipv6 a => exact .inr ⟨a, ⟨hslash, hhost⟩, rfl, rfl⟩
  next address length hsplit =>
    rw [hsplit]
    dsimp only at h ⊢
    split at h
    next hlength =>
      cases h
      obtain ⟨-, -, hdigits, hle⟩ := hlength
      have hwidth : addressWidth (qt.hostAddress (.ofList address)) ≤ 128 := by
        cases qt.hostAddress (.ofList address) <;> simp [addressWidth]
      rw [atoi_digits hdigits]
      exact ⟨parseRange_rangeObject qt _ false (by omega) (by omega), .inl rfl⟩
    · cases h
  · cases h

theorem isDefault_strings_iff (allowedIps : List String) :
    isDefault (allowedIps.map .string) = true ↔ allowedIps = ["0.0.0.0/0", "::/0"] := by
  rcases allowedIps with _ | ⟨v4, _ | ⟨v6, _ | ⟨other, rest⟩⟩⟩
  · simp [isDefault]
  · simp [isDefault]
  · simp [isDefault, isText]
  · simp [isDefault]

theorem parsed_ranges {qt : Qt} {allowedIps : List String} (hvalid : ∀ t ∈ allowedIps, (listedPrefix qt t).isSome)
    (hdefault : allowedIps ≠ ["0.0.0.0/0", "::/0"]) (hne : allowedIps ≠ []) (mode : Int) (sites : List Json) :
    (allowedRanges (allowedIps.map .string) mode sites).mapM (parseRange qt) =
      some (allowedIps.map (siteRange qt)) := by
  rw [allowedRanges_own (mt (isDefault_strings_iff allowedIps).mp hdefault) (mt List.map_eq_nil_iff.mp hne),
    List.map_map]
  refine mapM_parseRange fun t ht => ?_
  obtain ⟨p, hp⟩ := Option.isSome_iff_exists.mp (hvalid t ht)
  exact (parseRange_ipRange hp).1

theorem covers_sent_iff {qt : Qt} {allowedIps : List String} (hvalid : ∀ t ∈ allowedIps, (listedPrefix qt t).isSome) :
    (∀ address, Covers (allowedIps.map (siteRange qt)) address ↔ Covers (listed qt allowedIps) address) ↔
      ∀ t ∈ allowedIps, ∀ a, BareIpv6 qt t a → ∀ address,
        (IPAddress.mk (.ipv6 a) 32).contains address = true → Covers (listed qt allowedIps) address := by
  constructor
  · intro h t ht a hbare address hcontains
    have hsent : siteRange qt t = ⟨.ipv6 a, 32⟩ := by
      rw [siteRange, List.splitOn_eq_singleton hbare.1]
      exact congrArg (IPAddress.mk · 32) hbare.2
    exact (h address).mp ⟨_, List.mem_map_of_mem ht, by rwa [hsent]⟩
  · intro h address
    constructor
    · rintro ⟨q, hq, hcontains⟩
      obtain ⟨t, ht, rfl⟩ := List.mem_map.mp hq
      obtain ⟨p, hp⟩ := Option.isSome_iff_exists.mp (hvalid t ht)
      obtain hsame | ⟨a, hbare, -, hsent⟩ := (parseRange_ipRange hp).2
      · exact ⟨p, List.mem_filterMap.mpr ⟨t, ht, hp⟩, hsame ▸ hcontains⟩
      · exact h t ht a hbare address (hsent ▸ hcontains)
    · rintro ⟨p, hmem, hcontains⟩
      obtain ⟨t, ht, hp⟩ := List.mem_filterMap.mp hmem
      refine ⟨_, List.mem_map_of_mem ht, ?_⟩
      obtain hsame | ⟨a, -, rfl, hsent⟩ := (parseRange_ipRange hp).2
      · rwa [hsame]
      · rw [hsent]
        exact contains_of_host hcontains 32

/-- The daemon's ranges cover what the list covers exactly if the list is not empty and covers, for each of its bare
IPv6 addresses, the whole network of the first 32 bits. -/
theorem activation_codec_iff {qt : Qt} (hzero : qt.hostAddress "0.0.0.0" = .ipv4 0) (windows : Bool)
    {rawConfig : JsonObject} {allowedIps : List String} {config : InterfaceConfig}
    (hips : ((rawConfig.value (keyProtoConfigData (protocolName rawConfig))).toObject.value "allowed_ips").toArray =
      allowedIps.map .string)
    (hvalid : ∀ t ∈ allowedIps, (listedPrefix qt t).isSome) (hdefault : allowedIps ≠ ["0.0.0.0/0", "::/0"])
    (hmode : (rawConfig.value "splitTunnelType").toInt = 0)
    (hparse : parseConfig qt windows (activate rawConfig) = some config) :
    (∀ address, Covers config.allowedIPAddressRanges address ↔ Covers (listed qt allowedIps) address) ↔
      allowedIps ≠ [] ∧ ∀ t ∈ allowedIps, ∀ a, BareIpv6 qt t a → ∀ address,
        (IPAddress.mk (.ipv6 a) 32).contains address = true → Covers (listed qt allowedIps) address := by
  obtain ⟨parsed, hparsed, hsorted⟩ := parseRanges_eq_some (accepted_of_parseConfig hparse).ranges
  have hmessage := messageRanges_activate rawConfig
  rw [messageRanges, hips, hmode] at hmessage
  rw [hmessage] at hparsed
  simp only [hsorted, covers_sortRanges]
  by_cases hne : allowedIps = []
  · subst hne
    -- without a list the message asks for the full tunnel
    have hfull : parsed = [⟨qt.hostAddress "0.0.0.0", 0⟩, ⟨qt.hostAddress "::", 0⟩] := by
      have hranges : allowedRanges (([] : List String).map .string) 0 (rawConfig.value "splitTunnelSites").toArray =
          [("0.0.0.0", false), ("::", true)].map fun e => rangeObject e.1 0 e.2 := rfl
      rw [hranges, mapM_parseRange fun e _ => parseRange_rangeObject qt e.1 e.2 (by decide) (by decide)] at hparsed
      exact (Option.some.inj hparsed).symm
    refine iff_of_false (fun h => ?_) fun h => h.1 rfl
    obtain ⟨p, hp, -⟩ := (h (.ipv4 0)).mp ⟨⟨.ipv4 0, 0⟩, by rw [hfull, hzero]; exact .head _, rfl⟩
    cases hp
  · rw [parsed_ranges hvalid hdefault hne] at hparsed
    cases hparsed
    rw [covers_sent_iff hvalid]
    exact (and_iff_right hne).symm

def codecQt : Qt where
  hostAddress s :=
    if s = "0.0.0.0" then .ipv4 0 else if s = "10.0.0.0" then .ipv4 0x0A000000 else if s = "::" then .ipv6 0
    else if s = "2001:db8::1" then .ipv6 0x20010DB8000000000000000000000001 else .null
  parseSubnet _ := (.null, -1)

def codecConfig (allowedIps : List String) : JsonObject :=
  [("protocol", .string "awg"), ("splitTunnelType", .number 0), ("dns1", .string "1.1.1.1"),
    ("dns2", .string "1.0.0.1"), ("awg_config_data", .object [("client_priv_key", .string "key"),
      ("client_ip", .string "10.8.0.2"), ("server_pub_key", .string "peer"), ("hostName", .string "192.0.2.1"),
      ("port", .number 51820), ("allowed_ips", .array (allowedIps.map .string))])]

theorem activation_codec_network : ∃ config,
    parseConfig codecQt false (activate (codecConfig ["10.0.0.0/8"])) = some config ∧
      ∀ address, Covers config.allowedIPAddressRanges address ↔ Covers (listed codecQt ["10.0.0.0/8"]) address := by
  obtain ⟨config, hparse⟩ : ∃ config, parseConfig codecQt false (activate (codecConfig ["10.0.0.0/8"])) = some config :=
    Option.isSome_iff_exists.mp (by decide +kernel)
  refine ⟨config, hparse, ?_⟩
  rw [activation_codec_iff rfl false rfl (by decide +kernel) (by decide) (by decide +kernel) hparse]
  refine ⟨by decide, fun t ht a hbare => absurd hbare.1 ?_⟩
  rw [List.mem_singleton.mp ht]
  decide

/-- A bare IPv6 address becomes the network of its first 32 bits, and an empty list the full tunnel. -/
theorem bare_ipv6_address_widened :
    (parseConfig codecQt false (activate (codecConfig ["2001:db8::1"]))).map (·.allowedIPAddressRanges) =
        some [⟨.ipv6 0x20010DB8000000000000000000000001, 32⟩] ∧
      Covers [⟨.ipv6 0x20010DB8000000000000000000000001, 32⟩] (.ipv6 0x20010DB8000000000000000000000002) ∧
      ¬Covers (listed codecQt ["2001:db8::1"]) (.ipv6 0x20010DB8000000000000000000000002) ∧
      (parseConfig codecQt false (activate (codecConfig []))).map (·.allowedIPAddressRanges) =
        some [⟨.ipv4 0, 0⟩, ⟨.ipv6 0, 0⟩] := by
  decide +kernel

end TunnelCore.Connection
