import Grid0Relay.Desktop.Preferences
import Grid0Relay.Logic.DhcpPick
import Grid0Relay.Logic.Reach

/-!
# The desktop application and the relay on the network arguments

The application writes the subnet as a CIDR text, and `parse_subnet` copies it into a
buffer of `IP_STR_LEN` characters. A /24 network fits unless its three octets have three
digits each. The gateway is passed on as it was typed, and `QHostAddress` may read texts that
`inet_pton` does not.
-/

namespace Grid0Relay

open Lib

/-! ## Dotted quads -/

theorem octetText_facts (b : UInt8) :
    parseOctet (octetText b) = some b ∧ '.' ∉ octetText b ∧ '/' ∉ octetText b ∧
      (octetText b).length = if b < 10 then 1 else if b < 100 then 2 else 3 := by
  have hall : ∀ n < 256, parseOctet (octetText (UInt8.ofNat n)) = some (UInt8.ofNat n) ∧
      '.' ∉ octetText (UInt8.ofNat n) ∧ '/' ∉ octetText (UInt8.ofNat n) ∧
      (octetText (UInt8.ofNat n)).length =
        if UInt8.ofNat n < 10 then 1 else if UInt8.ofNat n < 100 then 2 else 3 := by
    decide +kernel
  have hb := hall b.toNat b.toNat_lt
  rwa [UInt8.ofNat_toNat] at hb

theorem parseIpv4_ipv4Text (ip : Ip4) : parseIpv4 (ipv4Text ip) = some ip := by
  have hsplit : (ipv4Text ip).splitOn '.' =
      [octetText (octet ip 0), octetText (octet ip 1), octetText (octet ip 2),
        octetText (octet ip 3)] := by
    refine List.splitOn_intercalate '.' ?_ (by simp)
    intro l hl
    simp only [List.mem_cons, List.not_mem_nil, or_false] at hl
    rcases hl with rfl | rfl | rfl | rfl
    · exact (octetText_facts _).2.1
    · exact (octetText_facts _).2.1
    · exact (octetText_facts _).2.1
    · exact (octetText_facts _).2.1
  rw [parseIpv4, hsplit]
  simp only [(octetText_facts _).1]
  congr 1
  apply Vector.ext
  intro i hi
  rw [← octet_eq ip hi]
  have hcases : i = 0 ∨ i = 1 ∨ i = 2 ∨ i = 3 := by omega
  rcases hcases with rfl | rfl | rfl | rfl <;> rfl

theorem ipv4Text_inj {a b : Ip4} (h : ipv4Text a = ipv4Text b) : a = b := by
  have hparse := congrArg parseIpv4 h
  rw [parseIpv4_ipv4Text, parseIpv4_ipv4Text] at hparse
  exact Option.some.inj hparse

theorem slash_not_mem_ipv4Text (ip : Ip4) : '/' ∉ ipv4Text ip := by
  simp [ipv4Text, List.intercalate, List.intersperse, (octetText_facts _).2.2.1]

theorem length_ipv4Text (ip : Ip4) : (ipv4Text ip).length = (octetText (octet ip 0)).length +
    (octetText (octet ip 1)).length + (octetText (octet ip 2)).length +
    (octetText (octet ip 3)).length + 3 := by
  simp [ipv4Text, List.intercalate, List.intersperse]
  omega

theorem u32ToIpv4_and (a b : UInt32) :
    u32ToIpv4 (a &&& b) = maskIp (u32ToIpv4 a) (u32ToIpv4 b) := by
  simp [u32ToIpv4, maskIp, bytewise, UInt32.shiftRight_and]

/-! ## The CIDR text -/

/-- The one netmask `Preferences::validate` accepts. -/
def mask24 : Ip4 := ip4 255 255 255 0

theorem ipv4Text_mask24 : ipv4Text mask24 = "255.255.255.0".toList := by decide

/-- `QHostAddress` reads what `inet_pton` reads, as the same address; it may read more. -/
def System.ReadsQuads (sys : System) : Prop :=
  ∀ text ip, parseIpv4 text = some ip → sys.toIpv4Address text = some (ipv4ToU32 ip)

theorem subnetFor_of_parsed {sys : System} (quads : sys.ReadsQuads) {text : Text} {ip : Ip4}
    (h : parseIpv4 text = some ip) :
    subnetFor sys text (ipv4Text mask24) = ipv4Text (maskIp ip mask24) ++ "/24".toList := by
  have hbits : (ipv4ToU32 mask24 = 0 ∨
      ~~~ipv4ToU32 mask24 &&& (~~~ipv4ToU32 mask24 + 1) ≠ 0) = False := by
    decide
  have hprefix : Nat.toDigits 10 (prefixLength 32 (ipv4ToU32 mask24)) = ['2', '4'] := by
    decide
  simp only [subnetFor, quads _ _ h, quads _ _ (parseIpv4_ipv4Text mask24), hbits, if_false,
    hprefix, u32ToIpv4_and, u32ToIpv4_ipv4ToU32]
  rfl

theorem maskIp_idem (ip mask : Ip4) : maskIp (maskIp ip mask) mask = maskIp ip mask := by
  simp [maskIp, bytewise, UInt8.and_assoc]

/-- `parse_subnet` reads the text back, if it fits its buffer. -/
theorem parseSubnet_text (net : Ip4) :
    parseSubnet (ipv4Text net ++ "/24".toList) =
      if (ipv4Text net ++ "/24".toList).length ≥ 16 then none
      else some (maskIp net mask24, mask24) := by
  have hno : ∀ c ∈ ipv4Text net, decide (c ≠ '/') = true := by
    intro c hc
    simp only [decide_eq_true_eq]
    rintro rfl
    exact slash_not_mem_ipv4Text net hc
  have hrest : (ipv4Text net ++ "/24".toList).dropWhile (· ≠ '/') = ['/', '2', '4'] := by
    rw [List.dropWhile_append_of_pos hno]
    decide
  have hfront : (ipv4Text net ++ "/24".toList).takeWhile (· ≠ '/') = ipv4Text net := by
    rw [List.takeWhile_append_of_pos hno]
    simp
  have hlen : Strtol.strtol 10 ['2', '4'] = (24, []) := by decide
  have hmask : prefixMask 24 = mask24 := by decide
  simp only [parseSubnet, hrest, hfront, hlen, parseIpv4_ipv4Text]
  split
  · rfl
  · simp [hmask]

/-- It fits unless the first three octets have three digits each. -/
theorem cidr_fits_iff (ip : Ip4) :
    (ipv4Text (maskIp ip mask24) ++ "/24".toList).length < 16 ↔
      ¬ ((100 : UInt8) ≤ octet ip 0 ∧ (100 : UInt8) ≤ octet ip 1 ∧ (100 : UInt8) ≤ octet ip 2) := by
  have hdigits : ∀ b : UInt8, (octetText b).length ≤ 3 ∧ ((octetText b).length = 3 ↔ 100 ≤ b) := by
    intro b
    rw [(octetText_facts b).2.2.2]
    have hten : b < 10 → ¬ 100 ≤ b := by
      intro hb hle
      exact absurd (UInt8.lt_of_lt_of_le hb (UInt8.le_trans (by decide) hle)) (UInt8.lt_irrefl b)
    split
    · exact ⟨by omega, by simpa using UInt8.not_le.mp (hten ‹_›)⟩
    · split
      · exact ⟨by omega, by simpa using ‹b < 100›⟩
      · exact ⟨by omega, by simpa using UInt8.not_lt.mp ‹¬ b < 100›⟩
  have hbyte : ∀ b : UInt8, b &&& 255 = b := by
    intro b
    have hones : (255 : UInt8) = -1 := by decide
    rw [hones, UInt8.and_neg_one]
  have hoctets : (octetText (octet (maskIp ip mask24) 0)).length = (octetText (octet ip 0)).length ∧
      (octetText (octet (maskIp ip mask24) 1)).length = (octetText (octet ip 1)).length ∧
      (octetText (octet (maskIp ip mask24) 2)).length = (octetText (octet ip 2)).length ∧
      (octetText (octet (maskIp ip mask24) 3)).length = 1 := by
    simp [octet_eq, maskIp, bytewise, mask24, ip4, hbyte]
    decide
  have hsuffix : "/24".toList.length = 3 := by decide
  rw [List.length_append, hsuffix, length_ipv4Text, hoctets.1, hoctets.2.1, hoctets.2.2.1,
    hoctets.2.2.2]
  obtain ⟨h0, e0⟩ := hdigits (octet ip 0)
  obtain ⟨h1, e1⟩ := hdigits (octet ip 1)
  obtain ⟨h2, e2⟩ := hdigits (octet ip 2)
  rw [← e0, ← e1, ← e2]
  omega

/-! ## The two programs -/

/-- The adapter as `discoverAdapters` describes it. -/
structure Adapter.Reports (a : Adapter) (sys : System) (addr bits : Ip4) : Prop where
  ip : a.ip = ipv4Text addr
  mask : a.mask = ipv4Text bits
  subnet : a.subnet = subnetFor sys a.ip a.mask
  gateway : a.gateway = ipv4Text (u32ToIpv4 ((ipv4ToU32 addr &&& ipv4ToU32 bits) + 1))

/-- A check with a message was passed. -/
theorem passed_of_empty {c : Prop} [Decidable c] {message rest : String} (hmessage : message ≠ "")
    (h : (if c then message else rest) = "") : ¬ c ∧ rest = "" := by
  by_cases hc : c
  · rw [if_pos hc] at h
    exact absurd h hmessage
  · rw [if_neg hc] at h
    exact ⟨hc, h⟩

/-- The checks of `Preferences::validate` on the overlay adapter. -/
theorem validate_inv {p : Preferences} {sys : System} {all : List Adapter}
    (h : p.validate sys all = "") :
    (p.overlay all).mask = "255.255.255.0".toList ∧ p.gatewayOk sys (p.overlay all) = true := by
  unfold Preferences.validate at h
  -- the seven checks before the two about the overlay adapter
  iterate 7 replace h := (passed_of_empty (by decide) h).2
  obtain ⟨hmask, h⟩ := passed_of_empty (by decide) h
  obtain ⟨hgateway, -⟩ := passed_of_empty (by decide) h
  exact ⟨by simpa using hmask, by simpa using hgateway⟩

theorem gatewayOk_inv {p : Preferences} {sys : System} {a : Adapter}
    (h : p.gatewayOk sys a = true) : subnetFor sys (p.chosenGateway a) a.mask = a.subnet := by
  unfold Preferences.gatewayOk at h
  cases hread : sys.toIpv4Address (p.chosenGateway a) with
  | none => simp [hread] at h
  | some value =>
    simp [hread] at h
    exact h.1.1.1

theorem optionValue_other {name arg value : Text} {rest : List Text}
    (takes : takesValue arg = true) (other : (arg == name) = false) :
    optionValue name (arg :: value :: rest) = optionValue name rest := by
  rw [optionValue, if_pos takes, other]
  rfl

theorem optionValue_same {name value : Text} {rest : List Text}
    (takes : takesValue name = true) : optionValue name (name :: value :: rest) = some value := by
  rw [optionValue, if_pos takes, if_pos (beq_self_eq_true name)]

theorem optionValue_arguments (p : Preferences) (sys : System) (all : List Adapter)
    (captures : Text) :
    optionValue "--subnet".toList (p.arguments sys all captures) = some (p.overlay all).subnet ∧
      optionValue "--gateway".toList (p.arguments sys all captures) =
        some (p.chosenGateway (p.overlay all)) := by
  simp only [Preferences.arguments, List.cons_append]
  constructor
  · rw [optionValue_other (by decide) (by decide), optionValue_other (by decide) (by decide),
      optionValue_same (by decide)]
  · rw [optionValue_other (by decide) (by decide), optionValue_other (by decide) (by decide),
      optionValue_other (by decide) (by decide), optionValue_same (by decide)]

/-- What `lan_play_init` makes of the arguments: the adapter's network, and a gateway and
an adapter address that pass its checks. -/
def AgreesWith (setup : Setup) (ip mask : Ip4) : Prop :=
  ∃ net bits gateway, setup.network = some (net, bits) ∧ setup.gateway = some gateway ∧
    net = maskIp ip mask ∧ bits = mask ∧ maskIp gateway bits = net ∧ maskIp ip bits = net

section Accepted

variable {p : Preferences} {sys : System} {all : List Adapter} {ip mask : Ip4}

theorem mask_of_valid (reports : (p.overlay all).Reports sys ip mask)
    (valid : p.validate sys all = "") : mask = mask24 := by
  apply ipv4Text_inj
  rw [← reports.mask, (validate_inv valid).1, ipv4Text_mask24]

theorem subnet_of_valid (quads : sys.ReadsQuads) (reports : (p.overlay all).Reports sys ip mask)
    (valid : p.validate sys all = "") :
    (p.overlay all).subnet = ipv4Text (maskIp ip mask24) ++ "/24".toList := by
  rw [reports.subnet, reports.ip, reports.mask, mask_of_valid reports valid,
    subnetFor_of_parsed quads (parseIpv4_ipv4Text ip)]

/-- An accepted gateway that `inet_pton` reads lies in the adapter's network. -/
theorem gateway_of_valid (quads : sys.ReadsQuads) (reports : (p.overlay all).Reports sys ip mask)
    (valid : p.validate sys all = "") {g : Ip4}
    (hg : parseIpv4 (p.chosenGateway (p.overlay all)) = some g) :
    maskIp g mask24 = maskIp ip mask24 := by
  have hnet := gatewayOk_inv (validate_inv valid).2
  rw [reports.mask, mask_of_valid reports valid, subnetFor_of_parsed quads hg,
    subnet_of_valid quads reports valid] at hnet
  exact ipv4Text_inj (List.append_cancel_right hnet)

/-- The gateway of the adapter itself is always read. -/
theorem gateway_parses_iff (reports : (p.overlay all).Reports sys ip mask) :
    (∃ g, parseIpv4 (p.chosenGateway (p.overlay all)) = some g) ↔
      p.gateway = [] ∨ ∃ g, parseIpv4 p.gateway = some g := by
  unfold Preferences.chosenGateway
  cases hgateway : p.gateway with
  | nil =>
    rw [List.isEmpty_nil, if_pos rfl, reports.gateway, parseIpv4_ipv4Text]
    exact iff_of_true ⟨_, rfl⟩ (Or.inl rfl)
  | cons c rest =>
    rw [if_neg (by simp), or_iff_right (List.cons_ne_nil c rest)]

end Accepted

/-- The relay reads back what an accepted configuration tells it, unless the CIDR text
does not fit the buffer of `parse_subnet` or the gateway is written as only `QHostAddress`
reads it. -/
theorem network_arguments_agree_iff (setup : Setup) (p : Preferences) (sys : System)
    (quads : sys.ReadsQuads) (all : List Adapter) (captures : Text) (ip mask : Ip4)
    (reports : (p.overlay all).Reports sys ip mask) (valid : p.validate sys all = "") :
    AgreesWith (setup.withArguments (p.arguments sys all captures)) ip mask ↔
      ¬ ((100 : UInt8) ≤ octet ip 0 ∧ (100 : UInt8) ≤ octet ip 1 ∧ (100 : UInt8) ≤ octet ip 2) ∧
        (p.gateway = [] ∨ ∃ g, parseIpv4 p.gateway = some g) := by
  obtain ⟨hsubnet, hgateway⟩ := optionValue_arguments p sys all captures
  have hmask := mask_of_valid reports valid
  subst hmask
  have hnetwork : (setup.withArguments (p.arguments sys all captures)).network =
      if (ipv4Text (maskIp ip mask24) ++ "/24".toList).length ≥ 16 then none
      else some (maskIp ip mask24, mask24) := by
    simp only [Setup.network, Setup.withArguments, hsubnet, Option.map_some, String.toList_ofList,
      subnet_of_valid quads reports valid, parseSubnet_text, maskIp_idem]
  have hparsed : (setup.withArguments (p.arguments sys all captures)).gateway =
      parseIpv4 (p.chosenGateway (p.overlay all)) := by
    simp only [Setup.gateway, Setup.withArguments, hgateway, Option.map_some,
      String.toList_ofList]
  rw [← cidr_fits_iff, ← gateway_parses_iff reports]
  constructor
  · rintro ⟨net, bits, gateway, hnet, hread, -⟩
    refine ⟨?_, gateway, hparsed.symm.trans hread⟩
    rw [hnetwork] at hnet
    by_contra hlong
    rw [if_pos (Nat.le_of_not_lt hlong)] at hnet
    cases hnet
  · rintro ⟨hfits, g, hg⟩
    rw [if_neg (Nat.not_le.mpr hfits)] at hnetwork
    exact ⟨_, _, g, hnetwork, hparsed.trans hg, rfl, rfl, gateway_of_valid quads reports valid hg,
      rfl⟩

/-! ## Two networks -/

/-- A system whose `QHostAddress` reads dotted quads only. -/
def linux : System :=
  ⟨false, id, fun _ => true, fun text => (parseIpv4 text).map ipv4ToU32⟩

theorem linux_readsQuads : linux.ReadsQuads := fun _ _ h => congrArg (Option.map ipv4ToU32) h

/-- An overlay adapter with this address in a /24 network. -/
def overlayAdapter (ip : Ip4) : Adapter where
  name := "ztabcdefgh".toList
  ip := ipv4Text ip
  mask := ipv4Text mask24
  subnet := subnetFor linux (ipv4Text ip) (ipv4Text mask24)
  gateway := ipv4Text (u32ToIpv4 ((ipv4ToU32 ip &&& ipv4ToU32 mask24) + 1))
  up := true
  hotspot := false

def localAdapter : Adapter :=
  ⟨"wlan0".toList, "192.168.1.7".toList, "255.255.255.0".toList, "192.168.1.0/24".toList,
    "192.168.1.1".toList, true, false⟩

/-- The default preferences for the two adapters. -/
def chosenAdapters : Preferences where
  localInterface := "wlan0".toList
  overlayInterface := "ztabcdefgh".toList
  gateway := []
  relayPath := "grid0-relay".toList
  diagnostics := false
  capture := false
  discover := true
  dhcp := false

theorem overlayAdapter_reports (ip : Ip4) : (overlayAdapter ip).Reports linux ip mask24 :=
  ⟨rfl, rfl, rfl, rfl⟩

theorem network_arguments_agree_default :
    AgreesWith ((plainSetup (ip4 10 147 17 5) (mac6 2 0 0 0 0 9)).withArguments
      (chosenAdapters.arguments linux [localAdapter, overlayAdapter (ip4 10 147 17 5)] []))
      (ip4 10 147 17 5) mask24 :=
  (network_arguments_agree_iff _ chosenAdapters linux linux_readsQuads
    [localAdapter, overlayAdapter (ip4 10 147 17 5)] [] (ip4 10 147 17 5) mask24
    (overlayAdapter_reports (ip4 10 147 17 5)) (by decide)).mpr ⟨by decide, Or.inl rfl⟩

/-- 192.168.100.0/24 is accepted, and its text does not fit. -/
theorem long_subnet_rejected :
    (chosenAdapters.overlay [localAdapter, overlayAdapter (ip4 192 168 100 5)]).Reports
        linux (ip4 192 168 100 5) mask24 ∧
      chosenAdapters.validate linux [localAdapter, overlayAdapter (ip4 192 168 100 5)] = "" ∧
      ¬ AgreesWith ((plainSetup (ip4 192 168 100 5) (mac6 2 0 0 0 0 9)).withArguments
        (chosenAdapters.arguments linux
          [localAdapter, overlayAdapter (ip4 192 168 100 5)] [])) (ip4 192 168 100 5) mask24 := by
  refine ⟨overlayAdapter_reports _, by decide, ?_⟩
  rintro ⟨net, bits, gateway, hnetwork, -⟩
  have hnone : ((plainSetup (ip4 192 168 100 5) (mac6 2 0 0 0 0 9)).withArguments
      (chosenAdapters.arguments linux
        [localAdapter, overlayAdapter (ip4 192 168 100 5)] [])).network = none := by
    decide
  rw [hnone] at hnetwork
  cases hnetwork

end Grid0Relay
