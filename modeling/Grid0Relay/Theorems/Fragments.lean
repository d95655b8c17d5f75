import Grid0Relay.Theorems.TransportChecksums

/-!
# Fragments of UDP datagrams

`rewrite_ipv4_addresses` writes a UDP checksum into every packet of the protocol with
eight bytes of data, whether or not the packet starts with a UDP header, and sums over
the packet it has. A fragment from the middle of a datagram loses two bytes of payload
to it, and the first fragment gets a checksum that leaves out the others.
-/

namespace Grid0Relay

open Lib Lib.Exec Lib.OnesComplement

/-- The place of a fragment, in units of eight bytes. -/
def fragmentOffset (ip : Bytes) : Nat := ip.net16 6 &&& 0x1fff

def moreFragments (ip : Bytes) : Bool := ip.net16 6 &&& 0x2000 ≠ 0

/-- What the fragments of one datagram have in common. -/
def fragmentKey (ip : Bytes) : Nat × UInt8 × Ip4 × Ip4 :=
  (ip.net16 4, ip.byte 9, ip.vecAt 4 12, ip.vecAt 4 16)

/-- From this position on, fragments without a gap up to the last one. -/
def Consecutive (pos : Nat) : List Bytes → Prop
  | [] => False
  | [ip] => fragmentOffset ip * 8 = pos ∧ moreFragments ip = false
  | ip :: rest => fragmentOffset ip * 8 = pos ∧ moreFragments ip = true ∧
      0 < (dataOf ip).length ∧ (dataOf ip).length % 8 = 0 ∧
      Consecutive (pos + (dataOf ip).length) rest

instance decidableConsecutive : ∀ (pos : Nat) (ips : List Bytes), Decidable (Consecutive pos ips)
  | _, [] => .isFalse id
  | pos, [ip] => inferInstanceAs (Decidable (fragmentOffset ip * 8 = pos ∧ _))
  | pos, ip :: next :: rest =>
    have := decidableConsecutive (pos + (dataOf ip).length) (next :: rest)
    inferInstanceAs (Decidable (fragmentOffset ip * 8 = pos ∧ _ ∧ _ ∧ _ ∧
      Consecutive (pos + (dataOf ip).length) (next :: rest)))

/-- The datagram a receiver puts together. -/
def reassemble (ips : List Bytes) : Option Bytes :=
  if Consecutive 0 ips ∧ ∀ ip ∈ ips, fragmentKey ip = fragmentKey (ips.headD []) then
    some (ips.map dataOf).flatten
  else none

/-- The data of a packet that the relay leaves alone: too short for a UDP header, or by
chance a datagram of its own that is valid between the new addresses. -/
def Untouched (src dst : Ip4) (data : Bytes) : Prop :=
  data.length < 8 ∨ (data.net16 6 ≠ 0 ∧ Closes src dst 17 data)

/-- The pieces of a datagram that comes through: whole, or the pieces behind the first
are left alone and add nothing to the sum. -/
def Spared (src dst : Ip4) : List Bytes → Prop
  | [] => True
  | [_] => True
  | _ :: rest => (∀ data ∈ rest, Untouched src dst data) ∧
      (rest.flatten.length + wordSum rest.flatten) % 65535 = 0

/-- The same ports and payload, and a checksum that is valid or absent. -/
def SameDatagram (src dst : Ip4) (sent received : Bytes) : Prop :=
  received.take 4 = sent.take 4 ∧ received.drop 8 = sent.drop 8 ∧ UdpValid src dst received
deriving Decidable

/-! ## One fragment -/

section Hop

variable {ip out : Bytes} {src dst : Ip4}

theorem dataOf_eq_drop (h : totalLen ip = ip.length) : dataOf ip = ip.drop (headerLen ip) := by
  rw [dataOf, h, Bytes.slice, List.take_of_length_le (by simp)]

theorem Hop.length_dataOf (h : Hop ip out src dst) : (dataOf out).length = (dataOf ip).length := by
  obtain ⟨hrewrite, -, rfl⟩ := h.translate
  exact length_dataOf_translate hrewrite

/-- A packet of the protocol with room for a header gets a checksum. -/
theorem Hop.sealed (h : Hop ip out src dst) (hudp : ip.byte 9 = 17)
    (hlen : 8 ≤ (dataOf ip).length) :
    ∃ c, c ≠ 0 ∧ c < 65536 ∧ dataOf out = (dataOf ip).put 6 (Bytes.bytes16 c) ∧
      Closes src dst 17 (dataOf out) := by
  obtain ⟨hrewrite, -, rfl⟩ := h.translate
  have hhas : HasUdp ip := by
    rw [Grid0Relay.length_dataOf hrewrite] at hlen
    exact ⟨hudp, by omega⟩
  exact ⟨_, field_translate_ne_zero hrewrite hhas, Bytes.net16_lt _ _,
    (dataOf_translate_udp hrewrite hhas).symm, closes_translate hrewrite hhas⟩

theorem Hop.dataOf_eq_iff (h : Hop ip out src dst) (hudp : ip.byte 9 = 17) :
    dataOf out = dataOf ip ↔ Untouched src dst (dataOf ip) := by
  by_cases hlen : 8 ≤ (dataOf ip).length
  · obtain ⟨c, hc, hlt, hput, hcloses⟩ := h.sealed hudp hlen
    have hfield : (dataOf out).net16 6 = c := by
      rw [hput]
      exact Bytes.net16_put_self (by omega) hlt
    rw [hput] at hcloses
    have hunique := closes_unique hlen hc hlt hcloses
    constructor
    · intro heq
      rw [heq] at hfield
      exact Or.inr (hunique.mp hfield)
    · rintro (hshort | hown)
      · omega
      · rw [hput, ← hunique.mpr hown, Bytes.put_net16_self (by omega)]
  · obtain ⟨hrewrite, -, rfl⟩ := h.translate
    have hnone : ¬ HasUdp ip := by
      rintro ⟨-, hroom⟩
      rw [Grid0Relay.length_dataOf hrewrite] at hlen
      omega
    exact ⟨fun _ => Or.inl (by omega), fun _ => dataOf_translate hrewrite hnone⟩

/-- The fields a receiver sorts fragments by. -/
theorem Hop.fragment_fields (h : Hop ip out src dst) :
    out.net16 6 = ip.net16 6 ∧ fragmentKey out = (ip.net16 4, ip.byte 9, src, dst) := by
  obtain ⟨hrewrite, -, rfl⟩ := h.translate
  have hhl := hrewrite.2.1
  have hbyte : ∀ i, i < 10 → (Grid0Relay.translate ip src dst).byte i = ip.byte i :=
    fun i hi => byte_translate hrewrite (by omega) (by omega)
  refine ⟨?_, ?_⟩
  · rw [Bytes.net16, Bytes.net16, hbyte 6 (by omega), hbyte 7 (by omega)]
  · rw [fragmentKey, src_translate hrewrite, dst_translate hrewrite, Bytes.net16, Bytes.net16,
      hbyte 4 (by omega), hbyte 5 (by omega), hbyte 9 (by omega)]

end Hop

/-! ## All fragments of a datagram -/

section Fragments

variable {frags : List (Bytes × Bytes)} {src dst : Ip4}

/-- Relayed fragments follow each other as the ones that came in. -/
theorem consecutive_hops (hhop : ∀ f ∈ frags, Hop f.1 f.2 src dst) (pos : Nat)
    (h : Consecutive pos (frags.map Prod.fst)) : Consecutive pos (frags.map Prod.snd) := by
  induction frags generalizing pos with
  | nil => exact h
  | cons f rest ih =>
    have hfirst := hhop f List.mem_cons_self
    have hword := hfirst.fragment_fields.1
    have hmore := ih fun g hg => hhop g (List.mem_cons_of_mem f hg)
    cases rest with
    | nil =>
      simp only [List.map_cons, List.map_nil, Consecutive, fragmentOffset, moreFragments]
        at h ⊢
      rw [hword]
      exact h
    | cons g rest =>
      simp only [List.map_cons, Consecutive, fragmentOffset, moreFragments,
        hfirst.length_dataOf, hword] at h hmore ⊢
      exact ⟨h.1, h.2.1, h.2.2.1, h.2.2.2.1, hmore _ h.2.2.2.2⟩

theorem reassemble_eq_some {ips : List Bytes} {datagram : Bytes} :
    reassemble ips = some datagram ↔ Consecutive 0 ips ∧
      (∀ ip ∈ ips, fragmentKey ip = fragmentKey (ips.headD [])) ∧
      datagram = (ips.map dataOf).flatten := by
  rw [reassemble]
  split
  · rename_i h
    simp only [Option.some.injEq, h.1, true_and]
    exact ⟨fun heq => ⟨h.2, heq.symm⟩, fun heq => heq.2.symm⟩
  · rename_i h
    simp only [reduceCtorEq, false_iff]
    exact fun hall => h ⟨hall.1, hall.2.1⟩

theorem reassemble_hops (hhop : ∀ f ∈ frags, Hop f.1 f.2 src dst) {datagram : Bytes}
    (h : reassemble (frags.map Prod.fst) = some datagram) :
    reassemble (frags.map Prod.snd) = some (frags.map fun f => dataOf f.2).flatten := by
  obtain ⟨hrow, hkey, -⟩ := reassemble_eq_some.mp h
  refine reassemble_eq_some.mpr ⟨consecutive_hops hhop 0 hrow, ?_, by rw [List.map_map]; rfl⟩
  cases frags with
  | nil => exact hrow.elim
  | cons f rest =>
    have hhead := (hhop f List.mem_cons_self).fragment_fields.2
    intro out hout
    obtain ⟨g, hg, rfl⟩ := List.mem_map.mp hout
    have hsame := hkey g.1 (List.mem_map_of_mem hg)
    simp only [List.map_cons, List.headD_cons] at hsame ⊢
    rw [(hhop g hg).fragment_fields.2, hhead]
    simp only [fragmentKey, Prod.mk.injEq] at hsame
    rw [hsame.1, hsame.2.1]

/-- A checksum over an even first piece closes the whole sum just when the rest adds
nothing. -/
theorem closes_append {first rest : Bytes} (heven : first.length % 2 = 0)
    (hcloses : Closes src dst 17 first) :
    Closes src dst 17 (first ++ rest) ↔ (rest.length + wordSum rest) % 65535 = 0 := by
  unfold Closes pseudoSum at *
  rw [wordSum_append first rest heven, List.length_append]
  generalize wordSum (src.toList ++ dst.toList) = addresses at *
  constructor
  · intro hall
    omega
  · intro hrest
    omega

/-- What arrives when the first piece gets a checksum of its own and the others are
replaced by pieces of the same length. -/
theorem sameDatagram_append {first rest rest' : Bytes} {c : Nat} (hlen : 8 ≤ first.length)
    (hdeclared : declaredLen (first ++ rest) = (first ++ rest).length)
    (hrest : rest'.length = rest.length) (hc : c ≠ 0) (hlt : c < 65536) :
    SameDatagram src dst (first ++ rest) (first.put 6 (Bytes.bytes16 c) ++ rest') ↔
      rest' = rest ∧ Closes src dst 17 (first.put 6 (Bytes.bytes16 c) ++ rest) := by
  have hfit : 6 + (Bytes.bytes16 c).length ≤ first.length := by simp; omega
  have hput : (first.put 6 (Bytes.bytes16 c)).length = first.length := Bytes.length_put hfit
  have hports : (first.put 6 (Bytes.bytes16 c) ++ rest').take 4 = (first ++ rest).take 4 := by
    have h := Bytes.slice_put_outside hfit (Or.inl (by omega : 0 + 4 ≤ 6))
    simp only [Bytes.slice, List.drop_zero] at h
    rw [List.take_append_of_le_length (by omega), List.take_append_of_le_length (by omega), h]
  have hpayload : (first.put 6 (Bytes.bytes16 c)).drop 8 = first.drop 8 := by
    have h := @Bytes.slice_put_outside first 6 8 (first.length - 8) _ hfit (by simp)
    simp only [Bytes.slice] at h
    rw [List.take_of_length_le (by simp [hput]), List.take_of_length_le (by simp)] at h
    exact h
  have hafter : (first.put 6 (Bytes.bytes16 c) ++ rest').drop 8 = (first ++ rest).drop 8 ↔
      rest' = rest := by
    rw [List.drop_append_of_le_length (by omega), List.drop_append_of_le_length (by omega),
      hpayload]
    exact List.append_right_inj _
  have hfield : (first.put 6 (Bytes.bytes16 c) ++ rest').net16 6 = c := by
    rw [Bytes.net16_append_left (by omega), Bytes.net16_put_self (by omega) hlt]
  have hlength : declaredLen (first.put 6 (Bytes.bytes16 c) ++ rest') =
      (first.put 6 (Bytes.bytes16 c) ++ rest').length := by
    have hkept := declaredLen_put hlen c
    rw [declaredLen, Bytes.net16_append_left (by omega)] at hdeclared
    rw [declaredLen, declaredLen] at hkept
    rw [declaredLen, Bytes.net16_append_left (by omega), hkept, hdeclared]
    simp only [List.length_append, hput, hrest]
  have hroom : 8 ≤ (first.put 6 (Bytes.bytes16 c) ++ rest').length := by
    rw [List.length_append, hput]
    omega
  rw [SameDatagram, UdpValid, hlength, hafter, hfield, List.take_length]
  constructor
  · rintro ⟨-, rfl, -, -, hzero | hcloses⟩
    · exact absurd hzero hc
    · exact ⟨rfl, hcloses⟩
  · rintro ⟨rfl, hcloses⟩
    exact ⟨hports, rfl, hroom, le_refl _, Or.inr hcloses⟩

theorem sameDatagram_hops (hhop : ∀ f ∈ frags, Hop f.1 f.2 src dst)
    (hudp : ∀ f ∈ frags, f.1.byte 9 = 17) (hrow : Consecutive 0 (frags.map Prod.fst))
    (hlo : 8 ≤ (frags.map fun f => dataOf f.1).flatten.length)
    (hdeclared : declaredLen (frags.map fun f => dataOf f.1).flatten =
      (frags.map fun f => dataOf f.1).flatten.length) :
    SameDatagram src dst (frags.map fun f => dataOf f.1).flatten
      (frags.map fun f => dataOf f.2).flatten ↔
    Spared src dst (frags.map fun f => dataOf f.1) := by
  cases frags with
  | nil => exact hrow.elim
  | cons f rest =>
    have hfirst := hhop f List.mem_cons_self
    have hfirstUdp := hudp f List.mem_cons_self
    cases rest with
    | nil =>
      -- not split: the checksum covers all of it
      simp only [List.map_cons, List.map_nil, List.flatten_cons, List.flatten_nil] at *
      rw [List.append_nil] at hlo
      obtain ⟨c, hc, hlt, hput, hcloses⟩ := hfirst.sealed hfirstUdp hlo
      rw [hput] at hcloses ⊢
      rw [sameDatagram_append hlo hdeclared rfl hc hlt, List.append_nil]
      exact ⟨fun _ => trivial, fun _ => ⟨rfl, hcloses⟩⟩
    | cons g more =>
      have hmore : ∀ a ∈ g :: more, (dataOf a.2).length = (dataOf a.1).length :=
        fun a ha => (hhop a (List.mem_cons_of_mem f ha)).length_dataOf
      have hsame : ∀ a ∈ g :: more,
          (dataOf a.2 = dataOf a.1 ↔ Untouched src dst (dataOf a.1)) := fun a ha =>
        (hhop a (List.mem_cons_of_mem f ha)).dataOf_eq_iff
          (hudp a (List.mem_cons_of_mem f ha))
      obtain ⟨-, -, hpos, hwords, -⟩ := hrow
      have hroom : 8 ≤ (dataOf f.1).length := by omega
      obtain ⟨c, hc, hlt, hput, hcloses⟩ := hfirst.sealed hfirstUdp hroom
      have heven : (dataOf f.2).length % 2 = 0 := by
        rw [hfirst.length_dataOf]
        omega
      have hlens : ((g :: more).map fun a => dataOf a.2).flatten.length =
          ((g :: more).map fun a => dataOf a.1).flatten.length := by
        rw [List.length_flatten, List.length_flatten, List.map_map, List.map_map]
        exact congrArg List.sum (List.map_congr_left hmore)
      have hpieces : (∀ data ∈ (g :: more).map fun a => dataOf a.1, Untouched src dst data) ↔
          ∀ a ∈ g :: more, dataOf a.2 = dataOf a.1 := by
        rw [List.forall_mem_map]
        exact forall₂_congr fun a ha => (hsame a ha).symm
      have hspared : Spared src dst ((f :: g :: more).map fun a => dataOf a.1) ↔
          (∀ data ∈ (g :: more).map fun a => dataOf a.1, Untouched src dst data) ∧
          (((g :: more).map fun a => dataOf a.1).flatten.length +
            wordSum ((g :: more).map fun a => dataOf a.1).flatten) % 65535 = 0 := by
        simp only [List.map_cons, Spared]
      rw [hspared, hpieces]
      show SameDatagram src dst (dataOf f.1 ++ ((g :: more).map fun a => dataOf a.1).flatten)
        (dataOf f.2 ++ ((g :: more).map fun a => dataOf a.2).flatten) ↔ _
      rw [hput, sameDatagram_append hroom hdeclared hlens hc hlt, ← hput,
        closes_append heven hcloses, Bytes.flatten_map_inj hmore]

end Fragments

/-- A fragment from inside a datagram comes through unchanged just when the relay finds
nothing to repair in it, and a split datagram just when that is so of every piece
behind the first and those pieces add nothing to the sum. -/
theorem fragments_survive_iff (src dst : Ip4) :
    (∀ ip out : Bytes, Hop ip out src dst → ip.byte 9 = 17 →
      fragmentOffset ip ≠ 0 →
      (out.drop (headerLen out) = ip.drop (headerLen ip) ↔ Untouched src dst (dataOf ip))) ∧
    ∀ (frags : List (Bytes × Bytes)) (datagram : Bytes),
      (∀ f ∈ frags, Hop f.1 f.2 src dst ∧ f.1.byte 9 = 17) →
      reassemble (frags.map Prod.fst) = some datagram →
      8 ≤ datagram.length → declaredLen datagram = datagram.length →
      ∃ received, reassemble (frags.map Prod.snd) = some received ∧
        (SameDatagram src dst datagram received ↔
          Spared src dst (frags.map fun f => dataOf f.1)) := by
  constructor
  · intro ip out hhop hudp _
    rw [← hhop.dataOf_eq_iff hudp]
    obtain ⟨hrewrite, htotal, rfl⟩ := hhop.translate
    rw [← dataOf_eq_drop htotal, ← dataOf_eq_drop]
    rw [totalLen_translate hrewrite, htotal, length_translate hrewrite]
  · intro frags datagram hall hwhole hlo hdeclared
    have hhop : ∀ f ∈ frags, Hop f.1 f.2 src dst := fun f hf => (hall f hf).1
    obtain ⟨hrow, -, rfl⟩ := reassemble_eq_some.mp hwhole
    refine ⟨_, reassemble_hops hhop hwhole, ?_⟩
    rw [List.map_map] at hlo hdeclared ⊢
    exact sameDatagram_hops hhop (fun f hf => (hall f hf).2) hrow hlo hdeclared

/-- The packet of the console that starts a datagram and one that ends it. -/
def headFrame (data : Bytes) : Bytes := consoleFrame 0x2000 17 data

def tailFrame (data : Bytes) : Bytes := consoleFrame 1 17 data

def shortHead : Bytes := headFrame [0xc0, 0, 0x88, 0xb8, 0, 10, 0, 0]

def shortTail : Bytes := tailFrame [0xff, 0xfd]

theorem hop_shortHead : Hop (packetOf shortHead) (outgoing consoleWorld.lp shortHead)
    consoleWorld.lp.zerotierIp (overlayDst consoleWorld.lp shortHead) :=
  hop_consoleFrame (by decide +kernel)

theorem hop_shortTail : Hop (packetOf shortTail) (outgoing consoleWorld.lp shortTail)
    consoleWorld.lp.zerotierIp (overlayDst consoleWorld.lp shortHead) := by
  have hdst : overlayDst consoleWorld.lp shortHead = overlayDst consoleWorld.lp shortTail := by
    decide +kernel
  rw [hdst]
  exact hop_consoleFrame (by decide +kernel)

theorem untouched_shortTail : Untouched consoleWorld.lp.zerotierIp
    (overlayDst consoleWorld.lp shortHead) (dataOf (packetOf shortTail)) :=
  Or.inl (by decide)

theorem spared_short : Spared consoleWorld.lp.zerotierIp (overlayDst consoleWorld.lp shortHead)
    [dataOf (packetOf shortHead), dataOf (packetOf shortTail)] :=
  ⟨List.forall_mem_singleton.mpr untouched_shortTail, by decide⟩

/-- A last piece of two bytes that add nothing to the sum. -/
theorem fragments_survive_short :
    (outgoing consoleWorld.lp shortTail).drop (headerLen (outgoing consoleWorld.lp shortTail)) =
      (packetOf shortTail).drop (headerLen (packetOf shortTail)) ∧
    ∃ received, reassemble [outgoing consoleWorld.lp shortHead, outgoing consoleWorld.lp shortTail] =
        some received ∧
      SameDatagram consoleWorld.lp.zerotierIp (overlayDst consoleWorld.lp shortHead)
        [0xc0, 0, 0x88, 0xb8, 0, 10, 0, 0, 0xff, 0xfd] received := by
  obtain ⟨hone, hall⟩ := fragments_survive_iff consoleWorld.lp.zerotierIp
    (overlayDst consoleWorld.lp shortHead)
  have htail := hone _ _ hop_shortTail (by decide) (by decide)
  have hboth := hall
    [(packetOf shortHead, outgoing consoleWorld.lp shortHead),
      (packetOf shortTail, outgoing consoleWorld.lp shortTail)]
    [0xc0, 0, 0x88, 0xb8, 0, 10, 0, 0, 0xff, 0xfd]
  simp only [List.map_cons, List.map_nil, List.forall_mem_cons] at hboth
  obtain ⟨received, hreceived, hsame⟩ := hboth
    ⟨⟨hop_shortHead, by decide⟩, ⟨hop_shortTail, by decide⟩,
      fun _ h => absurd h List.not_mem_nil⟩
    (by decide +kernel) (by decide) (by decide)
  exact ⟨htail.mpr untouched_shortTail, received, hreceived, hsame.mpr spared_short⟩

/-- A datagram of eight bytes, split behind its header. -/
def longHead : Bytes := headFrame [0xc0, 0, 0x88, 0xb8, 0, 16, 110, 200]

def longTail : Bytes := tailFrame [1, 2, 3, 4, 5, 6, 7, 8]

/-- The last two bytes of its payload are overwritten. -/
theorem fragment_payload_overwritten :
    (Hop (packetOf longTail) (outgoing consoleWorld.lp longTail) consoleWorld.lp.zerotierIp
        (overlayDst consoleWorld.lp longTail) ∧
      (packetOf longTail).byte 9 = 17 ∧ fragmentOffset (packetOf longTail) ≠ 0 ∧
      (outgoing consoleWorld.lp longTail).drop 20 ≠ (packetOf longTail).drop 20) ∧
    ∃ datagram received, reassemble ([longHead, longTail].map packetOf) = some datagram ∧
      declaredLen datagram = datagram.length ∧
      UdpValid (ip4 10 147 17 20) (ip4 10 147 17 255) datagram ∧
      reassemble ([longHead, longTail].map (outgoing consoleWorld.lp)) = some received ∧
      ¬ SameDatagram consoleWorld.lp.zerotierIp (overlayDst consoleWorld.lp longTail)
        datagram received := by
  refine ⟨⟨hop_consoleFrame (by decide +kernel), by decide +kernel⟩,
    ([longHead, longTail].map fun frame => dataOf (packetOf frame)).flatten,
    ([longHead, longTail].map fun frame => dataOf (outgoing consoleWorld.lp frame)).flatten, ?_⟩
  decide +kernel

end Grid0Relay
