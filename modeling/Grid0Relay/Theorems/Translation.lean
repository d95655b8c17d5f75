import Grid0Relay.Logic.Footprint

/-!
# What translation does to a packet

Both relay functions copy the packet of a frame, give it other addresses and
recompute its checksums. The ones'-complement argument is in the logic of
`rewrite_ipv4_addresses`; here it is stated for whatever the relay functions hand
to an adapter.
-/

namespace Grid0Relay

open Lib Lib.Exec

/-- `out` is the packet `ip` with other addresses and checksums of its own. -/
structure Translated (ip out : Bytes) : Prop where
  length : out.length = totalLen ip
  /-- Outside the addresses and the checksums nothing changes. -/
  same : ∀ i, i < 10 ∨ 20 ≤ i →
    ¬ (HasUdp ip ∧ (i = headerLen ip + 6 ∨ i = headerLen ip + 7)) → out.byte i = ip.byte i
  header : ipv4HeaderChecksum (out.slice 0 (headerLen ip)) = 0
  udp : HasUdp ip → udpChecksum out (headerLen ip) (totalLen ip) = 0xffff ∧
    out.net16 (headerLen ip + 6) ≠ 0
  identical : ChecksumsComputed ip → out.vecAt 4 12 = ip.vecAt 4 12 →
    out.vecAt 4 16 = ip.vecAt 4 16 → out = ip

theorem translated_translate {ip : Bytes} (h : Rewritable ip ip.length)
    (exact : totalLen ip = ip.length) (src dst : Ip4) : Translated ip (translate ip src dst) where
  length := by rw [length_translate h, exact]
  same := by
    intro i hi hudp
    refine byte_translate h hi fun hhas => ?_
    by_contra hno
    exact hudp ⟨hhas, by omega⟩
  header := ipv4HeaderChecksum_translate h
  udp := by
    intro hudp
    have hsum := @udpChecksum_translate ip src dst h hudp
    have hwhole : (translate ip src dst).slice 0 (totalLen ip) = translate ip src dst := by
      rw [exact, ← @length_translate ip src dst h]
      exact slice_whole _
    rw [hwhole] at hsum
    exact ⟨hsum, udpField_translate h hudp⟩
  identical := by
    intro hsums hsrc hdst
    rw [src_translate h] at hsrc
    rw [dst_translate h] at hdst
    rw [hsrc, hdst]
    exact translate_self h hsums

/-- The IPv4 packet inside an injected frame. -/
def payloadOf (frame : Bytes) : Bytes := frame.drop 14

theorem payloadOf_etherHeader (dst src : Mac) (type : Nat) (ip : Bytes) :
    payloadOf (etherHeader dst src type ++ ip) = ip := by
  rw [payloadOf, List.drop_left' (length_etherHeader dst src type)]

/-- The diagnostic echo. -/
def IsProbe (lp : LanPlay) (i : Injection) : Prop := ∃ payload, i = ⟨.wifi, probeFrame lp payload⟩

/-- The packet of a frame ends where it says it ends. -/
theorem totalLen_eq_length {frame : Bytes} (hpacket : HasPacket frame)
    (hrewrite : Rewritable (packetOf frame) (packetOf frame).length) :
    totalLen (packetOf frame) = (packetOf frame).length := by
  have hlow := (packet_sendable hpacket hrewrite).1
  rw [totalLen_packetOf hlow, hpacket.length_packetOf]

/-- What leaves on the overlay. -/
theorem relayWifi_translated (env : Env) (frame : Bytes) (w : World) :
    ∃ frames, (after (lanPlayRelayWifiIpv4 env frame w)).sent = w.sent ++ frames ∧
      ∀ i ∈ frames, OverlayIpv4 i → Translated (packetOf frame) (payloadOf i.frame) ∧
        (payloadOf i.frame).length = Frame.ipTotalLen frame := by
  obtain ⟨frames, hsent, hframes⟩ := relayWifi_frames env frame w
  refine ⟨frames, hsent, fun i hi hip => ?_⟩
  rcases hframes with rfl | ⟨⟨⟨_, hpacket, _⟩, _, hrewrite⟩, _, hframes⟩
  · simp at hi
  · obtain ⟨mac, rfl⟩ := overlayFrames_ipv4 hframes hi hip
    rw [zerotierFrame, payloadOf_etherHeader, outgoing, length_translate hrewrite,
      hpacket.length_packetOf]
    exact ⟨translated_translate hrewrite (totalLen_eq_length hpacket hrewrite) _ _, rfl⟩

/-- A delivery is one frame, and at most one probe after it. -/
theorem deliver_sent (env : Env) (frame : Bytes) (w : World) :
    ∃ probes, (w.deliver env frame).sent =
        w.sent ++ ⟨.wifi, deliveredFrame w.lp frame⟩ :: probes ∧
      probes.length ≤ 1 ∧ ∀ i ∈ probes, IsProbe w.lp i := by
  unfold World.deliver
  split
  · refine ⟨[⟨.wifi, probeFrame w.lp (probePayload (env.hrtime (w.asked + 1)))⟩], ?_, by simp, ?_⟩
    · simp only [World.probe, World.sendWifi, List.append_assoc]
      rfl
    · intro i hi
      exact ⟨_, List.mem_singleton.mp hi⟩
  · exact ⟨[], rfl, by simp, by simp⟩

/-- What the console gets. -/
theorem relayZerotier_translated (env : Env) (frame : Bytes) (w : World) :
    (after (lanPlayRelayZerotierIpv4 env frame w)).sent = w.sent ∨
      ∃ out probes, (after (lanPlayRelayZerotierIpv4 env frame w)).sent =
          w.sent ++ ⟨.wifi, out⟩ :: probes ∧
        Translated (packetOf frame) (payloadOf out) ∧
        (payloadOf out).length = Frame.ipTotalLen frame ∧
        probes.length ≤ 1 ∧ ∀ i ∈ probes, IsProbe w.lp i := by
  by_cases h : Deliverable w.lp frame
  · rw [lanPlayRelayZerotierIpv4_delivered env frame w h, after_ok]
    obtain ⟨_, hpacket, _, hrewrite⟩ := h
    obtain ⟨probes, hsent, hprobes⟩ := deliver_sent env frame w
    refine Or.inr ⟨deliveredFrame w.lp frame, probes, hsent, ?_⟩
    rw [deliveredFrame, payloadOf_etherHeader, delivered, length_translate hrewrite,
      hpacket.length_packetOf]
    exact ⟨translated_translate hrewrite (totalLen_eq_length hpacket hrewrite) _ _, rfl, hprobes⟩
  · obtain ⟨warned, hrun⟩ := lanPlayRelayZerotierIpv4_declined env frame w h
    rw [hrun, after_ok]
    exact Or.inl rfl

/-- A refused packet keeps its bytes. -/
theorem rewriteIpv4Addresses_false {ip out : Bytes} {n : Nat} {src dst : Ip4} {w w' : World}
    (h : rewriteIpv4Addresses ip n src dst w = .ok (false, out) w') : out = ip := by
  rw [rewriteIpv4Addresses, ite_run] at h
  split at h
  · rw [pure_apply] at h
    injection h with h
    exact (Prod.mk.inj h).2.symm
  · obtain ⟨verLen, _, -, h⟩ := bind_eq_ok h
    obtain ⟨total, _, -, h⟩ := bind_eq_ok h
    rw [ite_run] at h
    split at h
    · rw [pure_apply] at h
      injection h with h
      exact (Prod.mk.inj h).2.symm
    · -- past the tests the result is always true
      obtain ⟨_, _, -, h⟩ := bind_eq_ok h
      obtain ⟨_, _, -, h⟩ := bind_eq_ok h
      obtain ⟨_, _, -, h⟩ := bind_eq_ok h
      obtain ⟨_, _, -, h⟩ := bind_eq_ok h
      obtain ⟨_, _, -, h⟩ := bind_eq_ok h
      obtain ⟨_, _, -, h⟩ := bind_eq_ok h
      rw [ite_run] at h
      split at h
      · obtain ⟨_, _, -, h⟩ := bind_eq_ok h
        obtain ⟨_, _, -, h⟩ := bind_eq_ok h
        obtain ⟨_, _, -, h⟩ := bind_eq_ok h
        simp at h
      · simp at h

/-- **Translation.** Every IPv4 packet the relay functions hand to an adapter is the
packet of the frame with other addresses and valid checksums, byte for byte the
input when nothing had to change; a refused packet is left as it was. -/
theorem translation_correct (env : Env) (frame : Bytes) (w : World) :
    (∃ frames, (after (lanPlayRelayWifiIpv4 env frame w)).sent = w.sent ++ frames ∧
      ∀ i ∈ frames, OverlayIpv4 i → Translated (packetOf frame) (payloadOf i.frame) ∧
        (payloadOf i.frame).length = Frame.ipTotalLen frame) ∧
    ((after (lanPlayRelayZerotierIpv4 env frame w)).sent = w.sent ∨
      ∃ out probes, (after (lanPlayRelayZerotierIpv4 env frame w)).sent =
          w.sent ++ ⟨.wifi, out⟩ :: probes ∧
        Translated (packetOf frame) (payloadOf out) ∧
        (payloadOf out).length = Frame.ipTotalLen frame ∧
        probes.length ≤ 1 ∧ ∀ i ∈ probes, IsProbe w.lp i) ∧
    (∀ ip n src dst out w', rewriteIpv4Addresses ip n src dst w = .ok (false, out) w' → out = ip) :=
  ⟨relayWifi_translated env frame w, relayZerotier_translated env frame w,
    fun _ _ _ _ _ _ h => rewriteIpv4Addresses_false h⟩

end Grid0Relay
