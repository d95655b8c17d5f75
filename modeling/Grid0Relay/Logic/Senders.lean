import Grid0Relay.Relay.Start

/-!
# What the senders do

One equation for each function that hands a frame to an adapter: the world it
leaves, written with `World.sendWifi`, `World.sendZerotier` and `World.tick`.
Callers use these and do not unfold the senders.
-/

namespace Grid0Relay

open Lib Lib.Exec Lib.Slots

/-! ## Effects -/

namespace World

/-- A frame counted and handed to the Wi-Fi adapter. -/
def sendWifi (w : World) (frame : Bytes) : World :=
  { w with
    lp := { w.lp with wifiTx := w.lp.wifiTx + 1 }
    asked := w.asked + 1
    sent := w.sent ++ [⟨.wifi, frame⟩] }

/-- A frame counted and handed to the ZeroTier adapter. -/
def sendZerotier (w : World) (frame : Bytes) : World :=
  { w with
    lp := { w.lp with zerotierTx := w.lp.zerotierTx + 1 }
    asked := w.asked + 1
    sent := w.sent ++ [⟨.zerotier, frame⟩] }

/-- A frame counted by `send_payloads`. -/
def upload (w : World) (len : Nat) : World :=
  { w with
    lp := { w.lp with
      packetCtx := { w.lp.packetCtx with
        uploadPacket := w.lp.packetCtx.uploadPacket + 1
        uploadByte := w.lp.packetCtx.uploadByte + UInt64.ofNat len } } }

/-- A packet numbered by `send_ipv4_ex`. -/
def identified (w : World) : World :=
  { w with
    lp := { w.lp with
      packetCtx := { w.lp.packetCtx with
        identification := w.lp.packetCtx.identification + 1 } } }

/-- What `arp_set` leaves. A full table stays as it is. -/
def learnArp (env : Env) (self : Ctx) (mac : Mac) (ip : Ip4) (w : World) : World :=
  let list := w.lp.arpList self
  { w with
    lp := w.lp.setArpList self
      ((list.set mac ip (env.clock w.readings) (w.lp.arpTtl self)).getD list)
    readings := w.readings + 1
    time := env.clock w.readings }

/-- One reading of the clock. -/
def tick (env : Env) (w : World) : World :=
  { w with readings := w.readings + 1, time := env.clock w.readings }

end World

/-! ## The clock -/

/-- The clock does not run backwards from here on. -/
structure Forward (env : Env) (w : World) : Prop where
  start : w.time ≤ env.clock w.readings
  mono : ∀ n, w.readings ≤ n → env.clock n ≤ env.clock (n + 1)

theorem Forward.tick {env : Env} {w : World} (h : Forward env w) : Forward env (w.tick env) :=
  ⟨h.mono _ (Nat.le_refl _), fun n hn => h.mono n (Nat.le_of_succ_le hn)⟩

/-! ## Lengths -/

@[simp] theorem length_etherHeader (dst src : Mac) (type : Nat) :
    (etherHeader dst src type).length = 14 := by
  simp [etherHeader]

@[simp] theorem length_arpBody (opcode : Nat) (senderMac : Mac) (senderIp : Ip4)
    (targetMac : Mac) (targetIp : Ip4) :
    (arpBody opcode senderMac senderIp targetMac targetIp).length = 28 := by
  simp [arpBody]

@[simp] theorem length_ipv4Header (totalLen : Nat) (id : UInt16) (protocol : UInt8)
    (src dst : Ip4) : (ipv4Header totalLen id protocol src dst).length = 20 := by
  rw [ipv4Header, Bytes.length_put]
  all_goals simp

/-! ## Header fields -/

section Header

variable (dst src : Mac) (type : Nat) (body : Bytes)

theorem etherDst_etherHeader : Frame.etherDst (etherHeader dst src type ++ body) = dst := by
  apply Vector.ext
  intro i hi
  have hbyte : Bytes.byte (etherHeader dst src type ++ body) i = dst[i] := by
    rw [etherHeader, List.append_assoc, List.append_assoc,
      Bytes.byte_append_left (by simpa using hi), Bytes.byte_toList dst hi]
  simpa [Frame.etherDst, Bytes.vecAt] using hbyte

theorem etherSrc_etherHeader : Frame.etherSrc (etherHeader dst src type ++ body) = src := by
  apply Vector.ext
  intro i hi
  have hbyte : Bytes.byte (etherHeader dst src type ++ body) (6 + i) = src[i] := by
    rw [etherHeader, List.append_assoc, List.append_assoc,
      Bytes.byte_append_right (by simp), Bytes.byte_append_left (by simp; omega)]
    simp only [Vector.length_toList, Nat.add_sub_cancel_left]
    exact Bytes.byte_toList src hi
  simpa [Frame.etherSrc, Bytes.vecAt] using hbyte

theorem etherType_etherHeader (h : type < 65536) :
    Frame.etherType (etherHeader dst src type ++ body) = type := by
  have hlow : (UInt8.ofNat type).toNat = type % 256 := by simp
  have hhigh : (UInt8.ofNat (type / 256)).toNat = type / 256 :=
    Bytes.toNat_ofNat_byte (by omega)
  have h12 : Bytes.byte (etherHeader dst src type ++ body) 12 = UInt8.ofNat (type / 256) := by
    rw [etherHeader, List.append_assoc, Bytes.byte_append_right (by simp)]
    simp [Bytes.byte, Bytes.bytes16]
  have h13 : Bytes.byte (etherHeader dst src type ++ body) 13 = UInt8.ofNat type := by
    rw [etherHeader, List.append_assoc, Bytes.byte_append_right (by simp)]
    simp [Bytes.byte, Bytes.bytes16]
  rw [Frame.etherType, Bytes.net16, h12, h13, hlow, hhigh]
  omega

theorem ipSrc_etherHeader :
    Frame.ipSrc (etherHeader dst src type ++ body) = body.vecAt 4 12 := by
  rw [Frame.ipSrc, Bytes.vecAt_append_right (by simp [etherHeader])]
  simp [etherHeader]

theorem ipDst_etherHeader :
    Frame.ipDst (etherHeader dst src type ++ body) = body.vecAt 4 16 := by
  rw [Frame.ipDst, Bytes.vecAt_append_right (by simp [etherHeader])]
  simp [etherHeader]

end Header

theorem totalLen_ipv4Header {totalLen : Nat} (h : totalLen < 65536) (id : UInt16)
    (protocol : UInt8) (src dst : Ip4) :
    (ipv4Header totalLen id protocol src dst).net16 2 = totalLen := by
  rw [ipv4Header, Bytes.net16_put_outside (by simp) (by omega)]
  exact (Bytes.net16_bytes16 totalLen).trans (Nat.mod_eq_of_lt h)

/-! ## Diagnostics only read -/

theorem diagnosticLogIpv4_eq (packet : Bytes) (h : 14 + 20 ≤ packet.length) :
    diagnosticLogIpv4 packet packet.length = pure () := by
  simp (disch := omega) only [diagnosticLogIpv4, readByte_ok, readNet16_ok, readIp4_ok,
    readMac_ok, readRange_ok, pure_bind, ite_self]

/-- Every read of `diagnostic_log_frame` is inside the frame. -/
@[simp] theorem diagnosticLogFrame_eq (env : Env) (packet : Bytes) :
    diagnosticLogFrame env packet = pure () := by
  simp (disch := omega) only [diagnosticLogFrame, diagnosticLogFrameLen, diagnosticLogIpv4_eq,
    readNet16_ok, readMac_ok, readIp4_ok, pure_bind, ite_self]

/-- So are the bytes `pcap_dump` copies. -/
theorem captureFrame_eq (capturing : Bool) (packet : Bytes) :
    captureFrame capturing packet packet.length = pure () := by
  simp (disch := omega) only [captureFrame, readRange_ok, pure_bind, ite_self]

/-! ## Wi-Fi -/

theorem timeNull_eq (env : Env) (w : World) :
    timeNull env w = .ok (env.clock w.readings) (w.tick env) := rfl

theorem lanPlaySendPacket_eq (env : Env) (data : Bytes) (w : World) :
    lanPlaySendPacket env data w = .ok (env.sendpacket w.asked) (w.sendWifi data) := by
  simp only [lanPlaySendPacket, diagnosticLogFrame_eq, pure_bind]
  rfl

theorem slice_whole (b : Bytes) : b.slice 0 b.length = b := by
  simp [Bytes.slice]

theorem lanPlaySendWifiIpv4_eq (env : Env) (dstMac : Mac) (ip : Bytes) (w : World)
    (hlen : 20 ≤ ip.length ∧ ip.length ≤ etherMtu) :
    lanPlaySendWifiIpv4 env dstMac (Payload.whole ip) w =
      .ok (env.sendpacket w.asked)
        (w.sendWifi (etherHeader dstMac w.lp.wifiMac etherTypeIpv4 ++ ip)) := by
  rw [lanPlaySendWifiIpv4, if_neg (by simp only [Payload.whole]; omega)]
  simp only [Payload.whole, copyRange_ok hlen.2 (by omega : 0 + ip.length ≤ ip.length), pure_bind,
    bind_apply, getLp_apply, lanPlaySendPacket_eq, slice_whole]

/-- A part whose bytes are all in its buffer. -/
def Payload.Inside (part : Payload) : Prop :=
  part.len = 0 ∨ part.off + part.len ≤ part.src.length
deriving Decidable

def Payload.bytes (part : Payload) : Bytes := part.src.slice part.off part.len

theorem Payload.Inside.length_bytes {part : Payload} (h : part.Inside) :
    part.bytes.length = part.len := by
  rw [Payload.bytes, Bytes.length_slice]
  rcases h with h | h <;> omega

@[simp] theorem Payload.inside_whole (b : Bytes) : (Payload.whole b).Inside :=
  Or.inr (Nat.le_of_eq (Nat.zero_add _))

@[simp] theorem Payload.bytes_whole (b : Bytes) : (Payload.whole b).bytes = b := slice_whole b

theorem copyPart_ok {part : Payload} {cap : Nat} (inside : part.Inside) (hcap : part.len ≤ cap) :
    copyRange cap part.src part.off part.len = pure part.bytes := by
  rw [copyRange, if_neg (by omega), readRange]
  exact if_pos inside

theorem copyPart_outside {part : Payload} {cap : Nat} (outside : ¬ part.Inside)
    (hcap : part.len ≤ cap) :
    copyRange cap part.src part.off part.len = throw .readBounds := by
  rw [copyRange, if_neg (by omega), readRange]
  exact if_neg outside

/-- Parts that fit are concatenated behind what the buffer already holds. -/
theorem gatherPayloads_ok (buf : Bytes) (parts : List Payload)
    (inside : ∀ part ∈ parts, part.Inside)
    (fits : buf.length + (parts.map Payload.len).sum < bufferSize) :
    gatherPayloads buf parts = pure (buf ++ parts.flatMap Payload.bytes) := by
  induction parts generalizing buf with
  | nil => simp [gatherPayloads]
  | cons part rest ih =>
    have hpart : part.Inside := inside part (by simp)
    have hlen := hpart.length_bytes
    simp only [List.map_cons, List.sum_cons, bufferSize] at fits
    rw [gatherPayloads, if_neg (by simp only [bufferSize]; omega),
      copyPart_ok hpart (by simp only [bufferSize]; omega), pure_bind,
      ih (buf ++ part.bytes) (fun p hp => inside p (by simp [hp]))
        (by simp only [List.length_append, bufferSize]; omega)]
    simp

theorem length_flatMap_bytes {parts : List Payload} (inside : ∀ part ∈ parts, part.Inside) :
    (parts.flatMap Payload.bytes).length = (parts.map Payload.len).sum := by
  rw [List.length_flatMap]
  congr 1
  exact List.map_congr_left fun part hp => (inside part hp).length_bytes

/-- `send_ether` with parts that fit. -/
theorem sendEther_ok (env : Env) (dst : Mac) (type : Nat) (parts : List Payload) (w : World)
    (inside : ∀ part ∈ parts, part.Inside)
    (fits : 14 + (parts.map Payload.len).sum < bufferSize) :
    sendEther env dst type parts w =
      .ok (env.sendpacket w.asked) ((w.upload (14 + (parts.map Payload.len).sum)).sendWifi
        (etherHeader dst w.lp.packetCtx.mac type ++ parts.flatMap Payload.bytes)) := by
  have hlen := length_flatMap_bytes inside
  have hall : ∀ part ∈ Payload.whole (etherHeader dst w.lp.packetCtx.mac type) :: parts,
      part.Inside := by
    intro part hp
    rcases List.mem_cons.mp hp with rfl | hp
    · exact Payload.inside_whole _
    · exact inside part hp
  simp only [sendEther, sendEtherEx, sendPayloads, bind_apply, getLp_apply]
  rw [gatherPayloads_ok _ _ hall (by simpa [Payload.whole] using fits)]
  simp only [pure_apply, modifyPacketCtx_apply, lanPlaySendPacket_eq, List.flatMap_cons,
    Payload.bytes_whole, List.nil_append, List.length_append, length_etherHeader, hlen]
  rfl

/-- Parts that do not fit reach the assertion. -/
theorem gatherPayloads_full (buf : Bytes) (parts : List Payload)
    (inside : ∀ part ∈ parts, part.Inside) (room : buf.length < bufferSize)
    (full : bufferSize ≤ buf.length + (parts.map Payload.len).sum) :
    gatherPayloads buf parts = throw .assertion := by
  induction parts generalizing buf with
  | nil => exact absurd full (by simpa using room)
  | cons part rest ih =>
    have hpart : part.Inside := inside part (by simp)
    have hlen := hpart.length_bytes
    simp only [List.map_cons, List.sum_cons, bufferSize] at full room
    rw [gatherPayloads]
    by_cases hfits : buf.length + part.len ≥ bufferSize
    · rw [if_pos hfits]
    · simp only [bufferSize] at hfits
      rw [if_neg (by simpa [bufferSize] using hfits),
        copyPart_ok hpart (by simp only [bufferSize]; omega), pure_bind]
      refine ih (buf ++ part.bytes) (fun p hp => inside p (by simp [hp])) ?_ ?_
      · simp only [List.length_append, bufferSize]
        omega
      · simp only [List.length_append, bufferSize]
        omega

theorem sendEther_full (env : Env) (dst : Mac) (type : Nat) (parts : List Payload) (w : World)
    (inside : ∀ part ∈ parts, part.Inside)
    (full : bufferSize ≤ 14 + (parts.map Payload.len).sum) :
    sendEther env dst type parts w = .error .assertion w := by
  have hall : ∀ part ∈ Payload.whole (etherHeader dst w.lp.packetCtx.mac type) :: parts,
      part.Inside := by
    intro part hp
    rcases List.mem_cons.mp hp with rfl | hp
    · exact Payload.inside_whole _
    · exact inside part hp
  simp only [sendEther, sendEtherEx, sendPayloads, bind_apply, getLp_apply]
  rw [gatherPayloads_full _ _ hall (by decide) (by simpa [Payload.whole] using full), throw_apply]

/-- `send_ether` with one part: the buffer check comes first, then the read. -/
theorem sendEther_one (env : Env) (dst : Mac) (type : Nat) (part : Payload) (w : World) :
    sendEther env dst type [part] w =
      if 14 + part.len ≥ bufferSize then .error .assertion w
      else if part.Inside then
        .ok (env.sendpacket w.asked) ((w.upload (14 + part.len)).sendWifi
          (etherHeader dst w.lp.packetCtx.mac type ++ part.bytes))
      else .error .readBounds w := by
  have second : gatherPayloads [] [Payload.whole (etherHeader dst w.lp.packetCtx.mac type), part] =
      gatherPayloads (etherHeader dst w.lp.packetCtx.mac type) [part] := by
    rw [gatherPayloads, if_neg (by simp [Payload.whole]),
      copyPart_ok (Payload.inside_whole _) (by simp [Payload.whole]), pure_bind]
    simp
  by_cases hfit : 14 + part.len ≥ bufferSize
  · rw [if_pos hfit]
    have full : gatherPayloads (etherHeader dst w.lp.packetCtx.mac type) [part] =
        throw .assertion := by
      rw [gatherPayloads, length_etherHeader, if_pos hfit]
    simp only [sendEther, sendEtherEx, sendPayloads, bind_apply, getLp_apply, second, full,
      throw_apply]
  · rw [if_neg hfit]
    by_cases hin : part.Inside
    · rw [if_pos hin]
      simpa using sendEther_ok env dst type [part] w (by simpa using hin) (by simpa using hfit)
    · rw [if_neg hin]
      simp only [bufferSize] at hfit
      have outside : gatherPayloads (etherHeader dst w.lp.packetCtx.mac type) [part] =
          throw .readBounds := by
        rw [gatherPayloads, length_etherHeader, bufferSize, if_neg hfit,
          copyPart_outside hin (by omega)]
        rfl
      simp only [sendEther, sendEtherEx, sendPayloads, bind_apply, getLp_apply, second, outside,
        throw_apply]

/-! ## ARP -/

/-- The request `send_arp_request` sends from the local context. -/
def arpRequestFrame (lp : LanPlay) (ip : Ip4) : Bytes :=
  etherHeader broadcastMac lp.packetCtx.mac etherTypeArp ++
    arpBody arpOpcodeRequest lp.packetCtx.mac lp.packetCtx.ip noneMac ip

theorem sendArpEx_eq (env : Env) (dstMac : Mac) (opcode : Nat) (senderMac : Mac)
    (senderIp : Ip4) (targetMac : Mac) (targetIp : Ip4) (w : World) :
    sendArpEx env dstMac opcode senderMac senderIp targetMac targetIp w =
      .ok (env.sendpacket w.asked) ((w.upload 42).sendWifi
        (etherHeader dstMac w.lp.packetCtx.mac etherTypeArp ++
          arpBody opcode senderMac senderIp targetMac targetIp)) := by
  rw [sendArpEx, sendEther_one, if_neg (by simp [Payload.whole]),
    if_pos (Payload.inside_whole _), Payload.bytes_whole]
  simp [Payload.whole]

theorem arpHasIp_eq (env : Env) (self : Ctx) (ip : Ip4) (w : World) :
    arpHasIp env self ip w =
      .ok ((w.lp.arpList self).lookup ip (env.clock w.readings)).isSome (w.tick env) := rfl

theorem arpGetMacByIp_known {env : Env} {self : Ctx} {ip : Ip4} {w : World} {item : ArpItem}
    (h : (w.lp.arpList self).lookup ip (env.clock w.readings) = some item) :
    arpGetMacByIp env self ip w = .ok (some item.mac) (w.tick env) := by
  have h' : ((w.tick env).lp.arpList self).lookup ip (env.clock w.readings) = some item := h
  simp only [arpGetMacByIp, bind_apply, timeNull_eq, getLp_apply, h', pure_apply]

/-- A miss in the local cache sends a request. -/
theorem arpGetMacByIp_unknown {env : Env} {ip : Ip4} {w : World}
    (h : w.lp.packetCtx.arpList.lookup ip (env.clock w.readings) = none) :
    arpGetMacByIp env .packetCtx ip w =
      .ok none (((w.tick env).upload 42).sendWifi (arpRequestFrame w.lp ip)) := by
  have h' : ((w.tick env).lp.arpList .packetCtx).lookup ip (env.clock w.readings) = none := h
  simp only [arpGetMacByIp, sendArpRequest, bind_apply, timeNull_eq, getLp_apply, h',
    sendArpEx_eq, pure_apply]
  rfl

/-- A miss in the neighbour cache reads the null MAC of its context. -/
theorem arpGetMacByIp_null {env : Env} {ip : Ip4} {w : World}
    (h : w.lp.zerotierNeighbors.arpList.lookup ip (env.clock w.readings) = none) :
    arpGetMacByIp env .zerotierNeighbors ip w = .error .nullPointer (w.tick env) := by
  have h' : ((w.tick env).lp.arpList .zerotierNeighbors).lookup ip (env.clock w.readings) =
    none := h
  simp only [arpGetMacByIp, sendArpRequest, bind_apply, timeNull_eq, getLp_apply, h', throw_apply]

section SendIpv4Ex

variable {env : Env} {src dst : Ip4} {protocol : UInt8} {payload : List Payload} {w : World}

theorem sendIpv4Ex_known {item : ArpItem}
    (h : w.lp.packetCtx.arpList.lookup dst (env.clock w.readings) = some item) :
    sendIpv4Ex env src dst protocol payload w =
      sendEther env item.mac etherTypeIpv4
        (Payload.whole (ipv4Header ((20 + payloadTotalLen payload) % 65536)
          w.lp.packetCtx.identification protocol src dst) :: payload) (w.identified.tick env) := by
  have h' : (w.identified.lp.arpList .packetCtx).lookup dst (env.clock w.identified.readings) =
    some item := h
  simp only [sendIpv4Ex, bind_apply, getLp_apply, modifyPacketCtx_apply]
  rw [← World.identified, arpGetMacByIp_known h']

/-- The packet is dropped for a request. -/
theorem sendIpv4Ex_unknown
    (h : w.lp.packetCtx.arpList.lookup dst (env.clock w.readings) = none) :
    sendIpv4Ex env src dst protocol payload w =
      .ok 0 (((w.identified.tick env).upload 42).sendWifi (arpRequestFrame w.lp dst)) := by
  have h' : w.identified.lp.packetCtx.arpList.lookup dst (env.clock w.identified.readings) =
    none := h
  simp only [sendIpv4Ex, bind_apply, getLp_apply, modifyPacketCtx_apply]
  rw [← World.identified, arpGetMacByIp_unknown h']
  rfl

theorem sendIpv4Ex_ok {item : ArpItem}
    (h : w.lp.packetCtx.arpList.lookup dst (env.clock w.readings) = some item)
    (inside : ∀ part ∈ payload, part.Inside)
    (fits : 34 + (payload.map Payload.len).sum < bufferSize) :
    ∃ ret w', sendIpv4Ex env src dst protocol payload w = .ok ret w' ∧
      w'.sent = w.sent ++ [⟨.wifi, etherHeader item.mac w.lp.packetCtx.mac etherTypeIpv4 ++
        (ipv4Header ((20 + payloadTotalLen payload) % 65536) w.lp.packetCtx.identification
          protocol src dst ++ payload.flatMap Payload.bytes)⟩] := by
  rw [sendIpv4Ex_known h, sendEther_ok env _ _ _ _
    (List.forall_mem_cons.mpr ⟨Payload.inside_whole _, inside⟩) ?_]
  · refine ⟨_, _, rfl, ?_⟩
    rw [List.flatMap_cons, Payload.bytes_whole]
    rfl
  · simp only [List.map_cons, List.sum_cons, Payload.whole, length_ipv4Header]
    omega

theorem sendIpv4Ex_full {item : ArpItem}
    (h : w.lp.packetCtx.arpList.lookup dst (env.clock w.readings) = some item)
    (inside : ∀ part ∈ payload, part.Inside)
    (full : bufferSize ≤ 34 + (payload.map Payload.len).sum) :
    ∃ w', sendIpv4Ex env src dst protocol payload w = .error .assertion w' ∧
      w'.sent = w.sent := by
  rw [sendIpv4Ex_known h, sendEther_full env _ _ _ _
    (List.forall_mem_cons.mpr ⟨Payload.inside_whole _, inside⟩) ?_]
  · exact ⟨_, rfl, rfl⟩
  · simp only [List.map_cons, List.sum_cons, Payload.whole, length_ipv4Header]
    omega

theorem sendIpv4_eq : sendIpv4 env dst protocol payload w =
    sendIpv4Ex env w.lp.packetCtx.ip dst protocol payload w := by
  simp only [sendIpv4, bind_apply, getLp_apply]

end SendIpv4Ex

theorem arpSet_eq (env : Env) (self : Ctx) (mac : Mac) (ip : Ip4) (w : World) :
    arpSet env self mac ip w =
      .ok ((w.lp.arpList self).set mac ip (env.clock w.readings) (w.lp.arpTtl self)).isSome
        (w.learnArp env self mac ip) := by
  have hset : ∀ o, ((w.tick env).lp.arpList self).set mac ip (env.clock w.readings)
      ((w.tick env).lp.arpTtl self) = o →
      (w.lp.arpList self).set mac ip (env.clock w.readings) (w.lp.arpTtl self) = o :=
    fun _ h => h
  simp only [arpSet, bind_apply, timeNull_eq, getLp_apply]
  cases h : ((w.tick env).lp.arpList self).set mac ip (env.clock w.readings)
      ((w.tick env).lp.arpTtl self) with
  | some table =>
    simp only [hset _ h, bind_apply, modifyLp_apply, pure_apply, World.learnArp,
      Option.getD_some, Option.isSome_some]
    rfl
  | none =>
    cases self with
    | packetCtx =>
      simp only [pure_apply, World.learnArp, hset _ h, Option.getD_none, Option.isSome_none]
      rfl
    | zerotierNeighbors =>
      simp only [pure_apply, World.learnArp, hset _ h, Option.getD_none, Option.isSome_none]
      rfl

/-- The cache has a slot for the address. -/
def ArpTable.Takes (t : ArpTable) (ip : Ip4) (now : Nat) : Prop :=
  ∃ item ∈ t.items, ArpTable.reusable ip now item = true

theorem ArpTable.mem_set {t : ArpTable} {ip : Ip4} {now : Nat} (h : t.Takes ip now) (mac : Mac)
    (ttl : Nat) : ⟨ip, mac, now + ttl⟩ ∈ ((t.set mac ip now ttl).getD t).items := by
  unfold ArpTable.set
  split
  · rename_i items hset
    exact mem_of_replaceFirst hset
  · rename_i hset
    obtain ⟨item, hitem, hreuse⟩ := h
    exact absurd (replaceFirst_none.mp hset item hitem) (by simp [hreuse])

/-- A stored entry is found at once. -/
theorem ArpTable.lookup_set {t : ArpTable} {ip : Ip4} {now ttl : Nat} (h : t.Takes ip now)
    (httl : 0 < ttl) (mac : Mac) : (((t.set mac ip now ttl).getD t).lookup ip now).isSome := by
  refine List.find?_isSome.mpr ⟨_, ArpTable.mem_set h mac ttl, ?_⟩
  simp [httl]

/-- Storing an address does not use up its slot. -/
theorem ArpTable.Takes.set {t : ArpTable} {ip : Ip4} {now : Nat} (h : t.Takes ip now) (mac : Mac)
    (now' ttl : Nat) : ((t.set mac ip now' ttl).getD t).Takes ip now := by
  by_cases hroom : t.Takes ip now'
  · exact ⟨_, ArpTable.mem_set hroom mac ttl, by simp [ArpTable.reusable]⟩
  · have hnone : t.set mac ip now' ttl = none := by
      unfold ArpTable.set
      split
      · rename_i items hset
        obtain ⟨pre, a, post, hitems, -, hreuse, -⟩ := replaceFirst_some hset
        exact absurd ⟨a, by rw [hitems]; simp, hreuse⟩ hroom
      · rfl
    rw [hnone]
    exact h

/-! ## ZeroTier -/

/-- The IPv4 frame the ZeroTier senders build. -/
def zerotierFrame (lp : LanPlay) (dst : Mac) (body : Bytes) : Bytes :=
  etherHeader dst lp.zerotierMac etherTypeIpv4 ++ body

/-- The ARP request of `lan_play_send_zerotier_arp`. -/
def zerotierArpFrame (lp : LanPlay) (senderIp targetIp : Ip4) : Bytes :=
  etherHeader broadcastMac lp.zerotierMac etherTypeArp ++
    arpBody arpOpcodeRequest lp.zerotierMac senderIp noneMac targetIp

theorem zerotierTransmit_eq (env : Env) (frame : Bytes) (w : World) :
    zerotierTransmit env frame w = .ok (env.sendpacket w.asked) (w.sendZerotier frame) := by
  simp only [zerotierTransmit, diagnosticLogFrame_eq, pure_bind]
  rfl

theorem lanPlaySendZerotierArp_eq (env : Env) (senderIp targetIp : Ip4) (w : World) :
    lanPlaySendZerotierArp env senderIp targetIp w =
      .ok (env.sendpacket w.asked) (w.sendZerotier (zerotierArpFrame w.lp senderIp targetIp)) := by
  simp only [lanPlaySendZerotierArp, bind_apply, getLp_apply, zerotierTransmit_eq]
  rfl

/-- The lengths the ZeroTier IPv4 senders accept. -/
def Payload.Sendable (packet : Payload) : Prop := 20 ≤ packet.len ∧ packet.len ≤ etherMtu
deriving Decidable

theorem Payload.Sendable.guard {packet : Payload} (h : packet.Sendable) :
    ¬ (packet.len < 20 ∨ packet.len > etherMtu) := by
  obtain ⟨lo, hi⟩ := h
  omega

theorem lanPlaySendZerotierIpv4Broadcast_eq (env : Env) (packet : Payload) (w : World) :
    lanPlaySendZerotierIpv4Broadcast env packet w =
      if packet.Sendable then
        if packet.Inside then
          .ok (env.sendpacket w.asked)
            (w.sendZerotier (zerotierFrame w.lp broadcastMac packet.bytes))
        else .error .readBounds w
      else .ok (-1) w := by
  by_cases hlen : packet.Sendable
  · rw [if_pos hlen, lanPlaySendZerotierIpv4Broadcast, if_neg hlen.guard]
    by_cases hin : packet.Inside
    · rw [if_pos hin, copyPart_ok hin hlen.2]
      simp only [bind_apply, getLp_apply, pure_apply, zerotierTransmit_eq, zerotierFrame]
    · rw [if_neg hin, copyPart_outside hin hlen.2]
      simp only [bind_apply, getLp_apply, throw_apply]
  · have hguard : packet.len < 20 ∨ packet.len > etherMtu := by
      unfold Payload.Sendable at hlen
      omega
    rw [if_neg hlen, lanPlaySendZerotierIpv4Broadcast, if_pos hguard, pure_apply]

/-- The neighbour entry a lookup at the `n`-th clock reading finds. -/
def neighborAt (env : Env) (w : World) (n : Nat) (ip : Ip4) : Option ArpItem :=
  w.lp.zerotierNeighbors.arpList.lookup ip (env.clock n)

section SendZerotierIpv4

variable {env : Env} {dst : Ip4} {packet : Payload} {w : World}

theorem lanPlaySendZerotierIpv4_refused (hlen : ¬ packet.Sendable) :
    lanPlaySendZerotierIpv4 env dst packet w = .ok (-1) w := by
  have hguard : packet.len < 20 ∨ packet.len > etherMtu := by
    unfold Payload.Sendable at hlen
    omega
  rw [lanPlaySendZerotierIpv4, if_pos hguard, pure_apply]

/-- An unknown peer: a request, then the packet as a broadcast. -/
theorem lanPlaySendZerotierIpv4_unknown (hlen : packet.Sendable)
    (h : neighborAt env w w.readings dst = none) :
    lanPlaySendZerotierIpv4 env dst packet w =
      lanPlaySendZerotierIpv4Broadcast env packet
        ((w.tick env).sendZerotier (zerotierArpFrame w.lp w.lp.zerotierIp dst)) := by
  have h' : (w.lp.arpList .zerotierNeighbors).lookup dst (env.clock w.readings) = none := h
  rw [lanPlaySendZerotierIpv4, if_neg hlen.guard]
  simp only [bind_apply, arpHasIp_eq, h', Option.isSome_none, Bool.false_eq_true, if_false,
    pure_apply, getLp_apply, lanPlaySendZerotierArp_eq]
  rfl

/-- A known peer that is still known at the second lookup. -/
theorem lanPlaySendZerotierIpv4_known {first second : ArpItem} (hlen : packet.Sendable)
    (h : neighborAt env w w.readings dst = some first)
    (h' : neighborAt env w (w.readings + 1) dst = some second) :
    lanPlaySendZerotierIpv4 env dst packet w =
      if packet.Inside then
        .ok (env.sendpacket w.asked) (((w.tick env).tick env).sendZerotier
          (zerotierFrame w.lp second.mac packet.bytes))
      else .error .readBounds ((w.tick env).tick env) := by
  have hfirst : (w.lp.arpList .zerotierNeighbors).lookup dst (env.clock w.readings) =
    some first := h
  have hsecond : ((w.tick env).lp.arpList .zerotierNeighbors).lookup dst
    (env.clock (w.tick env).readings) = some second := h'
  rw [lanPlaySendZerotierIpv4, if_neg hlen.guard]
  simp only [bind_apply, arpHasIp_eq, hfirst, Option.isSome_some, if_true,
    arpGetMacByIp_known hsecond, getLp_apply]
  by_cases hin : packet.Inside
  · rw [if_pos hin, copyPart_ok hin hlen.2]
    simp only [pure_apply, zerotierTransmit_eq]
    rfl
  · rw [if_neg hin, copyPart_outside hin hlen.2]
    rfl

/-- The entry expires between the two lookups: nothing is sent and the program
reads a null pointer. -/
theorem lanPlaySendZerotierIpv4_expired {first : ArpItem} (hlen : packet.Sendable)
    (h : neighborAt env w w.readings dst = some first)
    (h' : neighborAt env w (w.readings + 1) dst = none) :
    lanPlaySendZerotierIpv4 env dst packet w =
      .error .nullPointer ((w.tick env).tick env) := by
  have hfirst : (w.lp.arpList .zerotierNeighbors).lookup dst (env.clock w.readings) =
    some first := h
  have hsecond : (w.tick env).lp.zerotierNeighbors.arpList.lookup dst
    (env.clock (w.tick env).readings) = none := h'
  rw [lanPlaySendZerotierIpv4, if_neg hlen.guard]
  simp only [bind_apply, arpHasIp_eq, hfirst, Option.isSome_some, if_true,
    arpGetMacByIp_null hsecond]

end SendZerotierIpv4

end Grid0Relay
