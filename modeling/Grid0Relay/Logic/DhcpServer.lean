import Grid0Relay.Logic.DhcpPick
import Grid0Relay.Logic.Reach

/-!
# What the DHCP server does with a message

`Handled` lists everything a message can lead to: the table afterwards, the reply sent
and the time read last. The theorems about leases use it and never unfold the server.
-/

namespace Grid0Relay

open Lib Lib.Exec Lib.Slots

/-! ## Replies -/

/-- The fields of a DHCP reply a client acts on. -/
structure Reply where
  msgType : UInt8
  yiaddr : Ip4
  chaddr : Mac
deriving DecidableEq, Repr

/-- The reply in an Ethernet frame with plain IPv4 and UDP headers. -/
def Frame.reply (f : Bytes) : Reply where
  msgType := f.byte (42 + 242)
  yiaddr := f.vecAt 4 (42 + 16)
  chaddr := f.vecAt 6 (42 + 28)

section Message

variable (lp : LanPlay) (id : UInt16) (dstMac : Mac) (req : DhcpRequest) (msgType : UInt8)
  (yiaddr : Ip4)

theorem length_dhcpReplyMessage :
    (dhcpReplyMessage lp dstMac req msgType yiaddr).length = 300 := by
  have hoptions : (dhcpReplyOptions lp msgType).length ≤ 40 := by
    by_cases hnak : msgType = dhcpMsgNak
    · simp [dhcpReplyOptions, dhcpOpt, hnak]
    · simp [dhcpReplyOptions, dhcpOpt, hnak]
  simp only [dhcpReplyMessage, List.length_append, List.length_replicate, List.length_cons,
    List.length_nil, Bytes.length_bytes16, Vector.length_toList]
  omega

/-- The packet with the two checksums still zero. -/
def dhcpReplyBlank : Bytes :=
  [0x45, 0] ++ Bytes.bytes16 328 ++ Bytes.bytes16 id.toNat ++
    [0, 0, 64, ipv4ProtocolUdp, 0, 0] ++ lp.packetCtx.ip.toList ++ [255, 255, 255, 255] ++
    (Bytes.bytes16 67 ++ Bytes.bytes16 68 ++ Bytes.bytes16 308 ++ [0, 0]) ++
    dhcpReplyMessage lp dstMac req msgType yiaddr

theorem length_dhcpReplyBlank :
    (dhcpReplyBlank lp id dstMac req msgType yiaddr).length = 328 := by
  simp [dhcpReplyBlank, length_dhcpReplyMessage]

theorem dhcpReplyPacket_eq : ∃ header udp : Nat,
    dhcpReplyPacket lp id dstMac req msgType yiaddr =
      ((dhcpReplyBlank lp id dstMac req msgType yiaddr).put 10 (Bytes.bytes16 header)).put 26
        (Bytes.bytes16 udp) := ⟨_, _, rfl⟩

theorem length_dhcpReplyPacket :
    (dhcpReplyPacket lp id dstMac req msgType yiaddr).length = 328 := by
  obtain ⟨header, udp, heq⟩ := dhcpReplyPacket_eq lp id dstMac req msgType yiaddr
  have hlen := length_dhcpReplyBlank lp id dstMac req msgType yiaddr
  have hput : ((dhcpReplyBlank lp id dstMac req msgType yiaddr).put 10
      (Bytes.bytes16 header)).length = 328 := by
    rw [Bytes.length_put (by simp [hlen]), hlen]
  rw [heq, Bytes.length_put (by simp [hput]), hput]

/-- The checksums lie in the headers, so the message is in the packet as it was built. -/
theorem byte_dhcpReplyPacket (i : Nat) :
    (dhcpReplyPacket lp id dstMac req msgType yiaddr).byte (28 + i) =
      (dhcpReplyMessage lp dstMac req msgType yiaddr).byte i := by
  obtain ⟨header, udp, heq⟩ := dhcpReplyPacket_eq lp id dstMac req msgType yiaddr
  have hlen := length_dhcpReplyBlank lp id dstMac req msgType yiaddr
  have hput : ((dhcpReplyBlank lp id dstMac req msgType yiaddr).put 10
      (Bytes.bytes16 header)).length = 328 := by
    rw [Bytes.length_put (by simp [hlen]), hlen]
  rw [heq, Bytes.byte_put_outside (by simp [hput]) (Or.inr (by simp only [Bytes.length_bytes16]; omega)),
    Bytes.byte_put_outside (by simp [hlen]) (Or.inr (by simp only [Bytes.length_bytes16]; omega)),
    dhcpReplyBlank,
    Bytes.byte_append_right (by simp)]
  congr 1
  simp only [List.length_append, List.length_cons, List.length_nil, Bytes.length_bytes16,
    Vector.length_toList]
  omega

/-- The frame of a reply. -/
def replyFrame : Bytes :=
  etherHeader broadcastMac lp.wifiMac etherTypeIpv4 ++
    dhcpReplyPacket lp id dstMac req msgType yiaddr

theorem byte_replyFrame (i : Nat) :
    (replyFrame lp id dstMac req msgType yiaddr).byte (42 + i) =
      (dhcpReplyMessage lp dstMac req msgType yiaddr).byte i := by
  rw [replyFrame, Bytes.byte_append_right (by simp; omega), ← byte_dhcpReplyPacket lp id]
  congr 1
  simp
  omega

/-- The first bytes of a message, up to `yiaddr`. -/
def replyStart : Bytes :=
  [2, 1, 6, 0] ++ (Bytes.bytes16 (req.xid / 65536) ++ (Bytes.bytes16 req.xid ++ ([0, 0] ++
    (Bytes.bytes16 req.flags ++ [0, 0, 0, 0]))))

/-- The cut of a message at the fields `Frame.reply` reads. -/
theorem dhcpReplyMessage_eq : ∃ tail, dhcpReplyMessage lp dstMac req msgType yiaddr =
    replyStart req ++ (yiaddr.toList ++ (lp.packetCtx.ip.toList ++ ([0, 0, 0, 0] ++
      (dstMac.toList ++ (List.replicate 202 0 ++ (Bytes.bytes16 0x6382 ++ (Bytes.bytes16 0x5363 ++
        53 :: 1 :: msgType :: tail))))))) := by
  refine ⟨?_, ?_⟩
  rotate_left
  · simp only [dhcpReplyMessage, replyStart, dhcpReplyOptions, dhcpOpt, List.append_assoc]
    rfl

theorem reply_replyFrame :
    Frame.reply (replyFrame lp id dstMac req msgType yiaddr) = ⟨msgType, yiaddr, dstMac⟩ := by
  obtain ⟨tail, hmessage⟩ := dhcpReplyMessage_eq lp dstMac req msgType yiaddr
  have hfield : ∀ n i, Bytes.vecAt n (replyFrame lp id dstMac req msgType yiaddr) (42 + i) =
      Bytes.vecAt n (dhcpReplyMessage lp dstMac req msgType yiaddr) i := by
    intro n i
    rw [Bytes.vecAt_eq_iff]
    intro k _
    rw [Nat.add_assoc, byte_replyFrame]
  have htype : (dhcpReplyMessage lp dstMac req msgType yiaddr).byte 242 = msgType := by
    have hlen : (replyStart req ++ yiaddr.toList ++ lp.packetCtx.ip.toList ++ [0, 0, 0, 0] ++
        dstMac.toList ++ List.replicate 202 0 ++ Bytes.bytes16 0x6382 ++
        Bytes.bytes16 0x5363).length = 240 := by
      simp only [replyStart, List.length_append, List.length_replicate, List.length_cons,
        List.length_nil, Bytes.length_bytes16, Vector.length_toList]
    rw [hmessage]
    simp only [← List.append_assoc]
    rw [Bytes.byte_append_right (by rw [hlen]; decide), hlen]
    rfl
  have hyiaddr := Bytes.vecAt_append_field yiaddr (replyStart req) (lp.packetCtx.ip.toList ++
    ([0, 0, 0, 0] ++ (dstMac.toList ++ (List.replicate 202 0 ++ (Bytes.bytes16 0x6382 ++
      (Bytes.bytes16 0x5363 ++ 53 :: 1 :: msgType :: tail))))))
  have hchaddr := Bytes.vecAt_append_field dstMac
    (replyStart req ++ (yiaddr.toList ++ (lp.packetCtx.ip.toList ++ [0, 0, 0, 0])))
    (List.replicate 202 0 ++ (Bytes.bytes16 0x6382 ++ (Bytes.bytes16 0x5363 ++
      53 :: 1 :: msgType :: tail)))
  simp only [List.append_assoc] at hchaddr
  rw [← hmessage] at hyiaddr hchaddr
  rw [Frame.reply, byte_replyFrame, hfield, hfield, htype]
  exact congrArg₂ (Reply.mk msgType) hyiaddr (by simpa [replyStart] using hchaddr)

end Message

/-! ## Handling a message -/

/-- What of the world the theorems about leases look at. -/
structure DhcpView where
  leases : LeaseTable
  sent : List Injection
  readings : Nat
  time : Nat

def World.dhcpView (w : World) : DhcpView :=
  ⟨w.lp.dhcpState.leases, w.sent, w.readings, w.time⟩

theorem dhcpSendReply_eq (env : Env) (dstMac : Mac) (req : DhcpRequest) (msgType : UInt8)
    (yiaddr : Ip4) (w : World) :
    dhcpSendReply env dstMac req msgType yiaddr w = .ok (env.sendpacket w.asked)
      ({ w with dhcpIpId := w.dhcpIpId + 1 }.sendWifi
        (replyFrame w.lp (w.dhcpIpId + 1) dstMac req msgType yiaddr)) := by
  have hlen := length_dhcpReplyPacket w.lp (w.dhcpIpId + 1) dstMac req msgType yiaddr
  rw [dhcpSendReply, bind_ok (modify_apply _ _), bind_ok (get_apply _), lanPlayDhcpSend,
    lanPlaySendWifiIpv4_eq _ _ _ _ (by rw [hlen]; decide)]
  rfl

/-- A reply and the counter that follows it. -/
theorem replied (env : Env) (dstMac : Mac) (req : DhcpRequest) (msgType : UInt8) (yiaddr : Ip4)
    (w : World) (count : DhcpServerState → DhcpServerState)
    (hcount : ∀ st, (count st).leases = st.leases) :
    ∃ f, Frame.reply f = ⟨msgType, yiaddr, dstMac⟩ ∧
      (after ((dhcpSendReply env dstMac req msgType yiaddr >>= fun ret =>
        if ret = 0 then modifyDhcp count else pure ()) w)).dhcpView =
        ⟨w.lp.dhcpState.leases, w.sent ++ [⟨.wifi, f⟩], w.readings, w.time⟩ := by
  refine ⟨_, reply_replyFrame w.lp (w.dhcpIpId + 1) dstMac req msgType yiaddr, ?_⟩
  rw [bind_ok (dhcpSendReply_eq _ _ _ _ _ _), ite_run]
  split
  · simp only [modifyDhcp, modifyLp_apply, after_ok, World.dhcpView, hcount]
    rfl
  · rfl

/-- What a DISCOVER leads to. -/
inductive Discovered (env : Env) (mac : Mac) (w : World) : DhcpView → Prop
  | noAddress {w' : World} (picked : Picked env mac w none w') : Discovered env mac w w'.dhcpView
  | noSlot {ip : Ip4} {w' : World} (picked : Picked env mac w (some ip) w')
      (full : w.lp.dhcpState.leases.claim
        ⟨mac, ip, env.clock w'.readings + dhcpOfferTime, true, true⟩ = none) :
      Discovered env mac w (w'.tick env).dhcpView
  | offered {ip : Ip4} {w' : World} {t : LeaseTable} {f : Bytes}
      (picked : Picked env mac w (some ip) w')
      (claimed : w.lp.dhcpState.leases.claim
        ⟨mac, ip, env.clock w'.readings + dhcpOfferTime, true, true⟩ = some t)
      (reply : Frame.reply f = ⟨dhcpMsgOffer, ip, mac⟩) :
      Discovered env mac w
        ⟨t, w.sent ++ [⟨.wifi, f⟩], w'.readings + 1, env.clock w'.readings⟩

theorem dhcpClaim_none {env : Env} {mac : Mac} {ip : Ip4} {offered : Bool} {w : World}
    (h : w.lp.dhcpState.leases.claim ⟨mac, ip, env.clock w.readings +
      (if offered then dhcpOfferTime else dhcpLeaseTime), offered, true⟩ = none) :
    dhcpClaim env mac ip offered w = .ok false (w.tick env) := by
  have hlp : (w.tick env).lp = w.lp := rfl
  rw [dhcpClaim, bind_ok (timeNull_eq env w), bind_ok (getLp_apply _), hlp]
  rw [h]
  rfl

theorem dhcpClaim_some {env : Env} {mac : Mac} {ip : Ip4} {offered : Bool} {w : World}
    {t : LeaseTable} (h : w.lp.dhcpState.leases.claim ⟨mac, ip, env.clock w.readings +
      (if offered then dhcpOfferTime else dhcpLeaseTime), offered, true⟩ = some t) :
    ∃ w', dhcpClaim env mac ip offered w = .ok true w' ∧
      w'.dhcpView = ⟨t, w.sent, w.readings + 1, env.clock w.readings⟩ := by
  have hlp : (w.tick env).lp = w.lp := rfl
  rw [dhcpClaim, bind_ok (timeNull_eq env w), bind_ok (getLp_apply _), hlp]
  rw [h]
  exact ⟨_, rfl, rfl⟩

theorem discovered (env : Env) (mac : Mac) (req : DhcpRequest) (w : World) :
    Discovered env mac w (after (dhcpDiscover env mac req w)).dhcpView := by
  obtain ⟨r, w', hpick, hpicked⟩ := dhcpPickIp_picked env mac w
  rw [dhcpDiscover, bind_ok hpick]
  cases r with
  | none => exact .noAddress hpicked
  | some ip =>
    have hlp : w'.lp = w.lp := hpicked.waits.lp
    have hsent : w'.sent = w.sent := hpicked.waits.sent
    cases hclaim : w.lp.dhcpState.leases.claim
        ⟨mac, ip, env.clock w'.readings + dhcpOfferTime, true, true⟩ with
    | none =>
      dsimp only
      rw [bind_ok (dhcpClaim_none (by rw [hlp]; exact hclaim))]
      exact .noSlot hpicked hclaim
    | some t =>
      obtain ⟨w₁, hrun, hview⟩ : ∃ w₁, dhcpClaim env mac ip true w' = .ok true w₁ ∧
          w₁.dhcpView = ⟨t, w'.sent, w'.readings + 1, env.clock w'.readings⟩ :=
        dhcpClaim_some (by rw [hlp]; exact hclaim)
      obtain ⟨f, hreply, hafter⟩ := replied env mac req dhcpMsgOffer ip w₁
        (fun st => { st with offersSent := st.offersSent + 1 }) fun _ => rfl
      dsimp only
      rw [bind_ok hrun, if_pos rfl, hafter]
      have hfields := hview
      simp only [World.dhcpView, DhcpView.mk.injEq] at hfields
      obtain ⟨hleases, hsent₁, hreadings, htime⟩ := hfields
      rw [hleases, hsent₁, hreadings, htime, hsent]
      exact .offered hpicked hclaim hreply

/-- What a message leads to. -/
inductive Handled (env : Env) (mac : Mac) (req : DhcpRequest) (w : World) : DhcpView → Prop
  | silent {w' : World} (waits : Waits env w w') : Handled env mac req w w'.dhcpView
  | discovered {view : DhcpView} (nintendo : isNintendoMac mac)
      (discover : req.msgType = dhcpMsgDiscover) (discovered : Discovered env mac w view) :
      Handled env mac req w view
  | acked {l : DhcpLease} {t : LeaseTable} {f : Bytes} (nintendo : isNintendoMac mac)
      (own : ownLease w.lp mac (env.clock w.readings) = some l)
      (claimed : w.lp.dhcpState.leases.claim
        ⟨mac, l.ip, env.clock (w.readings + 1) + dhcpLeaseTime, false, true⟩ = some t)
      (reply : Frame.reply f = ⟨dhcpMsgAck, l.ip, mac⟩) :
      Handled env mac req w
        ⟨t, w.sent ++ [⟨.wifi, f⟩], w.readings + 2, env.clock (w.readings + 1)⟩
  | refused {f : Bytes} (reply : Frame.reply f = ⟨dhcpMsgNak, noneIp, mac⟩) :
      Handled env mac req w ⟨w.lp.dhcpState.leases, w.sent ++ [⟨.wifi, f⟩], w.readings + 1,
        env.clock w.readings⟩
  | released (release : req.msgType = dhcpMsgRelease) :
      Handled env mac req w ⟨w.lp.dhcpState.leases.release mac, w.sent, w.readings, w.time⟩

/-- The client has a slot, so its claim succeeds. -/
theorem LeaseTable.claim_own {t : LeaseTable} {x l : DhcpLease} (hl : l ∈ t.slots)
    (hused : l.used) (hmac : l.mac = x.mac) : ∃ t', t.claim x = some t' := by
  refine Option.ne_none_iff_exists'.mp fun hnone => ?_
  have hno := (LeaseTable.claim_none.mp hnone).1 l hl
  rw [(l.ownedBy_iff x.mac).mpr ⟨hused, hmac⟩] at hno
  cases hno

/-- The address a REQUEST asks for. -/
def DhcpRequest.want (req : DhcpRequest) : Ip4 :=
  if req.hasRequestedIp then req.requestedIp else req.ciaddr

/-- Whether a REQUEST asks for an address. -/
def DhcpRequest.hasWant (req : DhcpRequest) : Bool := req.hasRequestedIp || req.ciaddr != noneIp

/-- The unexpired lease of the client, if it is for the address it asks for. -/
def heldLease (lp : LanPlay) (mac : Mac) (now : Nat) (req : DhcpRequest) : Option DhcpLease :=
  (dhcpFindMac lp.dhcpState.leases mac).filter fun lease =>
    decide (lease.expires > now) && req.hasWant && req.want == lease.ip

/-- What a REQUEST leads to. -/
inductive Requested (env : Env) (mac : Mac) (req : DhcpRequest) (w : World) : DhcpView → Prop
  | acked {l : DhcpLease} {t : LeaseTable} {f : Bytes}
      (held : heldLease w.lp mac (env.clock w.readings) req = some l)
      (own : ownLease w.lp mac (env.clock w.readings) = some l)
      (claimed : w.lp.dhcpState.leases.claim
        ⟨mac, l.ip, env.clock (w.readings + 1) + dhcpLeaseTime, false, true⟩ = some t)
      (reply : Frame.reply f = ⟨dhcpMsgAck, l.ip, mac⟩) :
      Requested env mac req w
        ⟨t, w.sent ++ [⟨.wifi, f⟩], w.readings + 2, env.clock (w.readings + 1)⟩
  | refused {f : Bytes} (notHeld : heldLease w.lp mac (env.clock w.readings) req = none)
      (ours : req.hasWant && dhcpInOurSubnet w.lp req.want)
      (reply : Frame.reply f = ⟨dhcpMsgNak, noneIp, mac⟩) :
      Requested env mac req w ⟨w.lp.dhcpState.leases, w.sent ++ [⟨.wifi, f⟩], w.readings + 1,
        env.clock w.readings⟩
  | silent (notHeld : heldLease w.lp mac (env.clock w.readings) req = none)
      (foreign : ¬ (req.hasWant && dhcpInOurSubnet w.lp req.want)) :
      Requested env mac req w (w.tick env).dhcpView

theorem requested (env : Env) (mac : Mac) (req : DhcpRequest) (w : World) :
    Requested env mac req w (after (dhcpRequested env mac req w)).dhcpView := by
  have hfind : ((fun lp => dhcpFindMac lp.dhcpState.leases mac) <$> getLp : RelayM _) w =
      .ok (dhcpFindMac w.lp.dhcpState.leases mac) w := rfl
  rw [dhcpRequested, bind_ok hfind, bind_ok (timeNull_eq env w), bind_ok (getLp_apply _)]
  cases hheld : heldLease w.lp mac (env.clock w.readings) req with
  | some l =>
    have hfound := hheld
    simp only [heldLease, DhcpRequest.hasWant, DhcpRequest.want] at hfound
    simp only [hfound]
    obtain ⟨hl, hmatch⟩ := Option.filter_eq_some_iff.mp hheld
    have hexpires : decide (l.expires > env.clock w.readings) = true := by
      simp only [Bool.and_eq_true] at hmatch
      exact hmatch.1.1
    have hown : ownLease w.lp mac (env.clock w.readings) = some l :=
      Option.filter_eq_some_iff.mpr ⟨hl, hexpires⟩
    obtain ⟨hmem, hused, hmac, -⟩ := ownLease_some hown
    obtain ⟨t, hclaim⟩ := LeaseTable.claim_own (x :=
      ⟨mac, l.ip, env.clock (w.readings + 1) + dhcpLeaseTime, false, true⟩) hmem hused hmac
    obtain ⟨w₁, hrun, hview⟩ : ∃ w₁, dhcpClaim env mac l.ip false (w.tick env) = .ok true w₁ ∧
        w₁.dhcpView = ⟨t, w.sent, w.readings + 2, env.clock (w.readings + 1)⟩ :=
      dhcpClaim_some hclaim
    obtain ⟨f, hreply, hafter⟩ := replied env mac req dhcpMsgAck l.ip w₁
      (fun st => { st with acksSent := st.acksSent + 1 }) fun _ => rfl
    change Requested env mac req w
      (after ((dhcpClaim env mac l.ip false >>= fun _ => _ : RelayM Unit) (w.tick env))).dhcpView
    rw [bind_ok hrun, hafter]
    simp only [World.dhcpView, DhcpView.mk.injEq] at hview
    obtain ⟨hleases, hsent, hreadings, htime⟩ := hview
    rw [hleases, hsent, hreadings, htime]
    exact .acked hheld hown hclaim hreply
  | none =>
    have hfound := hheld
    simp only [heldLease, DhcpRequest.hasWant, DhcpRequest.want] at hfound
    simp only [hfound]
    change Requested env mac req w
      (after ((if req.hasWant && dhcpInOurSubnet w.lp req.want then _
        else if req.hasWant then _ else pure () : RelayM Unit) (w.tick env))).dhcpView
    rw [ite_run, ite_run]
    split
    · rename_i hours
      obtain ⟨f, hreply, hafter⟩ := replied env mac req dhcpMsgNak noneIp (w.tick env)
        (fun st => { st with naksSent := st.naksSent + 1 }) fun _ => rfl
      rw [hafter]
      exact .refused hheld hours hreply
    · rename_i hforeign
      split
      · exact .silent hheld hforeign
      · exact .silent hheld hforeign

theorem Requested.handled {env : Env} {mac : Mac} {req : DhcpRequest} {w : World}
    {view : DhcpView} (h : Requested env mac req w view) (nintendo : isNintendoMac mac) :
    Handled env mac req w view := by
  cases h with
  | acked held own claimed reply => exact .acked nintendo own claimed reply
  | refused notHeld ours reply => exact .refused reply
  | silent notHeld foreign => exact .silent (.tick .here)

theorem handled (env : Env) (mac : Mac) (req : DhcpRequest) (w : World) :
    Handled env mac req w (after (dhcpHandle env mac req w)).dhcpView := by
  unfold dhcpHandle
  by_cases hnintendo : isNintendoMac mac
  swap
  · rw [if_pos (by simpa using hnintendo)]
    exact (.silent .here : Handled env mac req w w.dhcpView)
  rw [if_neg (by simpa using hnintendo)]
  by_cases hdiscover : req.msgType = dhcpMsgDiscover
  · rw [if_pos hdiscover]
    exact .discovered hnintendo hdiscover (discovered env mac req w)
  rw [if_neg hdiscover]
  by_cases hrequest : req.msgType = dhcpMsgRequest
  · rw [if_pos hrequest]
    exact (requested env mac req w).handled hnintendo
  rw [if_neg hrequest]
  by_cases hrelease : req.msgType = dhcpMsgRelease
  · rw [if_pos hrelease]
    exact .released hrelease
  · rw [if_neg hrelease]
    exact .silent .here

/-! ## Consuming a frame -/

/-- The frame holds this client message. -/
def Parses (frame : Bytes) (req : DhcpRequest) : Prop := ∀ w, dhcpParse frame w = .ok (some req) w

theorem Parses.length {frame : Bytes} {req : DhcpRequest} (h : Parses frame req) (w : World) :
    282 ≤ frame.length := by
  by_contra hshort
  have hnone : dhcpParse frame w = .ok none w := by
    rw [dhcpParse, dhcpParseLen, if_pos (by omega)]
    rfl
  have hsome := h w
  rw [hnone] at hsome
  cases hsome

/-- The kind of the client message in a frame. -/
def messageType (frame : Bytes) : Option UInt8 :=
  match dhcpParse frame World.boot with
  | .ok (some req) _ => some req.msgType
  | _ => none

theorem messageType_eq_some {frame : Bytes} {kind : UInt8} :
    messageType frame = some kind ↔ ∃ req, Parses frame req ∧ req.msgType = kind := by
  constructor
  · intro h
    unfold messageType at h
    split at h
    · rename_i req w hrun
      exact ⟨req, ((reads_dhcpParse frame).ok_of_ok hrun).2, Option.some.inj h⟩
    · cases h
  · rintro ⟨req, hparses, rfl⟩
    rw [messageType, hparses World.boot]

/-- The server is switched on and has an adapter to serve. -/
def Serves (env : Env) (w : World) : Prop :=
  env.options.dhcpServer = true ∧ w.lp.wifiSubnetKnown = true

/-- The world after the sweep every message starts with. -/
def World.swept (env : Env) (w : World) : World :=
  { w.tick env with
    lp := { w.lp with
      dhcpState := { w.lp.dhcpState with
        leases := dhcpSweepExpired w.lp.dhcpState.leases (env.clock w.readings) } } }

theorem dhcpServerConsume_parsed {env : Env} {frame : Bytes} {req : DhcpRequest} {w : World}
    (serves : Serves env w) (parses : Parses frame req) :
    after (dhcpServerConsume env frame w) =
      after (dhcpHandle env (Frame.etherSrc frame) req (w.swept env)) := by
  have hlen := parses.length w
  have hguard : ¬ ((!env.options.dhcpServer) = true ∨ (!w.lp.wifiSubnetKnown) = true) := by
    simp [serves.1, serves.2]
  have hrespond : dhcpRespond env frame req w =
      dhcpHandle env (Frame.etherSrc frame) req (w.swept env) := by
    rw [dhcpRespond, bind_ok (timeNull_eq env w), readMac_ok (by omega), pure_bind]
    rfl
  rw [dhcpServerConsume, bind_ok (getLp_apply w), if_neg hguard, bind_ok (parses w)]
  change after ((dhcpRespond env frame req >>= fun _ => pure true : RelayM Bool) w) = _
  rw [bind_apply, hrespond]
  cases dhcpHandle env (Frame.etherSrc frame) req (w.swept env) with
  | ok a w' => rfl
  | error e w' => rfl

/-- What `dhcp_server_consume` leads to. -/
inductive Consumed (env : Env) (frame : Bytes) (w : World) : DhcpView → Prop
  | ignored : Consumed env frame w w.dhcpView
  | handled {req : DhcpRequest} {view : DhcpView} (serves : Serves env w)
      (parses : Parses frame req)
      (handled : Handled env (Frame.etherSrc frame) req (w.swept env) view) :
      Consumed env frame w view

theorem consumed (env : Env) (frame : Bytes) (w : World) :
    Consumed env frame w (after (dhcpServerConsume env frame w)).dhcpView := by
  by_cases hoff : (!env.options.dhcpServer) = true ∨ (!w.lp.wifiSubnetKnown) = true
  · rw [dhcpServerConsume, bind_ok (getLp_apply w), if_pos hoff]
    exact .ignored
  have serves : Serves env w := by
    simpa [Serves, not_or] using hoff
  obtain ⟨r, hr⟩ := reads_dhcpParse frame
  cases r with
  | ok parsed =>
    cases parsed with
    | none =>
      rw [dhcpServerConsume, bind_ok (getLp_apply w), if_neg hoff, bind_ok (hr w)]
      exact .ignored
    | some req =>
      have parses : Parses frame req := hr
      rw [dhcpServerConsume_parsed serves parses]
      exact .handled serves parses (handled env _ req _)
  | error e =>
    rw [dhcpServerConsume, bind_ok (getLp_apply w), if_neg hoff, bind_error (hr w)]
    exact .ignored

/-! ## The replies of a step -/

/-- One of the frames sent since the log had `n` entries is this reply. -/
def DhcpView.Answers (n : Nat) (view : DhcpView) (r : Reply) : Prop :=
  ∃ i ∈ view.sent.drop n, i.iface = .wifi ∧ Frame.reply i.frame = r
deriving Decidable

/-- The step from `w` to `w'` sent the reply. -/
abbrev Answered (w w' : World) (r : Reply) : Prop := w'.dhcpView.Answers w.sent.length r

theorem DhcpView.answers_one {w : World} {f : Bytes} {t : LeaseTable} {n time : Nat} {r : Reply} :
    DhcpView.Answers w.sent.length ⟨t, w.sent ++ [⟨.wifi, f⟩], n, time⟩ r ↔ Frame.reply f = r := by
  simp [DhcpView.Answers]

theorem DhcpView.not_answers {w w' : World} {r : Reply} (h : w'.sent = w.sent) :
    ¬ w'.dhcpView.Answers w.sent.length r := by
  simp [DhcpView.Answers, World.dhcpView, h]

/-- The steps that send an OFFER or an ACK. -/
inductive Granted (env : Env) (mac : Mac) (w : World) : Reply → DhcpView → Prop
  | offer {ip : Ip4} {w' : World} {t : LeaseTable} {sent : List Injection}
      (picked : Picked env mac w (some ip) w')
      (claimed : w.lp.dhcpState.leases.claim
        ⟨mac, ip, env.clock w'.readings + dhcpOfferTime, true, true⟩ = some t) :
      Granted env mac w ⟨dhcpMsgOffer, ip, mac⟩
        ⟨t, sent, w'.readings + 1, env.clock w'.readings⟩
  | ack {l : DhcpLease} {t : LeaseTable} {sent : List Injection}
      (own : ownLease w.lp mac (env.clock w.readings) = some l)
      (claimed : w.lp.dhcpState.leases.claim
        ⟨mac, l.ip, env.clock (w.readings + 1) + dhcpLeaseTime, false, true⟩ = some t) :
      Granted env mac w ⟨dhcpMsgAck, l.ip, mac⟩
        ⟨t, sent, w.readings + 2, env.clock (w.readings + 1)⟩

/-- A reply is one of those or a NAK. -/
theorem Handled.answered {env : Env} {mac : Mac} {req : DhcpRequest} {w : World} {view : DhcpView}
    {r : Reply} (h : Handled env mac req w view) (hr : view.Answers w.sent.length r) :
    Granted env mac w r view ∨ r.msgType = dhcpMsgNak ∧ r.chaddr = mac := by
  cases h with
  | silent waits => exact absurd hr (DhcpView.not_answers waits.sent)
  | discovered nintendo discover discovered =>
    cases discovered with
    | noAddress picked => exact absurd hr (DhcpView.not_answers picked.waits.sent)
    | noSlot picked full => exact absurd hr (DhcpView.not_answers picked.waits.tick.sent)
    | offered picked claimed reply =>
      rw [DhcpView.answers_one, reply] at hr
      subst hr
      exact .inl (.offer picked claimed)
  | acked nintendo own claimed reply =>
    rw [DhcpView.answers_one, reply] at hr
    subst hr
    exact .inl (.ack own claimed)
  | refused reply =>
    rw [DhcpView.answers_one, reply] at hr
    subst hr
    exact .inr ⟨rfl, rfl⟩
  | released release => exact absurd hr (@DhcpView.not_answers w w r rfl)

theorem Consumed.granted {env : Env} {frame : Bytes} {w : World} {view : DhcpView} {r : Reply}
    (h : Consumed env frame w view) (hr : view.Answers w.sent.length r)
    (hkind : r.msgType ≠ dhcpMsgNak) :
    Granted env (Frame.etherSrc frame) (w.swept env) r view := by
  cases h with
  | ignored => exact absurd hr (DhcpView.not_answers rfl)
  | handled serves parses handled =>
    exact (handled.answered hr).resolve_right fun hnak => hkind hnak.1

end Grid0Relay
