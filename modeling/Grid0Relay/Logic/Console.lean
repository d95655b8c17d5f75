import Grid0Relay.Logic.Rewrite
import Grid0Relay.Logic.Senders

/-!
# Learning the console, as pure functions

The frame checks of `learn_local_switch` and `consume_wifi_delivery_reply` stay
inside the frame, so each is a predicate of the frame and the state. `learn_cases`
says everything one call of `learn_local_switch` can do.
-/

namespace Grid0Relay

open Lib Lib.Exec

/-! ## Frames -/

/-- A source address that names one device. -/
def GoodSource (frame : Bytes) : Prop :=
  octet (Frame.etherSrc frame) 0 &&& 1 = 0 ∧ Frame.etherSrc frame ≠ noneMac
deriving Decidable

/-- An ARP request or reply for IPv4 over Ethernet whose sender is its source. -/
def WellFormedArp (frame : Bytes) : Prop :=
  Frame.etherType frame = etherTypeArp ∧ 14 + 28 ≤ frame.length ∧
    frame.net16 14 = 1 ∧ frame.net16 (14 + 2) = etherTypeIpv4 ∧
    frame.byte (14 + 4) = 6 ∧ frame.byte (14 + 5) = 4 ∧
    (Frame.arpOpcode frame = arpOpcodeRequest ∨ Frame.arpOpcode frame = arpOpcodeReply) ∧
    Frame.arpSenderMac frame = Frame.etherSrc frame
deriving Decidable

/-- An IPv4 packet whose header and declared length are inside the frame. -/
def WellFormedIpv4 (frame : Bytes) : Prop :=
  Frame.etherType frame = etherTypeIpv4 ∧ 14 + 20 ≤ frame.length ∧
    Frame.ipVersion frame = 4 ∧ 20 ≤ Frame.ipHeaderLen frame ∧
    Frame.ipHeaderLen frame ≤ Frame.ipTotalLen frame ∧
    Frame.ipTotalLen frame ≤ frame.length - 14
deriving Decidable

/-- The address a frame claims for its sender. -/
def senderIp (frame : Bytes) : Ip4 :=
  if Frame.etherType frame = etherTypeArp then Frame.arpSenderIp frame else Frame.ipSrc frame

/-- An IPv4 packet sent to the whole LAN. -/
def LanBroadcast (lp : LanPlay) (frame : Bytes) : Prop :=
  Frame.etherDst frame = broadcastMac ∧
    (Frame.ipDst frame = lp.zerotierBroadcastIp ∨ isNintendoLanBroadcast (Frame.ipDst frame))
deriving Decidable

/-- Direct evidence of the sender's MAC: an ARP claim or a LAN broadcast. -/
def Direct (lp : LanPlay) (frame : Bytes) : Prop :=
  WellFormedArp frame ∨ (WellFormedIpv4 frame ∧ LanBroadcast lp frame)
deriving Decidable

/-- The frame checks of `learn_local_switch`. -/
def HasSender (frame : Bytes) : Prop :=
  14 ≤ frame.length ∧ GoodSource frame ∧ (WellFormedArp frame ∨ WellFormedIpv4 frame)
deriving Decidable

/-- A frame that passes every check of `learn_local_switch` other than the
comparison with the console already learned. -/
def Acceptable (lp : LanPlay) (frame : Bytes) : Prop :=
  HasSender frame ∧ switchAddressOk lp (Frame.etherSrc frame) (senderIp frame)
deriving Decidable

theorem etherTypeIpv4_ne_arp : etherTypeIpv4 ≠ etherTypeArp := by decide

/-- The frame checks stay inside the frame, and find the sender of a frame that
has one. -/
theorem learnSender_eq (lp : LanPlay) (frame : Bytes) :
    learnSender lp frame = pure
      (if HasSender frame then some (senderIp frame, decide (Direct lp frame)) else none) := by
  simp (disch := omega) only [learnSender, readMac_ok, readNet16_ok, readByte_ok, readIp4_ok,
    pure_bind]
  by_cases hlen : frame.length < 14
  · rw [if_pos hlen, if_neg fun h => absurd h.1 (by omega)]
  rw [if_neg hlen]
  by_cases hsrc : GoodSource frame
  · refine (if_neg (not_not_intro hsrc)).trans ?_
    by_cases harp : Frame.etherType frame = etherTypeArp
    · -- an ARP frame is no IPv4 frame
      have hno : ¬ WellFormedIpv4 frame := fun h => etherTypeIpv4_ne_arp (h.1.symm.trans harp)
      refine (if_pos harp).trans ?_
      by_cases hwell : WellFormedArp frame
      · have hsender : HasSender frame := ⟨by omega, hsrc, Or.inl hwell⟩
        rw [if_neg (by have := hwell.2.1; omega), if_pos hsender]
        refine (if_pos hwell.2.2).trans ?_
        simp only [senderIp, if_pos harp, Direct, hwell, true_or, decide_true]
        rfl
      · rw [if_neg (show ¬ HasSender frame from fun h => h.2.2.elim hwell hno)]
        split
        · rfl
        · rename_i hshort
          exact if_neg fun h => hwell ⟨harp, by omega, h⟩
    · have hno : ¬ WellFormedArp frame := fun h => harp h.1
      refine (if_neg harp).trans ?_
      by_cases hip : Frame.etherType frame = etherTypeIpv4
      · refine (if_pos hip).trans ?_
        by_cases hwell : WellFormedIpv4 frame
        · have hsender : HasSender frame := ⟨by omega, hsrc, Or.inr hwell⟩
          rw [if_neg (by have := hwell.2.1; omega), if_pos hsender]
          refine (if_pos hwell.2.2).trans ?_
          simp only [senderIp, if_neg harp, Direct, hno, hwell, false_or, true_and]
          rfl
        · rw [if_neg (show ¬ HasSender frame from fun h => h.2.2.elim hno hwell)]
          split
          · rfl
          · rename_i hshort
            exact if_neg fun h => hwell ⟨hip, by omega, h⟩
      · rw [if_neg (show ¬ HasSender frame from fun h => h.2.2.elim hno fun h => hip h.1)]
        exact if_neg hip
  · rw [if_neg (show ¬ HasSender frame from fun h => hsrc h.2.1)]
    exact if_pos hsrc

/-! ## The probe -/

/-- The echo request `probe_wifi_delivery` sends. -/
def probeFrame (lp : LanPlay) (payload : Vector UInt8 16) : Bytes :=
  etherHeader lp.switchMac lp.wifiMac etherTypeIpv4 ++
    translate (probePacket payload) (probeSource lp) lp.switchIp

/-- What `probe_wifi_delivery` leaves when no probe was sent before. -/
def World.probe (env : Env) (w : World) : World :=
  let payload := probePayload (env.hrtime w.asked)
  { w with
    asked := w.asked + 1
    lp := { w.lp with
      wifiDeliveryProbePayload := payload
      wifiDeliveryProbeIp := w.lp.switchIp
      wifiDeliveryProbeMac := w.lp.switchMac
      wifiDeliveryProbeSent := true } }.sendWifi (probeFrame w.lp payload)

theorem length_probePacket (payload : Vector UInt8 16) : (probePacket payload).length = 44 := by
  have hicmp : (([8, 0, 0, 0] ++ Bytes.bytes16 0x5a4c ++ Bytes.bytes16 1 ++ payload.toList :
      Bytes)).length = 24 := by simp
  simp only [probePacket, List.length_append]
  rw [Bytes.length_put (by rw [hicmp]; simp), hicmp]
  simp

theorem rewritable_probePacket (payload : Vector UInt8 16) :
    Rewritable (probePacket payload) (probePacket payload).length := by
  have hfirst : (probePacket payload).byte 0 = 0x45 := rfl
  have hheader : headerLen (probePacket payload) = 20 := by rw [headerLen, hfirst]; rfl
  have htotal : totalLen (probePacket payload) = 44 := by
    simp [totalLen, probePacket, Bytes.net16, Bytes.byte, Bytes.bytes16]
  rw [Rewritable, length_probePacket, hheader, htotal]
  decide

theorem probeWifiDelivery_eq (env : Env) (w : World) :
    probeWifiDelivery env w =
      .ok () (if w.lp.wifiDeliveryProbeSent then w else w.probe env) := by
  simp only [probeWifiDelivery, bind_apply, getLp_apply]
  by_cases hsent : w.lp.wifiDeliveryProbeSent = true
  · rw [if_pos hsent, if_pos hsent, pure_apply]
  · rw [if_neg hsent, if_neg hsent]
    have hrewrite := fun payload => rewriteIpv4Addresses_eq (probePacket payload)
      (probeSource w.lp) w.lp.switchIp
    simp only [length_probePacket] at hrewrite
    have hpass := fun payload => rewritable_probePacket payload
    simp only [length_probePacket] at hpass
    have hlen : ∀ payload, (translate (probePacket payload) (probeSource w.lp)
        w.lp.switchIp).length = 44 := fun payload => by
      rw [length_translate (rewritable_probePacket payload), length_probePacket]
    simp only [bind_apply, ask_apply]
    rw [hrewrite, if_pos (hpass _)]
    simp only [pure_apply, modifyLp_apply]
    rw [lanPlaySendWifiIpv4_eq env _ _ _ (by rw [hlen]; decide)]
    rfl

/-- The reply `consume_wifi_delivery_reply` takes out of the stream. -/
def DeliveryReply (lp : LanPlay) (frame : Bytes) : Prop :=
  lp.wifiDeliveryProbeSent ∧ 14 + 44 ≤ frame.length ∧
    (Frame.etherType frame = etherTypeIpv4 ∧ Frame.etherSrc frame = lp.wifiDeliveryProbeMac ∧
      Frame.etherDst frame = lp.wifiMac) ∧
    (Frame.ipVersion frame = 4 ∧ 20 ≤ Frame.ipHeaderLen frame ∧
      Frame.ipTotalLen frame = Frame.ipHeaderLen frame + 24 ∧
      Frame.ipTotalLen frame ≤ frame.length - 14 ∧ Frame.ipProtocol frame = ipv4ProtocolIcmp ∧
      Frame.ipFragment frame &&& 0x3fff = 0 ∧ Frame.ipSrc frame = lp.wifiDeliveryProbeIp ∧
      Frame.ipDst frame = probeSource lp) ∧
    let icmp := frame.slice (14 + Frame.ipHeaderLen frame) 24
    icmp.byte 0 = 0 ∧ icmp.byte 1 = 0 ∧ icmp.net16 4 = 0x5a4c ∧ icmp.net16 6 = 1 ∧
      icmp.vecAt 16 8 = lp.wifiDeliveryProbePayload ∧
      ipv4HeaderChecksum (frame.slice 14 (Frame.ipHeaderLen frame)) = 0 ∧
      ipv4HeaderChecksum icmp = 0
deriving Decidable

theorem consumeWifiDeliveryReply_eq (frame : Bytes) (w : World) :
    consumeWifiDeliveryReply frame w =
      if DeliveryReply w.lp frame then
        .ok true { w with lp := { w.lp with wifiDeliveryProbeReplied := true } }
      else .ok false w := by
  simp (disch := omega) only [consumeWifiDeliveryReply, readMac_ok, readNet16_ok, readByte_ok,
    readIp4_ok, readRange_ok, pure_bind, bind_apply, getLp_apply]
  by_cases hreply : DeliveryReply w.lp frame
  · obtain ⟨hsent, hlen, hether, hip, hicmp⟩ := hreply
    rw [if_pos (show DeliveryReply w.lp frame from ⟨hsent, hlen, hether, hip, hicmp⟩),
      if_neg (by simp [hsent]; omega)]
    exact congrFun ((if_neg (not_not_intro hether)).trans
      ((if_neg (not_not_intro hip)).trans (if_neg (not_not_intro hicmp)))) w
  · rw [if_neg hreply]
    split
    · rfl
    · rename_i hstart
      simp only [Bool.not_eq_true', not_or, Bool.not_eq_false, Nat.not_lt] at hstart
      split
      · rfl
      · rename_i hether
        split
        · rfl
        · rename_i hip
          refine congrFun (if_pos fun hicmp => hreply ?_) w
          exact ⟨hstart.1, hstart.2, not_not.mp hether, not_not.mp hip, hicmp⟩

/-! ## One call of `learn_local_switch` -/

/-- The struct with a candidate as its console. -/
def LanPlay.withSwitch (lp : LanPlay) (frame : Bytes) : LanPlay :=
  { lp with
    switchIp := senderIp frame
    switchMac := Frame.etherSrc frame
    switchSeen := true
    switchMacConfirmed := lp.switchMacConfirmed || decide (Direct lp frame) }

/-- The console and its entry in the local ARP cache. -/
def World.enlist (env : Env) (frame : Bytes) (w : World) : World :=
  let w := { w with lp := w.lp.withSwitch frame }
  let w := w.learnArp env .packetCtx (Frame.etherSrc frame) (senderIp frame)
  { w with
    lp := { w.lp with
      switchDhcp := dhcpCandidate w.lp (senderIp frame)
      switchNintendoOui := w.lp.switchNintendoOui || isNintendoMac (Frame.etherSrc frame) } }

/-- What `learn_local_switch` leaves when the return MAC changes: the console is
enlisted and, the first time, probed. -/
def World.adopt (env : Env) (frame : Bytes) (w : World) : World :=
  if w.lp.wifiDeliveryProbeSent then w.enlist env frame else (w.enlist env frame).probe env

/-- Everything one call of `learn_local_switch` can do. -/
inductive Learned (env : Env) (frame : Bytes) (w : World) : Bool → World → Prop
  | rejected
      (no : ¬ (Acceptable w.lp frame ∧ (w.lp.switchSeen → senderIp frame = w.lp.switchIp))) :
      Learned env frame w false w
  | conflict (acceptable : Acceptable w.lp frame) (seen : w.lp.switchSeen)
      (sameIp : senderIp frame = w.lp.switchIp) (otherMac : Frame.etherSrc frame ≠ w.lp.switchMac)
      (weak : w.lp.switchMacConfirmed ∨ ¬ Direct w.lp frame) :
      Learned env frame w true
        { w with lp := { w.lp with switchMacConflicts := w.lp.switchMacConflicts + 1 } }
  | again (acceptable : Acceptable w.lp frame) (seen : w.lp.switchSeen)
      (sameIp : senderIp frame = w.lp.switchIp) (sameMac : Frame.etherSrc frame = w.lp.switchMac) :
      Learned env frame w true { w with lp := w.lp.withSwitch frame }
  | adopted (acceptable : Acceptable w.lp frame)
      (new : ¬ w.lp.switchSeen ∨ (senderIp frame = w.lp.switchIp ∧
        Frame.etherSrc frame ≠ w.lp.switchMac ∧ ¬ w.lp.switchMacConfirmed ∧ Direct w.lp frame)) :
      Learned env frame w true (w.adopt env frame)

theorem learnLocalSwitch_learned (env : Env) (frame : Bytes) (w : World) :
    ∃ learned w', learnLocalSwitch env frame w = .ok learned w' ∧
      Learned env frame w learned w' := by
  simp only [learnLocalSwitch, bind_apply, getLp_apply, learnSender_eq, pure_apply]
  by_cases hsender : HasSender frame
  · have hmac : readMac frame 6 = pure (Frame.etherSrc frame) :=
      readMac_ok (by have := hsender.1; omega)
    rw [if_pos hsender]
    simp only [bind_apply, hmac, pure_apply]
    by_cases hok : switchAddressOk w.lp (Frame.etherSrc frame) (senderIp frame) = true
    · have hacc : Acceptable w.lp frame := ⟨hsender, hok⟩
      rw [if_neg (by simp [hok])]
      by_cases hother : w.lp.switchSeen = true ∧ senderIp frame ≠ w.lp.switchIp
      · rw [if_pos hother]
        exact ⟨false, w, rfl, .rejected fun h => hother.2 (h.2 hother.1)⟩
      · rw [if_neg hother]
        have hip : w.lp.switchSeen = true → senderIp frame = w.lp.switchIp :=
          fun seen => not_not.mp fun h => hother ⟨seen, h⟩
        by_cases hseen : w.lp.switchSeen = true
        · by_cases hsame : Frame.etherSrc frame = w.lp.switchMac
          · -- a known console from its known MAC
            refine ⟨true, _, ?_, .again hacc hseen (hip hseen) hsame⟩
            simp only [hseen, hsame, Bool.not_true, bne_self_eq_false, Bool.or_self,
              Bool.false_eq_true, false_and, and_false, if_false, bind_apply, modifyLp_apply,
              pure_apply, LanPlay.withSwitch]
          · by_cases hweak : w.lp.switchMacConfirmed = true ∨ ¬ Direct w.lp frame
            · refine ⟨true, _, ?_, .conflict hacc hseen (hip hseen) hsame hweak⟩
              simp only [hseen, hsame, bne_iff_ne, ne_eq, not_false_eq_true, Bool.not_true,
                Bool.false_or, true_and, Bool.not_eq_true', decide_eq_false_iff_not, hweak,
                if_true, bind_apply, modifyLp_apply, pure_apply]
            · have hweak' := not_or.mp hweak
              refine ⟨true, _, ?_, .adopted hacc (Or.inr ⟨hip hseen, hsame, hweak'.1,
                not_not.mp hweak'.2⟩)⟩
              simp only [hseen, hsame, bne_iff_ne, ne_eq, not_false_eq_true, Bool.not_true,
                Bool.false_or, true_and, Bool.not_eq_true', decide_eq_false_iff_not, hweak,
                if_false, if_true, bind_apply, modifyLp_apply, arpSet_eq, probeWifiDelivery_eq,
                pure_apply]
              rfl
        · refine ⟨true, _, ?_, .adopted hacc (Or.inl hseen)⟩
          simp only [hseen, Bool.not_false, Bool.true_or, Bool.false_eq_true, false_and, if_false,
            if_true, bind_apply, modifyLp_apply, arpSet_eq, probeWifiDelivery_eq, pure_apply]
          rfl
    · refine ⟨false, w, ?_, .rejected fun h => hok h.1.2⟩
      exact congrFun (if_pos (by simpa using hok)) w
  · rw [if_neg hsender]
    exact ⟨false, w, rfl, .rejected fun h => hsender h.1.1⟩

end Grid0Relay
