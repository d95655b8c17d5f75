import Grid0Relay.Logic.Dhcp
import Grid0Relay.Logic.Gateway

/-!
# Where a frame can leave its buffers

The paths of the two handlers, with the accesses that need not stay inside: the
headers `process_arp` and `process_ipv4` read, the copies of `process_icmp`,
`send_payloads` and the UDP proxy, and the option walk of `dhcp_parse`. Everything
else returns, or reads the null MAC of the neighbour context.
-/

namespace Grid0Relay

open Lib Lib.Exec Lib.Slots

/-- No access outside a buffer, no negative length and no failed assertion. The null
pointer of the neighbour context is none of these. -/
def Safe {α : Type} (r : EStateM.Result Fault World α) : Prop := Allows (· = .nullPointer) r

@[simp] theorem safe_ok {α : Type} (a : α) (w : World) : Safe (.ok a w) := allows_ok _ a w

theorem Lib.Exec.Returns.safe {α : Type} {x : RelayM α} (h : Returns x) (w : World) : Safe (x w) :=
  h.allows _ w

theorem not_safe {α : Type} {e : Fault} (h : e ≠ .nullPointer) (w : World) :
    ¬ Safe (.error e w : EStateM.Result Fault World α) := fun hsafe => h ((allows_error _ e w).mp hsafe)

@[simp] theorem safe_discard {α : Type} (r : EStateM.Result Fault World α) :
    Safe (discard r) ↔ Safe r := by
  cases r <;> simp [discard, Safe]

/-! ## What always returns -/

theorem returns_getLp : Returns getLp := fun w => ⟨_, _, getLp_apply w⟩

theorem returns_modifyLp (f : LanPlay → LanPlay) : Returns (modifyLp f) :=
  fun w => ⟨_, _, modifyLp_apply f w⟩

variable (env : Env)

theorem returns_timeNull : Returns (timeNull env) := fun w => ⟨_, _, timeNull_apply env w⟩

theorem returns_arpHasIp (self : Ctx) (ip : Ip4) : Returns (arpHasIp env self ip) :=
  fun w => ⟨_, _, arpHasIp_eq env self ip w⟩

theorem returns_sendArp (opcode : Nat) (senderMac : Mac) (senderIp : Ip4)
    (targetMac : Mac) (targetIp : Ip4) :
    Returns (sendArp env opcode senderMac senderIp targetMac targetIp) :=
  fun w => ⟨_, _, sendArpEx_eq env _ _ _ _ _ _ w⟩

theorem returns_zerotierTransmit (frame : Bytes) : Returns (zerotierTransmit env frame) :=
  fun w => ⟨_, _, zerotierTransmit_eq env frame w⟩

/-- An ARP packet is answered or not. -/
theorem returns_dispatchArp (arp : Arp) : Returns (dispatchArp env arp) := by
  refine returns_ite (fun _ => ?_) fun _ => returns_ite (fun _ => returns_pure _) fun _ =>
    returns_pure _
  refine returns_bind returns_getLp fun lp => returns_ite (fun _ => ?_) fun _ => returns_pure _
  refine returns_ite (fun _ => returns_pure _) fun _ => ?_
  refine returns_ite (fun _ => returns_pure _) fun _ => returns_ite (fun _ => ?_) fun _ => ?_
  · exact returns_ite (fun _ => returns_pure _) fun _ =>
      returns_bind returns_getLp fun _ => returns_zerotierTransmit _ _
  · refine returns_bind (returns_ite (fun _ => returns_pure _) fun _ => returns_arpHasIp _ _ _)
      fun known => ?_
    refine returns_bind (returns_ite (fun _ => returns_pure _) fun _ => ?_) fun _ => ?_
    · exact returns_bind returns_getLp fun _ => returns_zerotierTransmit _ _
    · exact returns_sendArp _ _ _ _ _ _

/-! ## The DHCP server -/

theorem returns_modifyDhcp (f : DhcpServerState → DhcpServerState) : Returns (modifyDhcp f) :=
  returns_modifyLp _

theorem returns_dhcpPickPool (now : Nat) (net bcast gw self : UInt32) (fuel : Nat)
    (cand : UInt32) : Returns (dhcpPickPool env now net bcast gw self fuel cand) := by
  induction fuel generalizing cand with
  | zero => exact returns_pure _
  | succ fuel ih =>
    refine returns_ite (fun _ => ?_) fun _ => returns_pure _
    refine returns_bind returns_getLp fun lp => returns_ite (fun _ => ih _) fun _ => ?_
    refine returns_bind (returns_arpHasIp _ _ _) fun known => ?_
    exact returns_ite (fun _ => ih _) fun _ => returns_pure _

theorem returns_dhcpPickIp (mac : Mac) : Returns (dhcpPickIp env mac) := by
  refine returns_bind (returns_timeNull _) fun now => returns_bind returns_getLp fun lp => ?_
  split
  · exact returns_pure _
  · refine returns_bind ?_ fun known => ?_
    · exact returns_ite (fun _ => returns_pure _) fun _ => returns_arpHasIp _ _ _
    · exact returns_ite (fun _ => returns_pure _) fun _ => returns_dhcpPickPool _ _ _ _ _ _ _ _

theorem returns_dhcpClaim (mac : Mac) (ip : Ip4) (offered : Bool) :
    Returns (dhcpClaim env mac ip offered) := by
  refine returns_bind (returns_timeNull _) fun now => returns_bind returns_getLp fun lp => ?_
  dsimp only
  cases LeaseTable.claim _ _ with
  | none => exact returns_pure _
  | some leases => exact returns_bind (returns_modifyDhcp _) fun _ => returns_pure _

/-- A reply is a whole buffer. -/
theorem returns_dhcpSendReply (dstMac : Mac) (req : DhcpRequest) (msgType : UInt8)
    (yiaddr : Ip4) : Returns (dhcpSendReply env dstMac req msgType yiaddr) := by
  refine returns_bind (returns_modify _) fun _ => returns_bind returns_get fun w => ?_
  refine returns_ite (fun _ => returns_pure _) fun hlen => returns_bind returns_getLp fun lp => ?_
  rw [copyPart_ok (Payload.inside_whole _) (by omega), pure_bind]
  exact fun w => ⟨_, _, lanPlaySendPacket_eq env _ w⟩

theorem returns_dhcpHandle (mac : Mac) (req : DhcpRequest) : Returns (dhcpHandle env mac req) := by
  have hcount : ∀ (ret : Int) (f : DhcpServerState → DhcpServerState),
      Returns (if ret = 0 then modifyDhcp f else pure ()) :=
    fun ret f => returns_ite (fun _ => returns_modifyDhcp _) fun _ => returns_pure _
  refine returns_ite (fun _ => returns_modifyDhcp _) fun _ => returns_ite (fun _ => ?_) fun _ => ?_
  · -- DISCOVER
    refine returns_bind (returns_dhcpPickIp _ _) fun picked => ?_
    split
    · exact returns_pure _
    · refine returns_bind (returns_dhcpClaim _ _ _ _) fun claimed => ?_
      refine returns_ite (fun _ => ?_) fun _ => returns_pure _
      exact returns_bind (returns_dhcpSendReply _ _ _ _ _) fun ret => hcount ret _
  refine returns_ite (fun _ => ?_) fun _ => ?_
  · -- REQUEST
    refine returns_bind (fun w => ⟨_, _, rfl⟩) fun found => ?_
    refine returns_bind (returns_timeNull _) fun now => returns_bind returns_getLp fun lp => ?_
    dsimp only
    cases Option.filter _ found with
    | some lease =>
      refine returns_bind (returns_dhcpClaim _ _ _ _) fun _ => ?_
      exact returns_bind (returns_dhcpSendReply _ _ _ _ _) fun ret => hcount ret _
    | none =>
      refine returns_ite (fun _ => ?_) fun _ => ?_
      · exact returns_bind (returns_dhcpSendReply _ _ _ _ _) fun ret => hcount ret _
      · exact returns_ite (fun _ => returns_modifyDhcp _) fun _ => returns_pure _
  · exact returns_ite (fun _ => returns_modifyDhcp _) fun _ => returns_pure _

/-- A parsed message is answered. -/
theorem returns_dhcpRespond {frame : Bytes} (req : DhcpRequest)
    (h : 14 ≤ frame.length) : Returns (dhcpRespond env frame req) := by
  refine returns_bind (returns_timeNull _) fun now => returns_bind (returns_modifyDhcp _) fun _ => ?_
  rw [readMac_ok (by omega), pure_bind]
  exact returns_dhcpHandle _ _ _

/-! ## The option walk -/

/-- The data of an option the parser keeps is in the frame. -/
def OptionInside (frame : Bytes) (data : Nat) (code olen : UInt8) : Prop :=
  (code = 53 ∧ olen = 1 → data < frame.length) ∧
    ((code = 50 ∨ code = 54) ∧ olen = 4 → data + 4 ≤ frame.length)

instance (frame : Bytes) (data : Nat) (code olen : UInt8) :
    Decidable (OptionInside frame data code olen) := inferInstanceAs (Decidable (_ ∧ _))

/-- The walk from `off` on reads only bytes of the frame. -/
def OptionsInside (frame : Bytes) (dhcp stop : Nat) : Nat → Nat → Prop
  | 0, _ => True
  | fuel + 1, off =>
    off + 1 < stop → dhcp + off < frame.length ∧
      let code := frame.byte (dhcp + off)
      if code = 255 then True
      else if code = 0 then OptionsInside frame dhcp stop fuel (off + 1)
      else dhcp + off + 1 < frame.length ∧
        let olen := frame.byte (dhcp + off + 1)
        (off + 2 + olen.toNat ≤ stop → OptionInside frame (dhcp + off + 2) code olen ∧
          OptionsInside frame dhcp stop fuel (off + 2 + olen.toNat))

theorem dhcpOption_inside {frame : Bytes} {data : Nat} {code olen : UInt8}
    (h : OptionInside frame data code olen) (req : DhcpRequest) :
    ∃ req', dhcpOption frame data code olen req = pure req' := by
  obtain ⟨hbyte, haddr⟩ := h
  unfold dhcpOption
  split
  · rename_i h53
    rw [readByte_ok (hbyte h53), pure_bind]
    exact ⟨_, rfl⟩
  split
  · rename_i h50
    rw [readIp4_ok (haddr ⟨Or.inl h50.1, h50.2⟩), pure_bind]
    exact ⟨_, rfl⟩
  split
  · rename_i h54
    rw [readIp4_ok (haddr ⟨Or.inr h54.1, h54.2⟩), pure_bind]
    exact ⟨_, rfl⟩
  · exact ⟨_, rfl⟩

theorem dhcpOption_outside {frame : Bytes} {data : Nat} {code olen : UInt8}
    (h : ¬ OptionInside frame data code olen) (req : DhcpRequest) :
    dhcpOption frame data code olen req = throw .readBounds := by
  simp only [OptionInside, not_and_or, Classical.not_imp, Nat.not_lt, Nat.not_le] at h
  unfold dhcpOption
  rcases h with ⟨h53, hout⟩ | ⟨⟨hcode, hlen⟩, hout⟩
  · rw [if_pos h53, readByte, if_neg (by omega)]
    rfl
  · -- an address: one of two options, read the same way
    have h53 : ¬ (code = 53 ∧ olen = 1) := fun h => absurd (h.2.symm.trans hlen) (by decide)
    rw [if_neg h53]
    rcases hcode with h50 | h54
    · rw [if_pos ⟨h50, hlen⟩, readIp4_outside (by omega)]
      rfl
    · rw [if_neg fun h => absurd (h54.symm.trans h.1) (by decide), if_pos ⟨h54, hlen⟩,
        readIp4_outside (by omega)]
      rfl

section Walk

variable {frame : Bytes} {dhcp stop : Nat}

theorem dhcpOptions_inside {fuel off : Nat} (h : OptionsInside frame dhcp stop fuel off)
    (req : DhcpRequest) : ∃ req', dhcpOptions frame dhcp stop fuel off req = pure req' := by
  induction fuel generalizing off req with
  | zero => exact ⟨req, rfl⟩
  | succ fuel ih =>
    rw [dhcpOptions]
    by_cases hoff : off + 1 < stop
    swap
    · exact ⟨req, if_neg hoff⟩
    obtain ⟨hcode, h⟩ := h hoff
    dsimp only at h
    rw [if_pos hoff, readByte_ok hcode, pure_bind]
    by_cases hend : frame.byte (dhcp + off) = 255
    · exact ⟨req, if_pos hend⟩
    rw [if_neg hend] at h ⊢
    by_cases hpad : frame.byte (dhcp + off) = 0
    · rw [if_pos hpad] at h ⊢
      exact ih h req
    rw [if_neg hpad] at h ⊢
    obtain ⟨hlen, h⟩ := h
    rw [if_neg (by omega), readByte_ok hlen, pure_bind]
    by_cases hover : off + 2 + (frame.byte (dhcp + off + 1)).toNat > stop
    · exact ⟨req, if_pos hover⟩
    obtain ⟨hdata, hrest⟩ := h (by omega)
    obtain ⟨req', hread⟩ := dhcpOption_inside hdata req
    rw [if_neg hover, hread, pure_bind]
    exact ih hrest req'

theorem dhcpOptions_outside {fuel off : Nat} (h : ¬ OptionsInside frame dhcp stop fuel off)
    (req : DhcpRequest) : dhcpOptions frame dhcp stop fuel off req = throw .readBounds := by
  induction fuel generalizing off req with
  | zero => exact absurd trivial h
  | succ fuel ih =>
    simp only [OptionsInside, Classical.not_imp] at h
    obtain ⟨hoff, h⟩ := h
    rw [dhcpOptions, if_pos hoff]
    by_cases hcode : dhcp + off < frame.length
    swap
    · rw [readByte, if_neg hcode]
      rfl
    rw [readByte_ok hcode, pure_bind]
    by_cases hend : frame.byte (dhcp + off) = 255
    · exact absurd ⟨hcode, by rw [if_pos hend]; trivial⟩ h
    rw [if_neg hend] at h ⊢
    by_cases hpad : frame.byte (dhcp + off) = 0
    · rw [if_pos hpad] at h ⊢
      exact ih (fun hrest => h ⟨hcode, hrest⟩) req
    rw [if_neg hpad] at h ⊢
    rw [if_neg (by omega)]
    by_cases hlen : dhcp + off + 1 < frame.length
    swap
    · rw [readByte, if_neg hlen]
      rfl
    rw [readByte_ok hlen, pure_bind]
    by_cases hover : off + 2 + (frame.byte (dhcp + off + 1)).toNat > stop
    · exact absurd ⟨hcode, hlen, fun hle => absurd hle (by omega)⟩ h
    rw [if_neg hover]
    by_cases hdata : OptionInside frame (dhcp + off + 2) (frame.byte (dhcp + off))
        (frame.byte (dhcp + off + 1))
    · obtain ⟨req', hread⟩ := dhcpOption_inside hdata req
      rw [hread, pure_bind]
      exact ih (fun hrest => h ⟨hcode, hlen, fun _ => ⟨hdata, hrest⟩⟩) req'
    · rw [dhcpOption_outside hdata]
      rfl

end Walk

/-- The options of a message stay in the frame. -/
def WalkInside (frame : Bytes) : Prop :=
  OptionsInside frame (dhcpOff frame) (optionsStop frame) (optionsStop frame) 240

/-- The server runs out of a frame only in the walk. -/
theorem safe_dhcpServerConsume (frame : Bytes) (w : World) : Safe (dhcpServerConsume env frame w) ↔
      (env.options.dhcpServer ∧ w.lp.wifiSubnetKnown → DhcpHeader frame → WalkInside frame) := by
  simp only [dhcpServerConsume, bind_apply, getLp_apply]
  by_cases hoff : (!env.options.dhcpServer) = true ∨ (!w.lp.wifiSubnetKnown) = true
  · rw [if_pos hoff]
    refine iff_of_true (safe_ok _ _) fun hon => ?_
    rcases hoff with hoff | hoff <;> simp_all
  have hon : env.options.dhcpServer = true ∧ w.lp.wifiSubnetKnown = true := by
    simpa [not_or] using hoff
  rw [if_neg hoff, dhcpParse_eq]
  by_cases hheader : DhcpHeader frame
  swap
  · rw [if_neg hheader, pure_bind]
    exact iff_of_true (safe_ok _ _) fun _ h => absurd h hheader
  rw [if_pos hheader, dhcpWalk]
  by_cases hwalk : WalkInside frame
  · obtain ⟨req, hread⟩ := dhcpOptions_inside hwalk (dhcpFixed frame)
    refine iff_of_true ?_ fun _ _ => hwalk
    rw [hread, pure_bind, pure_bind]
    by_cases htyped : req.msgType ≠ 0
    · have hlen := hheader.1
      have hrespond := @returns_dhcpRespond env frame req (by omega)
      rw [if_pos htyped]
      exact (returns_bind hrespond fun _ => returns_pure true).safe w
    · rw [if_neg htyped]
      exact safe_ok _ _
  · refine iff_of_false ?_ fun h => hwalk (h hon hheader)
    rw [dhcpOptions_outside hwalk]
    exact not_safe (by decide) w

/-! ## The senders -/

theorem safe_sendEther_one (dst : Mac) (type : Nat) (part : Payload) (w : World) :
    Safe (sendEther env dst type [part] w) ↔ 14 + part.len < bufferSize ∧ part.Inside := by
  rw [sendEther_one]
  by_cases hfull : 14 + part.len ≥ bufferSize
  · rw [if_pos hfull]
    exact iff_of_false (not_safe (by decide) w) fun h => absurd h.1 (by omega)
  rw [if_neg hfull]
  by_cases hin : part.Inside
  · rw [if_pos hin]
    exact iff_of_true (safe_ok _ _) ⟨by omega, hin⟩
  · rw [if_neg hin]
    exact iff_of_false (not_safe (by decide) w) fun h => hin h.2

theorem safe_lanPlaySendZerotierIpv4Broadcast {packet : Payload}
    (h : packet.Sendable → packet.Inside) (w : World) :
    Safe (lanPlaySendZerotierIpv4Broadcast env packet w) := by
  rw [lanPlaySendZerotierIpv4Broadcast_eq]
  split
  · rename_i hsend
    rw [if_pos (h hsend)]
    exact safe_ok _ _
  · exact safe_ok _ _

/-- Towards a peer a packet inside its frame is sent, or its entry expires. -/
theorem safe_lanPlaySendZerotierIpv4 (dst : Ip4) {packet : Payload}
    (h : packet.Sendable → packet.Inside) (w : World) :
    Safe (lanPlaySendZerotierIpv4 env dst packet w) := by
  by_cases hsend : packet.Sendable
  swap
  · rw [lanPlaySendZerotierIpv4_refused hsend]
    exact safe_ok _ _
  cases hfirst : neighborAt env w w.readings dst with
  | none =>
    rw [lanPlaySendZerotierIpv4_unknown hsend hfirst]
    exact safe_lanPlaySendZerotierIpv4Broadcast env h _
  | some first =>
    cases hsecond : neighborAt env w (w.readings + 1) dst with
    | none =>
      rw [lanPlaySendZerotierIpv4_expired hsend hfirst hsecond]
      exact (allows_error _ _ _).mpr rfl
    | some second =>
      rw [lanPlaySendZerotierIpv4_known hsend hfirst hsecond, if_pos (h hsend)]
      exact safe_ok _ _

/-- A packet of the gateway overflows the send buffer only if its destination is known. -/
theorem safe_sendIpv4 (dst : Ip4) (protocol : UInt8) {part : Payload}
    (inside : part.Inside) (w : World) :
    Safe (sendIpv4 env dst protocol [part] w) ↔
      ((w.lp.packetCtx.arpList.lookup dst (env.clock w.readings)).isSome →
        34 + part.len < bufferSize) := by
  rw [sendIpv4_eq]
  have hall : ∀ p ∈ [part], p.Inside := by simpa using inside
  have hsum : ([part].map Payload.len).sum = part.len := by simp
  cases hfound : w.lp.packetCtx.arpList.lookup dst (env.clock w.readings) with
  | none =>
    rw [sendIpv4Ex_unknown hfound]
    exact iff_of_true (safe_ok _ _) (by simp)
  | some item =>
    by_cases hfits : 34 + part.len < bufferSize
    · obtain ⟨ret, w', hrun, -⟩ := @sendIpv4Ex_ok env w.lp.packetCtx.ip dst protocol _ w item hfound
        hall (by rw [hsum]; exact hfits)
      refine iff_of_true ?_ fun _ => hfits
      rw [hrun]
      exact safe_ok _ _
    · obtain ⟨w', hrun, -⟩ := @sendIpv4Ex_full env w.lp.packetCtx.ip dst protocol _ w item hfound
        hall (by rw [hsum]; omega)
      refine iff_of_false ?_ fun h => hfits (h rfl)
      rw [hrun]
      exact not_safe (by decide) _

/-! ## Ping replies -/

/-- The length of the message `process_icmp` answers. -/
def icmpLen (frame : Bytes) : Nat := Frame.ipTotalLen frame - Frame.ipHeaderLen frame

/-- The message is in the frame and fits into the array. -/
def IcmpCopies (frame : Bytes) : Prop :=
  Frame.ipHeaderLen frame ≤ Frame.ipTotalLen frame ∧ icmpLen frame ≤ bufferSize ∧
    (icmpLen frame = 0 ∨ 14 + Frame.ipHeaderLen frame + icmpLen frame ≤ frame.length)

/-- Otherwise the copy faults, before anything else happens. -/
theorem processIcmp_outside {frame : Bytes} (h : ¬ IcmpCopies frame) (w : World) :
    ∃ e, e ≠ Fault.nullPointer ∧ processIcmp env frame (ipv4Of frame) w = .error e w := by
  unfold processIcmp
  by_cases hneg : Frame.ipTotalLen frame < Frame.ipHeaderLen frame
  · rw [if_pos (show (ipv4Of frame).totalLen < (ipv4Of frame).headerLen from hneg)]
    exact ⟨.copyLength, by decide, rfl⟩
  rw [if_neg (show ¬ (ipv4Of frame).totalLen < (ipv4Of frame).headerLen from hneg)]
  have hcopy : ∃ e, e ≠ Fault.nullPointer ∧
      copyRange bufferSize frame (14 + (ipv4Of frame).headerLen)
        ((ipv4Of frame).totalLen - (ipv4Of frame).headerLen) = throw e := by
    rw [copyRange]
    by_cases hbig : bufferSize < icmpLen frame
    · exact ⟨.writeBounds, by decide, if_pos hbig⟩
    · refine ⟨.readBounds, by decide, (if_neg hbig).trans (if_neg fun hread => h ?_)⟩
      exact ⟨by omega, by omega, hread⟩
  obtain ⟨e, hne, hfault⟩ := hcopy
  rw [hfault]
  exact ⟨e, hne, rfl⟩

/-- The array of `process_icmp` once the request is copied. -/
def icmpArray (frame : Bytes) : Bytes :=
  frame.slice (14 + Frame.ipHeaderLen frame) (icmpLen frame) ++
    List.replicate (bufferSize - icmpLen frame) 0

theorem length_icmpArray {frame : Bytes} (h : IcmpCopies frame) : (icmpArray frame).length = bufferSize := by
  obtain ⟨-, hfits, hread⟩ := h
  have hin : (⟨frame, 14 + Frame.ipHeaderLen frame, icmpLen frame⟩ : Payload).Inside := hread
  have hdata : (frame.slice (14 + Frame.ipHeaderLen frame) (icmpLen frame)).length =
    icmpLen frame := hin.length_bytes
  rw [icmpArray, List.length_append, hdata, List.length_replicate]
  omega

/-- The request with its type and its checksum cleared. -/
def icmpCleared (frame : Bytes) : Bytes := ((icmpArray frame).put 0 [0]).put 2 (Bytes.bytes16 0)

/-- The reply. -/
def icmpReply (frame : Bytes) : Bytes :=
  (icmpCleared frame).put 2 (Bytes.bytes16 (calcChecksum ((icmpCleared frame).take (icmpLen frame))))

theorem processIcmp_copied {frame : Bytes} (h : IcmpCopies frame) (w : World) :
    (⟨icmpReply frame, 0, icmpLen frame⟩ : Payload).Inside ∧
      processIcmp env frame (ipv4Of frame) w =
        (sendIpv4 env (Frame.ipSrc frame) ipv4ProtocolIcmp [⟨icmpReply frame, 0, icmpLen frame⟩] >>=
          fun _ => pure 0) w := by
  have harray := length_icmpArray h
  obtain ⟨hpos, hfits, hread⟩ := h
  have hin : (⟨frame, 14 + Frame.ipHeaderLen frame, icmpLen frame⟩ : Payload).Inside := hread
  -- every write goes to the full array
  have hwrite : ∀ (b : Bytes) (off : Nat) (xs : Bytes), b.length = bufferSize →
      off + xs.length ≤ 4 → writeRange b off xs = pure (b.put off xs) ∧
        (b.put off xs).length = bufferSize := by
    intro b off xs hb hxs
    have hle : off + xs.length ≤ b.length := by
      rw [hb, bufferSize]
      omega
    exact ⟨writeRange_ok hle, (Bytes.length_put hle).trans hb⟩
  obtain ⟨htype, hlen₁⟩ := hwrite (icmpArray frame) 0 [0] harray (by decide)
  obtain ⟨hclear, hlen₂⟩ := hwrite _ 2 (Bytes.bytes16 0) hlen₁ (by simp)
  obtain ⟨hsum, hlen₃⟩ := hwrite (icmpCleared frame) 2
    (Bytes.bytes16 (calcChecksum ((icmpCleared frame).take (icmpLen frame)))) hlen₂ (by simp)
  refine ⟨Or.inr ?_, ?_⟩
  · show 0 + icmpLen frame ≤ (icmpReply frame).length
    rw [icmpReply, hlen₃]
    omega
  · rw [processIcmp, if_neg (show ¬ (ipv4Of frame).totalLen < (ipv4Of frame).headerLen from
      Nat.not_lt.mpr hpos)]
    refine congrFun ((congrArg (· >>= _) (copyPart_ok hin hfits)).trans ?_) w
    rw [pure_bind]
    refine (congrArg (· >>= _) htype).trans ?_
    rw [pure_bind]
    refine (congrArg (· >>= _) hclear).trans ?_
    rw [pure_bind]
    refine (congrArg (· >>= _) hsum).trans ?_
    rw [pure_bind]
    rfl

theorem safe_processIcmp (frame : Bytes) (w : World) :
    Safe (processIcmp env frame (ipv4Of frame) w) ↔ IcmpCopies frame ∧
      ((w.lp.packetCtx.arpList.lookup (Frame.ipSrc frame) (env.clock w.readings)).isSome →
        34 + icmpLen frame < bufferSize) := by
  by_cases hcopies : IcmpCopies frame
  · obtain ⟨hin, hrun⟩ := processIcmp_copied env hcopies w
    rw [hrun, Safe, allows_bind_returns fun _ => returns_pure 0]
    exact (safe_sendIpv4 env _ _ hin w).trans (and_iff_right hcopies).symm
  · obtain ⟨e, hne, hfault⟩ := processIcmp_outside env hcopies w
    refine iff_of_false ?_ fun h => hcopies h.1
    rw [hfault]
    exact not_safe hne w

/-! ## The branches of the gateway -/

/-- A ping stays inside the frame, the array and the send buffer. -/
def IcmpFits (frame : Bytes) : Prop :=
  Frame.ipHeaderLen frame ≤ Frame.ipTotalLen frame ∧
    (icmpLen frame = 0 ∨ 14 + Frame.ipTotalLen frame ≤ frame.length) ∧
    34 + icmpLen frame < bufferSize
deriving Decidable

theorem icmpFits_iff (frame : Bytes) :
    IcmpFits frame ↔ IcmpCopies frame ∧ 34 + icmpLen frame < bufferSize := by
  unfold IcmpFits IcmpCopies icmpLen
  simp only [bufferSize]
  omega

/-- A packet passed on to Wi-Fi stays inside the frame and the send buffer. -/
def EtherFits (frame : Bytes) : Prop :=
  14 + Frame.ipTotalLen frame < bufferSize ∧ (rawPacket frame).Inside
deriving Decidable

/-- A datagram for the proxy has its UDP header. -/
def ProxyFits (frame : Bytes) : Prop :=
  ForProxy frame → 14 + Frame.ipHeaderLen frame + 8 ≤ frame.length
deriving Decidable

theorem returns_gatewayOutput (output : List LwipPacket) : Returns (gatewayOutput env output) := by
  intro w
  obtain ⟨w', _, hrun, -⟩ := gatewayOutput_sent env output w
  exact ⟨(), w', hrun⟩

theorem safe_gatewayOnPacket {frame : Bytes} (w : World) (hmin : 34 ≤ frame.length)
    (hmax : frame.length < 65536) : Safe (gatewayOnPacket env frame w) ↔ ProxyFits frame := by
  rw [gatewayOnPacket_eq env frame w hmin hmax]
  by_cases hproxy : ForProxy frame
  swap
  · rw [if_neg hproxy]
    exact iff_of_true ((returns_gatewayOutput env _).safe _) fun h => absurd h hproxy
  rw [if_pos hproxy]
  by_cases hroom : 14 + Frame.ipHeaderLen frame + 8 ≤ frame.length
  · rw [if_pos hroom]
    exact iff_of_true (safe_ok _ _) fun _ => hroom
  · rw [if_neg hroom]
    exact iff_of_false (not_safe (by decide) w) fun h => hroom (h hproxy)

end Grid0Relay
