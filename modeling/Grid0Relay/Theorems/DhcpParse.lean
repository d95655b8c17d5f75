import Grid0Relay.Logic.Safety
import Grid0Relay.Theorems.Leases

/-!
# What a client message is read from

The options of a DHCP message are the code/length/value triples of the UDP payload
from offset 240 on. `dhcp_parse` walks them with an end that counts the IPv4 header
a second time, so the walk keeps to the datagram only if something stops it there.
-/

namespace Grid0Relay

open Lib Lib.Exec

/-! ## The options of a payload -/

/-- The UDP payload of a frame. -/
def dhcpPayload (frame : Bytes) : Bytes := frame.slice (dhcpOff frame) (udpLen frame - 8)

/-- An option with its value at `data`: the three the server acts on are kept. -/
def keepOption (payload : Bytes) (data : Nat) (code olen : UInt8) (req : DhcpRequest) :
    DhcpRequest :=
  if code = 53 ∧ olen = 1 then { req with msgType := payload.byte data }
  else if code = 50 ∧ olen = 4 then
    { req with requestedIp := payload.vecAt 4 data, hasRequestedIp := true }
  else if code = 54 ∧ olen = 4 then
    { req with serverId := payload.vecAt 4 data, hasServerId := true }
  else req

/-- The options from `off` on, to END, to one that does not fit or to the end. -/
def walkOptions (payload : Bytes) : Nat → Nat → DhcpRequest → DhcpRequest
  | 0, _, req => req
  | fuel + 1, off, req =>
    if off < payload.length then
      let code := payload.byte off
      let olen := payload.byte (off + 1)
      if code = 255 then req
      else if code = 0 then walkOptions payload fuel (off + 1) req
      else if off + 2 + olen.toNat ≤ payload.length then
        walkOptions payload fuel (off + 2 + olen.toNat)
          (keepOption payload (off + 2) code olen req)
      else req
    else req

/-- The message in a frame, from the UDP payload alone. -/
def dhcpMeaning (frame : Bytes) : Option DhcpRequest :=
  let payload := dhcpPayload frame
  if DhcpHeader frame then
    let req := walkOptions payload payload.length 240 (dhcpFixed frame)
    if req.msgType ≠ 0 then some req else none
  else none

/-- The walk from `off` on is stopped inside the payload: by END, or by an option
whose length runs up to the end the parser works with, `stop`. -/
def StopsInside (payload : Bytes) (stop : Nat) : Nat → Nat → Prop
  | 0, _ => False
  | fuel + 1, off =>
    off < payload.length ∧ (payload.byte off ≠ 255 →
      if payload.byte off = 0 then StopsInside payload stop fuel (off + 1)
      else off + 1 < payload.length ∧
        let next := off + 2 + (payload.byte (off + 1)).toNat
        (stop ≤ next + 1 ∨ next ≤ payload.length ∧ StopsInside payload stop fuel next))

instance decidableStopsInside (payload : Bytes) (stop : Nat) :
    (fuel off : Nat) → Decidable (StopsInside payload stop fuel off)
  | 0, _ => inferInstanceAs (Decidable False)
  | fuel + 1, off =>
    have := decidableStopsInside payload stop fuel (off + 1)
    have := decidableStopsInside payload stop fuel (off + 2 + (payload.byte (off + 1)).toNat)
    inferInstanceAs (Decidable (off < payload.length ∧ (payload.byte off ≠ 255 →
      if payload.byte off = 0 then StopsInside payload stop fuel (off + 1)
      else off + 1 < payload.length ∧
        (stop ≤ off + 2 + (payload.byte (off + 1)).toNat + 1 ∨
          off + 2 + (payload.byte (off + 1)).toNat ≤ payload.length ∧
            StopsInside payload stop fuel (off + 2 + (payload.byte (off + 1)).toNat)))))

/-! ## The walk of the parser -/

/-- Once the loop is over, rounds that are left change nothing. -/
theorem dhcpOptions_over {frame : Bytes} {dhcp stop off : Nat} (h : ¬ off + 1 < stop) (fuel : Nat)
    (req : DhcpRequest) : dhcpOptions frame dhcp stop fuel off req = pure req := by
  cases fuel with
  | zero => rfl
  | succ fuel => exact if_neg h

/-- The loop is over after as many rounds as are left to its end. -/
theorem dhcpOptions_fuel {frame : Bytes} {dhcp stop fuel fuel' off : Nat} (h : stop ≤ off + fuel)
    (h' : stop ≤ off + fuel') (req : DhcpRequest) :
    dhcpOptions frame dhcp stop fuel off req = dhcpOptions frame dhcp stop fuel' off req := by
  induction fuel generalizing fuel' off req with
  | zero => rw [dhcpOptions_over (by omega), dhcpOptions_over (by omega)]
  | succ fuel ih =>
    cases fuel' with
    | zero => rw [dhcpOptions_over (by omega), dhcpOptions_over (by omega)]
    | succ fuel' =>
      have hpad : dhcpOptions frame dhcp stop fuel (off + 1) req =
          dhcpOptions frame dhcp stop fuel' (off + 1) req := ih (by omega) (by omega) req
      have hnext : ∀ (n : Nat) (req : DhcpRequest),
          dhcpOptions frame dhcp stop fuel (off + 2 + n) req =
            dhcpOptions frame dhcp stop fuel' (off + 2 + n) req :=
        fun n req => ih (by omega) (by omega) req
      simp only [dhcpOptions, hpad, hnext]

section Walk

variable {memory payload : Bytes} {dhcp stop : Nat}

/-- The payload is in memory at `dhcp`. -/
def LiesAt (memory payload : Bytes) (dhcp : Nat) : Prop :=
  ∀ i, i < payload.length → dhcp + i < memory.length ∧ memory.byte (dhcp + i) = payload.byte i

theorem LiesAt.readByte (hlies : LiesAt memory payload dhcp) {i : Nat} (h : i < payload.length) :
    readByte memory (dhcp + i) = pure (payload.byte i) := by
  obtain ⟨hlt, hbyte⟩ := hlies i h
  rw [readByte_ok hlt, hbyte]

theorem dhcpOption_keep (hlies : LiesAt memory payload dhcp) {off : Nat} {code olen : UInt8}
    (hin : off + olen.toNat ≤ payload.length) (req : DhcpRequest) :
    dhcpOption memory (dhcp + off) code olen req = pure (keepOption payload off code olen req) := by
  have hip : olen = 4 → readIp4 memory (dhcp + off) = pure (payload.vecAt 4 off) := by
    rintro rfl
    have hfour : off + 4 ≤ payload.length := hin
    rw [readIp4_ok (by have := (hlies (off + 3) (by omega)).1; omega)]
    congr 1
    rw [Bytes.vecAt_eq_iff]
    intro k hk
    rw [Nat.add_assoc]
    exact (hlies (off + k) (by omega)).2
  unfold dhcpOption keepOption
  split
  · rename_i h53
    obtain ⟨-, rfl⟩ := h53
    have hone : off + 1 ≤ payload.length := hin
    rw [hlies.readByte (by omega), pure_bind]
  split
  · rename_i h50
    rw [hip h50.2, pure_bind]
  split
  · rename_i h54
    rw [hip h54.2, pure_bind]
  · rfl

/-- A walk that is stopped inside the payload reads the payload's options. -/
theorem dhcpOptions_stopped (hlies : LiesAt memory payload dhcp) (hstop : payload.length + 6 < stop)
    {fuel rounds off : Nat} (h : StopsInside payload stop rounds off) (hfuel : stop ≤ off + fuel)
    (req : DhcpRequest) :
    dhcpOptions memory dhcp stop fuel off req = pure (walkOptions payload rounds off req) := by
  induction rounds generalizing fuel off req with
  | zero => exact absurd h id
  | succ rounds ih =>
    obtain ⟨hoff, h⟩ := h
    obtain ⟨fuel, rfl⟩ : ∃ k, fuel = k + 1 := ⟨fuel - 1, by omega⟩
    rw [dhcpOptions, if_pos (by omega), hlies.readByte hoff, pure_bind, walkOptions, if_pos hoff]
    dsimp only
    by_cases hend : payload.byte off = 255
    · rw [if_pos hend, if_pos hend]
    rw [if_neg hend, if_neg hend]
    have h := h hend
    by_cases hpad : payload.byte off = 0
    · rw [if_pos hpad] at h
      rw [if_pos hpad, if_pos hpad]
      exact ih h (by omega) req
    rw [if_neg hpad] at h
    obtain ⟨hone, h⟩ := h
    have holen : readByte memory (dhcp + off + 1) = pure (payload.byte (off + 1)) :=
      hlies.readByte hone
    rw [if_neg hpad, if_neg hpad, if_neg (by omega), holen, pure_bind]
    generalize payload.byte (off + 1) = olen at h ⊢
    rcases h with hfar | ⟨hfits, hrest⟩
    · -- the option runs to the parser's own end: it is left, and so is the loop
      rw [if_neg (show ¬ off + 2 + olen.toNat ≤ payload.length by omega)]
      by_cases hover : off + 2 + olen.toNat > stop
      · rw [if_pos hover]
      · have hskip : dhcpOption memory (dhcp + off + 2) (payload.byte off) olen req = pure req := by
          have h1 : olen ≠ 1 := by rintro rfl; simp at hfar; omega
          have h4 : olen ≠ 4 := by rintro rfl; simp at hfar; omega
          simp [dhcpOption, h1, h4]
        rw [if_neg hover, hskip, pure_bind, dhcpOptions_over (by omega)]
    · rw [if_neg (by omega), if_pos hfits]
      have hkeep : dhcpOption memory (dhcp + off + 2) (payload.byte off) olen req =
          pure (keepOption payload (off + 2) (payload.byte off) olen req) :=
        dhcpOption_keep hlies hfits req
      rw [hkeep, pure_bind]
      exact ih hrest (by omega) _

/-- With nothing behind the payload, a walk that is not stopped in it leaves it. -/
theorem dhcpOptions_leaves (hlies : LiesAt memory payload dhcp)
    (hend : memory.length = dhcp + payload.length) (hstop : payload.length + 6 < stop)
    {fuel rounds off : Nat} (h : ¬ StopsInside payload stop rounds off)
    (hoff : off ≤ payload.length) (hrounds : payload.length < off + rounds)
    (hfuel : stop ≤ off + fuel) (req : DhcpRequest) :
    dhcpOptions memory dhcp stop fuel off req = throw .readBounds := by
  -- a round that starts behind the payload
  have hbehind : ∀ fuel off req, payload.length ≤ off → off + 1 < stop → stop ≤ off + fuel →
      dhcpOptions memory dhcp stop fuel off req = throw .readBounds := by
    intro fuel off req hoff hlt hfuel
    obtain ⟨fuel, rfl⟩ : ∃ k, fuel = k + 1 := ⟨fuel - 1, by omega⟩
    rw [dhcpOptions, if_pos hlt, readByte, if_neg (by omega)]
    rfl
  induction rounds generalizing fuel off req with
  | zero => exact hbehind fuel off req (by omega) (by omega) hfuel
  | succ rounds ih =>
    by_cases hin : off < payload.length
    swap
    · exact hbehind fuel off req (by omega) (by omega) hfuel
    obtain ⟨fuel, rfl⟩ : ∃ k, fuel = k + 1 := ⟨fuel - 1, by omega⟩
    rw [dhcpOptions, if_pos (by omega), hlies.readByte hin, pure_bind]
    simp only [StopsInside, hin, true_and, Classical.not_imp] at h
    obtain ⟨hnotEnd, h⟩ := h
    rw [if_neg hnotEnd]
    by_cases hpad : payload.byte off = 0
    · rw [if_pos hpad] at h ⊢
      exact ih h (by omega) (by omega) (by omega) req
    rw [if_neg hpad] at h ⊢
    rw [if_neg (by omega)]
    by_cases hone : off + 1 < payload.length
    swap
    · rw [readByte, if_neg (by omega)]
      rfl
    have holen : readByte memory (dhcp + off + 1) = pure (payload.byte (off + 1)) :=
      hlies.readByte hone
    rw [holen, pure_bind]
    generalize payload.byte (off + 1) = olen at h ⊢
    simp only [hone, true_and, not_or, not_and] at h
    obtain ⟨hnear, h⟩ := h
    rw [if_neg (by omega)]
    by_cases hfits : off + 2 + olen.toNat ≤ payload.length
    · have hkeep : dhcpOption memory (dhcp + off + 2) (payload.byte off) olen req =
          pure (keepOption payload (off + 2) (payload.byte off) olen req) :=
        dhcpOption_keep hlies hfits req
      rw [hkeep, pure_bind]
      exact ih (h hfits) hfits (by omega) (by omega) _
    · -- the option runs over the payload but not over the parser's end
      by_cases hdata : OptionInside memory (dhcp + off + 2) (payload.byte off) olen
      · obtain ⟨req', hread⟩ := dhcpOption_inside hdata req
        rw [hread, pure_bind]
        exact hbehind _ _ _ (by omega) (by omega) (by omega)
      · rw [dhcpOption_outside hdata]
        rfl

end Walk

/-! ## The parser -/

/-- The end of the UDP datagram a frame declares. A frame whose datagram is too short
for a message is refused from its first 282 bytes. -/
def datagramEnd (frame : Bytes) : Nat :=
  max (14 + 20 + 8 + 240) (14 + Frame.ipHeaderLen frame + udpLen frame)

/-- `dhcp_parse` keeps to the datagram of a frame. -/
structure ParsesWithin (frame : Bytes) : Prop where
  /-- With no byte behind the datagram there, it still returns the payload's message. -/
  reads : ∀ w, dhcpParseLen (frame.take (datagramEnd frame)) frame.length w =
    .ok (dhcpMeaning frame) w
  /-- That is what it returns on the whole frame. -/
  value : ∀ w, dhcpParse frame w = .ok (dhcpMeaning frame) w
  /-- Another frame with the same bytes up to there gives the same. -/
  only : ∀ other : Bytes, other.length = frame.length →
    (∀ i, i < datagramEnd frame → other.byte i = frame.byte i) →
    ∀ w, dhcpParse other w = dhcpParse frame w

/-- The options of a client message are stopped inside its payload. -/
def OptionsClose (frame : Bytes) : Prop :=
  DhcpHeader frame →
    StopsInside (dhcpPayload frame) (optionsStop frame) (dhcpPayload frame).length 240
deriving Decidable

section Frame

variable {frame : Bytes}

theorem DhcpHeader.udpLen_le (h : DhcpHeader frame) :
    8 + 240 ≤ udpLen frame ∧ 14 + Frame.ipHeaderLen frame + udpLen frame ≤ frame.length := by
  obtain ⟨hlen, -, ⟨-, -, -, htotal, -⟩, ⟨-, hmin, hin⟩, -⟩ := h
  exact ⟨hmin, by omega⟩

theorem DhcpHeader.length_dhcpPayload (h : DhcpHeader frame) :
    (dhcpPayload frame).length = udpLen frame - 8 := by
  obtain ⟨hmin, hin⟩ := h.udpLen_le
  rw [dhcpPayload, Bytes.length_slice, dhcpOff]
  omega

theorem DhcpHeader.datagramEnd_eq (h : DhcpHeader frame) :
    datagramEnd frame = dhcpOff frame + (dhcpPayload frame).length := by
  obtain ⟨hmin, -⟩ := h.udpLen_le
  have hhlen := h.2.2.1.2.1
  rw [h.length_dhcpPayload, datagramEnd, dhcpOff]
  omega

/-- The payload lies in the frame, and in every start of it that holds the datagram. -/
theorem DhcpHeader.lies (h : DhcpHeader frame) {n : Nat} (hn : datagramEnd frame ≤ n) :
    LiesAt (frame.take n) (dhcpPayload frame) (dhcpOff frame) := by
  intro i hi
  rw [h.datagramEnd_eq] at hn
  obtain ⟨-, hin⟩ := h.udpLen_le
  rw [h.length_dhcpPayload] at hi hn
  have hdhcp : dhcpOff frame = 14 + Frame.ipHeaderLen frame + 8 := rfl
  refine ⟨by rw [List.length_take]; omega, ?_⟩
  rw [Bytes.byte_take (by omega), dhcpPayload, Bytes.byte_slice (by omega)]

theorem DhcpHeader.stop (h : DhcpHeader frame) :
    (dhcpPayload frame).length + 6 < optionsStop frame := by
  have hhlen := h.2.2.1.2.1
  obtain ⟨hmin, -⟩ := h.udpLen_le
  rw [h.length_dhcpPayload, optionsStop]
  omega

/-- What `n` bytes at `frame` are parsed to, when the options close inside the payload. -/
theorem dhcpParseLen_closed (hclose : OptionsClose frame) {n : Nat} (hn : datagramEnd frame ≤ n) :
    dhcpParseLen (frame.take n) frame.length = pure (dhcpMeaning frame) := by
  have hfixed : 14 + 20 + 8 + 240 ≤ n := Nat.le_trans (Nat.le_max_left _ _) hn
  have hdatagram : 14 + Frame.ipHeaderLen frame + udpLen frame ≤ n :=
    Nat.le_trans (Nat.le_max_right _ _) hn
  rw [dhcpParseLen_take hfixed fun hmin _ => by rw [dhcpOff]; omega, dhcpMeaning]
  by_cases hheader : DhcpHeader frame
  · rw [if_pos hheader, if_pos hheader, dhcpWalkIn, dhcpOptions_stopped (hheader.lies hn)
      hheader.stop (hclose hheader) (Nat.le_add_left _ _), pure_bind]
  · rw [if_neg hheader, if_neg hheader]

theorem dhcpParse_closed (hclose : OptionsClose frame) :
    dhcpParse frame = pure (dhcpMeaning frame) := by
  by_cases hin : datagramEnd frame ≤ frame.length
  · have hparse := dhcpParseLen_closed hclose hin
    rwa [List.take_length] at hparse
  · have hheader : ¬ DhcpHeader frame := by
      intro h
      obtain ⟨-, hle⟩ := h.udpLen_le
      have hlen := h.1
      exact hin (Nat.max_le.mpr ⟨hlen, hle⟩)
    rw [dhcpParse_eq, dhcpMeaning, if_neg hheader, if_neg hheader]

/-- When they do not, the parser asks for a byte behind the datagram. -/
theorem dhcpParseLen_open (h : ¬ OptionsClose frame) (w : World) :
    dhcpParseLen (frame.take (datagramEnd frame)) frame.length w = .error .readBounds w := by
  obtain ⟨hheader, hopen⟩ := Classical.not_imp.mp h
  obtain ⟨hmin, hin⟩ := hheader.udpLen_le
  have hlen : (frame.take (datagramEnd frame)).length = dhcpOff frame + (dhcpPayload frame).length := by
    rw [List.length_take, hheader.datagramEnd_eq, hheader.length_dhcpPayload, dhcpOff]
    omega
  have hroom : 8 + 240 ≤ udpLen frame → 14 + Frame.ipHeaderLen frame + udpLen frame ≤ frame.length →
      dhcpOff frame + 240 ≤ datagramEnd frame := by
    intro hmin _
    rw [hheader.datagramEnd_eq, hheader.length_dhcpPayload]
    omega
  have hwalk := dhcpOptions_leaves (hheader.lies (Nat.le_refl _)) hlen hheader.stop hopen
    (by rw [hheader.length_dhcpPayload]; omega) (by omega) (Nat.le_add_left _ _) (dhcpFixed frame)
  have hfixed : 14 + 20 + 8 + 240 ≤ datagramEnd frame := Nat.le_max_left _ _
  rw [dhcpParseLen_take hfixed hroom, if_pos hheader, dhcpWalkIn, hwalk]
  rfl

theorem datagramEnd_congr {other : Bytes}
    (h : ∀ i, i < datagramEnd frame → other.byte i = frame.byte i) :
    datagramEnd other = datagramEnd frame := by
  have hfixed : 14 + 20 + 8 + 240 ≤ datagramEnd frame := Nat.le_max_left _ _
  have hbound := Frame.ipHeaderLen_le frame
  have hhlen : Frame.ipHeaderLen other = Frame.ipHeaderLen frame := by
    rw [Frame.ipHeaderLen, Frame.ipHeaderLen, h 14 (by omega)]
  have hulen : udpLen other = udpLen frame := by
    rw [udpLen, udpLen, hhlen, Bytes.net16, Bytes.net16, h _ (by omega), h _ (by omega)]
  rw [datagramEnd, datagramEnd, hhlen, hulen]

end Frame

/-- The option loop of `dhcp_parse` ends after `optionsStop` rounds at most, and the
parser keeps to the datagram exactly for frames whose options are stopped inside it. -/
theorem dhcp_parse_within_iff (frame : Bytes) :
    (∀ fuel req, optionsStop frame ≤ fuel →
      dhcpOptions frame (dhcpOff frame) (optionsStop frame) fuel 240 req =
        dhcpOptions frame (dhcpOff frame) (optionsStop frame) (optionsStop frame) 240 req) ∧
    (ParsesWithin frame ↔ OptionsClose frame) := by
  refine ⟨fun fuel req hfuel => dhcpOptions_fuel (by omega) (by omega) req, ?_, fun hclose => ?_⟩
  · intro hwithin
    by_contra hopen
    have hreads := hwithin.reads World.boot
    rw [dhcpParseLen_open hopen] at hreads
    cases hreads
  · refine ⟨fun w => ?_, fun w => ?_, fun other hlen hsame w => ?_⟩
    · rw [dhcpParseLen_closed hclose (Nat.le_refl _)]
      rfl
    · rw [dhcpParse_closed hclose]
      rfl
    · -- both frames look the same to a parser that sees no more than the datagram
      have hend := datagramEnd_congr hsame
      have htake : other.take (datagramEnd other) = frame.take (datagramEnd frame) := by
        rw [hend]
        refine Bytes.ext_byte (by rw [List.length_take, List.length_take, hlen]) fun i hi => ?_
        rw [List.length_take] at hi
        rw [Bytes.byte_take (by omega), Bytes.byte_take (by omega), hsame i (by omega)]
      have hreads := dhcpParseLen_closed hclose (Nat.le_refl _)
      rw [← htake, ← hlen] at hreads
      have hother : OptionsClose other := by
        by_contra hopen
        have herror := dhcpParseLen_open hopen w
        rw [hreads] at herror
        cases herror
      rw [dhcpParseLen_closed hother (Nat.le_refl _)] at hreads
      rw [dhcpParse_closed hother, dhcpParse_closed hclose, hreads]

theorem dhcp_parse_within_discover :
    dhcpOptions (discoverFrame firstConsole) (dhcpOff (discoverFrame firstConsole))
        (optionsStop (discoverFrame firstConsole)) 1000 240
        (dhcpFixed (discoverFrame firstConsole)) =
      dhcpOptions (discoverFrame firstConsole) (dhcpOff (discoverFrame firstConsole))
        (optionsStop (discoverFrame firstConsole)) (optionsStop (discoverFrame firstConsole)) 240
        (dhcpFixed (discoverFrame firstConsole)) ∧
      ParsesWithin (discoverFrame firstConsole) :=
  ⟨(dhcp_parse_within_iff _).1 1000 _ (by decide +kernel),
    (dhcp_parse_within_iff _).2.mpr (by decide +kernel)⟩

/-- A client message without options, and bytes of the frame behind its datagram. -/
def trailedFrame (trailer : Bytes) : Bytes :=
  let message : Bytes := [1, 1, 6, 0] ++ List.replicate 232 0 ++ [0x63, 0x82, 0x53, 0x63]
  let udp : Bytes := Bytes.bytes16 68 ++ Bytes.bytes16 67 ++ Bytes.bytes16 248 ++ [0, 0]
  let header : Bytes := [0x45, 0] ++ Bytes.bytes16 268 ++
    [0, 0, 0, 0, 64, ipv4ProtocolUdp, 0, 0, 0, 0, 0, 0, 255, 255, 255, 255]
  etherHeader broadcastMac noneMac etherTypeIpv4 ++ header ++ udp ++ message ++ trailer

theorem trailedFrame_append (trailer : Bytes) :
    trailedFrame [] ++ trailer = trailedFrame trailer := by
  simp only [trailedFrame, List.append_nil]

/-- The trailer is read as options: it makes a DISCOVER of a message without a type. -/
theorem dhcp_parse_reads_trailer :
    (trailedFrame (53 :: 1 :: 1 :: List.replicate 17 0)).length =
        (trailedFrame (List.replicate 20 0)).length ∧
      (∀ i, i < datagramEnd (trailedFrame (List.replicate 20 0)) →
        (trailedFrame (53 :: 1 :: 1 :: List.replicate 17 0)).byte i =
          (trailedFrame (List.replicate 20 0)).byte i) ∧
      messageType (trailedFrame (53 :: 1 :: 1 :: List.replicate 17 0)) = some dhcpMsgDiscover ∧
      messageType (trailedFrame (List.replicate 20 0)) = none ∧
      ¬ ParsesWithin (trailedFrame (List.replicate 20 0)) := by
  have hfacts : (trailedFrame (53 :: 1 :: 1 :: List.replicate 17 0)).length =
        (trailedFrame (List.replicate 20 0)).length ∧
      datagramEnd (trailedFrame (List.replicate 20 0)) = (trailedFrame []).length ∧
      messageType (trailedFrame (53 :: 1 :: 1 :: List.replicate 17 0)) = some dhcpMsgDiscover ∧
      messageType (trailedFrame (List.replicate 20 0)) = none := by decide +kernel
  obtain ⟨hlen, hend, hdiscover, hnone⟩ := hfacts
  have hbyte : ∀ (trailer : Bytes) (i : Nat), i < (trailedFrame []).length →
      (trailedFrame trailer).byte i = (trailedFrame []).byte i := by
    intro trailer i hi
    rw [← Bytes.byte_append_left hi, trailedFrame_append]
  have hsame : ∀ i, i < datagramEnd (trailedFrame (List.replicate 20 0)) →
      (trailedFrame (53 :: 1 :: 1 :: List.replicate 17 0)).byte i =
        (trailedFrame (List.replicate 20 0)).byte i := by
    intro i hi
    rw [hend] at hi
    exact (hbyte _ i hi).trans (hbyte _ i hi).symm
  refine ⟨hlen, hsame, hdiscover, hnone, fun hwithin => ?_⟩
  rw [messageType, hwithin.only _ hlen hsame, ← messageType, hnone] at hdiscover
  cases hdiscover

end Grid0Relay
