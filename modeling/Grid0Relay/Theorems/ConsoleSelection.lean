import Grid0Relay.Lib.Election
import Grid0Relay.Logic.Reach

/-!
# Which console the relay serves

`learn_local_switch` runs an election: the frames are the messages, the sender
address is the key and the source MAC the value. The refinement is one step
(`learn_refines`); what a whole run selects is then a fact about elections. The last part
is about a console that has its address from the hotspot's own DHCP server.
-/

namespace Grid0Relay

open Lib Lib.Exec Lib.Election

/-- How `learn_local_switch` reads a frame. -/
def rules (lp : LanPlay) : Rules Bytes Ip4 Mac where
  accepts frame := Acceptable lp frame
  firm frame := Direct lp frame
  key := senderIp
  value := Frame.etherSrc

/-- The console, as an election result. -/
def elected (c : Console) : Option (Elected Ip4 Mac) :=
  if c.switchSeen then some ⟨c.switchIp, c.switchMac, c.switchMacConfirmed⟩ else none

theorem rules_value (lp : LanPlay) (frame : Bytes) :
    (rules lp).value frame = Frame.etherSrc frame := rfl

theorem rules_confirms {lp : LanPlay} {ip : Ip4} {frame : Bytes} :
    (rules lp).confirms ip frame = true ↔
      Acceptable lp frame ∧ senderIp frame = ip ∧ Direct lp frame := by
  simp only [Rules.confirms, rules, Bool.and_eq_true, decide_eq_true_eq, and_assoc]
  exact Iff.rfl.and (decide_eq_true_iff.and Iff.rfl)

/-- The frame checks read the configuration and nothing else. -/
theorem rules_congr {lp lp' : LanPlay} (h : lp.config = lp'.config) : rules lp = rules lp' := by
  simp only [LanPlay.config, Config.mk.injEq] at h
  obtain ⟨_, _, h3, h4, h5, h6, _, h8, h9, h10, h11, _, _⟩ := h
  have haccept : ∀ frame, Acceptable lp frame ↔ Acceptable lp' frame := fun frame => by
    simp only [Acceptable, switchAddressOk, dhcpCandidate, wifiDest, isZerotierDestination, h3, h4,
      h5, h6, h8, h9, h10, h11]
  have hdirect : ∀ frame, Direct lp frame ↔ Direct lp' frame := fun frame => by
    simp only [Direct, LanBroadcast, h10]
  simp only [rules, haccept, hdirect]

theorem console_adopt (env : Env) (frame : Bytes) (w : World) :
    (w.adopt env frame).lp.console = ⟨Frame.etherSrc frame, senderIp frame, true,
      w.lp.switchMacConfirmed || decide (Direct w.lp frame)⟩ := by
  unfold World.adopt
  split <;> rfl

/-- One call is one step of the election. -/
theorem learn_refines (env : Env) (frame : Bytes) (w : World) (hok : ConsoleOk w.lp.console) :
    elected (after (learnLocalSwitch env frame w)).lp.console =
      step (rules w.lp) (elected w.lp.console) frame := by
  obtain ⟨learned, w', hrun, hlearned⟩ := learnLocalSwitch_learned env frame w
  rw [hrun, after_ok]
  by_cases hseen : w.lp.switchSeen = true
  · have hold : elected w.lp.console =
        some ⟨w.lp.switchIp, w.lp.switchMac, w.lp.switchMacConfirmed⟩ := if_pos hseen
    cases hlearned with
    | rejected no =>
      have hno : (rules w.lp).confirms w.lp.switchIp frame = false :=
        Bool.eq_false_iff.mpr fun h =>
          no ⟨(rules_confirms.mp h).1, fun _ => (rules_confirms.mp h).2.1⟩
      rw [hold]
      simp [step, hno]
    | conflict acc seen sameIp otherMac weak =>
      -- a firm console, or evidence too weak to replace it
      refine hold.trans ?_
      rw [hold]
      rcases weak with hfirm | hweak
      · simp [step, hfirm]
      · have hno : (rules w.lp).confirms w.lp.switchIp frame = false :=
          Bool.eq_false_iff.mpr fun h => hweak (rules_confirms.mp h).2.2
        simp [step, hno]
    | again acc seen sameIp sameMac =>
      have hnew : elected (w.lp.withSwitch frame).console = some ⟨senderIp frame,
          Frame.etherSrc frame, w.lp.switchMacConfirmed || decide (Direct w.lp frame)⟩ := rfl
      refine hnew.trans ?_
      rw [hold, sameIp, sameMac]
      by_cases hfirm : w.lp.switchMacConfirmed = true
      · simp [step, hfirm]
      · by_cases hdirect : Direct w.lp frame
        · have hyes := rules_confirms.mpr ⟨acc, sameIp, hdirect⟩
          simp [step, hfirm, hdirect, hyes, rules_value, sameMac]
        · have hno : (rules w.lp).confirms w.lp.switchIp frame = false :=
            Bool.eq_false_iff.mpr fun h => hdirect (rules_confirms.mp h).2.2
          simp [step, hdirect, hno]
    | adopted acc new =>
      obtain ⟨sameIp, -, hfirm, hdirect⟩ := new.resolve_left (not_not_intro hseen)
      have hyes := rules_confirms.mpr ⟨acc, sameIp, hdirect⟩
      rw [hold, console_adopt]
      simp [elected, step, hfirm, hdirect, hyes, rules_value, sameIp]
  · have hfirm : w.lp.switchMacConfirmed = false := Bool.eq_false_iff.mpr fun h => hseen (hok h)
    have hold : elected w.lp.console = none := if_neg hseen
    cases hlearned with
    | rejected no =>
      have hno : ¬ Acceptable w.lp frame := fun h => no ⟨h, fun h => absurd h hseen⟩
      rw [hold]
      simp [step, rules, hno]
    | conflict _ seen _ _ _ | again _ seen _ _ => exact absurd seen hseen
    | adopted acc new =>
      rw [hold, console_adopt, hfirm]
      simp [elected, step, rules, acc]

/-! ## Runs -/

/-- `learn_local_switch` on one frame after the other. -/
def learnAll (env : Env) (frames : List Bytes) (w : World) : World :=
  frames.foldl (fun w frame => after (learnLocalSwitch env frame w)) w

theorem learnAll_refines (env : Env) (frames : List Bytes) (w : World)
    (hok : ConsoleOk w.lp.console) :
    elected (learnAll env frames w).lp.console =
      Election.run (rules w.lp) (elected w.lp.console) frames := by
  induction frames generalizing w with
  | nil => rfl
  | cons frame rest ih =>
    have hconfig : (after (learnLocalSwitch env frame w)).lp.config = w.lp.config :=
      (steps_learnLocalSwitch env frame : Keeps (fun w : World => w.lp.core.config) _) w
    have hok' : ConsoleOk (after (learnLocalSwitch env frame w)).lp.console :=
      (steps_learnLocalSwitch env frame :
        Steps (Preserves fun c => ConsoleOk c.console) _) w hok
    have hrest := ih (after (learnLocalSwitch env frame w)) hok'
    rw [rules_congr hconfig, learn_refines env frame w hok] at hrest
    exact hrest

theorem learnAll_append (env : Env) (a b : List Bytes) (w : World) :
    learnAll env (a ++ b) w = learnAll env b (learnAll env a w) := List.foldl_append

theorem learnAll_config (env : Env) (frames : List Bytes) (w : World) :
    (learnAll env frames w).lp.config = w.lp.config := by
  induction frames generalizing w with
  | nil => rfl
  | cons frame rest ih =>
    have hconfig : (after (learnLocalSwitch env frame w)).lp.config = w.lp.config :=
      (steps_learnLocalSwitch env frame : Keeps (fun w : World => w.lp.core.config) _) w
    exact (ih _).trans hconfig

theorem learnAll_consoleOk (env : Env) (frames : List Bytes) (w : World)
    (hok : ConsoleOk w.lp.console) : ConsoleOk (learnAll env frames w).lp.console := by
  induction frames generalizing w with
  | nil => exact hok
  | cons frame rest ih =>
    exact ih _ ((steps_learnLocalSwitch env frame :
      Steps (Preserves fun c => ConsoleOk c.console) _) w hok)

/-- A seen console, as an election result. -/
theorem elected_seen {c : Console} (h : c.switchSeen = true) :
    elected c = some ⟨c.switchIp, c.switchMac, c.switchMacConfirmed⟩ := if_pos h

theorem elected_inj {c : Console} {ip : Ip4} {mac : Mac} {firm : Bool}
    (h : elected c = some ⟨ip, mac, firm⟩) :
    c.switchSeen = true ∧ c.switchIp = ip ∧ c.switchMac = mac ∧ c.switchMacConfirmed = firm := by
  unfold elected at h
  split at h
  · rename_i hseen
    rw [Option.some.injEq, Elected.mk.injEq] at h
    exact ⟨hseen, h⟩
  · simp at h

/-- The first acceptable frame and the first one that confirms its sender. -/
def firstAcceptable (lp : LanPlay) (frames : List Bytes) : Option Bytes :=
  frames.find? fun f => Acceptable lp f

def firstDirect (lp : LanPlay) (ip : Ip4) (frames : List Bytes) : Option Bytes :=
  frames.find? fun f => Acceptable lp f ∧ senderIp f = ip ∧ Direct lp f

theorem firstDirect_eq (lp : LanPlay) (ip : Ip4) (frames : List Bytes) :
    frames.find? ((rules lp).confirms ip) = firstDirect lp ip frames := by
  have hsame : (rules lp).confirms ip =
      fun f => decide (Acceptable lp f ∧ senderIp f = ip ∧ Direct lp f) := by
    funext f
    exact Bool.eq_iff_iff.mpr (rules_confirms.trans decide_eq_true_iff.symm)
  rw [hsame, firstDirect]

/-- The console after a run from a state without one. -/
theorem learnAll_elected (env : Env) (frames : List Bytes) (w : World)
    (hok : ConsoleOk w.lp.console) (unseen : w.lp.switchSeen = false) :
    elected (learnAll env frames w).lp.console =
      match firstAcceptable w.lp frames with
      | none => none
      | some f => some (match firstDirect w.lp (senderIp f) frames with
          | none => ⟨senderIp f, Frame.etherSrc f, false⟩
          | some g => ⟨senderIp f, Frame.etherSrc g, true⟩) := by
  have hnone : elected w.lp.console = none := if_neg (by simp [LanPlay.console, unseen])
  have hfirst : frames.find? (rules w.lp).accepts = firstAcceptable w.lp frames := rfl
  rw [learnAll_refines env frames w hok, hnone, run_eq, hfirst]
  cases firstAcceptable w.lp frames with
  | none => rfl
  | some f =>
    have hkey : (rules w.lp).key f = senderIp f := rfl
    simp only [hkey, firstDirect_eq, rules_value]
    cases firstDirect w.lp (senderIp f) frames <;> rfl

/-- **Console selection.** From a state without a console, the first acceptable
frame of a run fixes the address and the first direct one for that address fixes
the MAC; the address never changes afterwards, the MAC at most once, and a call
that returns false changes nothing. -/
theorem console_selection (env : Env) (w : World) (reachable : Reachable w)
    (unseen : w.lp.switchSeen = false) (frames : List Bytes) :
    ((learnAll env frames w).lp.switchSeen = true ↔ ∃ f ∈ frames, Acceptable w.lp f) ∧
    (∀ f, firstAcceptable w.lp frames = some f →
      (learnAll env frames w).lp.switchIp = senderIp f ∧
      ((learnAll env frames w).lp.switchMacConfirmed = true ↔
        ∃ g ∈ frames, Acceptable w.lp g ∧ senderIp g = senderIp f ∧ Direct w.lp g) ∧
      (learnAll env frames w).lp.switchMac =
        Frame.etherSrc ((firstDirect w.lp (senderIp f) frames).getD f)) ∧
    (∀ a b, frames = a ++ b → (learnAll env a w).lp.switchSeen = true →
      (learnAll env frames w).lp.switchIp = (learnAll env a w).lp.switchIp) ∧
    (∀ a b c, frames = a ++ b ++ c → (learnAll env a w).lp.switchSeen = true →
      (learnAll env (a ++ b) w).lp.switchMac ≠ (learnAll env a w).lp.switchMac →
      (learnAll env frames w).lp.switchMac = (learnAll env (a ++ b) w).lp.switchMac) ∧
    (∀ v f v', learnLocalSwitch env f v = .ok false v' → v' = v) := by
  have hok := Process.consoleOk reachable
  have hall := learnAll_elected env frames w hok unseen
  -- a seen console stays an election result, whatever frames follow
  have hseen : ∀ a b, (learnAll env a w).lp.switchSeen = true →
      elected (learnAll env (a ++ b) w).lp.console = Election.run (rules w.lp)
        (some ⟨(learnAll env a w).lp.switchIp, (learnAll env a w).lp.switchMac,
          (learnAll env a w).lp.switchMacConfirmed⟩) b := by
    intro a b h
    rw [learnAll_append, learnAll_refines env b _ (learnAll_consoleOk env a w hok),
      rules_congr (learnAll_config env a w), elected_seen h]
    rfl
  refine ⟨?_, ?_, ?_, ?_, ?_⟩
  · cases hfirst : firstAcceptable w.lp frames with
    | none =>
      simp only [hfirst] at hall
      have hno : ¬ (learnAll env frames w).lp.switchSeen = true := fun h => by
        rw [elected_seen h] at hall
        simp at hall
      refine iff_of_false hno ?_
      rintro ⟨f, hf, hacc⟩
      exact absurd (List.find?_eq_none.mp hfirst f hf) (by simpa using hacc)
    | some f =>
      simp only [hfirst] at hall
      refine iff_of_true (elected_inj hall).1 ⟨f, List.mem_of_find?_eq_some hfirst, ?_⟩
      simpa using List.find?_some hfirst
  · intro f hfirst
    simp only [hfirst] at hall
    cases hdirect : firstDirect w.lp (senderIp f) frames with
    | none =>
      simp only [hdirect] at hall
      obtain ⟨-, hip, hmac, hfirm⟩ := elected_inj hall
      refine ⟨hip, iff_of_false ?_ ?_, hmac⟩
      · exact Bool.eq_false_iff.mp hfirm
      · rintro ⟨g, hg, hevidence⟩
        exact absurd (List.find?_eq_none.mp hdirect g hg) (by simpa using hevidence)
    | some g =>
      simp only [hdirect] at hall
      obtain ⟨-, hip, hmac, hfirm⟩ := elected_inj hall
      refine ⟨hip, iff_of_true hfirm ⟨g, List.mem_of_find?_eq_some hdirect, ?_⟩, hmac⟩
      simpa using List.find?_some hdirect
  · rintro a b rfl h
    obtain ⟨e, hrun, hkey⟩ := run_key (rules w.lp) ⟨(learnAll env a w).lp.switchIp,
      (learnAll env a w).lp.switchMac, (learnAll env a w).lp.switchMacConfirmed⟩ b
    have hb := hseen a b h
    rw [hrun] at hb
    exact (elected_inj hb).2.1.trans hkey
  · rintro a b c rfl h hchanged
    obtain ⟨e, hrun, -⟩ := run_key (rules w.lp) ⟨(learnAll env a w).lp.switchIp,
      (learnAll env a w).lp.switchMac, (learnAll env a w).lp.switchMacConfirmed⟩ b
    have hb := hseen a b h
    rw [hrun] at hb
    obtain ⟨hseenB, -, hmacB, hfirmB⟩ := elected_inj hb
    -- the change made the console firm, so the rest of the run leaves it alone
    have hfirm : e.firm = true :=
      run_value_firm (rules w.lp) _ e b hrun fun hsame => hchanged (hmacB.trans hsame)
    have hc := hseen (a ++ b) c hseenB
    rw [run_firm (rules w.lp) _ (hfirmB.trans hfirm)] at hc
    exact (elected_inj hc).2.2.1
  · intro v f v' hfalse
    obtain ⟨learned, v'', hrun, hlearned⟩ := learnLocalSwitch_learned env f v
    rw [hrun] at hfalse
    injection hfalse with hlearn hv
    subst hlearn hv
    cases hlearned with
    | rejected no => rfl

theorem console_selection_hello :
    plainWorld.lp.switchSeen = false ∧
      (learnAll (calmEnv 1000) [helloFrame] plainWorld).lp.switchIp = senderIp helloFrame := by
  have unseen : plainWorld.lp.switchSeen = false := by decide +kernel
  have hfirst : firstAcceptable plainWorld.lp [helloFrame] = some helloFrame := by decide +kernel
  have hall := console_selection (calmEnv 1000) plainWorld plainWorld_reachable unseen [helloFrame]
  exact ⟨unseen, (hall.2.1 helloFrame hfirst).1⟩

/-! ## A console of the Wi-Fi subnet -/

/-- The ARP claim of a Nintendo console with a host address of the Wi-Fi subnet, outside the
ZeroTier subnet, while no console is known. -/
structure DhcpClaim (lp : LanPlay) (frame : Bytes) : Prop where
  known : lp.wifiSubnetKnown = true
  unseen : lp.switchSeen = false
  arp : WellFormedArp frame
  source : GoodSource frame
  oui : isNintendoMac (Frame.etherSrc frame) = true
  inWifi : ipInSubnet (Frame.arpSenderIp frame) lp.wifiSubnet lp.wifiNetmask = true
  outside : maskIp (Frame.arpSenderIp frame) lp.zerotierNetmask ≠
    maskIp lp.zerotierIp lp.zerotierNetmask
  notNetwork : Frame.arpSenderIp frame ≠ lp.wifiSubnet
  notBroadcast : Frame.arpSenderIp frame ≠ lp.wifiBroadcast
  notGateway : Frame.arpSenderIp frame ≠ lp.packetCtx.ip

/-- `learn_local_switch` returns true and has the sender as its console, with
`switch_dhcp`. -/
def LearnsDhcp (frame : Bytes) (r : EStateM.Result Fault World Bool) : Prop :=
  ∃ w, r = .ok true w ∧ w.lp.switchSeen = true ∧ w.lp.switchIp = Frame.arpSenderIp frame ∧
    w.lp.switchMac = Frame.etherSrc frame ∧ w.lp.switchDhcp = true

theorem DhcpClaim.sender_eq {lp : LanPlay} {frame : Bytes} (h : DhcpClaim lp frame) :
    senderIp frame = Frame.arpSenderIp frame := if_pos h.arp.1

/-- What is left of the checks for such a frame. -/
theorem DhcpClaim.acceptable_iff {lp : LanPlay} {frame : Bytes} (h : DhcpClaim lp frame) :
    Acceptable lp frame ↔ Frame.arpSenderIp frame ≠ lp.zerotierBroadcastIp ∧
      hostIp (Frame.arpSenderIp frame) lp.zerotierNetmask ≠ noneIp := by
  have hsender : HasSender frame := ⟨by have := h.arp.2.1; omega, h.source, Or.inl h.arp⟩
  have hwifi : wifiDest lp (Frame.arpSenderIp frame) = true := by
    rw [wifiDest, h.known, h.inWifi]
    rfl
  rw [Acceptable, and_iff_right hsender, h.sender_eq]
  simp [switchAddressOk, hwifi, h.oui, h.notNetwork, h.notBroadcast, h.notGateway]

/-- An accepted console of that kind has `switch_dhcp`. -/
theorem DhcpClaim.adopted {env : Env} {w : World} {frame : Bytes} (h : DhcpClaim w.lp frame)
    (hother : Frame.arpSenderIp frame ≠ w.lp.zerotierBroadcastIp) :
    LearnsDhcp frame (.ok true (w.adopt env frame)) := by
  have hdhcp : dhcpCandidate w.lp (senderIp frame) = true := by
    rw [h.sender_eq, dhcpCandidate, wifiDest, h.known, h.inWifi, isZerotierDestination]
    simp [hother, h.outside]
  refine ⟨_, rfl, ?_⟩
  rw [← h.sender_eq]
  unfold World.adopt
  split
  · exact ⟨rfl, rfl, rfl, hdhcp⟩
  · exact ⟨rfl, rfl, rfl, hdhcp⟩

/-- **Learning completeness.** The claim of a console of the Wi-Fi subnet is accepted exactly
when its address also has a host part under the netmask of the other network, and is not
its broadcast address. -/
theorem learning_complete_iff (env : Env) (w : World) (frame : Bytes) (h : DhcpClaim w.lp frame) :
    LearnsDhcp frame (learnLocalSwitch env frame w) ↔
      Frame.arpSenderIp frame ≠ w.lp.zerotierBroadcastIp ∧
        hostIp (Frame.arpSenderIp frame) w.lp.zerotierNetmask ≠ noneIp := by
  rw [← h.acceptable_iff]
  have hunseen : ¬ w.lp.switchSeen = true := by simp [h.unseen]
  obtain ⟨learned, w', hrun, hlearned⟩ := learnLocalSwitch_learned env frame w
  rw [hrun]
  cases hlearned with
  | rejected no =>
    refine iff_of_false ?_ fun hacc => no ⟨hacc, fun hseen => absurd hseen hunseen⟩
    rintro ⟨w', hok, -⟩
    injection hok with hok
    cases hok
  | conflict _ seen | again _ seen => exact absurd seen hunseen
  | adopted acc =>
    exact iff_of_true (h.adopted (h.acceptable_iff.mp acc).1) acc

/-- A hotspot with a /16 of its own, next to the ZeroTier network 10.147.17.0/24. -/
def wideMaskSetup : Setup :=
  { plainSetup (ip4 10 147 17 5) (mac6 0x02 0 0 0 0 0x20) with
    wifiIpv4 := some (ip4 192 168 0 1, ip4 255 255 0 0) }

def wideMaskWorld : World := after (lanPlayInit (calmEnv 1000) wideMaskSetup World.boot)

theorem wideWorld_reachable : Reachable wideMaskWorld := Reachable.of_start (by decide +kernel)

/-- An ARP request of a console with this address. -/
def askingFrame (ip : Ip4) : Bytes :=
  etherHeader broadcastMac (mac6 0x98 0xb6 0xe9 1 2 3) etherTypeArp ++
    arpBody arpOpcodeRequest (mac6 0x98 0xb6 0xe9 1 2 3) ip noneMac (ip4 192 168 0 1)

theorem learning_complete_iff_inside :
    LearnsDhcp (askingFrame (ip4 192 168 5 7))
      (learnLocalSwitch (calmEnv 1000) (askingFrame (ip4 192 168 5 7)) wideMaskWorld) := by
  refine (learning_complete_iff (calmEnv 1000) wideMaskWorld (askingFrame (ip4 192 168 5 7))
    ⟨?_, ?_, ?_, ?_, ?_, ?_, ?_, ?_, ?_, ?_⟩).mpr ?_ <;> decide +kernel

/-- 192.168.5.0 is a host of the /16, but its last byte is all a /24 leaves of it. -/
theorem network_of_other_mask_rejected :
    Reachable wideMaskWorld ∧ DhcpClaim wideMaskWorld.lp (askingFrame (ip4 192 168 5 0)) ∧
      ¬ LearnsDhcp (askingFrame (ip4 192 168 5 0))
        (learnLocalSwitch (calmEnv 1000) (askingFrame (ip4 192 168 5 0)) wideMaskWorld) := by
  have hunseen : (after (learnLocalSwitch (calmEnv 1000) (askingFrame (ip4 192 168 5 0))
    wideMaskWorld)).lp.switchSeen = false := by decide +kernel
  refine ⟨wideWorld_reachable, ⟨?_, ?_, ?_, ?_, ?_, ?_, ?_, ?_, ?_, ?_⟩, ?_⟩
  rotate_right
  · rintro ⟨w, hok, hseen, -⟩
    rw [hok, after_ok, hseen] at hunseen
    cases hunseen
  all_goals decide +kernel

end Grid0Relay
