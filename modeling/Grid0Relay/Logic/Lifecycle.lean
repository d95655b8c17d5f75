import Grid0Relay.Relay.Lifecycle

/-!
# The account of each step

One `Turns` for each function of `lan_play_init` and `lan_play_close`. What a part
of the struct stands for is a multiset of resources (`guardTokens`,
`captureTokens`, ...), and a function that keeps its part in order turns the
tokens of the old value into those of the new one.
-/

namespace Grid0Relay.Lifecycle

open Lib.Ledger

/-! ## Captures -/

/-- The handles of the open interfaces. -/
def interfaceTokens (side : Side) : List Interface → Multiset Resource
  | [] => 0
  | (_, device) :: rest =>
    {.pcap side device} + ({.loopHandle side device} + interfaceTokens side rest)

/-- The loop handles of devices that did not start. -/
def strandedTokens (side : Side) : List Interface → Multiset Resource
  | [] => 0
  | (_, device) :: rest => {.loopHandle side device} + strandedTokens side rest

theorem interfaceTokens_eq_zero {side : Side} {interfaces : List Interface} :
    interfaceTokens side interfaces = 0 ↔ interfaces = [] := by
  cases interfaces <;> simp [interfaceTokens]

theorem strandedTokens_eq_zero {side : Side} {interfaces : List Interface} :
    strandedTokens side interfaces = 0 ↔ interfaces = [] := by
  cases interfaces <;> simp [strandedTokens]

section Pcap

variable (windows : Bool) (side : Side) (h : Handles)

/-- `uv_pcap_interf_init` by the two outcomes that matter. -/
theorem uvPcapInterfInit_turns (device : Nat) (d : Device) :
    if (windows ∧ !d.nonblock) ∨ d.loopInit ≠ 0 then
      ∃ ret, ret ≠ 0 ∧ Turns (uvPcapInterfInit windows side device d) h 0 ret h 0 0
    else Turns (uvPcapInterfInit windows side device d) h 0 d.loopStart h
      {.loopHandle side device} 0 := by
  unfold uvPcapInterfInit
  by_cases hblock : windows ∧ !d.nonblock
  · rw [if_pos (Or.inl hblock), if_pos hblock]
    exact ⟨-1, by decide, turns_pure _ _⟩
  rw [if_neg hblock]
  by_cases hinit : d.loopInit ≠ 0
  · rw [if_pos (Or.inr hinit), if_pos hinit]
    exact ⟨d.loopInit, hinit, turns_pure _ _⟩
  rw [if_neg hinit, if_neg (by tauto)]
  refine Turns.andThen (turns_acquire _ _) ?_
  exact Turns.cast (turns_pure _ _) rfl (add_zero _) rfl

theorem Device.not_opens {windows : Bool} {d : Device} (hready : d.ready windows = false) :
    d.opens windows = false ∧ d.strands windows = false := by
  simp [Device.opens, Device.strands, hready]

/-- A device that opens is held with its loop handle; one that does not leaves the
loop handle behind if only the start failed. -/
theorem uvPcapOpenLive_turns (device : Nat) (d : Device) :
    Turns (uvPcapOpenLive windows side device d) h 0 (if d.opens windows then 0 else -1) h
      (interfaceTokens side (if d.opens windows then [(d, device)] else []) +
        strandedTokens side (if d.strands windows then [(d, device)] else [])) 0 := by
  unfold uvPcapOpenLive
  by_cases hcreate : d.create = true
  swap
  · have hready : d.ready windows = false := by simp [Device.ready, hcreate]
    obtain ⟨hopens, hstrands⟩ := Device.not_opens hready
    rw [if_pos (by simp [hcreate]), hopens, hstrands]
    exact turns_pure _ _
  rw [if_neg (by simp [hcreate])]
  refine Turns.andThen (turns_acquire _ _) ?_
  by_cases hprepared : !d.prepared ∨ d.mac = noneMac
  · have hready : d.ready windows = false := by
      rcases hprepared with hprepared | hmac
      · simp_all [Device.ready]
      · simp [Device.ready, hmac]
    obtain ⟨hopens, hstrands⟩ := Device.not_opens hready
    rw [if_pos hprepared, hopens, hstrands]
    exact Turns.andThen (turns_release _ _) (turns_pure _ _)
  rw [if_neg hprepared]
  have hinterf := uvPcapInterfInit_turns windows side h device d
  split at hinterf
  case isTrue hfails =>
    obtain ⟨ret, hret, hturns⟩ := hinterf
    have hready : d.ready windows = false := by
      rcases hfails with hblock | hinit
      · simp_all [Device.ready]
      · simp [Device.ready, hinit]
    obtain ⟨hopens, hstrands⟩ := Device.not_opens hready
    rw [hopens, hstrands]
    refine Turns.andThen (hturns.onto _) (turns_ite_pos hret ?_)
    refine Turns.andThen (Turns.cast (turns_release _ _) (zero_add _).symm rfl rfl) ?_
    exact turns_pure _ _
  case isFalse hinit =>
    have hready : d.ready windows = true := by
      cases windows <;> simp_all [Device.ready]
    refine Turns.andThen (hinterf.onto _) ?_
    by_cases hstart : d.loopStart = 0
    · have hopens : d.opens windows = true := by simp [Device.opens, hready, hstart]
      have hstrands : d.strands windows = false := by simp [Device.strands, hstart]
      rw [if_neg (by simp [hstart]), hopens, hstrands]
      refine Turns.cast (turns_pure _ _) rfl ?_ rfl
      simp only [if_true, Bool.false_eq_true, if_false, interfaceTokens, strandedTokens]
      abel
    · have hopens : d.opens windows = false := by simp [Device.opens, hstart]
      have hstrands : d.strands windows = true := by simp [Device.strands, hready, hstart]
      rw [if_pos hstart, hopens, hstrands]
      -- The handle that did not start is not closed before `pcap_close`.
      refine Turns.andThen (Turns.cast (turns_release _ _) (add_left_comm _ _ _) rfl rfl) ?_
      exact Turns.cast (turns_pure _ _) rfl (by simp [interfaceTokens, strandedTokens]) rfl

theorem interfaceTokens_append (left right : List Interface) :
    interfaceTokens side (left ++ right) =
      interfaceTokens side left + interfaceTokens side right := by
  induction left with
  | nil => simp [interfaceTokens]
  | cons i rest ih =>
    simp only [List.cons_append, interfaceTokens, ih]
    abel

theorem strandedTokens_append (left right : List Interface) :
    strandedTokens side (left ++ right) =
      strandedTokens side left + strandedTokens side right := by
  induction left with
  | nil => simp [strandedTokens]
  | cons i rest ih =>
    simp only [List.cons_append, strandedTokens, ih]
    abel

/-- One device at a time: the account of the loop is the sum of theirs. -/
theorem openDevices_turns (interfaces : List Interface) :
    Turns (openDevices windows side interfaces) h 0 (interfaces.filter (·.1.opens windows)) h
      (interfaceTokens side (interfaces.filter (·.1.opens windows)) +
        strandedTokens side (interfaces.filter (·.1.strands windows))) 0 := by
  induction interfaces with
  | nil => exact turns_pure _ _
  | cons i rest ih =>
    obtain ⟨d, device⟩ := i
    unfold openDevices
    refine Turns.andThen (uvPcapOpenLive_turns windows side h device d) ?_
    refine Turns.andThen (ih.onto _) ?_
    have hopened : (if (if d.opens windows then (0 : Int) else -1) = 0 then
        (d, device) :: rest.filter (·.1.opens windows) else rest.filter (·.1.opens windows)) =
        (if d.opens windows then [(d, device)] else []) ++
          rest.filter (·.1.opens windows) := by
      cases d.opens windows <;> simp
    have hfilter : ∀ p : Device → Bool, ((d, device) :: rest).filter (fun i => p i.1) =
        (if p d then [(d, device)] else []) ++ rest.filter fun i => p i.1 := by
      intro p
      rw [List.filter_cons]
      cases p d <;> rfl
    rw [hopened, hfilter, hfilter, interfaceTokens_append, strandedTokens_append]
    refine Turns.cast (turns_pure _ _) rfl ?_ rfl
    abel

/-- `uv_pcap_init` fails when nothing opened. -/
theorem uvPcapInit_turns (a : Adapters) :
    Turns (uvPcapInit windows side a) h 0 (if a.opened windows = [] then -1 else 0)
      (match side with
        | .wifi => { h with pcap := some (a.opened windows) }
        | .zerotier => { h with zerotierPcap := some (a.opened windows), capturesClosed := false })
      (interfaceTokens side (a.opened windows) + strandedTokens side (a.stranded windows)) 0 := by
  unfold uvPcapInit setInner
  refine Turns.andThen (openDevices_turns windows side h a.tried) ?_
  exact Turns.andThen (turns_update _ _) (turns_pure _ _)

/-- Off Windows the capture handles stay open. -/
theorem uvPcapClose_turns (interfaces : List Interface) :
    Turns (uvPcapClose windows side interfaces) h (interfaceTokens side interfaces) () h
      (if windows then 0 else interfaceTokens side interfaces) 0 := by
  induction interfaces with
  | nil =>
    refine Turns.cast (turns_pure _ _) rfl ?_ rfl
    simp [interfaceTokens]
  | cons i rest ih =>
    obtain ⟨d, device⟩ := i
    unfold uvPcapClose uvPcapInterfClose
    refine Turns.andThen (turns_operate _ _) ?_
    cases windows with
    | false =>
      refine Turns.andThen (Turns.cast (turns_operate _ _) (add_left_comm _ _ _)
        (add_left_comm _ _ _) rfl) ?_
      have hrest := ih.frame ({.pcap side device} + {.loopHandle side device})
      refine Turns.cast hrest ?_ ?_ rfl
      · abel
      · simp only [Bool.false_eq_true, if_false, interfaceTokens]
        abel
    | true =>
      refine Turns.andThen (a := ()) ?_ ih
      refine Turns.andThen (Turns.cast (turns_operate _ _) (add_left_comm _ _ _) rfl rfl) ?_
      refine Turns.andThen (turns_release _ _) ?_
      exact turns_release _ _

end Pcap

/-! ## Pointers -/

/-- What a pointer of the struct stands for. -/
def tokenOf : Option Owner → Resource → Multiset Resource
  | some .session, r => {r}
  | _, _ => 0

/-- Using a pointer an earlier session left is stray. -/
def strayOf : Option Owner → Nat
  | some .earlier => 1
  | _ => 0

theorem operateOn_turns (owner : Owner) (r : Resource) (h : Handles) :
    Turns (operateOn (some owner) r) h (tokenOf (some owner) r) () h (tokenOf (some owner) r)
      (strayOf (some owner)) := by
  cases owner with
  | earlier => exact turns_stray _
  | session => exact turns_operate r h (M := 0)

theorem releaseSet_turns (owner : Option Owner) (r : Resource) (h : Handles) :
    Turns (releaseSet owner r) h (tokenOf owner r) () h 0 (strayOf owner) := by
  cases owner with
  | none => exact turns_pure _ _
  | some o =>
    cases o with
    | earlier => exact turns_stray _
    | session => exact turns_release r h (M := 0)

/-! ## The firewall rule -/

/-- The rule of this session. -/
def blockTokens (windows enable : Bool) : Multiset Resource :=
  if windows && enable then {.hotspotDhcpBlock} else 0

def ruleAfter (windows enable : Bool) (rule : Option Owner) : Option Owner :=
  if windows then if enable then some .session else none else rule

theorem winfwSetHotspotDhcpBlock_turns (windows enable : Bool) (h : Handles) :
    Turns (winfwSetHotspotDhcpBlock windows enable) h
      (if windows then tokenOf h.firewallRule .hotspotDhcpBlock else 0) ()
      { h with firewallRule := ruleAfter windows enable h.firewallRule }
      (blockTokens windows enable) (if windows then strayOf h.firewallRule else 0) := by
  unfold winfwSetHotspotDhcpBlock
  refine Turns.andThen (turns_read _) ?_
  cases windows with
  | false => exact turns_pure _ _
  | true =>
    rw [if_neg (by decide)]
    refine Turns.bind (releaseSet_turns _ _ _) (k := 0) ?_
    cases enable with
    | false => exact turns_ite_neg (by decide) (turns_update _ _)
    | true =>
      exact turns_ite_pos rfl (Turns.andThen (turns_acquire _ _) (turns_update _ _))

/-! ## The UDP guard -/

def socketTokens : List Nat → Multiset Resource
  | [] => 0
  | port :: rest => {.udpSocket port} + socketTokens rest

def guardTokens : Option (List Nat) → Multiset Resource
  | none => 0
  | some ports => {.udpGuard} + socketTokens ports

/-- A socket that does not come up is closed again. -/
theorem openSocket_turns {h : Handles} {port : Nat} {ports : List Nat} (r : Reservation)
    (hguard : h.udpGuard = some ports) :
    ∃ ret g, Turns (openSocket port ports r) h (guardTokens (some ports)) ret
        { h with udpGuard := g } (guardTokens g) 0 ∧
      (ret = 0 ↔ r.ok) ∧ (ret = 0 → g = some (port :: ports)) := by
  have hself : { h with udpGuard := some ports } = h := by rw [← hguard]
  unfold openSocket
  by_cases hallocated : r.allocated = true
  swap
  · refine ⟨uvEnomem, some ports, ?_, by simp [Reservation.ok, hallocated, uvEnomem],
      fun hret => absurd hret (by decide)⟩
    rw [if_pos (by simp [hallocated]), hself]
    exact turns_pure _ _
  rw [if_neg (by simp [hallocated])]
  by_cases hinit : r.udpInit = 0
  swap
  · refine ⟨r.udpInit, some ports, ?_, by simp [Reservation.ok, hinit],
      fun hret => absurd hret hinit⟩
    rw [if_pos hinit, hself]
    exact turns_pure _ _
  rw [if_neg (by simp [hinit])]
  have hok : r.ok = true ↔ (if r.bind = 0 then r.recvStart else r.bind) = 0 := by
    by_cases hbind : r.bind = 0
    · simp [Reservation.ok, hallocated, hinit, hbind]
    · simp [Reservation.ok, hbind]
  by_cases hret : (if r.bind = 0 then r.recvStart else r.bind) = 0
  · refine ⟨0, some (port :: ports), ?_, by simp [hok, hret], fun _ => rfl⟩
    refine Turns.andThen (turns_acquire _ _) ?_
    refine turns_ite_neg (by simp [hret]) (Turns.andThen (turns_update _ _) ?_)
    refine Turns.cast (turns_pure _ _) rfl ?_ rfl
    simp only [guardTokens, socketTokens]
    abel
  · refine ⟨_, some ports, ?_, hok.symm, fun hzero => absurd hzero hret⟩
    rw [hself]
    refine Turns.andThen (turns_acquire _ _) ?_
    exact turns_ite_pos hret (Turns.andThen (turns_release _ _) (turns_pure _ _))

/-- `native_udp_guard_reserve` keeps the guard in order, and succeeds on a fresh
port when its calls do. -/
theorem nativeUdpGuardReserve_turns (h : Handles) (port : Nat) (r : Reservation) :
    ∃ ret g, Turns (nativeUdpGuardReserve port r) h (guardTokens h.udpGuard) ret
        { h with udpGuard := g } (guardTokens g) 0 ∧
      ∀ ports, h.udpGuard = some ports → port ≠ 0 → port ∉ ports → ports.length < maxUdpPorts →
        (ret = 0 ↔ r.ok) ∧ (ret = 0 → g = some (port :: ports)) := by
  unfold nativeUdpGuardReserve
  cases hguard : h.udpGuard with
  | none =>
    have hself : { h with udpGuard := none } = h := by rw [← hguard]
    refine ⟨uvEinval, none, Turns.andThen (turns_read _) ?_, fun ports hports => by cases hports⟩
    rw [hself]
    simp only [hguard]
    exact turns_pure _ _
  | some ports =>
    have hself : { h with udpGuard := some ports } = h := by rw [← hguard]
    by_cases hbusy : port = 0 ∨ port ∈ ports ∨ ports.length ≥ maxUdpPorts
    · -- The early returns leave the guard as it is.
      have hearly : ∃ ret, Turns (nativeUdpGuardReserve port r) h (guardTokens (some ports)) ret
          h (guardTokens (some ports)) 0 := by
        unfold nativeUdpGuardReserve
        by_cases hzero : port = 0
        · refine ⟨uvEinval, Turns.andThen (turns_read _) ?_⟩
          simp only [hguard]
          exact turns_ite_pos hzero (turns_pure _ _)
        by_cases hmem : port ∈ ports
        · refine ⟨0, Turns.andThen (turns_read _) ?_⟩
          simp only [hguard]
          exact turns_ite_neg hzero (turns_ite_pos hmem (turns_pure _ _))
        · refine ⟨uvEnospc, Turns.andThen (turns_read _) ?_⟩
          simp only [hguard]
          refine turns_ite_neg hzero (turns_ite_neg hmem (turns_ite_pos ?_ (turns_pure _ _)))
          tauto
      obtain ⟨ret, hturns⟩ := hearly
      refine ⟨ret, some ports, ?_, ?_⟩
      · rw [hself]
        exact hturns
      · rintro _ ⟨⟩ hport hfresh hroom
        exact absurd hbusy (by simp [hport, hfresh]; omega)
    · push Not at hbusy
      obtain ⟨hport, hfresh, hroom⟩ := hbusy
      obtain ⟨ret, g, hturns, hret, hg⟩ := openSocket_turns r hguard
      refine ⟨ret, g, Turns.andThen (turns_read _) ?_, fun _ hports _ _ _ => ?_⟩
      · simp only [hguard]
        exact turns_ite_neg hport (turns_ite_neg hfresh (turns_ite_neg (by omega) hturns))
      · cases hports
        exact ⟨hret, hg⟩

theorem closeSockets_turns (h : Handles) (ports : List Nat) :
    Turns (closeSockets ports) h (socketTokens ports) () h 0 0 := by
  induction ports with
  | nil => exact turns_pure _ _
  | cons port rest ih =>
    unfold closeSockets
    refine Turns.andThen (turns_operate _ _) ?_
    exact Turns.andThen (turns_release _ _) ih

theorem dropGuard_turns (h : Handles) :
    Turns dropGuard h (guardTokens h.udpGuard) () { h with udpGuard := none } 0 0 := by
  unfold dropGuard
  refine Turns.andThen (turns_read _) ?_
  refine Turns.andThen (a := ()) (t := h) (N := 0) ?_ (turns_update _ _)
  cases h.udpGuard with
  | none => exact turns_pure _ _
  | some ports =>
    have hsockets := (closeSockets_turns h ports).frame {.udpGuard}
    refine Turns.andThen (Turns.cast hsockets (add_comm _ _) (add_comm _ _) rfl) ?_
    exact turns_release _ _

/-- All the ports are reserved, or the guard is closed again. -/
theorem reservePorts_turns (reservation : Nat → Reservation) (fresh : List Nat) {h : Handles}
    {ports : List Nat} (hguard : h.udpGuard = some ports) (hnodup : fresh.Nodup)
    (hzero : 0 ∉ fresh) (hdisjoint : ∀ port ∈ fresh, port ∉ ports)
    (hroom : ports.length + fresh.length ≤ maxUdpPorts) :
    ∃ ret g, Turns (reservePorts reservation fresh) h (guardTokens (some ports)) ret
        { h with udpGuard := g } (guardTokens g) 0 ∧
      (ret = 0 ↔ fresh.all fun port => (reservation port).ok) := by
  induction fresh generalizing h ports with
  | nil =>
    refine ⟨0, some ports, ?_, by simp⟩
    have hself : { h with udpGuard := some ports } = h := by rw [← hguard]
    rw [hself]
    exact turns_pure _ _
  | cons port rest ih =>
    obtain ⟨hport, hnodup⟩ := List.nodup_cons.mp hnodup
    obtain ⟨ret, g, hturns, hspec⟩ := nativeUdpGuardReserve_turns h port (reservation port)
    have hlen : ports.length < maxUdpPorts := by
      rw [List.length_cons] at hroom
      omega
    obtain ⟨hret, hg⟩ := hspec ports hguard (by rintro rfl; simp at hzero)
      (hdisjoint port List.mem_cons_self) hlen
    rw [hguard] at hturns
    unfold reservePorts
    by_cases hok : ret = 0
    · obtain rfl := hg hok
      obtain ⟨ret', g', hturns', hret'⟩ := ih (h := { h with udpGuard := some (port :: ports) }) rfl
        hnodup (by simp at hzero; tauto) (by
          intro p hp hmem
          rcases List.mem_cons.mp hmem with rfl | hmem
          · exact hport hp
          · exact hdisjoint p (List.mem_cons_of_mem _ hp) hmem) (by
          simp only [List.length_cons] at hroom ⊢
          omega)
      refine ⟨ret', g', Turns.andThen hturns (turns_ite_neg (by simp [hok]) hturns'), ?_⟩
      rw [hret', List.all_cons, hret.mp hok, Bool.true_and]
    · refine ⟨-1, none, Turns.andThen hturns (turns_ite_pos hok ?_), ?_⟩
      · exact Turns.andThen (dropGuard_turns { h with udpGuard := g }) (turns_pure _ _)
      · have hfail : (reservation port).ok = false := by
          rw [hret] at hok
          exact Bool.eq_false_iff.mpr hok
        simp [hfail]

/-! ## The capture files -/

def fileTokens (captures : Fin 5 → Option Owner) : List (Fin 5) → Multiset Resource
  | [] => 0
  | i :: rest => tokenOf (captures i) (.captureFile i) + fileTokens captures rest

/-- Each file of an earlier session is flushed and closed: two stray operations. -/
def fileStrays (captures : Fin 5 → Option Owner) : List (Fin 5) → Nat
  | [] => 0
  | i :: rest => 2 * strayOf (captures i) + fileStrays captures rest

/-- What `capture_format` and `captures` stand for. -/
def captureTokens (h : Handles) : Multiset Resource :=
  fileTokens h.captures (List.finRange 5) + tokenOf h.captureFormat .captureFormat

def captureStrays (h : Handles) : Nat :=
  fileStrays h.captures (List.finRange 5) + strayOf h.captureFormat

theorem fileTokens_update {captures : Fin 5 → Option Owner} {i : Fin 5} {o : Option Owner}
    {files : List (Fin 5)} (hi : i ∉ files) :
    fileTokens (Function.update captures i o) files = fileTokens captures files := by
  induction files with
  | nil => rfl
  | cons j rest ih =>
    simp only [List.mem_cons, not_or] at hi
    rw [fileTokens, fileTokens, Function.update_of_ne (Ne.symm hi.1), ih hi.2]

theorem fileStrays_update {captures : Fin 5 → Option Owner} {i : Fin 5} {o : Option Owner}
    {files : List (Fin 5)} (hi : i ∉ files) :
    fileStrays (Function.update captures i o) files = fileStrays captures files := by
  induction files with
  | nil => rfl
  | cons j rest ih =>
    simp only [List.mem_cons, not_or] at hi
    rw [fileStrays, fileStrays, Function.update_of_ne (Ne.symm hi.1), ih hi.2]

theorem Handles.setCapture_self (h : Handles) (i : Fin 5) : h.setCapture i (h.captures i) = h := by
  rw [Handles.setCapture, Function.update_eq_self]

theorem Handles.setCapture_setCapture (h : Handles) (i : Fin 5) (o o' : Option Owner) :
    (h.setCapture i o).setCapture i o' = h.setCapture i o' := by
  simp only [Handles.setCapture, Function.update_idem]

/-- A file that can be written stays. -/
theorem flushCapture_turns (h : Handles) (i : Fin 5) :
    Turns (flushCapture i true) h (tokenOf (h.captures i) (.captureFile i)) () h
      (tokenOf (h.captures i) (.captureFile i)) (strayOf (h.captures i)) := by
  unfold flushCapture
  refine Turns.andThen (turns_read _) ?_
  cases h.captures i with
  | none => exact turns_ite_pos rfl (turns_pure _ _)
  | some owner =>
    refine turns_ite_neg (by simp) (Turns.followed (operateOn_turns owner _ h) ?_)
    exact turns_ite_neg (by decide) (turns_pure _ _)

/-- A file that cannot is closed. -/
theorem flushCapture_closes (h : Handles) (i : Fin 5) :
    Turns (flushCapture i false) h (tokenOf (h.captures i) (.captureFile i)) ()
      (h.setCapture i none) 0 (2 * strayOf (h.captures i)) := by
  unfold flushCapture setCapture
  refine Turns.andThen (turns_read _) ?_
  cases hi : h.captures i with
  | none =>
    have hself : h.setCapture i none = h := by rw [← hi, h.setCapture_self]
    rw [hself]
    exact turns_ite_pos rfl (turns_pure _ _)
  | some owner =>
    rw [Nat.two_mul]
    refine turns_ite_neg (by simp) (Turns.bind (operateOn_turns owner _ h) ?_)
    refine turns_ite_pos (by decide) ?_
    exact Turns.followed (releaseSet_turns (some owner) _ h) (turns_update _ _)

theorem closeCapture_turns (h : Handles) (i : Fin 5) (flushed : Bool) :
    Turns (closeCapture i flushed) h (tokenOf (h.captures i) (.captureFile i)) ()
      (h.setCapture i none) 0 (2 * strayOf (h.captures i)) := by
  unfold closeCapture setCapture
  cases flushed with
  | true =>
    rw [Nat.two_mul]
    refine Turns.bind (flushCapture_turns h i) (Turns.andThen (turns_read _) ?_)
    exact Turns.followed (releaseSet_turns _ _ h) (turns_update _ _)
  | false =>
    have hnone : (h.setCapture i none).captures i = none := Function.update_self _ _ _
    refine Turns.followed (flushCapture_closes h i) (Turns.andThen (turns_read _) ?_)
    have hagain := turns_update (M := (0 : Multiset Resource)) (·.setCapture i none)
      (h.setCapture i none)
    rw [h.setCapture_setCapture] at hagain
    rw [hnone]
    exact Turns.andThen (turns_pure _ _) hagain

/-- The table after the loop of `close_captures`. -/
def clearFiles (captures : Fin 5 → Option Owner) (files : List (Fin 5)) : Fin 5 → Option Owner :=
  files.foldl (fun captures i => Function.update captures i none) captures

theorem closeFiles_turns (flush : Fin 5 → Bool) (files : List (Fin 5)) (hnodup : files.Nodup)
    (h : Handles) :
    Turns (closeFiles flush files) h (fileTokens h.captures files) ()
      { h with captures := clearFiles h.captures files } 0 (fileStrays h.captures files) := by
  induction files generalizing h with
  | nil => exact turns_pure _ _
  | cons i rest ih =>
    obtain ⟨hi, hnodup⟩ := List.nodup_cons.mp hnodup
    unfold closeFiles
    have hfirst := (closeCapture_turns h i (flush i)).offof (fileTokens h.captures rest)
    have hrest := ih hnodup (h.setCapture i none)
    simp only [Handles.setCapture, fileTokens_update hi, fileStrays_update hi] at hrest
    exact Turns.bind hfirst hrest

theorem clearFiles_apply (captures : Fin 5 → Option Owner) (files : List (Fin 5)) (i : Fin 5) :
    clearFiles captures files i = if files.contains i then none else captures i := by
  induction files generalizing captures with
  | nil => rfl
  | cons j rest ih =>
    rw [clearFiles, List.foldl_cons, ← clearFiles, ih]
    by_cases hrest : i ∈ rest
    · simp [hrest]
    by_cases hij : i = j
    · simp [hij]
    · simp [hrest, hij]

theorem clearFiles_finRange (captures : Fin 5 → Option Owner) :
    clearFiles captures (List.finRange 5) = fun _ => none := by
  funext i
  rw [clearFiles_apply, if_pos (List.contains_iff_mem.mpr (List.mem_finRange i))]

/-- `close_captures` releases what the two fields stand for. -/
theorem closeCaptures_turns (flush : Fin 5 → Bool) (h : Handles) :
    Turns (closeCaptures flush) h (captureTokens h) ()
      { h with captures := fun _ => none, captureFormat := none } 0 (captureStrays h) := by
  unfold closeCaptures
  have hfiles := closeFiles_turns flush (List.finRange 5) (List.nodup_finRange 5) h
  rw [clearFiles_finRange] at hfiles
  refine Turns.bind (hfiles.offof (tokenOf h.captureFormat .captureFormat)) ?_
  refine Turns.andThen (turns_read _) ?_
  exact Turns.followed (releaseSet_turns _ _ _) (turns_update _ _)

theorem fileTokens_setCapture {captures : Fin 5 → Option Owner} {i : Fin 5} {files : List (Fin 5)}
    (o : Option Owner) (hi : i ∈ files) (hnodup : files.Nodup)
    (hfree : tokenOf (captures i) (.captureFile i) = 0) :
    fileTokens (Function.update captures i o) files =
      tokenOf o (.captureFile i) + fileTokens captures files := by
  induction files with
  | nil => simp at hi
  | cons j rest ih =>
    obtain ⟨hj, hnodup⟩ := List.nodup_cons.mp hnodup
    by_cases hij : i = j
    · subst hij
      rw [fileTokens, fileTokens, fileTokens_update hj, Function.update_self, hfree, zero_add]
    · have hrest : i ∈ rest := by
        rcases List.mem_cons.mp hi with rfl | hrest
        · exact absurd rfl hij
        · exact hrest
      rw [fileTokens, fileTokens, Function.update_of_ne (Ne.symm hij), ih hrest hnodup]
      abel

theorem captureTokens_setCapture {h : Handles} {i : Fin 5} (o : Option Owner)
    (hfree : tokenOf (h.captures i) (.captureFile i) = 0) :
    captureTokens (h.setCapture i o) = tokenOf o (.captureFile i) + captureTokens h := by
  unfold captureTokens Handles.setCapture
  simp only [fileTokens_setCapture o (List.mem_finRange i) (List.nodup_finRange 5) hfree]
  abel

theorem tokenOf_of_ne {owner : Option Owner} (howner : owner ≠ some .session) (r : Resource) :
    tokenOf owner r = 0 := by
  cases owner with
  | none => rfl
  | some o =>
    cases o with
    | earlier => rfl
    | session => exact absurd rfl howner

/-- Nothing is left of the captures. -/
def Handles.uncaptured (h : Handles) : Handles :=
  { h with captures := fun _ => none, captureFormat := none }

theorem captureTokens_uncaptured (h : Handles) : captureTokens h.uncaptured = 0 := by
  have hfiles : ∀ files, fileTokens (fun _ => none) files = 0 := by
    intro files
    induction files with
    | nil => rfl
    | cons i rest ih => rw [fileTokens, ih]; rfl
  rw [captureTokens, Handles.uncaptured, hfiles]
  rfl

/-- The files are opened one after the other, or everything is closed again. -/
theorem openFiles_turns (file : Fin 5 → FileResult) (flush : Fin 5 → Bool) (files : List (Fin 5))
    (hnodup : files.Nodup) (h : Handles) (hfresh : ∀ i ∈ files, h.captures i ≠ some .session) :
    ∃ ret captures format k, Turns (openFiles file flush files) h (captureTokens h) ret
        { h with captures := captures, captureFormat := format }
        (captureTokens { h with captures := captures, captureFormat := format }) k ∧
      (ret = 0 ↔ files.all fun i => (file i).ok) ∧
      (ret = 0 → k = 0 ∧ format = h.captureFormat ∧
        ∀ i, captures i = if files.contains i then some .session else h.captures i) := by
  induction files generalizing h with
  | nil => exact ⟨0, h.captures, h.captureFormat, 0, turns_pure _ _, by simp, by simp⟩
  | cons i rest ih =>
    obtain ⟨hi, hnodup⟩ := List.nodup_cons.mp hnodup
    have hfree := tokenOf_of_ne (hfresh i List.mem_cons_self) (.captureFile i)
    -- Every way out closes what the struct has by then.
    have hclose : ∀ t : Handles, Turns (do closeCaptures flush; pure (-1)) t (captureTokens t)
        (-1 : Int) t.uncaptured (captureTokens t.uncaptured) (captureStrays t) := by
      intro t
      rw [captureTokens_uncaptured]
      exact Turns.followed (closeCaptures_turns flush t) (turns_pure _ _)
    unfold openFiles
    by_cases hcreated : !(file i).path ∨ !(file i).created
    · refine ⟨-1, fun _ => none, none, captureStrays h, turns_ite_pos hcreated (hclose h), ?_,
        fun hret => absurd hret (by decide)⟩
      have hfail : (file i).ok = false := by
        rcases hcreated with hpath | hcreated
        · simp_all [FileResult.ok]
        · simp_all [FileResult.ok]
      simp [hfail]
    by_cases hdumped : (file i).dumped = true
    swap
    · refine ⟨-1, fun _ => none, none, captureStrays (h.setCapture i none),
        turns_ite_neg hcreated (Turns.andThen (turns_acquire _ _) (turns_ite_pos (by simp [hdumped])
          (Turns.andThen (turns_release _ _) (Turns.andThen (turns_update _ _) ?_)))), ?_,
        fun hret => absurd hret (by decide)⟩
      · refine Turns.cast (hclose (h.setCapture i none)) ?_ rfl rfl
        rw [captureTokens_setCapture none hfree]
        exact zero_add _
      · simp [FileResult.ok, hdumped]
    obtain ⟨ret, captures, format, k, hturns, hret, hspec⟩ := ih hnodup
      (h.setCapture i (some .session)) (by
        intro j hj
        have hji : j ≠ i := by rintro rfl; exact hi hj
        simp only [Handles.setCapture, Function.update_of_ne hji]
        exact hfresh j (List.mem_cons_of_mem _ hj))
    refine ⟨ret, captures, format, k, turns_ite_neg hcreated (Turns.andThen (turns_acquire _ _)
      (turns_ite_neg (by simp [hdumped]) (Turns.andThen (turns_update _ _) ?_))), ?_, ?_⟩
    · refine Turns.cast hturns ?_ rfl rfl
      exact captureTokens_setCapture (some .session) hfree
    · have hok : (file i).ok = true := by simp_all [FileResult.ok]
      simp [hret, hok]
    · intro hzero
      obtain ⟨hk, hformat, hcaptures⟩ := hspec hzero
      refine ⟨hk, hformat, fun j => ?_⟩
      rw [hcaptures j]
      by_cases hj : j = i
      · subst hj
        simp [hi, Handles.setCapture]
      · simp [hj, Handles.setCapture]

theorem strayOf_eq_zero {owner : Option Owner} : strayOf owner = 0 ↔ owner ≠ some .earlier := by
  cases owner with
  | none => simp [strayOf]
  | some o => cases o <;> simp [strayOf]

theorem fileStrays_eq_zero {captures : Fin 5 → Option Owner} {files : List (Fin 5)} :
    fileStrays captures files = 0 ↔ ∀ i ∈ files, captures i ≠ some .earlier := by
  induction files with
  | nil => simp [fileStrays]
  | cons i rest ih =>
    simp only [fileStrays, Nat.add_eq_zero_iff, Nat.mul_eq_zero, ih, strayOf_eq_zero,
      List.forall_mem_cons]
    simp

/-- Closing the captures is stray exactly when an earlier session left some. -/
theorem captureStrays_eq_zero {h : Handles} : captureStrays h = 0 ↔
    (∀ i, h.captures i ≠ some .earlier) ∧ h.captureFormat ≠ some .earlier := by
  simp only [captureStrays, Nat.add_eq_zero_iff, fileStrays_eq_zero, strayOf_eq_zero,
    List.mem_finRange, true_imp_iff]

theorem captureTokens_of_ne {h : Handles} (hfiles : ∀ i, h.captures i ≠ some .session) :
    captureTokens h = tokenOf h.captureFormat .captureFormat := by
  have hzero : ∀ files, fileTokens h.captures files = 0 := by
    intro files
    induction files with
    | nil => rfl
    | cons i rest ih => rw [fileTokens, ih, tokenOf_of_ne (hfiles i), add_zero]
  rw [captureTokens, hzero, zero_add]

/-- `open_captures` at the start of a session, when no pointer is its own. -/
theorem openCaptures_turns (s : Startup) (h : Handles)
    (hfiles : ∀ i, h.captures i ≠ some .session) (hformat : h.captureFormat ≠ some .session) :
    ∃ ret captures format k, Turns (openCaptures s) h 0 ret
        { h with captures := captures, captureFormat := format }
        (captureTokens { h with captures := captures, captureFormat := format }) k ∧
      (ret = 0 ↔ s.capturesOk) ∧
      (ret = 0 → captureStrays { h with captures := captures, captureFormat := format } =
        if s.capturePrefix then 0 else captureStrays h) := by
  unfold openCaptures
  by_cases hwanted : s.capturePrefix = true
  swap
  · refine ⟨0, h.captures, h.captureFormat, 0, turns_ite_pos (by simp [hwanted]) ?_,
      by simp [Startup.capturesOk, hwanted], fun _ => by simp [hwanted]⟩
    refine Turns.cast (turns_pure _ _) rfl ?_ rfl
    rw [captureTokens_of_ne hfiles, tokenOf_of_ne hformat]
  by_cases hdead : s.openDead = true
  swap
  · refine ⟨-1, h.captures, none, 0, turns_ite_neg (by simp [hwanted]) (turns_ite_pos
      (by simp [hdead]) (Turns.andThen (turns_update _ _) ?_)),
      by simp [Startup.capturesOk, hwanted, hdead], fun hret => absurd hret (by decide)⟩
    exact Turns.cast (turns_pure _ _) rfl
      (captureTokens_of_ne (h := { h with captureFormat := none }) hfiles).symm rfl
  obtain ⟨ret, captures, format, k, hturns, hret, hspec⟩ := openFiles_turns s.file s.flush
    (List.finRange 5) (List.nodup_finRange 5) { h with captureFormat := some .session }
    (fun i _ => hfiles i)
  refine ⟨ret, captures, format, k, turns_ite_neg (by simp [hwanted]) (turns_ite_neg
    (by simp [hdead]) (Turns.andThen (turns_acquire _ _) (Turns.andThen (turns_update _ _) ?_))),
    ?_, ?_⟩
  · exact Turns.cast hturns
      (captureTokens_of_ne (h := { h with captureFormat := some .session }) hfiles) rfl rfl
  · simp [hret, Startup.capturesOk, hwanted, hdead]
  · intro hzero
    obtain ⟨-, rfl, hcaptures⟩ := hspec hzero
    rw [if_pos hwanted, captureStrays_eq_zero]
    refine ⟨fun i => ?_, by simp⟩
    simp only [hcaptures i]
    simp

/-! ## The rest of `lan_play_init` -/

def timerTokens (s : Startup) : Multiset Resource :=
  if s.discoverSwitch then {.discoveryTimer} else 0

theorem startDiscovery_turns (s : Startup) (h : Handles) :
    ∃ ret timer N, Turns (startDiscovery s) h 0 ret { h with switchDiscoveryTimer := timer } N 0 ∧
      (ret = 0 ↔ (!s.discoverSwitch || (s.timerInit == 0 && s.timerStart == 0))) ∧
      (ret = 0 → N = timerTokens s ∧ (s.discoverSwitch → timer = some .session)) := by
  unfold startDiscovery
  by_cases hdiscover : s.discoverSwitch = true
  swap
  · refine ⟨0, h.switchDiscoveryTimer, 0, turns_ite_pos (by simp [hdiscover]) (turns_pure _ _),
      by simp [hdiscover], fun _ => ⟨by simp [timerTokens, hdiscover], fun h => ?_⟩⟩
    exact absurd h hdiscover
  by_cases hinit : s.timerInit = 0
  swap
  · refine ⟨-1, h.switchDiscoveryTimer, 0, turns_ite_neg (by simp [hdiscover]) (turns_ite_pos hinit
      (turns_pure _ _)), by simp [hdiscover, hinit], fun hret => absurd hret (by decide)⟩
  refine ⟨if s.timerStart ≠ 0 then -1 else 0, some .session, {.discoveryTimer} + 0,
    turns_ite_neg (by simp [hdiscover]) (turns_ite_neg (by simp [hinit])
      (Turns.andThen (turns_acquire _ _) (Turns.andThen (turns_update _ _) (turns_pure _ _)))),
    ?_, fun _ => ⟨?_, fun _ => rfl⟩⟩
  · by_cases hstart : s.timerStart = 0 <;> simp [hdiscover, hinit, hstart]
  · simp [timerTokens, hdiscover]

/-! ## A start -/

/-- `--subnet` when the options are in order. -/
def Startup.network (s : Startup) : Option (Ip4 × Ip4) :=
  if s.relayServer = some false then none
  else
    match s.setup.network, s.setup.gateway with
    | some (subnetNet, subnetMask), some gateway =>
      if maskIp gateway subnetMask ≠ subnetNet then none else some (subnetNet, subnetMask)
    | _, _ => none

/-- Both captures are one adapter each, with the addresses `lan_play_init` asks for. -/
def Startup.adaptersOk (s : Startup) (subnetNet subnetMask : Ip4) : Bool :=
  match uvPcapGetMac (some (s.wifi.opened s.windows)),
    uvPcapGetMac (some (s.zerotier.opened s.windows)),
    uvPcapGetIpv4 (some (s.zerotier.opened s.windows)) with
  | some wifiMac, some zerotierMac, some (ip, _) =>
    !decide (maskIp ip subnetMask ≠ subnetNet ∨ wifiMac = noneMac ∨ zerotierMac = noneMac)
  | _, _, _ => false

/-- The calls from the UDP guard on succeed. -/
def Startup.guardOk (s : Startup) : Bool :=
  s.guardAllocated && (gamePorts.all fun port => (s.reservation port).ok) && s.capturesOk &&
    (!s.discoverSwitch || (s.timerInit == 0 && s.timerStart == 0))

/-- The start gets as far as `gateway_init`. -/
def Startup.reachesGateway (s : Startup) : Bool :=
  match s.network with
  | none => false
  | some (subnetNet, subnetMask) =>
    s.wifi.opened s.windows ≠ [] && s.zerotier.opened s.windows ≠ [] &&
      s.adaptersOk subnetNet subnetMask && s.socks5Server != some false

/-- Every call of the start succeeds. -/
def Startup.starts (s : Startup) : Bool := s.reachesGateway && s.guardOk

/-- The start fails before it holds anything. -/
def Startup.failsEmpty (s : Startup) : Bool :=
  !(s.windows && s.dhcpServer) &&
    (s.network.isNone || (s.wifi.opened s.windows = [] && s.wifi.stranded s.windows = []))

/-- `lan_client_init` has not run: the handles of the relay client are not set up. -/
def NoClient (h : Handles) : Prop :=
  h.client ≠ some .session ∧ h.clientKeepaliveTimer ≠ some .session ∧
    h.realBroadcastTimer ≠ some .session

/-- What a session has set up beside its captures. -/
structure Serving (s : Startup) (h : Handles) : Prop where
  gateway : h.gateway = some .session
  timer : s.discoverSwitch → h.switchDiscoveryTimer = some .session
  rule : s.windows → h.firewallRule = if s.dhcpServer then some .session else none
  client : NoClient h

/-- What a running session has set up. -/
structure Running (s : Startup) (h : Handles) : Prop extends Serving s h where
  pcap : h.pcap = some (s.wifi.opened s.windows)
  zerotierPcap : h.zerotierPcap = some (s.zerotier.opened s.windows)
  captures : h.capturesClosed = false

def gatewayTokens : Multiset Resource := {.lwip} + ({.proxy} + {.gateway})

/-- The part of the account a session does not change. -/
def fixedTokens (s : Startup) : Multiset Resource :=
  timerTokens s + gatewayTokens +
    (interfaceTokens .zerotier (s.zerotier.opened s.windows) +
      strandedTokens .zerotier (s.zerotier.stranded s.windows)) +
    (interfaceTokens .wifi (s.wifi.opened s.windows) +
      strandedTokens .wifi (s.wifi.stranded s.windows)) +
    blockTokens s.windows s.dhcpServer

/-- The account of a running session. -/
def runningTokens (s : Startup) (h : Handles) : Multiset Resource :=
  guardTokens h.udpGuard + captureTokens h + fixedTokens s

/-- No pointer is this session's. -/
def Fresh (h : Handles) : Prop :=
  (∀ i, h.captures i ≠ some .session) ∧ h.captureFormat ≠ some .session ∧ NoClient h

theorem fresh_inherited (h : Handles) : Fresh h.inherited := by
  refine ⟨fun i => ?_, ?_, ?_, ?_, ?_⟩ <;> simp [Handles.inherited]

theorem nativeUdpGuardCreate_turns (allocated : Bool) (h : Handles) :
    Turns (nativeUdpGuardCreate allocated) h 0 (if allocated then 0 else uvEnomem)
      { h with udpGuard := if allocated then some [] else none }
      (guardTokens (if allocated then some [] else none)) 0 := by
  unfold nativeUdpGuardCreate
  refine Turns.andThen (turns_update _ _) ?_
  cases allocated with
  | false => exact turns_ite_pos (by decide) (turns_pure _ _)
  | true =>
    refine turns_ite_neg (by decide) ?_
    exact Turns.andThen (turns_acquire _ _) (Turns.andThen (turns_update _ _) (turns_pure _ _))

/-- From the UDP guard on. Each early exit has an account, only the last one matters. -/
theorem initGuard_turns (s : Startup) {h : Handles} (hfresh : Fresh h) :
    ∃ ret g c f tm N k,
      Turns (initGuard s) h 0 ret
        { h with udpGuard := g, captures := c, captureFormat := f, switchDiscoveryTimer := tm }
        N k ∧
      (ret = 0 ↔ s.guardOk) ∧
      (ret = 0 →
        N = guardTokens g + captureTokens { h with captures := c, captureFormat := f } +
          timerTokens s ∧
        (s.discoverSwitch → tm = some .session) ∧
        captureStrays { h with captures := c, captureFormat := f } =
          if s.capturePrefix then 0 else captureStrays h) := by
  unfold initGuard
  have hcreate := nativeUdpGuardCreate_turns s.guardAllocated h
  by_cases hallocated : s.guardAllocated = true
  swap
  · refine ⟨-1, none, h.captures, h.captureFormat, h.switchDiscoveryTimer, 0, 0, ?_,
      by simp [Startup.guardOk, hallocated], fun hret => absurd hret (by decide)⟩
    simp only [hallocated, Bool.false_eq_true, if_false] at hcreate ⊢
    exact Turns.andThen hcreate (turns_ite_pos (by decide) (turns_pure _ _))
  simp only [hallocated, if_true] at hcreate ⊢
  obtain ⟨reserved, g, hreserve, hreserved⟩ := reservePorts_turns s.reservation gamePorts
    (h := { h with udpGuard := some [] }) rfl (by decide) (by decide) (by simp) (by decide)
  by_cases hports : reserved = 0
  swap
  · refine ⟨-1, g, h.captures, h.captureFormat, h.switchDiscoveryTimer, guardTokens g, 0,
      Turns.andThen hcreate (turns_ite_neg (by decide) (Turns.andThen hreserve
        (turns_ite_pos hports (turns_pure _ _)))), ?_, fun hret => absurd hret (by decide)⟩
    rw [hreserved] at hports
    simp [Startup.guardOk, hports]
  obtain ⟨opened, c, f, k, hopen, hopened, hstrays⟩ :=
    openCaptures_turns s { h with udpGuard := g } hfresh.1 hfresh.2.1
  by_cases hcaptures : opened = 0
  swap
  · refine ⟨-1, g, c, f, h.switchDiscoveryTimer, _, k,
      Turns.andThen hcreate (turns_ite_neg (by decide) (Turns.andThen hreserve
        (turns_ite_neg (by simp [hports]) (Turns.followed (hopen.onto (guardTokens g))
          (turns_ite_pos hcaptures (turns_pure _ _)))))), ?_, fun hret => absurd hret (by decide)⟩
    rw [hopened] at hcaptures
    simp [Startup.guardOk, hcaptures]
  obtain ⟨ret, tm, N, hstart, hret, hspec⟩ := startDiscovery_turns s
    { h with udpGuard := g, captures := c, captureFormat := f }
  refine ⟨ret, g, c, f, tm, _, k,
    Turns.andThen hcreate (turns_ite_neg (by decide) (Turns.andThen hreserve
      (turns_ite_neg (by simp [hports]) (Turns.followed (hopen.onto (guardTokens g))
        (turns_ite_neg (by simp [hcaptures]) (hstart.onto _)))))), ?_, fun hzero => ?_⟩
  · rw [hret, Startup.guardOk, hallocated, hreserved.mp hports, hopened.mp hcaptures]
    simp
  · obtain ⟨rfl, htimer⟩ := hspec hzero
    refine ⟨?_, htimer, hstrays hcaptures⟩
    change timerTokens s + (captureTokens { h with captures := c, captureFormat := f } +
      guardTokens g) = _
    abel

/-- What the services change in the struct, and what they add to the account. -/
structure Served (s : Startup) (h t : Handles) (N : Multiset Resource) : Prop where
  held : N = guardTokens t.udpGuard + captureTokens t + (timerTokens s + gatewayTokens)
  gateway : t.gateway = some .session
  timer : s.discoverSwitch → t.switchDiscoveryTimer = some .session
  strays : captureStrays t = if s.capturePrefix then 0 else captureStrays h
  pcap : t.pcap = h.pcap
  zerotierPcap : t.zerotierPcap = h.zerotierPcap
  captures : t.capturesClosed = h.capturesClosed
  rule : t.firewallRule = h.firewallRule
  client : NoClient t

theorem gatewayInit_turns {h : Handles} (hlistening : h.listening = false) :
    Turns gatewayInit h 0 true { h with gateway := some .session, listening := true }
      gatewayTokens 0 := by
  unfold gatewayInit gatewayTokens
  refine Turns.andThen (turns_read _) (turns_ite_neg (by simp [hlistening]) ?_)
  refine Turns.andThen (turns_acquire _ _) (Turns.andThen (turns_acquire _ _) ?_)
  refine Turns.andThen (turns_acquire _ _) (Turns.andThen (turns_update _ _) ?_)
  exact Turns.cast (turns_pure _ _) rfl (by rw [add_zero]) rfl

/-- What a part of the start returns: nothing if it gets to the gateway of a process that
has one, 0 if it gets there and everything behind it succeeds. -/
def Returned (ret : Option Int) (reaches : Prop) (listening ok : Bool) : Prop :=
  (ret = none ↔ reaches ∧ listening) ∧ (ret = some 0 ↔ reaches ∧ !listening ∧ ok)

theorem initServices_turns (s : Startup) {h : Handles} (hfresh : Fresh h) :
    ∃ ret t N k, Turns (initServices s) h 0 ret t N k ∧
      Returned ret (s.socks5Server ≠ some false) h.listening s.guardOk ∧
      (ret = some 0 → Served s h t N) := by
  unfold initServices
  by_cases hsocks : s.socks5Server = some false
  · exact ⟨some (-1), h, 0, 0, turns_ite_pos hsocks (turns_pure _ _), by simp [Returned, hsocks],
      fun hret => absurd hret (by decide)⟩
  cases hlistening : h.listening with
  | true =>
    refine ⟨none, h, 0, 0, turns_ite_neg hsocks (Turns.andThen (a := false) (t := h) (N := 0) ?_
      (turns_pure _ _)), by simp [Returned, hsocks], fun hret => by cases hret⟩
    unfold gatewayInit
    exact Turns.andThen (turns_read _) (turns_ite_pos hlistening (turns_pure _ _))
  | false =>
    obtain ⟨ret, g, c, f, tm, N, k, hguard, hret, hspec⟩ := initGuard_turns s
      (h := { h with gateway := some .session, listening := true }) hfresh
    refine ⟨some ret, _, _, k, turns_ite_neg hsocks (Turns.andThen (gatewayInit_turns hlistening)
      (turns_ite_pos rfl (Turns.followed (hguard.onto _) (turns_pure _ _)))), ?_, fun hzero => ?_⟩
    · simp [Returned, hret, hsocks]
    · obtain ⟨rfl, htimer, hstrays⟩ := hspec (Option.some.inj hzero)
      refine ⟨?_, rfl, htimer, hstrays, rfl, rfl, rfl, rfl, hfresh.2.2⟩
      exact add_assoc _ _ _

theorem checkAdapters_turns (s : Startup) (subnetNet subnetMask : Ip4) {h : Handles}
    {M : Multiset Resource} (hpcap : h.pcap = some (s.wifi.opened s.windows))
    (hzerotier : h.zerotierPcap = some (s.zerotier.opened s.windows)) :
    Turns (checkAdapters subnetNet subnetMask) h M
      (if s.adaptersOk subnetNet subnetMask then 0 else -1) h M 0 := by
  unfold checkAdapters
  refine Turns.andThen (turns_read _) ?_
  rw [hpcap, hzerotier, Startup.adaptersOk]
  cases uvPcapGetMac (some (s.wifi.opened s.windows)) with
  | none => exact turns_pure _ _
  | some wifiMac =>
    cases uvPcapGetMac (some (s.zerotier.opened s.windows)) with
    | none => exact turns_pure _ _
    | some zerotierMac =>
      cases uvPcapGetIpv4 (some (s.zerotier.opened s.windows)) with
      | none => exact turns_pure _ _
      | some address =>
        obtain ⟨ip, mask⟩ := address
        by_cases hbad : maskIp ip subnetMask ≠ subnetNet ∨ wifiMac = noneMac ∨
            zerotierMac = noneMac
        · refine turns_ite_pos hbad ?_
          simp only [decide_eq_true hbad]
          exact turns_pure _ _
        · refine turns_ite_neg hbad ?_
          simp only [decide_eq_false hbad]
          exact turns_pure _ _

/-- The account of both captures. -/
def captureHandleTokens (s : Startup) (side : Side) (a : Adapters) : Multiset Resource :=
  interfaceTokens side (a.opened s.windows) + strandedTokens side (a.stranded s.windows)

theorem initZerotier_turns (s : Startup) (subnetNet subnetMask : Ip4) {h : Handles}
    (hfresh : Fresh h) (hpcap : h.pcap = some (s.wifi.opened s.windows)) :
    ∃ ret t N k, Turns (initZerotier s subnetNet subnetMask) h 0 ret t
        (N + captureHandleTokens s .zerotier s.zerotier) k ∧
      Returned ret (s.zerotier.opened s.windows ≠ [] ∧ s.adaptersOk subnetNet subnetMask ∧
        s.socks5Server ≠ some false) h.listening s.guardOk ∧
      (ret = some 0 → Served s { h with
        zerotierPcap := some (s.zerotier.opened s.windows), capturesClosed := false } t N) := by
  unfold initZerotier
  have hopen := uvPcapInit_turns s.windows .zerotier h s.zerotier
  let u : Handles :=
    { h with zerotierPcap := some (s.zerotier.opened s.windows), capturesClosed := false }
  by_cases hnone : s.zerotier.opened s.windows = []
  · refine ⟨some (-1), u, 0, 0, Turns.andThen hopen (turns_ite_pos (by simp [hnone]) ?_),
      by simp [Returned, hnone], fun hret => absurd hret (by decide)⟩
    rw [if_pos hnone]
    exact Turns.cast (turns_pure _ _) rfl (zero_add _).symm rfl
  have hcheck := checkAdapters_turns s subnetNet subnetMask (h := u)
    (M := captureHandleTokens s .zerotier s.zerotier) hpcap rfl
  by_cases hadapters : s.adaptersOk subnetNet subnetMask = true
  swap
  · refine ⟨some (-1), u, 0, 0, Turns.andThen hopen (turns_ite_neg (by simp [hnone]) (Turns.andThen
      hcheck (turns_ite_pos (by simp [hadapters]) ?_))), by simp [Returned, hadapters],
      fun hret => absurd hret (by decide)⟩
    rw [if_neg hadapters]
    exact Turns.cast (turns_pure _ _) rfl (zero_add _).symm rfl
  obtain ⟨ret, t, N, k, hserve, hret, hspec⟩ := initServices_turns s (h := u) hfresh
  refine ⟨ret, t, N, k, Turns.andThen hopen (turns_ite_neg (by simp [hnone]) (Turns.andThen hcheck
    (turns_ite_neg (by simp [hadapters]) (hserve.onto _)))), ?_, hspec⟩
  simpa [Returned, hnone, hadapters] using hret

/-- From the Wi-Fi capture on: once it is open, a failure keeps it. -/
theorem initCaptures_turns (s : Startup) (subnetNet subnetMask : Ip4) {h : Handles}
    (hfresh : Fresh h) :
    ∃ ret t N k, Turns (initCaptures s subnetNet subnetMask) h 0 ret t
        (N + captureHandleTokens s .wifi s.wifi) k ∧
      Returned ret (s.wifi.opened s.windows ≠ [] ∧ s.zerotier.opened s.windows ≠ [] ∧
        s.adaptersOk subnetNet subnetMask ∧ s.socks5Server ≠ some false) h.listening s.guardOk ∧
      (s.wifi.opened s.windows = [] → N = 0) ∧
      (ret = some 0 → ∃ N', N = N' + captureHandleTokens s .zerotier s.zerotier ∧
        Served s { h with
          pcap := some (s.wifi.opened s.windows)
          zerotierPcap := some (s.zerotier.opened s.windows)
          capturesClosed := false } t N') := by
  unfold initCaptures
  have hopen := uvPcapInit_turns s.windows .wifi h s.wifi
  by_cases hnone : s.wifi.opened s.windows = []
  · refine ⟨some (-1), { h with pcap := some (s.wifi.opened s.windows) }, 0, 0,
      Turns.andThen hopen (turns_ite_pos (by simp [hnone]) ?_), by simp [Returned, hnone],
      fun _ => rfl, fun hret => absurd hret (by decide)⟩
    rw [if_pos hnone]
    exact Turns.cast (turns_pure _ _) rfl (zero_add _).symm rfl
  obtain ⟨ret, t, N, k, hrest, hret, hspec⟩ := initZerotier_turns s subnetNet subnetMask
    (h := { h with pcap := some (s.wifi.opened s.windows) }) hfresh rfl
  refine ⟨ret, t, _, k, Turns.andThen hopen (turns_ite_neg (by simp [hnone]) (hrest.onto _)), ?_,
    fun h => absurd h hnone, fun hzero => ⟨N, rfl, hspec hzero⟩⟩
  simpa [Returned, hnone] using hret

/-- `lan_play_init` behind the firewall rule. -/
theorem lanPlayInit_eq (s : Startup) : lanPlayInit s = (do
    winfwSetHotspotDhcpBlock s.windows s.dhcpServer
    match s.network with
    | none => pure (some (-1))
    | some (subnetNet, subnetMask) => initCaptures s subnetNet subnetMask) := by
  unfold lanPlayInit Startup.network
  congr 1
  funext _
  by_cases hrelay : s.relayServer = some false
  · rw [if_pos hrelay, if_pos hrelay]
  rw [if_neg hrelay, if_neg hrelay]
  cases s.setup.network with
  | none => rfl
  | some network =>
    cases s.setup.gateway with
    | none => rfl
    | some gateway =>
      obtain ⟨subnetNet, subnetMask⟩ := network
      by_cases hin : maskIp gateway subnetMask ≠ subnetNet
      · simp only [if_pos hin]
      · simp only [if_neg hin]

theorem blockTokens_eq_zero {windows enable : Bool} :
    blockTokens windows enable = 0 ↔ !(windows && enable) := by
  unfold blockTokens
  cases windows && enable <;> simp

/-- The account of a start: all of a session's handles, or what the failure left. -/
theorem lanPlayInit_turns (s : Startup) {h : Handles} (hfresh : Fresh h)
    (hforeign : h.firewallRule ≠ some .session) :
    ∃ ret t N k, Turns (lanPlayInit s) h 0 ret t N k ∧
      Returned ret s.reachesGateway h.listening s.guardOk ∧
      (ret ≠ none → ret ≠ some 0 → (N = 0 ↔ s.failsEmpty)) ∧
      (ret = some 0 → N = runningTokens s t ∧ Running s t ∧
        captureStrays t = if s.capturePrefix then 0 else captureStrays h) := by
  have hrule := winfwSetHotspotDhcpBlock_turns s.windows s.dhcpServer h
  rw [tokenOf_of_ne hforeign, ite_self] at hrule
  rw [lanPlayInit_eq]
  cases hnetwork : s.network with
  | none =>
    refine ⟨some (-1), _, _, _, Turns.followed hrule (turns_pure _ _), ?_, fun _ _ => ?_,
      fun hret => absurd hret (by decide)⟩
    · simp [Returned, Startup.reachesGateway, hnetwork]
    · simp only [Startup.failsEmpty, hnetwork, blockTokens_eq_zero, Option.isNone_none,
        Bool.true_or, Bool.and_true]
  | some network =>
    obtain ⟨subnetNet, subnetMask⟩ := network
    obtain ⟨ret, t, N, k, hturns, hret, hnone, hspec⟩ := initCaptures_turns s subnetNet subnetMask
      (h := { h with firewallRule := ruleAfter s.windows s.dhcpServer h.firewallRule }) hfresh
    refine ⟨ret, t, _, _, Turns.bind hrule (hturns.onto _), ?_, fun _ _ => ?_, fun hzero => ?_⟩
    · simpa [Returned, Startup.reachesGateway, hnetwork, and_assoc] using hret
    · -- A capture that opened is still held, and so is a loop handle that did not start.
      simp only [Startup.failsEmpty, hnetwork, captureHandleTokens, add_eq_empty,
        interfaceTokens_eq_zero, strandedTokens_eq_zero, blockTokens_eq_zero,
        Option.isNone_some, Bool.false_or, Bool.and_eq_true, decide_eq_true_eq]
      constructor
      · rintro ⟨⟨-, hopened, hstranded⟩, hblock⟩
        exact ⟨hblock, hopened, hstranded⟩
      · rintro ⟨hblock, hopened, hstranded⟩
        exact ⟨⟨hnone hopened, hopened, hstranded⟩, hblock⟩
    · obtain ⟨N', rfl, hserved⟩ := hspec hzero
      refine ⟨?_, ⟨⟨hserved.gateway, hserved.timer, ?_, hserved.client⟩, hserved.pcap,
        hserved.zerotierPcap, hserved.captures⟩, hserved.strays⟩
      · rw [hserved.held, runningTokens, fixedTokens, captureHandleTokens, captureHandleTokens]
        abel
      · intro hwindows
        rw [hserved.rule]
        simp only [ruleAfter, hwindows, if_true]

end Grid0Relay.Lifecycle
