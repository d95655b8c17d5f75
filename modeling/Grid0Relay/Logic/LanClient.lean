import Grid0Relay.Lib.Chunks
import Grid0Relay.Relay.LanClient

/-!
# What the client does with a fragment

One lemma for each half of `lan_client_process_frag`: what it leaves when it stays inside its
buffers, and that it faults otherwise.
-/

namespace Grid0Relay.LanClient

open Lib Lib.Exec

theorem ofCode_code (type : ClientType) (payload : Bytes) :
    ClientType.ofCode (Bytes.byte (type.code :: payload) 0 &&& 0x7f) = some type := by
  rw [show Bytes.byte (type.code :: payload) 0 = type.code from rfl]
  cases type <;> decide

/-! ## Sending -/

theorem lanClientSendRaw_apply {env : Env} {bufs : List Bytes} (h : bufs.flatten.length ≠ 0)
    (c : Client) :
    lanClientSendRaw env bufs c = .ok (env.udpSend c.asked) (c.upload env bufs.flatten) := by
  rw [lanClientSendRaw, if_neg h]
  rfl

theorem sendParts_succ (env : Env) (id totalPart pmtu : Nat) (packet : Bytes) (fuel i pos : Nat)
    (c : Client) :
    sendParts env id totalPart pmtu packet (fuel + 1) i pos c =
      if packet.length ≤ pos then .ok 0 c
      else if env.udpSend c.asked ≠ 0 then
        .ok (env.udpSend c.asked) (c.upload env (partBufs id totalPart pmtu packet i pos).flatten)
      else sendParts env id totalPart pmtu packet fuel (i + 1)
        (pos + min pmtu (packet.length - pos))
        (c.upload env (partBufs id totalPart pmtu packet i pos).flatten) := by
  have hbufs : (partBufs id totalPart pmtu packet i pos).flatten.length ≠ 0 := by
    simp [partBufs]
  rw [sendParts]
  by_cases hpos : pos < packet.length
  · rw [if_pos hpos, if_neg (Nat.not_le.mpr hpos), bind_ok (lanClientSendRaw_apply hbufs c)]
    split <;> rfl
  · rw [if_neg hpos, if_pos (Nat.not_lt.mp hpos)]
    rfl

theorem lt_totalParts_iff {pmtu len i : Nat} (hpmtu : 0 < pmtu) :
    i < totalParts pmtu len ↔ pmtu * i < len := by
  have hle : pmtu * (len / pmtu) ≤ len := Nat.mul_div_le len pmtu
  unfold totalParts
  by_cases hrest : pmtu * (len / pmtu) < len
  · rw [if_pos hrest, Nat.lt_succ_iff]
    constructor
    · intro h
      exact Nat.lt_of_le_of_lt (Nat.mul_le_mul_left pmtu h) hrest
    · intro h
      exact (Nat.le_div_iff_mul_le hpmtu).mpr (by rw [Nat.mul_comm]; exact Nat.le_of_lt h)
  · have heq : pmtu * (len / pmtu) = len := by omega
    rw [if_neg hrest, ← Nat.mul_lt_mul_left hpmtu, heq]

/-- Fragment `i` of a packet as a datagram. -/
def fragment (id pmtu : Nat) (packet : Bytes) (i : Nat) : Bytes :=
  (partBufs id (totalParts pmtu packet.length) pmtu packet i (pmtu * i)).flatten

/-- The number of bytes fragment `i` brings. -/
def partLen (pmtu : Nat) (packet : Bytes) (i : Nat) : Nat := min pmtu (packet.length - pmtu * i)

def partHeader (id pmtu : Nat) (packet : Bytes) (i : Nat) : FragmentHeader :=
  ⟨packet.vecAt 4 12, packet.vecAt 4 16, id, i, totalParts pmtu packet.length,
    partLen pmtu packet i, pmtu⟩

/-- The bytes of a fragment behind its type. -/
def partPayload (id pmtu : Nat) (packet : Bytes) (i : Nat) : Bytes :=
  fragmentHeader (partHeader id pmtu packet i) ++ packet.slice (pmtu * i) (partLen pmtu packet i)

theorem fragment_eq (id pmtu : Nat) (packet : Bytes) (i : Nat) :
    fragment id pmtu packet i = ClientType.ipv4Frag.code :: partPayload id pmtu packet i := by
  rw [fragment, partBufs, List.flatten_cons, List.flatten_cons, List.flatten_cons,
    List.flatten_nil, List.append_nil]
  rfl

theorem length_fragmentHeader (header : FragmentHeader) :
    (fragmentHeader header).length = fragHeaderLen := by
  simp [fragmentHeader, fragHeaderLen]

theorem length_partPayload (id pmtu : Nat) (packet : Bytes) (i : Nat) :
    (partPayload id pmtu packet i).length = fragHeaderLen + partLen pmtu packet i := by
  rw [partPayload, List.length_append, length_fragmentHeader, Bytes.length_slice, partLen]
  omega

theorem net16_append_at {a : Bytes} {i : Nat} (v : Nat) (b : Bytes) (h : a.length = i) :
    Bytes.net16 (a ++ (Bytes.bytes16 v ++ b)) i = v % 65536 := by
  rw [Bytes.net16_append_right (Nat.le_of_eq h), h, Nat.sub_self,
    Bytes.net16_append_left (by simp), Bytes.net16_bytes16]

/-- The header is read as it was written, its identification with sixteen bits. -/
theorem readHeader_append (header : FragmentHeader) (data : Bytes) (hpart : header.part < 256)
    (htotal : header.totalPart < 256) (hlen : header.len < 65536) (hpmtu : header.pmtu < 65536) :
    readHeader (fragmentHeader header ++ data) = { header with id := header.id % 65536 } := by
  have hsrc : Bytes.vecAt 4 (fragmentHeader header ++ data) 0 = header.src := by
    simp only [fragmentHeader, List.append_assoc]
    exact @Bytes.vecAt_append_at 4 0 header.src [] _ rfl
  have hdst : Bytes.vecAt 4 (fragmentHeader header ++ data) 4 = header.dst := by
    simp only [fragmentHeader, List.append_assoc]
    exact Bytes.vecAt_append_at header.dst _ (by simp)
  have hid : Bytes.net16 (fragmentHeader header ++ data) 8 = header.id % 65536 := by
    unfold fragmentHeader
    iterate 4 rw [List.append_assoc]
    exact net16_append_at header.id _ (by simp)
  have hparts : ∀ k < 2, Bytes.byte (fragmentHeader header ++ data) (10 + k) =
      Bytes.byte [UInt8.ofNat header.part, UInt8.ofNat header.totalPart] k := by
    intro k hk
    unfold fragmentHeader
    iterate 3 rw [List.append_assoc]
    rw [Bytes.byte_append_right (by simp), Bytes.byte_append_left (by simpa using hk)]
    simp
  have hlen' : Bytes.net16 (fragmentHeader header ++ data) 12 = header.len := by
    rw [fragmentHeader, List.append_assoc, List.append_assoc]
    exact (net16_append_at header.len _ (by simp)).trans (Nat.mod_eq_of_lt hlen)
  have hpmtu' : Bytes.net16 (fragmentHeader header ++ data) 14 = header.pmtu := by
    rw [fragmentHeader, List.append_assoc]
    exact (net16_append_at header.pmtu _ (by simp)).trans (Nat.mod_eq_of_lt hpmtu)
  rw [readHeader, hsrc, hdst, hid, hlen', hpmtu', hparts 0 (by decide), hparts 1 (by decide)]
  exact congrArg₂ (fun part total : Nat => (⟨header.src, header.dst, header.id % 65536, part, total,
    header.len, header.pmtu⟩ : FragmentHeader)) (Bytes.toNat_ofNat_byte hpart)
    (Bytes.toNat_ofNat_byte htotal)

/-- The loop sends the fragments in their order, up to the first that is not taken. -/
theorem sendParts_sent {env : Env} {id pmtu : Nat} {packet : Bytes} (hpmtu : 0 < pmtu)
    (fuel : Nat) :
    ∀ (i pos : Nat) (c : Client), pos = min (pmtu * i) packet.length →
      packet.length < pos + fuel →
      ∃ n ret c', sendParts env id (totalParts pmtu packet.length) pmtu packet fuel i pos c =
          .ok ret c' ∧
        c'.sent = c.sent ++ (List.range' i n).map (fragment id pmtu packet) ∧
        i + n ≤ max i (totalParts pmtu packet.length) ∧
        ((∀ k, env.udpSend k = 0) → totalParts pmtu packet.length ≤ i + n) := by
  induction fuel with
  | zero =>
    intro i pos c hpos hfuel
    omega
  | succ fuel ih =>
    intro i pos c hpos hfuel
    have hnext := @lt_totalParts_iff pmtu packet.length i hpmtu
    rw [sendParts_succ]
    by_cases hend : packet.length ≤ pos
    · rw [if_pos hend]
      exact ⟨0, 0, c, rfl, (List.append_nil _).symm, by omega, fun _ => by omega⟩
    obtain rfl : pos = pmtu * i := by omega
    rw [if_neg hend]
    by_cases htaken : env.udpSend c.asked = 0
    · rw [if_neg (not_not.mpr htaken)]
      obtain ⟨n, ret, c', hrun, hsent, hle, hall⟩ :=
        ih (i + 1) (pmtu * i + min pmtu (packet.length - pmtu * i)) _
          (by rw [Nat.mul_succ]; omega) (by omega)
      refine ⟨n + 1, ret, c', hrun, ?_, by omega, fun h => by have := hall h; omega⟩
      rw [hsent, Client.upload, if_pos htaken, List.range'_succ, List.map_cons, List.append_assoc]
      rfl
    · rw [if_pos htaken]
      refine ⟨0, _, _, rfl, ?_, by omega, fun h => absurd (h _) htaken⟩
      rw [Client.upload, if_neg htaken]
      exact (List.append_nil _).symm

/-- The datagrams a client has sent since. -/
def newlySent (c c' : Client) : List Bytes := c'.sent.drop c.sent.length

theorem lanClientSend_fragments {env : Env} {packet : Bytes} {c : Client} (hpmtu : 0 < c.pmtu)
    (hlong : c.pmtu < packet.length) :
    ∃ n ret c', lanClientSend env .ipv4 packet c = .ok ret c' ∧
      c'.sent = c.sent ++ (List.range n).map (fragment c.nextId c.pmtu packet) ∧
      n ≤ totalParts c.pmtu packet.length ∧
      ((∀ k, env.udpSend k = 0) → n = totalParts c.pmtu packet.length) := by
  have htotal : 1 < totalParts c.pmtu packet.length :=
    (lt_totalParts_iff hpmtu).mpr (by rw [Nat.mul_one]; exact hlong)
  obtain ⟨n, ret, c', hrun, hsent, hle, hall⟩ :=
    @sendParts_sent env c.nextId c.pmtu packet hpmtu (packet.length + 1) 0 0
      { c with fragId := c.fragId + 1 } (by omega) (by omega)
  rw [← List.range_eq_range'] at hsent
  refine ⟨n, ret, c', ?_, hsent, by omega, fun h => by have := hall h; omega⟩
  unfold lanClientSend
  rw [bind_ok (get_apply c), if_pos ⟨rfl, hpmtu, htotal⟩, bind_ok (modify_apply _ c), hrun]

/-- What is not cut goes out in one datagram. -/
theorem lanClientSend_one {env : Env} {type : ClientType} {packet : Bytes} {c : Client}
    (h : type = .ipv4 → packet.length ≤ c.pmtu) :
    lanClientSend env type packet c =
      .ok (env.udpSend c.asked) (c.upload env (type.code :: packet)) := by
  have hone : ¬ (type = .ipv4 ∧ c.pmtu > 0 ∧ totalParts c.pmtu packet.length > 1) := by
    rintro ⟨htype, hpmtu, htotal⟩
    have := (lt_totalParts_iff hpmtu).mp htotal
    have := h htype
    omega
  unfold lanClientSend
  rw [bind_ok (get_apply c), if_neg hone, lanClientSendRaw_apply (by simp)]
  simp

/-! ## Slots -/

section Slots

variable (c : Client) (i : Fin fragCount) (f : Fragment)

@[simp] theorem setFrag_self : (c.setFrag i f).frags i = f := if_pos rfl

theorem setFrag_of_ne {j : Fin fragCount} (h : j ≠ i) : (c.setFrag i f).frags j = c.frags j :=
  if_neg h

theorem setFrag_setFrag (g : Fragment) : (c.setFrag i f).setFrag i g = c.setFrag i g := by
  unfold Client.setFrag
  congr 1
  funext j
  by_cases h : j = i
  · rw [if_pos h, if_pos h]
  · rw [if_neg h, if_neg h]
    exact if_neg h

theorem matching_eq_none {header : FragmentHeader} (h : c.matching header = none)
    {j : Fin fragCount} (hused : (c.frags j).used = true) (hid : (c.frags j).id = header.id) :
    (c.frags j).src ≠ header.src := by
  have := List.find?_eq_none.mp h j (List.mem_finRange j)
  simpa [hused, hid] using this

theorem claim_self (header : FragmentHeader) :
    (c.claim header i).frags i = c.claimed header i := if_pos rfl

theorem claim_of_ne (header : FragmentHeader) {j : Fin fragCount} (h : j ≠ i) :
    (c.claim header i).frags j = c.frags j := if_neg h

end Slots

/-! ## Storing a part -/

/-- What the fields of a part ask for is inside the datagram and the buffer. -/
structure PartInside (packet : Bytes) (header : FragmentHeader) : Prop where
  part : header.part < 32
  read : header.len = 0 ∨ fragHeaderLen + header.len ≤ packet.length
  write : header.len = 0 ∨ header.pmtu * header.part + header.len ≤ etherMtu

variable {packet : Bytes} {header : FragmentHeader} {i : Fin fragCount} {c : Client}

theorem length_slice_part (h : fragHeaderLen + header.len ≤ packet.length) :
    (packet.slice fragHeaderLen header.len).length = header.len := by
  rw [Bytes.length_slice]
  omega

theorem storePart_apply (packet : Bytes) (header : FragmentHeader) (i : Fin fragCount) (c : Client) :
    storePart packet header i c =
      if header.part ≥ 32 then .error .wideShift c
      else if header.len = 0 then .ok () (c.setFrag i ((c.frags i).mark header))
      else if fragHeaderLen + header.len > packet.length then .error .readOutside c
      else if h : header.pmtu * header.part +
          (packet.slice fragHeaderLen header.len).length ≤ etherMtu then
        .ok () (c.setFrag i (((c.frags i).mark header).copy (header.pmtu * header.part)
          (packet.slice fragHeaderLen header.len) h))
      else .error .writeOutside c := by
  unfold storePart
  rw [bind_ok (get_apply c)]
  split
  · rfl
  split
  · rfl
  split
  · rfl
  split <;> rfl

theorem storePart_inside (h : PartInside packet header) (i : Fin fragCount) (c : Client) :
    ∃ f, storePart packet header i c = .ok () (c.setFrag i f) ∧
      f = { (c.frags i).mark header with buffer := f.buffer, size := f.size } ∧
      f.buffer = if header.len = 0 then (c.frags i).buffer
        else (c.frags i).buffer.put (header.pmtu * header.part)
          (packet.slice fragHeaderLen header.len) := by
  rw [storePart_apply, if_neg (Nat.not_le.mpr h.part)]
  by_cases hlen : header.len = 0
  · rw [if_pos hlen]
    exact ⟨_, rfl, rfl, by rw [if_pos hlen]; rfl⟩
  · have hread := h.read.resolve_left hlen
    have hwrite := h.write.resolve_left hlen
    have hfit : header.pmtu * header.part +
        (packet.slice fragHeaderLen header.len).length ≤ etherMtu := by
      rw [length_slice_part hread]
      exact hwrite
    rw [if_neg hlen, if_neg (Nat.not_lt.mpr hread), dif_pos hfit]
    exact ⟨_, rfl, rfl, by rw [if_neg hlen]; rfl⟩

theorem storePart_outside (h : ¬ PartInside packet header) (i : Fin fragCount) (c : Client) :
    ∃ fault, storePart packet header i c = .error fault c := by
  rw [storePart_apply]
  by_cases hpart : header.part ≥ 32
  · rw [if_pos hpart]
    exact ⟨_, rfl⟩
  rw [if_neg hpart]
  by_cases hlen : header.len = 0
  · exact absurd ⟨by omega, Or.inl hlen, Or.inl hlen⟩ h
  rw [if_neg hlen]
  by_cases hread : fragHeaderLen + header.len > packet.length
  · rw [if_pos hread]
    exact ⟨_, rfl⟩
  rw [if_neg hread, dif_neg]
  · exact ⟨_, rfl⟩
  · intro hfit
    rw [length_slice_part (by omega)] at hfit
    exact h ⟨by omega, Or.inr (by omega), Or.inr hfit⟩

/-! ## Finishing a part -/

theorem lanClientProcess_buffer {f : Fragment} {len : Nat} (h : len ≤ etherMtu) (c : Client) :
    lanClientProcess f.buffer len c =
      .ok () { c with processed := c.processed ++ [f.buffer.take len] } := by
  have hsize := f.size
  unfold etherMtu at h hsize
  rw [lanClientProcess, if_neg (by unfold etherMtu; omega), if_neg (by omega)]
  rfl

theorem finishPart_apply (header : FragmentHeader) (i : Fin fragCount) (c : Client) :
    finishPart header i c =
      if header.totalPart ≥ 32 then
        .error .wideShift (c.setFrag i ((c.frags i).measure header))
      else if ((c.frags i).measure header).complete header then
        lanClientProcess ((c.frags i).measure header).buffer ((c.frags i).measure header).totalLen
          (c.setFrag i { (c.frags i).measure header with used := false })
      else .ok () (c.setFrag i ((c.frags i).measure header)) := by
  unfold finishPart
  rw [bind_ok (get_apply c), bind_ok (modify_apply _ c)]
  split
  · rfl
  split
  · rw [bind_ok (modify_apply _ _), setFrag_setFrag]
  · rfl

/-- The length of a packet that is complete fits the buffer. -/
def LengthInside (header : FragmentHeader) (f : Fragment) : Prop :=
  f.complete header = true → f.totalLen ≤ etherMtu

theorem finishPart_returns_iff (header : FragmentHeader) (i : Fin fragCount) (c : Client) :
    (∃ c', finishPart header i c = .ok () c') ↔
      header.totalPart < 32 ∧ LengthInside header ((c.frags i).measure header) := by
  rw [finishPart_apply]
  by_cases htotal : header.totalPart ≥ 32
  · rw [if_pos htotal]
    exact iff_of_false (fun ⟨_, h⟩ => by cases h) fun h => by omega
  rw [if_neg htotal, and_iff_right (Nat.not_le.mp htotal), LengthInside]
  by_cases hcomplete : ((c.frags i).measure header).complete header = true
  · rw [if_pos hcomplete]
    constructor
    · rintro ⟨c', h⟩ -
      by_contra hlong
      rw [lanClientProcess, if_pos (Nat.not_le.mp hlong)] at h
      cases h
    · intro h
      exact ⟨_, lanClientProcess_buffer (h hcomplete) _⟩
  · rw [if_neg hcomplete]
    exact iff_of_true ⟨_, rfl⟩ fun h => absurd h hcomplete

/-! ## One fragment -/

/-- What a fragment asks for in the slot it is given is inside the buffers. -/
structure FragmentInside (f : Fragment) (packet : Bytes) (header : FragmentHeader) : Prop
    extends PartInside packet header where
  total : header.totalPart < 32
  length : LengthInside header ((f.mark header).measure header)

theorem measure_buffer (f : Fragment) (buffer : Bytes) (size : buffer.length = etherMtu) :
    Fragment.measure header { f with buffer := buffer, size := size } =
      { f.measure header with buffer := buffer, size := size } := by
  unfold Fragment.measure
  split <;> rfl

theorem storeFinish_returns_iff (packet : Bytes) (header : FragmentHeader) (i : Fin fragCount)
    (c : Client) :
    (∃ c', (do storePart packet header i; finishPart header i) c = .ok () c') ↔
      FragmentInside (c.frags i) packet header := by
  by_cases hinside : PartInside packet header
  · obtain ⟨f, hstore, hf, -⟩ := storePart_inside hinside i c
    rw [bind_ok hstore, finishPart_returns_iff, setFrag_self, hf, measure_buffer]
    exact ⟨fun h => ⟨hinside, h.1, h.2⟩, fun h => ⟨h.total, h.length⟩⟩
  · obtain ⟨fault, hstore⟩ := storePart_outside hinside i c
    rw [bind_error hstore]
    exact iff_of_false (fun ⟨_, h⟩ => by cases h) fun h => hinside h.toPartInside

theorem lanClientProcessFrag_apply (h : fragHeaderLen ≤ packet.length) (c : Client) :
    lanClientProcessFrag packet c =
      match (c.place (readHeader packet)).1 with
      | some i => (do storePart packet (readHeader packet) i; finishPart (readHeader packet) i)
          (c.place (readHeader packet)).2
      | none => .ok () (c.place (readHeader packet)).2 := by
  rw [lanClientProcessFrag, if_neg (Nat.not_lt.mpr h), bind_ok (modifyGet_apply _ c)]
  cases (c.place (readHeader packet)).1 <;> rfl

theorem lanClientProcessFrag_returns_iff (packet : Bytes) (c : Client) :
    (∃ c', lanClientProcessFrag packet c = .ok () c') ↔
      fragHeaderLen ≤ packet.length ∧
        ∀ i, (c.place (readHeader packet)).1 = some i →
          FragmentInside ((c.place (readHeader packet)).2.frags i) packet (readHeader packet) := by
  by_cases hlen : fragHeaderLen ≤ packet.length
  · rw [lanClientProcessFrag_apply hlen, and_iff_right hlen]
    cases hslot : (c.place (readHeader packet)).1 with
    | none => exact iff_of_true ⟨_, rfl⟩ fun i hi => by cases hi
    | some i =>
      simp only [storeFinish_returns_iff, Option.some.injEq, forall_eq']
  · rw [lanClientProcessFrag, if_pos (Nat.not_le.mp hlen)]
    exact iff_of_false (fun ⟨_, h⟩ => by cases h) fun h => hlen h.1

/-! ## A client for examples -/

/-- A client that has just been set up. -/
def freshClient : Client where
  pmtu := 0
  fragId := 0
  localId := 0
  frags := fun _ => ⟨0, ip4 0 0 0 0, 0, 0, false, 0, List.replicate etherMtu 0, List.length_replicate⟩
  username := none
  key := []
  uploadPacket := 0
  uploadByte := 0
  downloadPacket := 0
  downloadByte := 0
  asked := 0
  sent := []
  processed := []

def calmEnv : Env := ⟨fun _ => 0, id⟩

end Grid0Relay.LanClient
