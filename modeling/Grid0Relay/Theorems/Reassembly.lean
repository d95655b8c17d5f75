import Grid0Relay.Logic.LanClient
import Mathlib.Data.Fintype.Card
import Mathlib.Data.Fintype.Sigma

/-!
# Putting packets together again

Packets of several clients arrive in pieces, in any order. As long as there are slots for those
that have begun, each is handed on once, with the bytes it was sent with, and leaves its slot.

What a slot holds is said by `Collects`, for the parts that have come so far; the rest is the
book-keeping of which packet has which slot.
-/

namespace Grid0Relay.LanClient

open Lib Lib.Exec

/-- A packet with the client that sends it. -/
structure Transmission where
  sender : Client
  packet : Bytes
  pmtu : 500 ≤ sender.pmtu
  lower : 20 ≤ packet.length
  upper : packet.length ≤ etherMtu

namespace Transmission

variable (t : Transmission)

/-- What `lan_client_send` makes of it. -/
def datagrams : List Bytes :=
  newlySent t.sender (after (lanClientSend calmEnv .ipv4 t.packet t.sender))

/-- The packet is sent in fragments. -/
def Long : Prop := t.sender.pmtu < t.packet.length

/-- The number on the wire. -/
def id : Nat := t.sender.nextId % 65536

def src : Ip4 := t.packet.vecAt 4 12

def total : Nat := totalParts t.sender.pmtu t.packet.length

theorem pmtu_pos : 0 < t.sender.pmtu := Nat.lt_of_lt_of_le (by decide) t.pmtu

theorem lt_total_iff {j : Nat} : j < t.total ↔ t.sender.pmtu * j < t.packet.length :=
  lt_totalParts_iff t.pmtu_pos

theorem total_le : t.total ≤ 3 := by
  by_contra h
  have hpmtu := t.pmtu
  have hupper := t.upper
  have hlast := t.lt_total_iff.mp (Nat.lt_of_not_le h)
  unfold etherMtu at hupper
  omega

variable {t}

theorem Long.one_lt_total (h : t.Long) : 1 < t.total :=
  t.lt_total_iff.mpr (by rw [Nat.mul_one]; exact h)

theorem datagrams_of_long (h : t.Long) :
    t.datagrams = (List.range t.total).map (fragment t.sender.nextId t.sender.pmtu t.packet) := by
  obtain ⟨n, ret, c', hsend, hsent, -, hall⟩ := @lanClientSend_fragments calmEnv _ _ t.pmtu_pos h
  obtain rfl := hall fun _ => rfl
  rw [datagrams, hsend]
  exact (congrArg (List.drop _) hsent).trans List.drop_left

theorem datagrams_of_short (h : ¬ t.Long) :
    t.datagrams = [ClientType.ipv4.code :: t.packet] := by
  rw [datagrams, lanClientSend_one fun _ => Nat.not_lt.mp h]
  exact List.drop_left

/-- The header of a fragment, as it is read. -/
def header (t : Transmission) (j : Nat) : FragmentHeader :=
  { partHeader t.sender.nextId t.sender.pmtu t.packet j with id := t.id }

/-- The bytes of a fragment behind its type. -/
def payload (t : Transmission) (j : Nat) : Bytes :=
  partPayload t.sender.nextId t.sender.pmtu t.packet j

theorem readHeader_payload (h : t.Long) {j : Nat} (hj : j < t.total) :
    readHeader (t.payload j) = t.header j := by
  have htotal := t.total_le
  have hupper := t.upper
  have hlong : t.sender.pmtu < t.packet.length := h
  have hlen : partLen t.sender.pmtu t.packet j ≤ t.packet.length := by
    unfold partLen
    omega
  unfold etherMtu at hupper
  refine readHeader_append _ _ ?_ ?_ ?_ ?_
  · change j < 256
    omega
  · change t.total < 256
    omega
  · change partLen t.sender.pmtu t.packet j < 65536
    omega
  · change t.sender.pmtu < 65536
    omega

end Transmission

/-! ## What a slot holds -/

/-- The slot is taken by this packet. -/
structure Keyed (t : Transmission) (f : Fragment) : Prop where
  id : f.id = t.id
  src : f.src = t.src

/-- The slot holds the parts of a packet that have come. -/
structure Collects (t : Transmission) (got : Nat → Prop) (f : Fragment) : Prop
    extends Keyed t f where
  bits : ∀ j, f.part.testBit j = true ↔ got j
  has : ∀ j, got j → Chunks.Has t.sender.pmtu t.packet f.buffer j
  length : got (t.total - 1) → f.totalLen = t.packet.length

theorem partInside {t : Transmission} {j : Nat} (hj : j < t.total) :
    PartInside (t.payload j) (t.header j) where
  part := Nat.lt_of_lt_of_le hj (Nat.le_trans t.total_le (by decide))
  read := Or.inr (Nat.le_of_eq (length_partPayload _ _ _ _).symm)
  write := by
    have hj' := t.lt_total_iff.mp hj
    have hupper := t.upper
    refine Or.inr ?_
    change t.sender.pmtu * j + partLen t.sender.pmtu t.packet j ≤ etherMtu
    unfold partLen
    omega

/-- What is behind the header is the piece of the packet. -/
theorem slice_payload (t : Transmission) (j : Nat) :
    (t.payload j).slice fragHeaderLen (t.header j).len = Chunks.chunk t.sender.pmtu t.packet j := by
  have hpiece : t.packet.slice (t.sender.pmtu * j) (partLen t.sender.pmtu t.packet j) =
      Chunks.chunk t.sender.pmtu t.packet j := by
    rw [Chunks.chunk, Bytes.slice, Bytes.slice, partLen, ← List.length_drop, ← List.take_eq_take_min]
  have hlen : (Chunks.chunk t.sender.pmtu t.packet j).length ≤ (t.header j).len :=
    Nat.le_of_eq Chunks.length_chunk
  rw [Transmission.payload, partPayload, hpiece, Bytes.slice,
    List.drop_left' (length_fragmentHeader _), List.take_of_length_le hlen]

theorem measure_eq (header : FragmentHeader) (f : Fragment) :
    f.measure header =
      { f with totalLen := if header.part + 1 = header.totalPart
          then ((header.totalPart - 1) * header.pmtu + header.len) % 65536 else f.totalLen } := by
  unfold Fragment.measure
  split <;> rfl

theorem testBit_mark (part j m : Nat) :
    ((part ||| 1 <<< j) % 256).testBit m = true ↔ m < 8 ∧ (part.testBit m = true ∨ m = j) := by
  rw [show 256 = 2 ^ 8 from rfl, Nat.testBit_mod_two_pow, Nat.testBit_or, Nat.one_shiftLeft,
    Nat.testBit_two_pow, Bool.and_eq_true, Bool.or_eq_true, decide_eq_true_iff,
    decide_eq_true_iff, @eq_comm _ j m]

section Slot

variable {t : Transmission} {got : Nat → Prop} {f f' : Fragment} {j : Nat}

/-- The length that the last part records. -/
theorem last_length (hlast : j + 1 = t.total) :
    ((t.total - 1) * t.sender.pmtu + partLen t.sender.pmtu t.packet j) % 65536 =
      t.packet.length := by
  have hj := t.lt_total_iff.mp (by omega : j < t.total)
  have hend := mt t.lt_total_iff.mpr (by omega : ¬ j + 1 < t.total)
  have hupper := t.upper
  rw [Nat.mul_succ] at hend
  unfold etherMtu at hupper
  rw [show t.total - 1 = j by omega, Nat.mul_comm, partLen]
  omega

/-- A part is stored: the slot holds one more. -/
theorem Collects.store (h : Collects t got f) (hgot : ∀ m, got m → m < t.total)
    (hj : j < t.total) (hf : f' = { f.mark (t.header j) with buffer := f'.buffer, size := f'.size })
    (hbuffer : f'.buffer = if (t.header j).len = 0 then f.buffer
      else f.buffer.put (t.sender.pmtu * j) ((t.payload j).slice fragHeaderLen (t.header j).len)) :
    Collects t (fun m => got m ∨ m = j) (f'.measure (t.header j)) := by
  have hj' := t.lt_total_iff.mp hj
  have htotal := t.total_le
  have hpmtu := t.pmtu
  have hupper := t.upper
  have hlen : (t.header j).len ≠ 0 := by
    change partLen t.sender.pmtu t.packet j ≠ 0
    unfold partLen
    omega
  rw [if_neg hlen, slice_payload] at hbuffer
  have hfit : t.sender.pmtu * j + (Chunks.chunk t.sender.pmtu t.packet j).length ≤
      f.buffer.length := by
    rw [f.size, Chunks.length_chunk]
    omega
  rw [measure_eq, hf]
  refine ⟨⟨h.id, h.src⟩, fun m => ?_, fun m hm => ?_, fun hm => ?_⟩
  · refine (testBit_mark f.part j m).trans ?_
    rw [h.bits]
    constructor
    · exact fun hm => hm.2
    · rintro (hm | rfl)
      · have := hgot m hm
        exact ⟨by omega, Or.inl hm⟩
      · exact ⟨by omega, Or.inr rfl⟩
  · change Chunks.Has t.sender.pmtu t.packet f'.buffer m
    rw [hbuffer]
    exact Chunks.has_put hfit (hm.symm.imp_right (h.has m))
  · by_cases hlast : j + 1 = t.total
    · exact (if_pos hlast).trans (last_length hlast)
    · refine (if_neg hlast).trans (h.length (hm.resolve_right ?_))
      omega

/-- The mask is full when every part has come. -/
theorem Collects.complete_iff (h : Collects t got f) (hgot : ∀ m, got m → m < t.total) :
    f.complete (t.header j) = true ↔ ∀ m < t.total, got m := by
  unfold Fragment.complete
  rw [decide_eq_true_iff]
  change 2 ^ t.total - 1 = f.part ↔ _
  constructor
  · intro heq m hm
    rw [← h.bits, ← heq, Nat.testBit_two_pow_sub_one]
    exact decide_eq_true hm
  · intro hall
    refine Nat.eq_of_testBit_eq fun m => Bool.eq_iff_iff.mpr ?_
    rw [Nat.testBit_two_pow_sub_one, decide_eq_true_iff, h.bits]
    exact ⟨hall m, hgot m⟩

/-- With every part, the packet is in front of the buffer. -/
theorem Collects.take_eq (h : Collects t got f) (hall : ∀ m < t.total, got m) :
    f.totalLen = t.packet.length ∧ f.buffer.take t.packet.length = t.packet := by
  have hpos : 0 < t.total := t.lt_total_iff.mpr (by have := t.lower; omega)
  refine ⟨h.length (hall _ (by omega)), Chunks.take_of_has t.pmtu_pos (fun m hm => ?_) ?_⟩
  · exact h.has m (hall m (t.lt_total_iff.mpr hm))
  · rw [f.size]
    exact t.upper

/-- A fragment comes to the slot of its packet: it stays there, or the packet is whole, is
handed on and leaves the slot. -/
theorem processFrag_collects {c c₁ : Client} {i : Fin fragCount} (hlong : t.Long)
    (hgot : ∀ m, got m → m < t.total) (hj : j < t.total)
    (hplace : c.place (t.header j) = (some i, c₁)) (h : Collects t got (c₁.frags i)) :
    ∃ f', Collects t (fun m => got m ∨ m = j) f' ∧ f'.used = (c₁.frags i).used ∧
      ((∀ m < t.total, got m ∨ m = j) ∧
          lanClientProcessFrag (t.payload j) c =
            .ok () { c₁.setFrag i { f' with used := false } with
              processed := c₁.processed ++ [t.packet] } ∨
        ¬ (∀ m < t.total, got m ∨ m = j) ∧
          lanClientProcessFrag (t.payload j) c = .ok () (c₁.setFrag i f')) := by
  obtain ⟨f, hstore, hf, hbuffer⟩ := storePart_inside (partInside hj) i c₁
  have hstored := h.store hgot hj hf hbuffer
  have hgot' : ∀ m, got m ∨ m = j → m < t.total := by
    rintro m (hm | rfl)
    · exact hgot m hm
    · exact hj
  have hlength : fragHeaderLen ≤ (t.payload j).length := by
    rw [Transmission.payload, length_partPayload]
    omega
  have hused : (f.measure (t.header j)).used = (c₁.frags i).used := by
    rw [measure_eq, hf]
    rfl
  have hshift : ¬ (t.header j).totalPart ≥ 32 := by
    have := t.total_le
    change ¬ t.total ≥ 32
    omega
  have hrun : lanClientProcessFrag (t.payload j) c =
      finishPart (t.header j) i (c₁.setFrag i f) := by
    rw [lanClientProcessFrag_apply hlength, Transmission.readHeader_payload hlong hj, hplace]
    exact bind_ok hstore
  rw [finishPart_apply, if_neg hshift, setFrag_self, setFrag_setFrag, setFrag_setFrag] at hrun
  refine ⟨f.measure (t.header j), hstored, hused, ?_⟩
  by_cases hall : ∀ m < t.total, got m ∨ m = j
  · obtain ⟨hlen, htake⟩ := hstored.take_eq hall
    rw [if_pos ((hstored.complete_iff hgot').mpr hall), hlen, lanClientProcess_buffer t.upper,
      htake] at hrun
    exact Or.inl ⟨hall, hrun⟩
  · rw [if_neg (mt (hstored.complete_iff hgot').mp hall)] at hrun
    exact Or.inr ⟨hall, hrun⟩

end Slot

/-! ## Many packets -/

section Deliveries

variable {n : Nat} (ts : Fin n → Transmission)

/-- A datagram of one of the packets. -/
abbrev Part : Type := (k : Fin n) × Fin (ts k).datagrams.length

def datagramOf (p : Part ts) : Bytes := (ts p.1).datagrams.getD p.2 []

/-- This datagram of the packet has come. -/
def Got (past : List (Part ts)) (k : Fin n) (j : Nat) : Prop :=
  ∃ h : j < (ts k).datagrams.length, ⟨k, ⟨j, h⟩⟩ ∈ past

instance (past : List (Part ts)) (k : Fin n) (j : Nat) : Decidable (Got ts past k j) :=
  inferInstanceAs (Decidable (∃ _, _))

def Complete (past : List (Part ts)) (k : Fin n) : Prop :=
  ∀ j < (ts k).datagrams.length, Got ts past k j

instance (past : List (Part ts)) (k : Fin n) : Decidable (Complete ts past k) :=
  inferInstanceAs (Decidable (∀ _ < _, _))

/-- Some of the datagrams have come, and some not. -/
def Incomplete (past : List (Part ts)) (k : Fin n) : Prop :=
  (∃ j < (ts k).datagrams.length, Got ts past k j) ∧ ¬ Complete ts past k

instance (past : List (Part ts)) (k : Fin n) : Decidable (Incomplete ts past k) :=
  inferInstanceAs (Decidable (_ ∧ _))

/-- There are slots for the packets begun. -/
def Room (past : List (Part ts)) : Prop :=
  (Finset.univ.filter fun k => Incomplete ts past k).card ≤ fragCount

/-- No other packet in fragments has this source and number. -/
def OnlyKey (k : Fin n) : Prop :=
  ∀ k', (ts k').Long → (ts k).id = (ts k').id → (ts k).src = (ts k').src → k = k'

/-- The order in which the datagrams of all packets arrive: each once, never more packets begun
than there are slots, and no two packets in fragments with the same source and number. -/
structure Course (order : List (Part ts)) : Prop where
  once : order.Nodup
  all : ∀ p, p ∈ order
  room : ∀ past, past <+: order →
    (Finset.univ.filter fun k => Incomplete ts past k).card ≤ fragCount
  keys : ∀ k k', (ts k).Long → (ts k').Long → (ts k).id = (ts k').id → (ts k).src = (ts k').src →
    k = k'

/-- One datagram after the other is received. -/
def receive (env : Env) : List Bytes → ClientM Unit
  | [] => pure ()
  | datagram :: rest => do
    lanClientOnRecv env datagram
    receive env rest

variable {ts} {past : List (Part ts)} {k k' : Fin n}

theorem got_concat (p : Part ts) (j : Nat) :
    Got ts (past ++ [p]) k j ↔ Got ts past k j ∨ ∃ h, p = ⟨k, ⟨j, h⟩⟩ := by
  unfold Got
  simp only [List.mem_append, List.mem_singleton, exists_or, eq_comm]

theorem got_concat_self {j : Fin (ts k).datagrams.length} :
    Got ts (past ++ [⟨k, j⟩]) k = fun m => Got ts past k m ∨ m = j := by
  funext m
  refine propext ((got_concat _ m).trans (or_congr_right ?_))
  constructor
  · rintro ⟨h, heq⟩
    cases heq
    rfl
  · rintro rfl
    exact ⟨j.2, rfl⟩

theorem got_concat_of_ne {p : Part ts} (h : p.1 ≠ k) : Got ts (past ++ [p]) k = Got ts past k := by
  funext m
  refine propext ((got_concat p m).trans (or_iff_left ?_))
  rintro ⟨_, rfl⟩
  exact h rfl

theorem complete_concat_of_ne {p : Part ts} (h : p.1 ≠ k) :
    Complete ts (past ++ [p]) k ↔ Complete ts past k := by
  rw [Complete, Complete, got_concat_of_ne h]

theorem incomplete_concat_of_ne {p : Part ts} (h : p.1 ≠ k) :
    Incomplete ts (past ++ [p]) k ↔ Incomplete ts past k := by
  rw [Incomplete, Incomplete, got_concat_of_ne h, complete_concat_of_ne h]

theorem not_complete_of_notMem {p : Part ts} (h : p ∉ past) : ¬ Complete ts past p.1 := fun hall => by
  obtain ⟨_, hmem⟩ := hall p.2 p.2.2
  exact h hmem

theorem length_datagrams_of_long (h : (ts k).Long) : (ts k).datagrams.length = (ts k).total := by
  rw [Transmission.datagrams_of_long h, List.length_map, List.length_range]

theorem complete_iff_of_long (h : (ts k).Long) :
    Complete ts past k ↔ ∀ j < (ts k).total, Got ts past k j := by
  rw [Complete, length_datagrams_of_long h]

/-- A packet of one datagram is never incomplete. -/
theorem Incomplete.long (h : Incomplete ts past k) : (ts k).Long := by
  by_contra hshort
  obtain ⟨⟨j, hj, hgot⟩, hrest⟩ := h
  refine hrest fun m hm => ?_
  rw [Transmission.datagrams_of_short hshort, List.length_singleton] at hj hm
  rwa [show m = j by omega]

/-- The slot is used for this packet. -/
structure Slot (past : List (Part ts)) (c : Client) (i : Fin fragCount) (k : Fin n) : Prop where
  used : (c.frags i).used = true
  incomplete : Incomplete ts past k
  collects : Collects (ts k) (Got ts past k) (c.frags i)

/-- Between two datagrams: who has which slot, and which packets have been handed on. -/
structure Inv (ts : Fin n → Transmission) (c₀ : Client) (past : List (Part ts)) (c : Client)
    (done : List (Fin n)) : Prop where
  processed : c.processed = c₀.processed ++ done.map fun k => (ts k).packet
  nodup : done.Nodup
  mem : ∀ k, k ∈ done ↔ Complete ts past k
  slots : ∀ i, (c.frags i).used = true → ∃ k, Slot past c i k
  held : ∀ k, Incomplete ts past k → ∃ i, Slot past c i k
  distinct : ∀ i i' k, Slot past c i k → Slot past c i' k → i = i'

/-- The slot of a packet is no other, and of no other. -/
structure Own (past : List (Part ts)) (c : Client) (k : Fin n) (i : Fin fragCount) : Prop where
  only : ∀ i', Slot past c i' k → i' = i
  mine : ∀ k', Slot past c i k' → k' = k

section Place

variable {c₀ c : Client} {done : List (Fin n)}

theorem complete_nil (k : Fin n) : ¬ Complete ts [] k := by
  intro hall
  have hpos : 0 < (ts k).datagrams.length := by
    by_cases h : (ts k).Long
    · have := h.one_lt_total
      rw [length_datagrams_of_long h]
      omega
    · rw [Transmission.datagrams_of_short h]
      exact Nat.one_pos
  obtain ⟨_, hmem⟩ := hall 0 hpos
  cases hmem

theorem inv_nil (hfree : ∀ i, (c.frags i).used = false) : Inv ts c [] c [] := by
  have hnone : ∀ i k, ¬ Slot ([] : List (Part ts)) c i k := fun i k h =>
    Bool.false_ne_true ((hfree i).symm.trans h.used)
  refine ⟨(List.append_nil _).symm, List.nodup_nil, fun k => ?_, fun i hi => ?_, ?_, ?_⟩
  · exact iff_of_false List.not_mem_nil (complete_nil k)
  · rw [hfree i] at hi
    cases hi
  · rintro k ⟨⟨j, _, _, hmem⟩, -⟩
    cases hmem
  · exact fun i i' k h => absurd h (hnone i k)

/-- A used slot with the key of a packet in fragments is the slot of that packet. -/
theorem Inv.slot_of_keyed (h : Inv ts c₀ past c done)
    (keys : OnlyKey ts k)
    {i : Fin fragCount} (hused : (c.frags i).used = true) (hkey : Keyed (ts k) (c.frags i)) :
    Slot past c i k := by
  obtain ⟨k', hslot⟩ := h.slots i hused
  have hsame : k = k' := keys k' hslot.incomplete.long (hkey.id.symm.trans hslot.collects.id)
    (hkey.src.symm.trans hslot.collects.src)
  exact hsame ▸ hslot

theorem matching_eq_some {header : FragmentHeader} {i : Fin fragCount}
    (h : c.matching header = some i) :
    (c.frags i).used = true ∧ (c.frags i).id = header.id ∧ (c.frags i).src = header.src := by
  have := List.find?_some h
  simpa [and_assoc] using this

/-- Of a packet that is neither complete nor incomplete, nothing has come. -/
theorem not_got_of_not_incomplete {p : Part ts} (hp : p ∉ past) (h : ¬ Incomplete ts past p.1)
    (j : Nat) : ¬ Got ts past p.1 j := fun hgot =>
  h ⟨⟨j, hgot.1, hgot⟩, not_complete_of_notMem hp⟩

theorem incomplete_first {p : Part ts} (hlong : (ts p.1).Long)
    (hnone : ∀ j, ¬ Got ts past p.1 j) : Incomplete ts (past ++ [p]) p.1 := by
  have htotal := hlong.one_lt_total
  have hgot : ∀ m, Got ts (past ++ [p]) p.1 m ↔ m = p.2 := fun m => by
    rw [show p = ⟨p.1, p.2⟩ from rfl, got_concat_self]
    exact or_iff_right (hnone m)
  refine ⟨⟨p.2, p.2.2, (hgot p.2).mpr rfl⟩, fun hall => ?_⟩
  -- the first or the second part is missing
  rw [complete_iff_of_long hlong] at hall
  have h₀ := (hgot 0).mp (hall 0 (by omega))
  have h₁ := (hgot 1).mp (hall 1 htotal)
  omega

/-- There is a slot for a packet that begins. -/
theorem Inv.exists_unused (h : Inv ts c₀ past c done) {p : Part ts} (hp : p ∉ past)
    (hlong : (ts p.1).Long) (hnew : ¬ Incomplete ts past p.1)
    (room : Room ts (past ++ [p])) :
    ∃ i, c.unused = some i := by
  by_contra hnone
  have hall : ∀ i, (c.frags i).used = true := fun i => by
    have hfind : c.unused = none := Option.eq_none_iff_forall_ne_some.mpr (not_exists.mp hnone)
    have := List.find?_eq_none.mp hfind i (List.mem_finRange i)
    simpa using this
  choose owner howner using fun i => h.slots i (hall i)
  have hinjective : Function.Injective owner := fun i i' heq =>
    h.distinct i i' (owner i) (howner i) (heq ▸ howner i')
  have hother : ∀ i, owner i ≠ p.1 := fun i heq =>
    hnew (heq ▸ (howner i).incomplete)
  -- a hundred packets and the new one
  have hsubset : insert p.1 (Finset.univ.image owner) ⊆
      Finset.univ.filter fun k => Incomplete ts (past ++ [p]) k := by
    intro k hk
    refine Finset.mem_filter.mpr ⟨Finset.mem_univ k, ?_⟩
    rcases Finset.mem_insert.mp hk with rfl | hk
    · exact incomplete_first hlong (not_got_of_not_incomplete hp hnew)
    · obtain ⟨i, -, rfl⟩ := Finset.mem_image.mp hk
      exact (incomplete_concat_of_ne (hother i).symm).mpr (howner i).incomplete
  have hcard := Finset.card_le_card hsubset
  rw [Finset.card_insert_of_notMem, Finset.card_image_of_injective _ hinjective, Finset.card_univ,
    Fintype.card_fin] at hcard
  · exact absurd (Nat.le_trans hcard room) (Nat.not_succ_le_self _)
  · intro hmem
    obtain ⟨i, -, heq⟩ := Finset.mem_image.mp hmem
    exact hother i heq

/-- The slot a fragment comes to. -/
theorem Inv.place (h : Inv ts c₀ past c done) {p : Part ts} (hp : p ∉ past)
    (hlong : (ts p.1).Long)
    (keys : OnlyKey ts p.1) (room : Room ts (past ++ [p])) :
    ∃ i c₁, c.place ((ts p.1).header p.2) = (some i, c₁) ∧
      Collects (ts p.1) (Got ts past p.1) (c₁.frags i) ∧ (c₁.frags i).used = true ∧
      c₁.processed = c.processed ∧ (∀ i', i' ≠ i → c₁.frags i' = c.frags i') ∧ Own past c p.1 i := by
  unfold Client.place
  cases hmatch : c.matching ((ts p.1).header p.2) with
  | some i =>
    obtain ⟨hused, hid, hsrc⟩ := matching_eq_some hmatch
    have hslot := h.slot_of_keyed keys hused ⟨hid, hsrc⟩
    refine ⟨i, c, rfl, hslot.collects, hused, rfl, fun _ _ => rfl, ?_, ?_⟩
    · exact fun i' hslot' => h.distinct i' i _ hslot' hslot
    · intro k hslot'
      exact (keys k hslot'.incomplete.long (hid.symm.trans hslot'.collects.id)
        (hsrc.symm.trans hslot'.collects.src)).symm
  | none =>
    have hnew : ∀ i, ¬ Slot past c i p.1 := fun i hslot =>
      matching_eq_none c hmatch hslot.used hslot.collects.id hslot.collects.src
    have hbegins : ¬ Incomplete ts past p.1 := fun hincomplete => by
      obtain ⟨i, hslot⟩ := h.held p.1 hincomplete
      exact hnew i hslot
    have hnone := not_got_of_not_incomplete hp hbegins
    obtain ⟨i, hunused⟩ := h.exists_unused hp hlong hbegins room
    rw [hunused]
    refine ⟨i, c.claim ((ts p.1).header p.2) i, rfl, ?_, ?_, rfl,
      fun i' hne => claim_of_ne c i _ hne, fun i' hslot => absurd hslot (hnew i'), ?_⟩
    · rw [claim_self]
      exact ⟨⟨rfl, rfl⟩, fun j => iff_of_false (by simp [Client.claimed]) (hnone j),
        fun j hj => absurd hj (hnone j), fun hj => absurd hj (hnone _)⟩
    · rw [claim_self]
      rfl
    · intro k hslot
      have hfree := List.find?_some hunused
      rw [hslot.used] at hfree
      cases hfree

end Place

section Step

variable {c₀ c : Client} {done : List (Fin n)} {p : Part ts}

/-- A slot of another packet is not touched. -/
theorem Slot.frame {c' : Client} {i : Fin fragCount} (h : Slot past c i k) (hk : p.1 ≠ k)
    (hframe : c'.frags i = c.frags i) : Slot (past ++ [p]) c' i k := by
  refine ⟨hframe ▸ h.used, (incomplete_concat_of_ne hk).mpr h.incomplete, ?_⟩
  rw [got_concat_of_ne hk, hframe]
  exact h.collects

theorem Slot.unframe {c' : Client} {i : Fin fragCount} (h : Slot (past ++ [p]) c' i k)
    (hk : p.1 ≠ k) (hframe : c'.frags i = c.frags i) : Slot past c i k := by
  refine ⟨hframe ▸ h.used, (incomplete_concat_of_ne hk).mp h.incomplete, ?_⟩
  have hcollects := h.collects
  rw [got_concat_of_ne hk, hframe] at hcollects
  exact hcollects

/-- The packet of the datagram is complete now. -/
theorem Inv.concat_done (h : Inv ts c₀ past c done) (hp : p ∉ past)
    (hcomplete : Complete ts (past ++ [p]) p.1) :
    (done ++ [p.1]).Nodup ∧ ∀ k, k ∈ done ++ [p.1] ↔ Complete ts (past ++ [p]) k := by
  have hnew : p.1 ∉ done := fun hmem => not_complete_of_notMem hp ((h.mem p.1).mp hmem)
  refine ⟨List.nodup_append.mpr ⟨h.nodup, List.nodup_singleton _, ?_⟩, fun k => ?_⟩
  · rintro k hk k' hk' rfl
    exact hnew (List.mem_singleton.mp hk' ▸ hk)
  · rw [List.mem_append, List.mem_singleton]
    by_cases hk : p.1 = k
    · subst hk
      exact iff_of_true (Or.inr rfl) hcomplete
    · rw [complete_concat_of_ne hk, h.mem]
      exact or_iff_left fun heq => hk heq.symm

/-- The packet of the datagram is not complete yet. -/
theorem Inv.concat_mem (h : Inv ts c₀ past c done) (hp : p ∉ past)
    (hcomplete : ¬ Complete ts (past ++ [p]) p.1) (k : Fin n) :
    k ∈ done ↔ Complete ts (past ++ [p]) k := by
  by_cases hk : p.1 = k
  · subst hk
    exact iff_of_false (fun hmem => not_complete_of_notMem hp ((h.mem p.1).mp hmem)) hcomplete
  · rw [complete_concat_of_ne hk, h.mem]

/-- The packet of the datagram leaves its slot, or has none. -/
theorem Inv.leave {c' : Client} (h : Inv ts c₀ past c done) (hp : p ∉ past)
    (hcomplete : Complete ts (past ++ [p]) p.1)
    (hprocessed : c'.processed = c.processed ++ [(ts p.1).packet])
    (hframe : ∀ i, (c'.frags i).used = true → c'.frags i = c.frags i ∧ ¬ Slot past c i p.1)
    (hkept : ∀ i k, Slot past c i k → p.1 ≠ k → c'.frags i = c.frags i) :
    Inv ts c₀ (past ++ [p]) c' (done ++ [p.1]) := by
  obtain ⟨hnodup, hmem⟩ := h.concat_done hp hcomplete
  have hne : ∀ k, Incomplete ts (past ++ [p]) k → p.1 ≠ k := by
    rintro k hincomplete rfl
    exact hincomplete.2 hcomplete
  refine ⟨?_, hnodup, hmem, fun i hused => ?_, fun k hincomplete => ?_, fun i i' k hi hi' => ?_⟩
  · rw [hprocessed, h.processed, List.map_append, List.append_assoc]
    rfl
  · obtain ⟨heq, hnot⟩ := hframe i hused
    obtain ⟨k, hslot⟩ := h.slots i (heq ▸ hused)
    refine ⟨k, hslot.frame ?_ heq⟩
    rintro rfl
    exact hnot hslot
  · obtain ⟨i, hslot⟩ := h.held k ((incomplete_concat_of_ne (hne k hincomplete)).mp hincomplete)
    exact ⟨i, hslot.frame (hne k hincomplete) (hkept i k hslot (hne k hincomplete))⟩
  · have hk := hne k hi.incomplete
    exact h.distinct i i' k (hi.unframe hk (hframe i hi.used).1)
      (hi'.unframe hk (hframe i' hi'.used).1)

/-- The packet of the datagram stays in its slot. -/
theorem Inv.stay {c' : Client} {i : Fin fragCount} (h : Inv ts c₀ past c done) (hp : p ∉ past)
    (keys : OnlyKey ts p.1)
    (hprocessed : c'.processed = c.processed) (hslot : Slot (past ++ [p]) c' i p.1)
    (hown : Own past c p.1 i) (hframe : ∀ i', i' ≠ i → c'.frags i' = c.frags i') :
    Inv ts c₀ (past ++ [p]) c' done := by
  -- its slot is the only one it has, and that slot has no other packet
  have honly : ∀ i', Slot (past ++ [p]) c' i' p.1 → i' = i := fun i' hi' => by
    by_contra hne
    have heq := hframe i' hne
    have hold := h.slot_of_keyed keys (heq ▸ hi'.used)
      (heq ▸ hi'.collects.toKeyed : Keyed (ts p.1) (c.frags i'))
    exact hne (hown.only i' hold)
  have hmine : ∀ k, Slot (past ++ [p]) c' i k → p.1 = k := fun k hk =>
    keys k hk.incomplete.long (hslot.collects.id.symm.trans hk.collects.id)
      (hslot.collects.src.symm.trans hk.collects.src)
  refine ⟨hprocessed.trans h.processed, h.nodup, h.concat_mem hp hslot.incomplete.2,
    fun i' hused => ?_, fun k hincomplete => ?_, fun i₁ i₂ k h₁ h₂ => ?_⟩
  · by_cases hi : i' = i
    · exact ⟨p.1, hi ▸ hslot⟩
    · have heq := hframe i' hi
      obtain ⟨k, hold⟩ := h.slots i' (heq ▸ hused)
      refine ⟨k, hold.frame ?_ heq⟩
      rintro rfl
      exact hi (hown.only i' hold)
  · by_cases hk : p.1 = k
    · exact ⟨i, hk ▸ hslot⟩
    · obtain ⟨i', hold⟩ := h.held k ((incomplete_concat_of_ne hk).mp hincomplete)
      refine ⟨i', hold.frame hk (hframe i' ?_)⟩
      rintro rfl
      exact hk (hown.mine k hold).symm
  · by_cases hk : p.1 = k
    · subst hk
      exact (honly i₁ h₁).trans (honly i₂ h₂).symm
    · have hne : ∀ i', Slot (past ++ [p]) c' i' k → i' ≠ i := fun i' hi' heq =>
        hk (hmine k (heq ▸ hi'))
      exact h.distinct i₁ i₂ k (h₁.unframe hk (hframe i₁ (hne i₁ h₁)))
        (h₂.unframe hk (hframe i₂ (hne i₂ h₂)))

theorem datagramOf_of_short (hshort : ¬ (ts p.1).Long) :
    datagramOf ts p = ClientType.ipv4.code :: (ts p.1).packet := by
  have hdatagrams := Transmission.datagrams_of_short hshort
  have hlt : (p.2 : Nat) < 1 := Nat.lt_of_lt_of_eq p.2.2 (congrArg List.length hdatagrams)
  unfold datagramOf
  generalize (p.2 : Nat) = j at hlt
  rw [hdatagrams, show j = 0 by omega]
  rfl

theorem lt_total_of_long (hlong : (ts p.1).Long) : (p.2 : Nat) < (ts p.1).total :=
  Nat.lt_of_lt_of_eq p.2.2 (length_datagrams_of_long hlong)

theorem datagramOf_of_long (hlong : (ts p.1).Long) :
    datagramOf ts p = ClientType.ipv4Frag.code :: (ts p.1).payload p.2 := by
  have hlt := lt_total_of_long hlong
  unfold datagramOf
  generalize (p.2 : Nat) = j at hlt
  rw [Transmission.datagrams_of_long hlong, List.getD_eq_getElem?_getD, List.getElem?_map,
    List.getElem?_range hlt]
  exact fragment_eq _ _ _ _

theorem onRecv_whole (env : Env) {packet : Bytes} (hlower : 20 ≤ packet.length)
    (hupper : packet.length ≤ etherMtu) (c : Client) :
    lanClientOnRecv env (ClientType.ipv4.code :: packet) c =
      .ok () { c.countDownload (ClientType.ipv4.code :: packet) with
        processed := c.processed ++ [packet] } := by
  rw [lanClientOnRecv, if_neg (by simp), bind_ok (modify_apply _ c), ofCode_code]
  change lanClientProcess packet packet.length _ = _
  rw [lanClientProcess, if_neg (Nat.not_lt.mpr hupper), if_neg (by omega), List.take_length]
  rfl

theorem onRecv_fragment (env : Env) (payload : Bytes) (c : Client) :
    lanClientOnRecv env (ClientType.ipv4Frag.code :: payload) c =
      lanClientProcessFrag payload (c.countDownload (ClientType.ipv4Frag.code :: payload)) := by
  rw [lanClientOnRecv, if_neg (by simp), bind_ok (modify_apply _ c), ofCode_code]
  rfl

/-- Counting the download keeps the invariant. -/
theorem Inv.countDownload (h : Inv ts c₀ past c done) (datagram : Bytes) :
    Inv ts c₀ past (c.countDownload datagram) done := by
  have hslot : ∀ i k, Slot past (c.countDownload datagram) i k ↔ Slot past c i k := fun i k =>
    ⟨fun hs => ⟨hs.used, hs.incomplete, hs.collects⟩, fun hs => ⟨hs.used, hs.incomplete, hs.collects⟩⟩
  refine ⟨h.processed, h.nodup, h.mem, fun i hused => ?_, fun k hk => ?_, fun i i' k hi hi' => ?_⟩
  · exact (h.slots i hused).imp fun k => (hslot i k).mpr
  · exact (h.held k hk).imp fun i => (hslot i k).mpr
  · exact h.distinct i i' k ((hslot i k).mp hi) ((hslot i' k).mp hi')

/-- A whole packet goes by the slots. -/
theorem Inv.step_short (env : Env) (h : Inv ts c₀ past c done) (hp : p ∉ past)
    (hshort : ¬ (ts p.1).Long) :
    ∃ c' done', lanClientOnRecv env (datagramOf ts p) c = .ok () c' ∧
      Inv ts c₀ (past ++ [p]) c' done' := by
  have hcomplete : Complete ts (past ++ [p]) p.1 := by
    by_contra hrest
    refine hshort (@Incomplete.long n ts (past ++ [p]) p.1 ⟨⟨p.2, p.2.2, ?_⟩, hrest⟩)
    exact ⟨p.2.2, List.mem_append_right _ (List.mem_singleton.mpr rfl)⟩
  rw [datagramOf_of_short hshort, onRecv_whole env (ts p.1).lower (ts p.1).upper c]
  exact ⟨_, done ++ [p.1], rfl, h.leave hp hcomplete rfl
    (fun i _ => ⟨rfl, fun hslot => hshort hslot.incomplete.long⟩) fun _ _ _ _ => rfl⟩

/-- A fragment comes to its slot. -/
theorem Inv.step_long (env : Env) (h : Inv ts c₀ past c done) (hp : p ∉ past)
    (hlong : (ts p.1).Long)
    (keys : OnlyKey ts p.1) (room : Room ts (past ++ [p])) :
    ∃ c' done', lanClientOnRecv env (datagramOf ts p) c = .ok () c' ∧
      Inv ts c₀ (past ++ [p]) c' done' := by
  have hgot : ∀ m, Got ts past p.1 m → m < (ts p.1).total := fun m hm =>
    Nat.lt_of_lt_of_eq hm.1 (length_datagrams_of_long hlong)
  have hgot' : Got ts (past ++ [p]) p.1 = fun m => Got ts past p.1 m ∨ m = p.2 := got_concat_self
  have hall : Complete ts (past ++ [p]) p.1 ↔
      ∀ m < (ts p.1).total, Got ts past p.1 m ∨ m = p.2 := by
    rw [complete_iff_of_long hlong, hgot']
  rw [datagramOf_of_long hlong, onRecv_fragment]
  have h := h.countDownload (ClientType.ipv4Frag.code :: (ts p.1).payload p.2)
  obtain ⟨i, c₁, hplace, hcollects, hused, hprocessed, hframe, hown⟩ := h.place hp hlong keys room
  obtain ⟨f', hstored, hused', hcases⟩ :=
    processFrag_collects hlong hgot (lt_total_of_long hlong) hplace hcollects
  rcases hcases with ⟨hcomplete, hrun⟩ | ⟨hcomplete, hrun⟩
  · refine ⟨_, done ++ [p.1], hrun, h.leave hp (hall.mpr hcomplete) ?_ (fun i' hi' => ?_)
      fun i' k hslot hk => ?_⟩
    · exact congrArg (· ++ [(ts p.1).packet]) hprocessed
    · have hne : i' ≠ i := by
        rintro rfl
        rw [show _ = _ from setFrag_self c₁ i' _] at hi'
        cases hi'
      exact ⟨(setFrag_of_ne c₁ i _ hne).trans (hframe i' hne), fun hslot => hne (hown.only i' hslot)⟩
    · have hne : i' ≠ i := by
        rintro rfl
        exact hk (hown.mine k hslot).symm
      exact (setFrag_of_ne c₁ i _ hne).trans (hframe i' hne)
  · refine ⟨_, done, hrun, h.stay hp keys hprocessed ⟨?_, ?_, ?_⟩ hown fun i' hne => ?_⟩
    · rw [setFrag_self]
      exact hused'.trans hused
    · refine ⟨⟨p.2, p.2.2, ?_⟩, mt hall.mp hcomplete⟩
      rw [hgot']
      exact Or.inr rfl
    · rw [setFrag_self, hgot']
      exact hstored
    · exact (setFrag_of_ne c₁ i _ hne).trans (hframe i' hne)

/-- The run from any point of a course. -/
theorem receive_inv {order : List (Part ts)} (hcourse : Course ts order) (env : Env)
    (rest : List (Part ts)) :
    ∀ (past : List (Part ts)) (c : Client) (done : List (Fin n)), past ++ rest = order →
      Inv ts c₀ past c done →
      ∃ c' done', receive env (rest.map (datagramOf ts)) c = .ok () c' ∧
        Inv ts c₀ order c' done' := by
  induction rest with
  | nil =>
    intro past c done horder h
    rw [List.append_nil] at horder
    exact ⟨c, done, rfl, horder ▸ h⟩
  | cons p rest ih =>
    intro past c done horder h
    have horder' : past ++ [p] ++ rest = order := by rw [← horder, List.append_assoc]; rfl
    have hp : p ∉ past := fun hmem =>
      (List.nodup_append.mp (horder ▸ hcourse.once)).2.2 p hmem p List.mem_cons_self rfl
    have room := hcourse.room (past ++ [p]) ⟨rest, horder'⟩
    have hstep : ∃ c' done', lanClientOnRecv env (datagramOf ts p) c = .ok () c' ∧
        Inv ts c₀ (past ++ [p]) c' done' := by
      by_cases hlong : (ts p.1).Long
      · exact h.step_long env hp hlong (fun k' => hcourse.keys p.1 k' hlong) room
      · exact h.step_short env hp hlong
    obtain ⟨c', done', hrun, h'⟩ := hstep
    obtain ⟨c'', done'', hrest, h''⟩ := ih (past ++ [p]) c' done' horder' h'
    refine ⟨c'', done'', ?_, h''⟩
    rw [List.map_cons, receive, bind_ok hrun, hrest]

end Step

end Deliveries

/-- **Reassembly.** The datagrams of any packets, each once and in any order that leaves room, are
received by a client whose slots are free: every packet is handed on once, with its bytes, and
the slots are free again. -/
theorem fragments_reassembled {n : Nat} (ts : Fin n → Transmission) (order : List (Part ts))
    (hcourse : Course ts order) (env : Env) (c : Client) (hfree : ∀ i, (c.frags i).used = false) :
    ∃ (c' : Client) (done : List (Fin n)),
      receive env (order.map (datagramOf ts)) c = .ok () c' ∧
      done.Perm (List.finRange n) ∧
      c'.processed = c.processed ++ done.map (fun k => (ts k).packet) ∧
      ∀ i, (c'.frags i).used = false := by
  obtain ⟨c', done, hrun, h⟩ := receive_inv hcourse env order [] c [] rfl (inv_nil hfree)
  have hcomplete : ∀ k, Complete ts order k := fun k j hj => ⟨hj, hcourse.all _⟩
  refine ⟨c', done, hrun, ?_, h.processed, fun i => ?_⟩
  · refine (List.perm_ext_iff_of_nodup h.nodup (List.nodup_finRange n)).mpr fun k => ?_
    exact iff_of_true ((h.mem k).mpr (hcomplete k)) (List.mem_finRange k)
  · by_contra hused
    obtain ⟨k, hslot⟩ := h.slots i (Bool.eq_true_of_not_eq_false hused)
    exact hslot.incomplete.2 (hcomplete k)

theorem sample_lower (b : UInt8) : 20 ≤ (List.replicate 600 b).length := by
  rw [List.length_replicate]
  decide

theorem sample_upper (b : UInt8) : (List.replicate 600 b).length ≤ etherMtu := by
  rw [List.length_replicate]
  decide

/-- Two packets of one client. -/
def samples (k : Fin 2) : Transmission where
  sender := { freshClient with pmtu := 500, fragId := Int32.ofNat k }
  packet := List.replicate 600 (UInt8.ofNat k)
  pmtu := Nat.le_refl 500
  lower := sample_lower _
  upper := sample_upper _

/-- The last datagram first. -/
def sampleOrder : List (Part samples) :=
  ((List.finRange 2).flatMap fun k =>
    (List.finRange (samples k).datagrams.length).map (Sigma.mk k)).reverse

theorem sample_course : Course samples sampleOrder where
  once := by
    refine List.nodup_reverse.mpr (List.nodup_flatMap.mpr ⟨fun k _ => ?_, ?_⟩)
    · exact (List.nodup_finRange _).map sigma_mk_injective
    · refine (List.nodup_finRange 2).imp fun hne => List.disjoint_left.mpr ?_
      rintro p hp hp'
      obtain ⟨_, -, rfl⟩ := List.mem_map.mp hp
      obtain ⟨_, -, heq⟩ := List.mem_map.mp hp'
      exact hne (congrArg Sigma.fst heq).symm
  all := by
    rintro ⟨k, j⟩
    refine List.mem_reverse.mpr (List.mem_flatMap.mpr ⟨k, List.mem_finRange k, ?_⟩)
    exact List.mem_map.mpr ⟨j, List.mem_finRange j, rfl⟩
  room := fun past _ => by
    refine Nat.le_trans (Finset.card_filter_le _ _) ?_
    rw [Finset.card_univ, Fintype.card_fin]
    decide
  keys := by
    intro k k' _ _ hid _
    have hinjective : ∀ k k' : Fin 2, (samples k).id = (samples k').id → k = k' := by decide
    exact hinjective k k' hid

theorem fragments_reassembled_samples :
    ∃ (c' : Client) (done : List (Fin 2)),
      receive calmEnv (sampleOrder.map (datagramOf samples)) freshClient = .ok () c' ∧
      done.Perm (List.finRange 2) ∧
      c'.processed = done.map (fun k => (samples k).packet) := by
  obtain ⟨c', done, hrun, hperm, hprocessed, -⟩ :=
    fragments_reassembled samples sampleOrder sample_course calmEnv freshClient fun _ => rfl
  exact ⟨c', done, hrun, hperm, hprocessed⟩

end Grid0Relay.LanClient
