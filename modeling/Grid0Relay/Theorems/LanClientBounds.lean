import Grid0Relay.Logic.LanClient

/-!
# The receive path of the client and its buffers

`lan_client_on_recv` believes every length it receives. A datagram leaves the buffers alone just
when its fields do: the header of a fragment is not checked against the datagram, its place not
against the slot, and its part numbers not against the width of a shift.
-/

namespace Grid0Relay.LanClient

open Lib Lib.Exec

variable (env : Env) (c : Client) (datagram packet : Bytes)

/-- A challenge can be read, and the answer to one of type 0 written. -/
def AnswerInside (username : Bytes) : Prop :=
  1 ≤ packet.length ∧ (packet.byte 0 = 0 → 20 + username.length % 65536 < 65536)

/-- The fields of a datagram stay inside the buffers, case by case of the `switch`. -/
def Sane : Prop :=
  match ClientType.ofCode (datagram.byte 0 &&& 0x7f) with
  | some .ipv4 =>
    (datagram.drop 1).length = 0 ∨
      20 ≤ (datagram.drop 1).length ∧ (datagram.drop 1).length ≤ etherMtu
  | some .ipv4Frag =>
    fragHeaderLen ≤ (datagram.drop 1).length ∧
      ∀ i, (c.place (readHeader (datagram.drop 1))).1 = some i →
        FragmentInside ((c.place (readHeader (datagram.drop 1))).2.frags i) (datagram.drop 1)
          (readHeader (datagram.drop 1))
  | some .authMe => ∀ username, c.username = some username →
      AnswerInside (datagram.drop 1) username
  | _ => True

/-- Counting the download does not move a slot. -/
theorem place_countDownload (header : FragmentHeader) :
    (c.countDownload datagram).place header =
      ((c.place header).1, (c.place header).2.countDownload datagram) := by
  unfold Client.place
  rw [show (c.countDownload datagram).matching header = c.matching header from rfl,
    show (c.countDownload datagram).unused = c.unused from rfl,
    show (c.countDownload datagram).oldest = c.oldest from rfl]
  cases c.matching header with
  | some i => rfl
  | none =>
    cases c.unused with
    | some i => rfl
    | none =>
      obtain ⟨age, slot⟩ := c.oldest
      cases slot with
      | none => rfl
      | some i =>
        by_cases h : age > fragCount
        · simp only [if_pos h]
          rfl
        · simp only [if_neg h]

theorem lanClientProcess_returns_iff :
    (∃ c', lanClientProcess packet packet.length c = .ok () c') ↔
      packet.length = 0 ∨ 20 ≤ packet.length ∧ packet.length ≤ etherMtu := by
  unfold lanClientProcess
  by_cases hlong : packet.length > etherMtu
  · rw [if_pos hlong]
    exact iff_of_false (fun ⟨_, h⟩ => by cases h) (by unfold etherMtu at *; omega)
  rw [if_neg hlong]
  by_cases hshort : packet.length ≠ 0 ∧ (packet.length < 20 ∨ packet.length < packet.length)
  · rw [if_pos hshort]
    exact iff_of_false (fun ⟨_, h⟩ => by cases h) (by omega)
  · rw [if_neg hshort]
    exact iff_of_true ⟨_, rfl⟩ (by omega)

theorem lanClientProcessAuthMe_returns_iff :
    (∃ c', lanClientProcessAuthMe env packet c = .ok () c') ↔
      ∀ username, c.username = some username → AnswerInside packet username := by
  unfold lanClientProcessAuthMe AnswerInside
  rw [bind_ok (get_apply c)]
  cases husername : c.username with
  | none => exact iff_of_true ⟨_, rfl⟩ fun _ h => by cases h
  | some username =>
    simp only [Option.some.injEq, forall_eq']
    by_cases hempty : packet.length = 0
    · rw [if_pos hempty]
      exact iff_of_false (fun ⟨_, h⟩ => by cases h) (by omega)
    rw [if_neg hempty, and_iff_right (by omega)]
    by_cases htype : packet.byte 0 = 0
    swap
    · rw [if_pos htype]
      exact iff_of_true ⟨_, rfl⟩ fun h => absurd h htype
    rw [if_neg (not_not.mpr htype), imp_iff_right htype]
    have hname := Nat.mod_lt username.length (by decide : 0 < 65536)
    by_cases hroom : (20 + username.length % 65536) % 65536 < 20 + username.length % 65536
    · rw [if_pos hroom]
      exact iff_of_false (fun ⟨_, h⟩ => by cases h) (by omega)
    · rw [if_neg hroom]
      exact iff_of_true ⟨_, bind_ok (lanClientSend_one fun h => by cases h)⟩ (by omega)

/-- **Bounds of the receive path.** Whatever the slots hold, a datagram is handled inside the
buffers just when its fields are sane. -/
theorem onRecv_inside_iff :
    (∃ c', lanClientOnRecv env datagram c = .ok () c') ↔ Sane c datagram := by
  unfold lanClientOnRecv Sane
  by_cases hempty : datagram.length = 0
  · obtain rfl := List.length_eq_zero_iff.mp hempty
    exact iff_of_true ⟨_, rfl⟩ trivial
  rw [if_neg hempty, bind_ok (modify_apply _ c)]
  cases ClientType.ofCode (datagram.byte 0 &&& 0x7f) with
  | none => exact iff_of_true ⟨_, rfl⟩ trivial
  | some type =>
    cases type with
    | keepalive | ping | info => exact iff_of_true ⟨_, rfl⟩ trivial
    | ipv4 => exact lanClientProcess_returns_iff _ _
    | authMe => exact lanClientProcessAuthMe_returns_iff env _ _
    | ipv4Frag =>
      refine (lanClientProcessFrag_returns_iff _ _).trans ?_
      rw [place_countDownload]
      exact Iff.rfl

/-- A whole packet of twenty bytes is handled inside the buffers. -/
theorem onRecv_inside_iff_packet :
    Sane freshClient (1 :: List.replicate 20 0) ∧
    ∃ c', lanClientOnRecv calmEnv (1 :: List.replicate 20 0) freshClient = .ok () c' := by
  have hsane : Sane freshClient (1 :: List.replicate 20 0) := Or.inr ⟨by decide, by decide⟩
  exact ⟨hsane, (onRecv_inside_iff calmEnv freshClient (1 :: List.replicate 20 0)).mpr hsane⟩

/-- The second of two parts, with a path MTU of `0x05dc` and `len` bytes. -/
def farPart (len : UInt8) : Bytes :=
  [3, 10, 13, 0, 2, 10, 13, 0, 3, 0, 7, 1, 2, 0, len, 0x05, 0xdc] ++ List.replicate len.toNat 0

/-- A part is written behind the buffer, the destination of a packet of one byte is read behind
it, and the answer of a user with a very long name is written behind its own. -/
theorem fragment_written_behind :
    (∃ c', lanClientOnRecv calmEnv (farPart 4) freshClient = .error .writeOutside c') ∧
    (∃ c', lanClientOnRecv calmEnv [1, 69] freshClient = .error .readOutside c') ∧
    ¬ ∃ c', lanClientProcessAuthMe calmEnv [0]
      { freshClient with username := some (List.replicate 65516 97) } = .ok () c' := by
  refine ⟨⟨_, rfl⟩, ⟨_, rfl⟩, ?_⟩
  rw [lanClientProcessAuthMe_returns_iff]
  intro h
  have hroom := (h _ rfl).2 rfl
  rw [List.length_replicate] at hroom
  omega

end Grid0Relay.LanClient
