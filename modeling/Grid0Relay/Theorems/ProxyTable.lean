import Mathlib.Data.List.Induction
import Grid0Relay.Relay.ProxyTable

/-!
# Sockets and consoles

Every datagram leaves through a socket of its own sender, so a reply can only go where that
socket's datagrams came from; and a sender keeps its socket for thirty seconds behind each use.
-/

namespace Grid0Relay.ProxyTable

open Lib

/-- Whom an item was made for. -/
def Proxy.owner (p : Proxy) (i : Nat) : Ip4 × Nat := ((p.items i).src, (p.items i).srcport)

/-- The table and the logs agree with the owners of the items. -/
structure Owned (p : Proxy) : Prop where
  table : ∀ k i, p.cacheTable k = some i → i < p.made ∧ p.owner i = k
  sent : ∀ s ∈ p.sent, s.1 < p.made ∧ p.owner s.1 = (s.2.src, s.2.srcport)
  replies : ∀ r ∈ p.replies, r.1 < p.made ∧ p.owner r.1 = r.2

section Steps

variable {p : Proxy}

theorem owner_visit (p : Proxy) (i later j : Nat) : (p.visit i later).owner j = p.owner j := by
  unfold Proxy.owner Proxy.visit
  by_cases hj : j = i
  · subst hj
    simp only [Function.update_self]
  · simp only [Function.update_of_ne hj]

theorem Owned.visit (h : Owned p) (i later : Nat) : Owned (p.visit i later) := by
  refine ⟨fun k j hj => ?_, fun s hs => ?_, fun r hr => ?_⟩ <;> rw [owner_visit]
  · exact h.table k j hj
  · exact h.sent s hs
  · exact h.replies r hr

theorem Owned.newUdp (h : Owned p) (src : Ip4) (srcport later : Nat) :
    Owned (p.newUdp src srcport later).2 := by
  -- the items there were keep their owners
  have hold : ∀ j, j < p.made → (p.newUdp src srcport later).2.owner j = p.owner j := by
    intro j hj
    unfold Proxy.owner Proxy.newUdp
    simp only [Function.update_of_ne (Nat.ne_of_lt hj)]
  have hgrown : ∀ {j k}, j < p.made ∧ p.owner j = k →
      j < p.made + 1 ∧ (p.newUdp src srcport later).2.owner j = k := fun {j k} hj =>
    ⟨Nat.lt_succ_of_lt hj.1, (hold j hj.1).trans hj.2⟩
  refine ⟨fun k j hj => ?_, fun s hs => hgrown (h.sent s hs), fun r hr => hgrown (h.replies r hr)⟩
  change Function.update p.cacheTable (src, srcport) (some p.made) k = some j at hj
  by_cases hk : k = (src, srcport)
  · rw [hk, Function.update_self] at hj
    obtain rfl := Option.some.inj hj
    refine ⟨Nat.lt_succ_self _, ?_⟩
    simp only [hk, Proxy.owner, Proxy.newUdp, Function.update_self]
  · rw [Function.update_of_ne hk] at hj
    exact hgrown (h.table k j hj)

/-- A new item is made unless the table has one that has not expired. -/
theorem getUdp_cases (p : Proxy) (src : Ip4) (srcport now later : Nat) :
    (p.getUdp src srcport now later = p.newUdp src srcport later ∧
      ∀ i, p.cacheTable (src, srcport) = some i → p.isExpire i now = true) ∨
    ∃ i, p.cacheTable (src, srcport) = some i ∧ p.getUdp src srcport now later = (i, p) := by
  unfold Proxy.getUdp
  cases hfind : p.cacheTable (src, srcport) with
  | none => exact Or.inl ⟨rfl, fun _ h => nomatch h⟩
  | some i =>
    by_cases hexpire : p.isExpire i now = true
    · exact Or.inl ⟨if_pos hexpire, fun j hj => Option.some.inj hj ▸ hexpire⟩
    · exact Or.inr ⟨i, rfl, if_neg hexpire⟩

/-- The socket a datagram gets is its sender's. -/
theorem Owned.getUdp (h : Owned p) (src : Ip4) (srcport now later : Nat) :
    Owned (p.getUdp src srcport now later).2 ∧
      (p.getUdp src srcport now later).2.cacheTable (src, srcport) =
        some (p.getUdp src srcport now later).1 := by
  rcases getUdp_cases p src srcport now later with ⟨heq, -⟩ | ⟨i, hfind, heq⟩
  · rw [heq]
    exact ⟨h.newUdp src srcport later, Function.update_self _ _ _⟩
  · rw [heq]
    exact ⟨h, hfind⟩

theorem Owned.handle (h : Owned p) (event : Event) : Owned (p.handle event) := by
  cases event with
  | udpSend d now later =>
    obtain ⟨howned, hplace⟩ := h.getUdp d.src d.srcport now later
    have hvisit := howned.visit (p.getUdp d.src d.srcport now later).1 later
    refine ⟨hvisit.table, fun s hs => ?_, hvisit.replies⟩
    rcases List.mem_append.mp hs with hs | hs
    · exact hvisit.sent s hs
    · obtain rfl := List.mem_singleton.mp hs
      exact hvisit.table _ _ hplace
  | received i later =>
    simp only [Proxy.handle]
    split
    · rename_i hopen
      have hvisit := h.visit i later
      refine ⟨hvisit.table, hvisit.sent, fun r hr => ?_⟩
      rcases List.mem_append.mp hr with hr | hr
      · exact hvisit.replies r hr
      · obtain rfl := List.mem_singleton.mp hr
        exact hvisit.table _ _ hopen
    · exact h
  | gc now => exact ⟨fun k i hi => h.table k i (Option.filter_eq_some_iff.mp hi).1, h.sent, h.replies⟩

end Steps

/-- **Replies find their console.** Over every run, a reply at a socket is passed on to the
address and port of every datagram that ever left through it. -/
theorem replies_to_sender (events : List Event) :
    ∀ s ∈ (run events).sent, ∀ r ∈ (run events).replies, s.1 = r.1 →
      r.2 = (s.2.src, s.2.srcport) := by
  have howned : Owned (run events) := by
    unfold run
    induction events using List.reverseRecOn with
    | nil => exact ⟨fun _ _ h => (nomatch h), fun _ h => (nomatch h), fun _ h => (nomatch h)⟩
    | append_singleton events event ih =>
      rw [List.foldl_append]
      exact ih.handle event
  intro s hs r hr hsame
  rw [← (howned.replies r hr).2, ← hsame, (howned.sent s hs).2]

theorem replies_to_sender_first :
    (run [.udpSend ⟨ip4 10 13 0 2, 7, ip4 8 8 8 8, 53, []⟩ 5 5, .received 0 6]).replies =
      [(0, ip4 10 13 0 2, 7)] := by
  have hreply := replies_to_sender [.udpSend ⟨ip4 10 13 0 2, 7, ip4 8 8 8 8, 53, []⟩ 5 5,
    .received 0 6] (0, ⟨ip4 10 13 0 2, 7, ip4 8 8 8 8, 53, []⟩) List.mem_cons_self
  exact congrArg (fun console => [(0, console)]) (hreply _ List.mem_cons_self rfl)

/-! ## How long a socket is kept -/

/-- The sender has this socket, and keeps it until then. -/
structure Bound (k : Ip4 × Nat) (i till : Nat) (p : Proxy) : Prop where
  place : p.cacheTable k = some i
  made : i < p.made
  fresh : till ≤ (p.items i).expireAt

/-- The readings of the clock lie in the time of a binding. -/
def Event.within (since : Nat) : Event → Prop
  | .udpSend _ now later => now ≤ since + ttl ∧ since ≤ later
  | .received _ later => since ≤ later
  | .gc now => now ≤ since + ttl

section Keeping

variable {k : Ip4 × Nat} {i since : Nat} {p : Proxy}

theorem Bound.live (h : Bound k i (since + ttl) p) {now : Nat} (hnow : now ≤ since + ttl) :
    ¬ p.isExpire i now = true := by
  have := h.fresh
  simp only [Proxy.isExpire, decide_eq_true_eq]
  omega

theorem Bound.visit (h : Bound k i (since + ttl) p) {later : Nat} (hlater : since ≤ later)
    (j : Nat) : Bound k i (since + ttl) (p.visit j later) := by
  refine ⟨h.place, h.made, ?_⟩
  by_cases hj : i = j
  · subst hj
    simpa [Proxy.visit] using hlater
  · simp only [Proxy.visit, Function.update_of_ne hj]
    exact h.fresh

theorem Bound.getUdp (h : Bound k i (since + ttl) p) {now : Nat} (hnow : now ≤ since + ttl)
    (src : Ip4) (srcport later : Nat) :
    Bound k i (since + ttl) (p.getUdp src srcport now later).2 := by
  rcases getUdp_cases p src srcport now later with ⟨heq, hexpired⟩ | ⟨j, -, heq⟩
  · have hk : k ≠ (src, srcport) := fun hk => h.live hnow (hexpired i (hk ▸ h.place))
    rw [heq]
    refine ⟨(Function.update_of_ne hk _ _).trans h.place, Nat.lt_succ_of_lt h.made, ?_⟩
    simp only [Proxy.newUdp, Function.update_of_ne (Nat.ne_of_lt h.made)]
    exact h.fresh
  · rw [heq]
    exact h

theorem Bound.handle (h : Bound k i (since + ttl) p) {event : Event}
    (hwithin : event.within since) : Bound k i (since + ttl) (p.handle event) := by
  cases event with
  | udpSend d now later =>
    have hvisit := (h.getUdp hwithin.1 d.src d.srcport later).visit hwithin.2
      (p.getUdp d.src d.srcport now later).1
    exact ⟨hvisit.place, hvisit.made, hvisit.fresh⟩
  | received j later =>
    have hvisit := h.visit hwithin j
    simp only [Proxy.handle]
    split
    · exact ⟨hvisit.place, hvisit.made, hvisit.fresh⟩
    · exact h
  | gc now =>
    refine ⟨?_, h.made, h.fresh⟩
    simp only [Proxy.handle, h.place]
    exact Option.filter_eq_some_iff.mpr ⟨rfl, by simpa using h.live hwithin⟩

end Keeping

/-- **Before the association.** Of what is sent before the association stands only the last
datagram goes out, and then all that follow, in their order. -/
theorem socks5_sends (before after : List (Ip4 × Nat × Bytes)) :
    (((before.map fun d => Socks5Event.send d.1 d.2.1 d.2.2) ++ .ready ::
        after.map fun d => Socks5Event.send d.1 d.2.1 d.2.2).foldl Socks5Udp.handle
        ⟨false, none, []⟩).sent =
      (before.getLast?.toList ++ after).map fun d => (Socks5.packDatagram d.1 d.2.1 d.2.2).data := by
  have hready : ∀ (ds : List (Ip4 × Nat × Bytes)) (sent : List Bytes),
      ((ds.map fun d => Socks5Event.send d.1 d.2.1 d.2.2).foldl Socks5Udp.handle
        ⟨true, none, sent⟩).sent =
        sent ++ ds.map fun d => (Socks5.packDatagram d.1 d.2.1 d.2.2).data := by
    intro ds
    induction ds with
    | nil => exact fun sent => (List.append_nil _).symm
    | cons d ds ih =>
      intro sent
      refine (ih _).trans ?_
      rw [List.append_assoc]
      rfl
  have hwaiting : ∀ ds : List (Ip4 × Nat × Bytes),
      (ds.map fun d => Socks5Event.send d.1 d.2.1 d.2.2).foldl Socks5Udp.handle ⟨false, none, []⟩ =
        ⟨false, ds.getLast?.map fun d => (Socks5.packDatagram d.1 d.2.1 d.2.2).data, []⟩ := by
    intro ds
    induction ds using List.reverseRecOn with
    | nil => rfl
    | append_singleton ds d ih =>
      rw [List.map_append, List.foldl_append, ih, List.getLast?_concat]
      rfl
  rw [List.foldl_append, hwaiting, List.foldl_cons]
  refine (hready after _).trans ?_
  rw [List.map_append]
  cases before.getLast? <;> rfl

end Grid0Relay.ProxyTable
