import Grid0Relay.Forwarder.JsonAuth

/-!
# Reloading the password table

`read` drops the table before it has the new one. A lookup that comes while it waits sees the
empty table, and a reload that fails leaves it. Which runs are spared is decided step by step.
-/

namespace Grid0Relay.Forwarder.JsonAuth

variable (h : Host)

/-- A provider with the tables of the file that have been parsed, the newest first, and whether
a reload has begun since. -/
structure Watched where
  provider : Provider
  versions : List Json
  reloading : Bool

def Watched.init : Watched := ⟨.init, [], true⟩

/-- The table that should be in place. -/
def Watched.latest (s : Watched) : Json := s.versions.headD emptyTable

/-- The tables a lookup may be answered from. -/
def Watched.complete (s : Watched) : List Json :=
  if s.versions = [] then [emptyTable] else s.versions

def Watched.step (s : Watched) (event : Event) : Watched :=
  match event with
  | .change => ⟨s.provider.handle h event, s.versions, true⟩
  | .lookup _ => s
  | .settle content =>
    if s.provider.waiting = 0 then s
    else match version h content with
      | some v => ⟨s.provider.handle h event, v :: s.versions, false⟩
      | none => ⟨s.provider.handle h event, s.versions, s.reloading⟩

/-- What an atomic reload promises of a step. -/
def Atomic (s : Watched) : Event → Prop
  | .change => True
  | .lookup username =>
    ∃ v ∈ s.complete,
      getUserPasswordSHA1 h s.provider.table username = getUserPasswordSHA1 h v username
  | .settle content =>
    s.provider.waiting ≠ 0 → version h content = none →
      (s.step h (.settle content)).provider.table = s.latest

/-- No lookup while the table is dropped, unless the empty one gives the answer of a version; and
no reload that fails while it is dropped, unless there was nothing in it, nor on a file that
holds JSON but no object. -/
def Spared (s : Watched) : Event → Prop
  | .change => True
  | .lookup username =>
    s.reloading = false ∨
      ∃ v ∈ s.complete,
        getUserPasswordSHA1 h emptyTable username = getUserPasswordSHA1 h v username
  | .settle content =>
    s.provider.waiting ≠ 0 → version h content = none →
      content.bind h.parse = none ∧ (s.reloading = false ∨ s.latest = emptyTable)

/-- Every step of a run meets `P`. -/
def Along (P : Watched → Event → Prop) : Watched → List Event → Prop
  | _, [] => True
  | s, event :: events => P s event ∧ Along P (s.step h event) events

def IsObject : Json → Prop
  | .object _ => True
  | .array _ => True
  | _ => False

/-- Where the table is while all goes well. -/
structure Placed (s : Watched) : Prop where
  table : s.provider.table = if s.reloading then emptyTable else s.latest
  objects : ∀ v ∈ s.versions, IsObject v

theorem placed_init : Placed Watched.init := ⟨rfl, by simp [Watched.init]⟩

variable {h}

theorem isObject_of_clearSchema {v t : Json} (hclear : clearSchema v = some t) : IsObject t := by
  cases v with
  | object members =>
    injection hclear with hclear
    subst hclear
    trivial
  | array items =>
    injection hclear with hclear
    subst hclear
    trivial
  | null | bool _ | number _ | string _ => cases hclear

theorem not_isObject_of_clearSchema {v : Json} (hclear : clearSchema v = none) : ¬ IsObject v := by
  cases v with
  | object members => cases hclear
  | array items => cases hclear
  | null | bool _ | number _ | string _ => exact id

section Step

variable {s : Watched} {content : Option String}

theorem Placed.isObject_latest (hs : Placed s) : IsObject s.latest := by
  unfold Watched.latest
  cases hversions : s.versions with
  | nil => trivial
  | cons v versions => exact hs.objects v (by rw [hversions]; exact List.mem_cons_self)

theorem latest_mem_complete (s : Watched) : s.latest ∈ s.complete := by
  unfold Watched.latest Watched.complete
  cases s.versions with
  | nil => exact List.mem_singleton_self _
  | cons v versions =>
    rw [if_neg (List.cons_ne_nil _ _)]
    exact List.mem_cons_self

theorem step_parsed {v : Json} (hwaiting : s.provider.waiting ≠ 0)
    (hversion : version h content = some v) :
    s.step h (.settle content) = ⟨⟨v, s.provider.waiting - 1⟩, v :: s.versions, false⟩ := by
  obtain ⟨json, hparse, hclear⟩ := Option.bind_eq_some_iff.mp hversion
  simp only [Watched.step, if_neg hwaiting, hversion, Provider.handle, Provider.settle, hparse,
    hclear, Option.getD_some]

/-- A reload that fails before it assigns. -/
theorem step_unread (hwaiting : s.provider.waiting ≠ 0) (hparse : content.bind h.parse = none) :
    s.step h (.settle content) =
      ⟨⟨s.provider.table, s.provider.waiting - 1⟩, s.versions, s.reloading⟩ := by
  have hversion : version h content = none := by rw [version, hparse, Option.bind_none]
  simp only [Watched.step, if_neg hwaiting, hversion, Provider.handle, Provider.settle, hparse]

/-- A reload that fails behind the assignment. -/
theorem step_primitive {json : Json} (hwaiting : s.provider.waiting ≠ 0)
    (hparse : content.bind h.parse = some json) (hclear : clearSchema json = none) :
    (s.step h (.settle content)).provider.table = json := by
  have hversion : version h content = none := by rw [version, hparse, Option.bind_some, hclear]
  simp only [Watched.step, if_neg hwaiting, hversion, Provider.handle, Provider.settle, hparse,
    hclear, Option.getD_none]

/-- As long as the table is in its place, a step is atomic just when it is spared. -/
theorem atomic_iff_spared (hs : Placed s) (event : Event) : Atomic h s event ↔ Spared h s event := by
  have htable := hs.table
  cases event with
  | change => exact Iff.rfl
  | lookup username =>
    unfold Atomic Spared
    cases hreloading : s.reloading with
    | false =>
      rw [hreloading, if_neg Bool.false_ne_true] at htable
      exact iff_of_true ⟨s.latest, latest_mem_complete s, by rw [htable]⟩ (Or.inl rfl)
    | true =>
      rw [hreloading, if_pos rfl] at htable
      rw [htable]
      exact ⟨Or.inr, fun hspared => hspared.resolve_left (by simp)⟩
  | settle content =>
    refine forall_congr' fun hwaiting => forall_congr' fun hversion => ?_
    cases hparse : content.bind h.parse with
    | none =>
      rw [step_unread hwaiting hparse, htable, and_iff_right rfl]
      cases s.reloading with
      | false => exact iff_of_true rfl (Or.inl rfl)
      | true => simp [eq_comm]
    | some json =>
      have hclear : clearSchema json = none := by
        rw [version, hparse, Option.bind_some] at hversion
        exact hversion
      rw [step_primitive hwaiting hparse hclear]
      refine iff_of_false (fun heq => ?_) fun hspared => by cases hspared.1
      exact not_isObject_of_clearSchema hclear (heq ▸ hs.isObject_latest)

theorem Placed.step (hs : Placed s) {event : Event} (hatomic : Atomic h s event) :
    Placed (s.step h event) := by
  cases event with
  | change => exact ⟨rfl, hs.objects⟩
  | lookup username => exact hs
  | settle content =>
    by_cases hwaiting : s.provider.waiting = 0
    · rw [Watched.step, if_pos hwaiting]
      exact hs
    cases hversion : version h content with
    | some v =>
      obtain ⟨json, -, hclear⟩ := Option.bind_eq_some_iff.mp hversion
      rw [step_parsed hwaiting hversion]
      exact ⟨rfl, List.forall_mem_cons.mpr ⟨isObject_of_clearSchema hclear, hs.objects⟩⟩
    | none =>
      have hspared := (atomic_iff_spared hs _).mp hatomic hwaiting hversion
      rw [step_unread hwaiting hspared.1]
      exact ⟨hs.table, hs.objects⟩

end Step

/-- **Reloads.** A run keeps what an atomic reload promises exactly when each of its steps is
spared. -/
theorem reload_atomic_iff (h : Host) (events : List Event) :
    Along h (Atomic h) Watched.init events ↔ Along h (Spared h) Watched.init events := by
  suffices hrun : ∀ s, Placed s → (Along h (Atomic h) s events ↔ Along h (Spared h) s events) from
    hrun _ placed_init
  induction events with
  | nil => exact fun _ _ => Iff.rfl
  | cons event events ih =>
    intro s hs
    rw [Along, Along, ← atomic_iff_spared hs event]
    exact and_congr_right fun hatomic => ih _ (hs.step hatomic)

/-- A file with one user. -/
def oneUser : Json := .object [("alice", .string "secret")]

def plainHost : Host where
  parse := fun text => if text = "alice" then some oneUser else none
  inherited := fun _ _ => false
  ofPrimitive := fun _ _ => .undefined
  sha1 := fun pw => pw.toList.map fun c => UInt8.ofNat c.toNat
  bufferFrom := fun _ => none

/-- The first reload, a lookup, and a second reload that nothing interrupts. -/
theorem reload_atomic_iff_calm :
    Along plainHost (Atomic plainHost) Watched.init
      [.settle (some "alice"), .lookup "alice", .change, .settle (some "alice")] :=
  (reload_atomic_iff plainHost
    [.settle (some "alice"), .lookup "alice", .change, .settle (some "alice")]).mpr
    ⟨(fun _ hfailed => by cases hfailed), Or.inl rfl, trivial,
      (fun _ hfailed => by cases hfailed), trivial⟩

/-- A lookup while the file is read, and a file that is gone. -/
theorem reload_drops_table :
    ¬ Along plainHost (Atomic plainHost) Watched.init
        [.settle (some "alice"), .change, .lookup "alice"] ∧
      ¬ Along plainHost (Atomic plainHost) Watched.init
        [.settle (some "alice"), .change, .settle none] := by
  constructor
  · rintro ⟨-, -, ⟨v, hv, heq⟩, -⟩
    obtain rfl : v = oneUser := List.mem_singleton.mp hv
    exact absurd heq (by decide)
  · rintro ⟨-, -, hkept, -⟩
    have htable : emptyTable = oneUser := hkept (by decide) rfl
    injection htable with hmembers
    cases hmembers

end Grid0Relay.Forwarder.JsonAuth
