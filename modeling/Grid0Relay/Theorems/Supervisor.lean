import Grid0Relay.Desktop.Supervisor

/-!
# What the supervisor promises

The relay's output reaches the application as it was written, as far as the connection lasts. A
request to stop is obeyed in the next turn, whichever way it comes, and the relay is killed once
it has had its five seconds.
-/

namespace Grid0Relay.Supervisor

open Lib

theorem turn_of_running {s : State} (h : s.ended = false) (t : Turn) :
    turn s t = waitChild t (sendOutput t (readLogs t (readControl t
      (checkDeadline t (checkStop t (notice t s)))))) := by
  rw [turn, if_neg (by rw [h]; exact Bool.false_ne_true)]

/-- A property that each part of a turn keeps holds along every run. -/
theorem run_induction {P : State → Prop} (hstart : P .start)
    (hturn : ∀ s t, s.ended = false → P s → P (turn s t)) (turns : List Turn) : P (run turns) := by
  unfold run
  induction turns using List.reverseRecOn with
  | nil => exact hstart
  | append_singleton turns t ih =>
    rw [List.foldl_append]
    change P (turn (turns.foldl turn .start) t)
    cases hended : (turns.foldl turn .start).ended with
    | true => rwa [turn, if_pos hended]
    | false => exact hturn _ t hended ih

/-! ## The output of the relay -/

/-- Nothing of the output is lost, changed or swapped on its way. -/
structure Relayed (s : State) : Prop where
  front : s.delivered <+: s.logged
  whole : s.connected = true → s.logged = s.delivered ++ s.output

section Output

variable {s : State}

theorem Relayed.hangUp (h : Relayed s) : Relayed (hangUp s) := ⟨h.front, fun hc => by cases hc⟩

theorem Relayed.readControl (h : Relayed s) (t : Turn) : Relayed (readControl t s) := by
  unfold Supervisor.readControl
  split
  · exact ⟨h.front, h.whole⟩
  · exact h.hangUp
  · exact h

theorem Relayed.readChunk (h : Relayed s) (b : Bytes) : Relayed (readChunk s b) := by
  have hfront : s.delivered <+: s.logged ++ b := h.front.trans (List.prefix_append _ _)
  unfold Supervisor.readChunk
  by_cases hmax : (if s.connected then s.output ++ b else s.output).length > maxOutput
  · simp only [if_pos hmax]
    exact ⟨hfront, fun hc => by cases hc⟩
  · simp only [if_neg hmax]
    refine ⟨hfront, fun hc => ?_⟩
    rw [if_pos hc, h.whole hc, List.append_assoc]

theorem Relayed.readLogs (h : Relayed s) (t : Turn) : Relayed (readLogs t s) := by
  unfold Supervisor.readLogs
  split
  · rename_i chunks eof _ _
    have hall : Relayed (chunks.foldl Supervisor.readChunk s) := by
      clear * - h
      induction chunks generalizing s with
      | nil => exact h
      | cons b rest ih => exact ih (h.readChunk b)
    exact ⟨hall.front, hall.whole⟩
  · exact h

/-- What is taken is the front of what was kept. -/
theorem Relayed.take (h : Relayed s) (hc : s.connected = true) (n : Nat) : Relayed (take n s) := by
  have hwhole : s.logged = s.delivered ++ s.output.take n ++ s.output.drop n := by
    rw [List.append_assoc, List.take_append_drop]
    exact h.whole hc
  exact ⟨⟨_, hwhole.symm⟩, fun _ => hwhole⟩

theorem Relayed.sendOutput (h : Relayed s) (t : Turn) : Relayed (sendOutput t s) := by
  unfold Supervisor.sendOutput
  split
  · rename_i hready
    have hc : s.connected = true := (Bool.and_eq_true_iff.mp hready).1
    split
    · exact h.take hc _
    · exact h
    · exact h.hangUp
  · exact h

theorem Relayed.waitChild (h : Relayed s) (t : Turn) : Relayed (waitChild t s) := by
  unfold Supervisor.waitChild
  split
  · exact h
  · exact ⟨h.front, h.whole⟩
  · have hdrained : Relayed { s with
        ended := true
        output := s.output ++ t.drained.flatten
        logged := s.logged ++ t.drained.flatten } := by
      refine ⟨h.front.trans (List.prefix_append _ _), fun hc => ?_⟩
      rw [show s.logged = _ from h.whole hc, List.append_assoc]
    generalize { s with
      ended := true
      output := s.output ++ t.drained.flatten
      logged := s.logged ++ t.drained.flatten } = s' at hdrained
    induction t.flushed.take 20 generalizing s' with
    | nil => exact hdrained
    | cons n rest ih =>
      refine ih _ ?_
      unfold flush
      split
      · rename_i hready
        exact hdrained.take (Bool.and_eq_true_iff.mp hready).1 n
      · exact hdrained

end Output

/-- **The relay's output.** Over every run the application has got a front part of what the relay
wrote, byte for byte, and as long as it is connected the rest is still kept for it. -/
theorem output_relayed (turns : List Turn) :
    (run turns).delivered <+: (run turns).logged ∧
      ((run turns).connected = true →
        (run turns).logged = (run turns).delivered ++ (run turns).output) := by
  have hrelayed : Relayed (run turns) := by
    refine run_induction ⟨List.prefix_rfl, fun _ => rfl⟩ (fun s t hended h => ?_) turns
    have hstop : Relayed (checkStop t (notice t s)) := by
      unfold checkStop
      split <;> exact ⟨h.front, h.whole⟩
    have hdeadline : Relayed (checkDeadline t (checkStop t (notice t s))) := by
      unfold checkDeadline
      split
      · split
        · exact ⟨hstop.front, hstop.whole⟩
        · exact hstop
      · exact hstop
    rw [turn_of_running hended]
    exact (((hdeadline.readControl t).readLogs t).sendOutput t).waitChild t
  exact ⟨hrelayed.front, hrelayed.whole⟩

/-- A turn without events. -/
def idleTurn (now : Nat) : Turn := ⟨false, now, now, none, none, .again, .running, [], []⟩

theorem output_relayed_half :
    (run [{ idleTurn 0 with logs := some ([[1, 2]], false), send := .took 1 }]).logged =
      [1] ++ [2] :=
  (output_relayed [{ idleTurn 0 with logs := some ([[1, 2]], false), send := .took 1 }]).2 rfl

/-! ## Stopping -/

/-- A request to stop that has come is remembered. -/
def Heard (s : State) : Prop :=
  stopText <:+: s.commands ∨ s.connected = false → s.interrupted = true

/-- The part of a turn behind the signals: it sends none, and hears every request. -/
structure Listens (s s' : State) : Prop where
  kills : s'.kills = s.kills
  stopping : s'.stopping = s.stopping
  deadline : s'.deadline = s.deadline
  heard : Heard s → Heard s'

theorem Listens.refl (s : State) : Listens s s := ⟨rfl, rfl, rfl, id⟩

theorem Listens.trans {s₁ s₂ s₃ : State} (h : Listens s₁ s₂) (h' : Listens s₂ s₃) :
    Listens s₁ s₃ :=
  ⟨h'.kills.trans h.kills, h'.stopping.trans h.stopping, h'.deadline.trans h.deadline,
    h'.heard ∘ h.heard⟩

theorem listens_foldl {α : Type} {f : State → α → State} (h : ∀ s a, Listens s (f s a))
    (l : List α) (s : State) : Listens s (l.foldl f s) := by
  induction l generalizing s with
  | nil => exact .refl s
  | cons a l ih => exact (h s a).trans (ih (f s a))

theorem listens_notice (t : Turn) (s : State) : Listens s (notice t s) :=
  ⟨rfl, rfl, rfl, fun h hask => by rw [notice, h hask, Bool.true_or]⟩

theorem listens_hangUp (s : State) : Listens s (hangUp s) := ⟨rfl, rfl, rfl, fun _ _ => rfl⟩

theorem listens_readControl (t : Turn) (s : State) : Listens s (readControl t s) := by
  unfold readControl
  split
  · refine ⟨rfl, rfl, rfl, fun h hask => ?_⟩
    rcases hask with hask | hask
    · simp only [hask, decide_true, Bool.or_true, Bool.true_or]
    · simp only [h (Or.inr hask), Bool.true_or]
  · exact listens_hangUp s
  · exact .refl s

theorem listens_readChunk (s : State) (b : Bytes) : Listens s (readChunk s b) := by
  unfold readChunk
  by_cases hmax : (if s.connected then s.output ++ b else s.output).length > maxOutput
  · simp only [if_pos hmax]
    exact ⟨rfl, rfl, rfl, fun _ _ => rfl⟩
  · simp only [if_neg hmax]
    exact ⟨rfl, rfl, rfl, id⟩

theorem listens_readLogs (t : Turn) (s : State) : Listens s (readLogs t s) := by
  unfold readLogs
  split
  · exact (listens_foldl listens_readChunk _ s).trans ⟨rfl, rfl, rfl, id⟩
  · exact .refl s

theorem listens_sendOutput (t : Turn) (s : State) : Listens s (sendOutput t s) := by
  unfold sendOutput
  split
  · split
    · exact ⟨rfl, rfl, rfl, id⟩
    · exact .refl s
    · exact listens_hangUp s
  · exact .refl s

theorem listens_waitChild (t : Turn) (s : State) : Listens s (waitChild t s) := by
  have hflush : ∀ s n, Listens s (flush s n) := by
    intro s n
    unfold flush
    split
    · exact ⟨rfl, rfl, rfl, id⟩
    · exact .refl s
  unfold waitChild
  split
  · exact .refl s
  · exact ⟨rfl, rfl, rfl, id⟩
  · refine Listens.trans ?_ (listens_foldl hflush _ _)
    exact ⟨rfl, rfl, rfl, id⟩

/-- The signals of a turn are those of its first two checks. -/
theorem listens_turn {s : State} (h : s.ended = false) (t : Turn) :
    Listens (checkDeadline t (checkStop t (notice t s))) (turn s t) := by
  rw [turn_of_running h]
  exact (((listens_readControl t _).trans (listens_readLogs t _)).trans
    (listens_sendOutput t _)).trans (listens_waitChild t _)

/-- The relay has been told to stop at this time. -/
structure Told (since : Nat) (s : State) : Prop where
  stopping : s.stopping = true
  deadline : s.deadline = some (since + grace)

/-- A `SIGKILL` for each turn that finds the relay after its grace. -/
def lateKills (since : Nat) (ts : List Turn) : List (Signal × Nat) :=
  (ts.filter fun t => since + grace < t.later).map fun t => (.kill, t.later)

theorem checkDeadline_told {since : Nat} {s : State} (h : Told since s) (t : Turn) :
    Told since (checkDeadline t s) ∧
      (checkDeadline t s).kills = s.kills ++ lateKills since [t] := by
  unfold checkDeadline lateKills
  simp only [h.deadline, h.stopping, Bool.true_and, decide_eq_true_eq]
  by_cases hlate : since + grace < t.later
  · rw [if_pos hlate]
    exact ⟨⟨rfl, rfl⟩, by simp [hlate]⟩
  · rw [if_neg hlate]
    exact ⟨h, by simp [hlate]⟩

theorem lateKills_cons (since : Nat) (t : Turn) (ts : List Turn) :
    lateKills since [t] ++ lateKills since ts = lateKills since (t :: ts) := by
  rw [lateKills, lateKills, lateKills, ← List.map_append, ← List.filter_append]
  rfl

/-- Before the first request nothing is sent; then one `SIGINT`, and `SIGKILL` after the grace. -/
def Disciplined (s : State) : Prop :=
  s.stopping = false ∧ s.deadline = none ∧ s.kills = [] ∨
    ∃ since ks, Told since s ∧ s.kills = (.int, since) :: ks ∧
      ∀ k ∈ ks, k.1 = .kill ∧ since + grace < k.2

section Stop

variable {s : State}

theorem Disciplined.of_listens {s' : State} (h : Disciplined s) (hl : Listens s s') :
    Disciplined s' := by
  unfold Disciplined
  rw [hl.stopping, hl.deadline, hl.kills]
  refine h.imp_right ?_
  rintro ⟨since, ks, htold, hkills⟩
  exact ⟨since, ks, ⟨hl.stopping.trans htold.stopping, hl.deadline.trans htold.deadline⟩, hkills⟩

/-- The first turn behind a request. -/
theorem checkStop_first (hstopping : s.stopping = false) (hkills : s.kills = [])
    (hasked : s.interrupted = true) (t : Turn) :
    Told t.now (checkStop t s) ∧ (checkStop t s).kills = [(.int, t.now)] := by
  unfold checkStop
  rw [hstopping, hasked, hkills]
  exact ⟨⟨rfl, rfl⟩, rfl⟩

theorem checkStop_of_stopping (h : s.stopping = true) (t : Turn) : checkStop t s = s := by
  rw [checkStop, h, Bool.not_true, Bool.and_false, if_neg Bool.false_ne_true]

theorem Disciplined.checks (h : Disciplined s) (t : Turn) :
    Disciplined (checkDeadline t (checkStop t s)) := by
  -- told now or before, the deadline decides
  have hdecide : ∀ {s' : State} {since ks}, Told since s' → s'.kills = (.int, since) :: ks →
      (∀ k ∈ ks, k.1 = Signal.kill ∧ since + grace < k.2) → Disciplined (checkDeadline t s') := by
    intro s' since ks htold hkills hall
    obtain ⟨htold', hkills'⟩ := checkDeadline_told htold t
    refine Or.inr ⟨since, ks ++ lateKills since [t], htold', by rw [hkills', hkills]; rfl, ?_⟩
    intro k hk
    rcases List.mem_append.mp hk with hk | hk
    · exact hall k hk
    · obtain ⟨u, hu, rfl⟩ := List.mem_map.mp hk
      exact ⟨rfl, of_decide_eq_true (List.mem_filter.mp hu).2⟩
  rcases h with ⟨hstopping, hdeadline, hkills⟩ | ⟨since, ks, htold, hkills, hall⟩
  · cases hasked : s.interrupted with
    | true =>
      obtain ⟨htold, hkills'⟩ := checkStop_first hstopping hkills hasked t
      exact hdecide htold hkills' (by simp)
    | false =>
      refine Or.inl ?_
      rw [checkStop, hasked, Bool.false_and, if_neg Bool.false_ne_true, checkDeadline, hdeadline]
      exact ⟨hstopping, hdeadline, hkills⟩
  · rw [checkStop_of_stopping htold.stopping]
    exact hdecide htold hkills hall

theorem disciplined_run (turns : List Turn) : Disciplined (run turns) := by
  refine run_induction (Or.inl ⟨rfl, rfl, rfl⟩) (fun s t hended h => ?_) turns
  exact ((h.of_listens (listens_notice t s)).checks t).of_listens (listens_turn hended t)

theorem heard_run (turns : List Turn) : Heard (run turns) := by
  refine run_induction (fun hask => ?_) (fun s t hended h => ?_) turns
  · rcases hask with ⟨front, back, heq⟩ | hask
    · exact absurd (congrArg List.length heq) (by simp [stopText, State.start])
    · cases hask
  · refine (listens_turn hended t).heard ?_
    have hstop : Heard (checkStop t (notice t s)) := by
      unfold checkStop
      split <;> exact (listens_notice t s).heard h
    unfold checkDeadline
    split
    · split <;> exact hstop
    · exact hstop

theorem foldl_of_ended (h : s.ended = true) (ts : List Turn) : ts.foldl turn s = s := by
  induction ts with
  | nil => rfl
  | cons t ts ih => rw [List.foldl_cons, turn, if_pos h, ih]

theorem ended_of_foldl {ts : List Turn} (h : (ts.foldl turn s).ended = false) : s.ended = false := by
  by_contra hended
  rw [foldl_of_ended (Bool.eq_true_of_not_eq_false hended)] at h
  exact hended h

theorem kills_told {since : Nat} (ts : List Turn) :
    ∀ {s : State}, Told since s → (ts.foldl turn s).ended = false →
      (ts.foldl turn s).kills = s.kills ++ lateKills since ts := by
  induction ts with
  | nil => exact fun _ _ => (List.append_nil _).symm
  | cons t ts ih =>
    intro s htold hrunning
    have hended : s.ended = false := ended_of_foldl hrunning
    have hsame : Told since (notice t s) := ⟨htold.stopping, htold.deadline⟩
    obtain ⟨htold', hkills⟩ := checkDeadline_told hsame t
    have hl := listens_turn hended t
    rw [checkStop_of_stopping hsame.stopping] at hl
    rw [List.foldl_cons, ih ⟨hl.stopping.trans htold'.stopping, hl.deadline.trans htold'.deadline⟩
      hrunning, hl.kills, hkills, List.append_assoc, lateKills_cons]
    rfl

end Stop

/-- **A stop is obeyed.** Once the bytes received hold `STOP\n`, however they were cut, or the
application is gone, or a signal has come, the next turn interrupts the relay, and each turn that
finds it running more than five seconds later kills it. -/
theorem stop_obeyed (turns : List Turn) (t : Turn) (ts : List Turn)
    (hrunning : (run (turns ++ t :: ts)).ended = false) (hfirst : (run turns).kills = [])
    (hasked : stopText <:+: (run turns).commands ∨ (run turns).connected = false ∨
      t.signalled = true) :
    (run (turns ++ t :: ts)).kills = (.int, t.now) :: lateKills t.now (t :: ts) := by
  have hinterrupted : ((run turns).interrupted || t.signalled) = true := by
    rcases hasked with hasked | hasked | hasked
    · rw [heard_run turns (Or.inl hasked), Bool.true_or]
    · rw [heard_run turns (Or.inr hasked), Bool.true_or]
    · rw [hasked, Bool.or_true]
  have hstopping : (run turns).stopping = false := by
    rcases disciplined_run turns with ⟨hstopping, -⟩ | ⟨since, ks, -, hkills, -⟩
    · exact hstopping
    · rw [hfirst] at hkills
      cases hkills
  have hfold : run (turns ++ t :: ts) = ts.foldl turn (turn (run turns) t) := List.foldl_append
  rw [hfold] at hrunning ⊢
  have hended : (turn (run turns) t).ended = false := ended_of_foldl hrunning
  have hended' : (run turns).ended = false := by
    by_contra h
    rw [turn, if_pos (Bool.eq_true_of_not_eq_false h)] at hended
    exact h hended
  obtain ⟨htold, hkills⟩ := @checkStop_first (notice t (run turns)) hstopping hfirst hinterrupted t
  obtain ⟨htold', hkills'⟩ := checkDeadline_told htold t
  have hl := listens_turn hended' t
  rw [kills_told ts ⟨hl.stopping.trans htold'.stopping, hl.deadline.trans htold'.deadline⟩ hrunning,
    hl.kills, hkills', hkills, List.append_assoc, lateKills_cons]
  rfl

theorem stop_obeyed_cut :
    (run ([{ idleTurn 0 with control := some (.bytes [83, 84]) },
        { idleTurn 1 with control := some (.bytes [79, 80, 10]) }] ++
      idleTurn 2 :: [idleTurn (3 + grace)])).kills = [(.int, 2), (.kill, 3 + grace)] := by
  refine (stop_obeyed [{ idleTurn 0 with control := some (.bytes [83, 84]) },
    { idleTurn 1 with control := some (.bytes [79, 80, 10]) }] (idleTurn 2) [idleTurn (3 + grace)]
    (by decide) (by decide) (Or.inl (by decide))).trans ?_
  decide

end Grid0Relay.Supervisor
