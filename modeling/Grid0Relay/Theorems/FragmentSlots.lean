import Grid0Relay.Logic.LanClient

/-!
# One slot for a packet

Whatever a client receives, sane or not, no two of its used slots collect for the same source and
number: a slot is given away only when none of those in use matches.
-/

namespace Grid0Relay.LanClient

open Lib Lib.Exec

/-- The used slots differ in their numbers or sources. -/
def Distinct (c : Client) : Prop :=
  ∀ i j, (c.frags i).used = true → (c.frags j).used = true → (c.frags i).id = (c.frags j).id →
    (c.frags i).src = (c.frags j).src → i = j

def KeepsDistinct (c c' : Client) : Prop := Distinct c → Distinct c'

instance : Std.Refl KeepsDistinct := ⟨fun _ h => h⟩

instance : IsTrans Client KeepsDistinct := ⟨fun _ _ _ h h' hd => h' (h hd)⟩

theorem keepsDistinct_of_frags {c c' : Client} (h : c'.frags = c.frags) : KeepsDistinct c c' := by
  intro hd
  unfold Distinct
  rw [h]
  exact hd

/-- A slot that is freed, or keeps its number and source. -/
theorem keepsDistinct_setFrag {c : Client} {i : Fin fragCount} {f : Fragment}
    (h : f.used = true → (c.frags i).used = true ∧ f.id = (c.frags i).id ∧
      f.src = (c.frags i).src) : KeepsDistinct c (c.setFrag i f) := by
  have hold : ∀ k, ((c.setFrag i f).frags k).used = true → (c.frags k).used = true ∧
      ((c.setFrag i f).frags k).id = (c.frags k).id ∧
      ((c.setFrag i f).frags k).src = (c.frags k).src := by
    intro k hused
    by_cases hk : k = i
    · subst hk
      rw [setFrag_self] at hused ⊢
      exact h hused
    · rw [setFrag_of_ne c i f hk] at hused ⊢
      exact ⟨hused, rfl, rfl⟩
  intro hd k l hk hl hid hsrc
  obtain ⟨hk', hkid, hksrc⟩ := hold k hk
  obtain ⟨hl', hlid, hlsrc⟩ := hold l hl
  exact hd k l hk' hl' (by rw [← hkid, hid, hlid]) (by rw [← hksrc, hsrc, hlsrc])

/-- A slot is claimed for a packet that has none. -/
theorem distinct_claim {c : Client} {header : FragmentHeader} (hnone : c.matching header = none)
    (i : Fin fragCount) : KeepsDistinct c (c.claim header i) := by
  intro hd k l hk hl hid hsrc
  by_cases hki : k = i <;> by_cases hli : l = i
  · rw [hki, hli]
  · subst hki
    rw [claim_self, claim_of_ne c k header hli] at hid hsrc
    rw [claim_of_ne c k header hli] at hl
    exact absurd hsrc.symm (matching_eq_none c hnone hl hid.symm)
  · subst hli
    rw [claim_self, claim_of_ne c l header hki] at hid hsrc
    rw [claim_of_ne c l header hki] at hk
    exact absurd hsrc (matching_eq_none c hnone hk hid)
  · rw [claim_of_ne c i header hki] at hk hid hsrc
    rw [claim_of_ne c i header hli] at hl hid hsrc
    exact hd k l hk hl hid hsrc

theorem keepsDistinct_place (c : Client) (header : FragmentHeader) :
    KeepsDistinct c (c.place header).2 := by
  unfold Client.place
  cases hmatch : c.matching header with
  | some i => exact id
  | none =>
    cases c.unused with
    | some i => exact distinct_claim hmatch i
    | none =>
      obtain ⟨age, slot⟩ := c.oldest
      cases slot with
      | none => exact id
      | some i =>
        by_cases hage : age > fragCount
        · simp only [if_pos hage]
          exact distinct_claim hmatch i
        · simp only [if_neg hage]
          exact id

theorem steps_storePart (packet : Bytes) (header : FragmentHeader) (i : Fin fragCount) :
    Steps KeepsDistinct (storePart packet header i) := by
  intro c
  by_cases h : PartInside packet header
  · obtain ⟨f, hrun, hf, -⟩ := storePart_inside h i c
    rw [hrun, hf]
    exact keepsDistinct_setFrag fun hused => ⟨hused, rfl, rfl⟩
  · obtain ⟨fault, hrun⟩ := storePart_outside h i c
    rw [hrun]
    exact id

theorem steps_lanClientProcess (available : Bytes) (len : Nat) :
    Steps KeepsDistinct (lanClientProcess available len) :=
  steps_ite (fun _ => steps_throw _) fun _ => steps_ite (fun _ => steps_throw _) fun _ _ =>
    keepsDistinct_of_frags rfl

theorem steps_finishPart (header : FragmentHeader) (i : Fin fragCount) :
    Steps KeepsDistinct (finishPart header i) := by
  intro c
  have hmeasure : ((c.frags i).measure header).used = (c.frags i).used ∧
      ((c.frags i).measure header).id = (c.frags i).id ∧
      ((c.frags i).measure header).src = (c.frags i).src := by
    unfold Fragment.measure
    split <;> exact ⟨rfl, rfl, rfl⟩
  have hset : KeepsDistinct c (c.setFrag i ((c.frags i).measure header)) :=
    keepsDistinct_setFrag fun hused => ⟨hmeasure.1 ▸ hused, hmeasure.2⟩
  rw [finishPart_apply]
  split
  · exact hset
  split
  · exact IsTrans.trans _ _ _ (keepsDistinct_setFrag (by simp)) (steps_lanClientProcess _ _ _)
  · exact hset

theorem steps_lanClientProcessFrag (packet : Bytes) :
    Steps KeepsDistinct (lanClientProcessFrag packet) := by
  refine steps_ite (fun _ => steps_throw _) fun _ => steps_bind (keepsDistinct_place · _) ?_
  rintro (_ | i)
  · exact steps_pure _
  · exact steps_bind (steps_storePart _ _ _) fun _ => steps_finishPart _ _

theorem steps_lanClientOnRecv (env : Env) (datagram : Bytes) :
    Steps KeepsDistinct (lanClientOnRecv env datagram) := by
  refine steps_guard fun _ => steps_bind (fun _ => keepsDistinct_of_frags rfl)
    fun _ => ?_
  split
  · exact steps_lanClientProcess _ _
  · exact steps_lanClientProcessFrag _
  · intro c
    refine keepsDistinct_of_frags (?_ : Same Client.frags c _)
    refine steps_bind steps_get (fun c => ?_) c
    split
    · exact steps_pure _
    · exact steps_ite (fun _ => steps_throw _) fun _ => steps_guard fun _ =>
        steps_ite (fun _ => steps_throw _) fun _ => steps_bind (fun c => by rw [lanClientSend_one fun h => by cases h]; rfl) fun _ => steps_pure _
  · exact steps_pure _

end Grid0Relay.LanClient
