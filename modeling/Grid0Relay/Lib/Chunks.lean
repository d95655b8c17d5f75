import Grid0Relay.Lib.Bytes

/-!
# A text in pieces of one size

Piece `i` of a text starts at `i` times the size, and the last one may be shorter. A buffer into
which the pieces are copied, in any order and over whatever it held, has the text in front.
-/

namespace Grid0Relay.Lib.Chunks

variable {m i j : Nat} {b buffer : Bytes}

def chunk (m : Nat) (b : Bytes) (i : Nat) : Bytes := b.slice (m * i) m

/-- The buffer agrees with the text on a piece. -/
def Has (m : Nat) (b buffer : Bytes) (i : Nat) : Prop :=
  ∀ k, m * i ≤ k → k < m * i + m → k < b.length → buffer.byte k = b.byte k

theorem length_chunk : (chunk m b i).length = min m (b.length - m * i) := by
  rw [chunk, Bytes.length_slice]

/-- Copying a piece to its place provides it, and spoils no other. -/
theorem has_put (hfit : m * i + (chunk m b i).length ≤ buffer.length)
    (h : j = i ∨ Has m b buffer j) : Has m b (buffer.put (m * i) (chunk m b i)) j := by
  intro k hlo hhi hk
  by_cases hin : m * i ≤ k ∧ k < m * i + (chunk m b i).length
  · -- what is written is the text
    have hlt : k - m * i < m := by
      have := length_chunk (m := m) (b := b) (i := i)
      omega
    rw [Bytes.byte_put_inside hfit hin.1 hin.2, chunk, Bytes.byte_slice hlt]
    congr 1
    omega
  · rw [Bytes.byte_put_outside hfit (by omega)]
    refine (h.resolve_left fun heq => hin ?_) k hlo hhi hk
    subst heq
    have := length_chunk (m := m) (b := b) (i := j)
    omega

/-- With every piece in its place, the text is there. -/
theorem take_of_has (hm : 0 < m) (hall : ∀ i, m * i < b.length → Has m b buffer i)
    (hlen : b.length ≤ buffer.length) : buffer.take b.length = b := by
  refine Bytes.ext_byte (by simpa using hlen) fun k hk => ?_
  have hk' : k < b.length := by
    rw [List.length_take] at hk
    omega
  have hplace : m * (k / m) ≤ k := Nat.mul_div_le k m
  rw [Bytes.byte_take hk']
  exact hall _ (by omega) k hplace (Nat.lt_mul_div_succ k hm) hk'

end Grid0Relay.Lib.Chunks
