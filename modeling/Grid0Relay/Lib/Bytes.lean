import Mathlib.Data.List.Basic
import Mathlib.Tactic.Linarith

/-!
# Byte buffers in network order

Buffers are lists of bytes. Reads are total (`byte` is zero past the end), so a
bounds obligation is a separate statement about `length`; the model that uses
this file attaches it to its own memory accesses. `put` overwrites a range in
place, `net16` and `bytes16` are the big-endian 16-bit read and write.
-/

namespace Grid0Relay.Lib

/-- A byte buffer. -/
abbrev Bytes := List UInt8

namespace Bytes

/-- The byte at an index, zero past the end. -/
def byte (b : Bytes) (i : Nat) : UInt8 := b.getD i 0

/-- The big-endian 16-bit value at an index. -/
def net16 (b : Bytes) (i : Nat) : Nat := (b.byte i).toNat * 256 + (b.byte (i + 1)).toNat

/-- A fixed-size field copied out of a buffer. -/
def vecAt (n : Nat) (b : Bytes) (off : Nat) : Vector UInt8 n :=
  Vector.ofFn fun i => b.byte (off + i)

/-- The two bytes of a 16-bit value, most significant first. -/
def bytes16 (v : Nat) : Bytes := [UInt8.ofNat (v / 256), UInt8.ofNat v]

/-- Overwrite the bytes from `off` on by `xs`. -/
def put (b : Bytes) (off : Nat) (xs : Bytes) : Bytes :=
  b.take off ++ xs ++ b.drop (off + xs.length)

/-- `len` bytes from `off` on. -/
def slice (b : Bytes) (off len : Nat) : Bytes := (b.drop off).take len

theorem byte_of_lt {b : Bytes} {i : Nat} (h : i < b.length) : b.byte i = b[i] := by
  simp [byte, h]

theorem byte_of_ge {b : Bytes} {i : Nat} (h : b.length ≤ i) : b.byte i = 0 := by
  simp [byte, h]

/-- Buffers of one length are equal when they agree at every index. -/
theorem ext_byte {a b : Bytes} (hlen : a.length = b.length)
    (h : ∀ i, i < a.length → a.byte i = b.byte i) : a = b := by
  apply List.ext_getElem hlen
  intro i ha hb
  have := h i ha
  rwa [byte_of_lt ha, byte_of_lt hb] at this

theorem byte_append_left {a b : Bytes} {i : Nat} (h : i < a.length) :
    (a ++ b).byte i = a.byte i := by
  simp [byte, List.getElem?_append_left h]

theorem byte_append_right {a b : Bytes} {i : Nat} (h : a.length ≤ i) :
    (a ++ b).byte i = b.byte (i - a.length) := by
  simp [byte, List.getElem?_append_right h]

@[simp] theorem byte_drop (b : Bytes) (n i : Nat) : Bytes.byte (b.drop n) i = b.byte (n + i) := by
  simp [byte]

theorem byte_take {b : Bytes} {n i : Nat} (h : i < n) : Bytes.byte (b.take n) i = b.byte i := by
  simp [byte, h]

@[simp] theorem length_slice (b : Bytes) (off len : Nat) :
    (b.slice off len).length = min len (b.length - off) := by
  simp [slice]

theorem byte_slice {b : Bytes} {off len i : Nat} (h : i < len) :
    (b.slice off len).byte i = b.byte (off + i) := by
  rw [slice, byte_take h, byte_drop]

@[simp] theorem length_bytes16 (v : Nat) : (bytes16 v).length = 2 := rfl

theorem net16_lt (b : Bytes) (i : Nat) : b.net16 i < 65536 := by
  have h1 := (b.byte i).toNat_lt
  have h2 := (b.byte (i + 1)).toNat_lt
  unfold net16
  omega

/-! ## Overwriting -/

theorem length_put {b : Bytes} {off : Nat} {xs : Bytes} (h : off + xs.length ≤ b.length) :
    (b.put off xs).length = b.length := by
  simp only [put, List.length_append, List.length_take, List.length_drop]
  omega

/-- A written range reads back. -/
theorem byte_put_inside {b : Bytes} {off : Nat} {xs : Bytes} {i : Nat}
    (h : off + xs.length ≤ b.length) (lo : off ≤ i) (hi : i < off + xs.length) :
    (b.put off xs).byte i = xs.byte (i - off) := by
  have htake : (b.take off).length = off := by
    rw [List.length_take]
    omega
  rw [put, byte_append_left (by rw [List.length_append, htake]; exact hi),
    byte_append_right (by omega), htake]

/-- Everything outside the written range is unchanged. -/
theorem byte_put_outside {b : Bytes} {off : Nat} {xs : Bytes} {i : Nat}
    (h : off + xs.length ≤ b.length) (out : i < off ∨ off + xs.length ≤ i) :
    (b.put off xs).byte i = b.byte i := by
  have htake : (b.take off).length = off := by
    rw [List.length_take]
    omega
  rw [put, List.append_assoc]
  rcases out with out | out
  · rw [byte_append_left (by omega), byte_take out]
  · rw [byte_append_right (by omega), byte_append_right (by omega), byte_drop, htake]
    congr 1
    omega

/-- Writing what is already there changes nothing. -/
theorem put_self {b : Bytes} {off : Nat} {xs : Bytes} (h : off + xs.length ≤ b.length)
    (same : ∀ i, i < xs.length → b.byte (off + i) = xs.byte i) : b.put off xs = b := by
  apply ext_byte (length_put h)
  intro i _
  by_cases inside : off ≤ i ∧ i < off + xs.length
  · rw [byte_put_inside h inside.1 inside.2, ← same (i - off) (by omega)]
    congr 1
    omega
  · exact byte_put_outside h (by omega)

/-- A later write of the same width wins. -/
theorem put_put {b : Bytes} {off : Nat} {xs ys : Bytes} (h : off + xs.length ≤ b.length)
    (hlen : ys.length = xs.length) : (b.put off xs).put off ys = b.put off ys := by
  have hput := length_put h
  have hys : off + ys.length ≤ b.length := by omega
  apply ext_byte (by rw [length_put (by omega), length_put hys, hput])
  intro i _
  by_cases inside : off ≤ i ∧ i < off + ys.length
  · rw [byte_put_inside (by omega) inside.1 inside.2, byte_put_inside hys inside.1 inside.2]
  · rw [byte_put_outside (by omega) (by omega), byte_put_outside h (by omega),
      byte_put_outside hys (by omega)]

/-- A range beside the written one is read as before. -/
theorem slice_put_outside {b : Bytes} {off lo n : Nat} {xs : Bytes}
    (h : off + xs.length ≤ b.length) (out : lo + n ≤ off ∨ off + xs.length ≤ lo) :
    (b.put off xs).slice lo n = b.slice lo n := by
  have hput := length_put h
  apply ext_byte (by rw [length_slice, length_slice, hput])
  intro i hi
  rw [length_slice] at hi
  rw [byte_slice (by omega), byte_slice (by omega), byte_put_outside h (by omega)]

/-- A write inside a range is a write inside the slice. -/
theorem slice_put_inside {b : Bytes} {lo rel n : Nat} {xs : Bytes} (hin : rel + xs.length ≤ n)
    (h : lo + n ≤ b.length) :
    (b.put (lo + rel) xs).slice lo n = (b.slice lo n).put rel xs := by
  have hput : (b.put (lo + rel) xs).length = b.length := length_put (by omega)
  have hslice : (b.slice lo n).length = n := by rw [length_slice]; omega
  apply ext_byte (by rw [length_put (by omega), length_slice, length_slice, hput])
  intro i hi
  rw [length_slice, hput] at hi
  by_cases inside : rel ≤ i ∧ i < rel + xs.length
  · rw [byte_slice (by omega), byte_put_inside (by omega) (by omega) (by omega),
      byte_put_inside (by omega) inside.1 inside.2]
    congr 1
    omega
  · rw [byte_slice (by omega), byte_put_outside (by omega) (by omega),
      byte_put_outside (by omega) (by omega), byte_slice (by omega)]

theorem toNat_ofNat_byte {n : Nat} (h : n < 256) : (UInt8.ofNat n).toNat = n := by
  simpa using h

theorem net16_append_left {a b : Bytes} {i : Nat} (h : i + 2 ≤ a.length) :
    (a ++ b).net16 i = a.net16 i := by
  rw [net16, net16, byte_append_left (by omega), byte_append_left (by omega)]

/-- The bytes of a value read back as its low 16 bits. -/
theorem net16_bytes16 (v : Nat) : (bytes16 v).net16 0 = v % 65536 := by
  show (UInt8.ofNat (v / 256)).toNat * 256 + (UInt8.ofNat v).toNat = v % 65536
  rw [UInt8.toNat_ofNat', UInt8.toNat_ofNat']
  omega

/-- A 16-bit write reads back as the value written. -/
theorem net16_put_self {b : Bytes} {off v : Nat} (h : off + 2 ≤ b.length) (hv : v < 65536) :
    (b.put off (bytes16 v)).net16 off = v := by
  have h0 : (b.put off (bytes16 v)).byte off = UInt8.ofNat (v / 256) := by
    rw [byte_put_inside (by simpa using h) (Nat.le_refl _) (by simp), Nat.sub_self]
    rfl
  have h1 : (b.put off (bytes16 v)).byte (off + 1) = UInt8.ofNat v := by
    rw [byte_put_inside (by simpa using h) (by omega) (by simp),
      show off + 1 - off = 1 by omega]
    rfl
  have hlow : (UInt8.ofNat v).toNat = v % 256 := by simp
  rw [net16, h0, h1, toNat_ofNat_byte (by omega), hlow]
  omega

theorem net16_put_outside {b : Bytes} {off i : Nat} {xs : Bytes}
    (h : off + xs.length ≤ b.length) (out : i + 2 ≤ off ∨ off + xs.length ≤ i) :
    (b.put off xs).net16 i = b.net16 i := by
  rw [net16, net16, byte_put_outside h (by omega), byte_put_outside h (by omega)]

/-- The two bytes of a 16-bit read are the two bytes of its write. -/
theorem byte_bytes16_net16 (b : Bytes) (off i : Nat) (h : i < 2) :
    (bytes16 (b.net16 off)).byte i = b.byte (off + i) := by
  have h1 := (b.byte (off + 1)).toNat_lt
  have hcases : i = 0 ∨ i = 1 := by omega
  rcases hcases with rfl | rfl
  · show UInt8.ofNat (b.net16 off / 256) = b.byte off
    rw [net16, show ((b.byte off).toNat * 256 + (b.byte (off + 1)).toNat) / 256 =
      (b.byte off).toNat by omega, UInt8.ofNat_toNat]
  · show UInt8.ofNat (b.net16 off) = b.byte (off + 1)
    apply UInt8.toNat_inj.mp
    rw [UInt8.toNat_ofNat', net16]
    omega

/-- Writing the 16-bit value already there changes nothing. -/
theorem put_net16_self {b : Bytes} {off : Nat} (h : off + 2 ≤ b.length) :
    b.put off (bytes16 (b.net16 off)) = b := by
  apply put_self (by simpa using h)
  intro i hi
  exact (byte_bytes16_net16 b off i (by simpa using hi)).symm

/-- Buffers that differ in a 16-bit field only. -/
theorem put_net16_of_agree {a b : Bytes} {off : Nat} (hlen : a.length = b.length)
    (h : off + 2 ≤ a.length) (same : ∀ i, i < off ∨ off + 2 ≤ i → a.byte i = b.byte i) :
    a.put off (bytes16 (b.net16 off)) = b := by
  have hfit : off + (bytes16 (b.net16 off)).length ≤ a.length := by simpa using h
  apply ext_byte ((length_put hfit).trans hlen)
  intro i _
  by_cases inside : off ≤ i ∧ i < off + 2
  · rw [byte_put_inside hfit inside.1 (by simpa using inside.2),
      byte_bytes16_net16 b off (i - off) (by omega)]
    congr 1
    omega
  · rw [byte_put_outside hfit (by simp; omega)]
    exact same i (by omega)

theorem net16_slice {b : Bytes} {lo n i : Nat} (h : i + 2 ≤ n) :
    (b.slice lo n).net16 i = b.net16 (lo + i) := by
  rw [net16, net16, byte_slice (by omega), byte_slice (by omega), Nat.add_assoc]

/-- Pieces of the same lengths add up to the same just when they are the same. -/
theorem flatten_map_inj {α : Type} {f g : α → Bytes} {l : List α}
    (hlen : ∀ a ∈ l, (f a).length = (g a).length) :
    (l.map f).flatten = (l.map g).flatten ↔ ∀ a ∈ l, f a = g a := by
  induction l with
  | nil => simp
  | cons a l ih =>
    have hrest := ih fun b hb => hlen b (List.mem_cons_of_mem a hb)
    simp only [List.map_cons, List.flatten_cons, List.forall_mem_cons]
    constructor
    · intro h
      obtain ⟨hfirst, hmore⟩ := List.append_inj h (hlen a List.mem_cons_self)
      exact ⟨hfirst, hrest.mp hmore⟩
    · rintro ⟨hfirst, hmore⟩
      rw [hfirst, hrest.mpr hmore]

/-! ## Fixed-size fields -/

theorem vecAt_eq_iff {n : Nat} {a b : Bytes} {i j : Nat} :
    vecAt n a i = vecAt n b j ↔ ∀ k, k < n → a.byte (i + k) = b.byte (j + k) := by
  constructor
  · intro h k hk
    have := congrArg (fun v => v[k]) h
    simpa [vecAt] using this
  · intro h
    apply Vector.ext
    intro k hk
    simpa [vecAt] using h k hk

theorem byte_toList {n : Nat} (v : Vector UInt8 n) {i : Nat} (h : i < n) :
    Bytes.byte v.toList i = v[i] := by
  simp [byte, h]

/-- A field written into a buffer reads back. -/
theorem vecAt_put_self {n : Nat} {b : Bytes} {off : Nat} (v : Vector UInt8 n)
    (h : off + n ≤ b.length) : vecAt n (b.put off v.toList) off = v := by
  apply Vector.ext
  intro k hk
  have hb : (b.put off v.toList).byte (off + k) = v[k] := by
    rw [byte_put_inside (by simpa using h) (by omega) (by simpa using hk),
      show off + k - off = k by omega, byte_toList v hk]
  simpa [vecAt] using hb

/-- A field as a slice. -/
theorem slice_eq_vecAt {n : Nat} {b : Bytes} {off : Nat} (h : off + n ≤ b.length) :
    b.slice off n = (vecAt n b off).toList := by
  apply ext_byte
  · simp
    omega
  · intro i hi
    have hi' : i < n := by
      rw [length_slice] at hi
      omega
    rw [byte_slice hi', byte_toList _ hi']
    simp [vecAt]

/-- Writing the field already there changes nothing. -/
theorem put_vecAt_self {n : Nat} {b : Bytes} {off : Nat} (h : off + n ≤ b.length) :
    b.put off (vecAt n b off).toList = b := by
  apply put_self (by simpa using h)
  intro i hi
  have hi' : i < n := by simpa using hi
  rw [byte_toList _ hi']
  simp [vecAt]

theorem vecAt_put_outside {n : Nat} {b : Bytes} {off i : Nat} {xs : Bytes}
    (h : off + xs.length ≤ b.length) (out : i + n ≤ off ∨ off + xs.length ≤ i) :
    vecAt n (b.put off xs) i = vecAt n b i := by
  rw [vecAt_eq_iff]
  intro k hk
  exact byte_put_outside h (by omega)

/-- Reading a field that was appended at the front. -/
theorem vecAt_append_right {n : Nat} {a b : Bytes} {i : Nat} (h : a.length ≤ i) :
    vecAt n (a ++ b) i = vecAt n b (i - a.length) := by
  rw [vecAt_eq_iff]
  intro k _
  rw [byte_append_right (by omega)]
  congr 1
  omega

/-- A field between two other pieces reads back. -/
theorem vecAt_append_field {n : Nat} (v : Vector UInt8 n) (a c : Bytes) :
    vecAt n (a ++ (v.toList ++ c)) a.length = v := by
  rw [vecAt_append_right (Nat.le_refl _), Nat.sub_self]
  apply Vector.ext
  intro i hi
  have hbyte : Bytes.byte (v.toList ++ c) i = v[i] := by
    rw [byte_append_left (by simpa using hi), byte_toList v hi]
  simpa [vecAt] using hbyte

theorem vecAt_append_at {n i : Nat} (v : Vector UInt8 n) {a : Bytes} (c : Bytes)
    (h : a.length = i) : vecAt n (a ++ (v.toList ++ c)) i = v := by
  rw [← h, vecAt_append_field]

theorem net16_append_right {a b : Bytes} {i : Nat} (h : a.length ≤ i) :
    net16 (a ++ b) i = net16 b (i - a.length) := by
  rw [net16, net16, byte_append_right h, byte_append_right (by omega)]
  congr 4
  omega

end Bytes

end Grid0Relay.Lib
