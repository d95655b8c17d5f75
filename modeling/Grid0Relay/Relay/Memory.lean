import Grid0Relay.Relay.State

/-!
# Memory accesses, the clock and the adapters

The primitive operations every function of the relay is written with. A read or
write outside its buffer is a `Fault`, so "no fault" is a statement about every
byte a function touches.
-/

namespace Grid0Relay

open Lib Lib.Exec

/-! ## Reading and writing buffers -/

def readByte (b : Bytes) (i : Nat) : RelayM UInt8 :=
  if i < b.length then pure (b.byte i) else throw .readBounds

/-- `READ_NET16`. -/
def readNet16 (b : Bytes) (i : Nat) : RelayM Nat :=
  if i + 1 < b.length then pure (b.net16 i) else throw .readBounds

def readVec (n : Nat) (b : Bytes) (i : Nat) : RelayM (Vector UInt8 n) :=
  if i + n ≤ b.length then pure (b.vecAt n i) else throw .readBounds

def readMac (b : Bytes) (i : Nat) : RelayM Mac := readVec 6 b i

def readIp4 (b : Bytes) (i : Nat) : RelayM Ip4 := readVec 4 b i

/-- The source side of a `memcpy`; copying nothing touches nothing. -/
def readRange (b : Bytes) (off len : Nat) : RelayM Bytes :=
  if len = 0 ∨ off + len ≤ b.length then pure (b.slice off len) else throw .readBounds

/-- A `memcpy` to the start of a buffer of `cap` bytes. -/
def copyRange (cap : Nat) (b : Bytes) (off len : Nat) : RelayM Bytes :=
  if cap < len then throw .writeBounds else readRange b off len

/-- Overwrite a range in place. -/
def writeRange (b : Bytes) (off : Nat) (xs : Bytes) : RelayM Bytes :=
  if off + xs.length ≤ b.length then pure (b.put off xs) else throw .writeBounds

/-! ## The struct and the environment -/

def getLp : RelayM LanPlay := World.lp <$> get

def modifyLp (f : LanPlay → LanPlay) : RelayM Unit := modify fun w => { w with lp := f w.lp }

def modifyPacketCtx (f : PacketCtx → PacketCtx) : RelayM Unit :=
  modifyLp fun lp => { lp with packetCtx := f lp.packetCtx }

/-- Put the next question to the environment. -/
def ask {α : Type} (answer : Nat → α) : RelayM α :=
  modifyGet fun w => (answer w.asked, { w with asked := w.asked + 1 })

/-- `time(NULL)`. -/
def timeNull (env : Env) : RelayM Nat :=
  modifyGet fun w =>
    (env.clock w.readings,
      { w with readings := w.readings + 1, time := env.clock w.readings })

/-- `uv_pcap_sendpacket`. -/
def uvPcapSendpacket (env : Env) (iface : Iface) (frame : Bytes) : RelayM Int :=
  modifyGet fun w =>
    (env.sendpacket w.asked,
      { w with asked := w.asked + 1, sent := w.sent ++ [⟨iface, frame⟩] })

/-! ## Accesses inside their buffer -/

section Inside

variable {b : Bytes} {i off len cap n : Nat} {xs : Bytes}

theorem readByte_ok (h : i < b.length) : readByte b i = pure (b.byte i) := if_pos h

theorem readNet16_ok (h : i + 1 < b.length) : readNet16 b i = pure (b.net16 i) := if_pos h

theorem readMac_ok (h : i + 6 ≤ b.length) : readMac b i = pure (b.vecAt 6 i) := if_pos h

theorem readIp4_ok (h : i + 4 ≤ b.length) : readIp4 b i = pure (b.vecAt 4 i) := if_pos h

theorem readRange_ok (h : off + len ≤ b.length) : readRange b off len = pure (b.slice off len) :=
  if_pos (Or.inr h)

theorem copyRange_ok (hcap : len ≤ cap) (h : off + len ≤ b.length) :
    copyRange cap b off len = pure (b.slice off len) := by
  rw [copyRange, if_neg (by omega), readRange_ok h]

theorem writeRange_ok (h : off + xs.length ≤ b.length) :
    writeRange b off xs = pure (b.put off xs) := if_pos h

end Inside

/-! ## Accesses outside -/

/-- A read gives a value or is out of bounds. -/
def Access {α : Type} (x : RelayM α) : Prop := x = throw .readBounds ∨ ∃ a, x = pure a

theorem access_ite {α : Type} {c : Prop} [Decidable c] {a : α} :
    Access (if c then pure a else throw .readBounds : RelayM α) := by
  split
  · exact Or.inr ⟨a, rfl⟩
  · exact Or.inl rfl

theorem access_readByte (b : Bytes) (i : Nat) : Access (readByte b i) := access_ite

theorem access_readNet16 (b : Bytes) (i : Nat) : Access (readNet16 b i) := access_ite

theorem access_readMac (b : Bytes) (i : Nat) : Access (readMac b i) := access_ite

theorem access_readIp4 (b : Bytes) (i : Nat) : Access (readIp4 b i) := access_ite

theorem readIp4_outside {b : Bytes} {i : Nat} (h : b.length < i + 4) :
    readIp4 b i = throw .readBounds := if_neg (by omega)

/-- Reads in front of an access that is out of bounds do not change that. -/
theorem Access.bind {α β : Type} {x : RelayM α} {f : α → RelayM β} (hx : Access x)
    (hf : ∀ a, f a = throw .readBounds) : x >>= f = throw .readBounds := by
  rcases hx with rfl | ⟨a, rfl⟩
  · rfl
  · rw [pure_bind, hf]

@[simp] theorem getLp_apply (w : World) : getLp w = .ok w.lp w := rfl

@[simp] theorem modifyLp_apply (f : LanPlay → LanPlay) (w : World) :
    modifyLp f w = .ok () { w with lp := f w.lp } := rfl

@[simp] theorem modifyPacketCtx_apply (f : PacketCtx → PacketCtx) (w : World) :
    modifyPacketCtx f w =
      .ok () { w with lp := { w.lp with packetCtx := f w.lp.packetCtx } } := rfl

@[simp] theorem ask_apply {α : Type} (answer : Nat → α) (w : World) :
    ask answer w = .ok (answer w.asked) { w with asked := w.asked + 1 } := rfl

@[simp] theorem timeNull_apply (env : Env) (w : World) :
    timeNull env w = .ok (env.clock w.readings)
      { w with readings := w.readings + 1, time := env.clock w.readings } := rfl

/-! ## Accesses change nothing -/

theorem reads_readByte (b : Bytes) (i : Nat) : Reads (readByte b i) :=
  reads_guard fun _ => reads_throw _

theorem reads_readNet16 (b : Bytes) (i : Nat) : Reads (readNet16 b i) :=
  reads_guard fun _ => reads_throw _

theorem reads_readMac (b : Bytes) (i : Nat) : Reads (readMac b i) :=
  reads_guard fun _ => reads_throw _

theorem reads_readIp4 (b : Bytes) (i : Nat) : Reads (readIp4 b i) :=
  reads_guard fun _ => reads_throw _

theorem reads_readRange (b : Bytes) (off len : Nat) : Reads (readRange b off len) :=
  reads_guard fun _ => reads_throw _

section Footprint

variable {R : World → World → Prop} [Std.Refl R]

@[simp] theorem steps_readByte (b : Bytes) (i : Nat) : Steps R (readByte b i) :=
  (reads_readByte b i).steps

@[simp] theorem steps_readNet16 (b : Bytes) (i : Nat) : Steps R (readNet16 b i) :=
  (reads_readNet16 b i).steps

@[simp] theorem steps_readMac (b : Bytes) (i : Nat) : Steps R (readMac b i) :=
  (reads_readMac b i).steps

@[simp] theorem steps_readIp4 (b : Bytes) (i : Nat) : Steps R (readIp4 b i) :=
  (reads_readIp4 b i).steps

@[simp] theorem steps_readRange (b : Bytes) (off len : Nat) : Steps R (readRange b off len) :=
  (reads_readRange b off len).steps

@[simp] theorem steps_copyRange (cap : Nat) (b : Bytes) (off len : Nat) :
    Steps R (copyRange cap b off len) := by
  simp [copyRange]

@[simp] theorem steps_writeRange (b : Bytes) (off : Nat) (xs : Bytes) :
    Steps R (writeRange b off xs) := by
  simp [writeRange]

@[simp] theorem steps_getLp : Steps R getLp := by
  simp [getLp]

end Footprint

end Grid0Relay
