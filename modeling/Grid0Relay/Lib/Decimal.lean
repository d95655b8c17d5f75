import Grid0Relay.Lib.Bytes

/-!
# Numbers in decimal

The digits of a number as ASCII bytes, and the number of some digits.
-/

namespace Grid0Relay.Lib

def decimal (n : Nat) : Bytes := (Nat.toDigits 10 n).map fun c => UInt8.ofNat c.toNat

/-- With a sign if it is negative. -/
def decimalInt (n : Int) : Bytes := if n < 0 then 45 :: decimal n.natAbs else decimal n.natAbs

def isDigit (b : UInt8) : Bool := 48 ≤ b ∧ b ≤ 57

def number (digits : Bytes) : Nat := digits.foldl (fun n b => n * 10 + (b.toNat - 48)) 0

theorem number_snoc (digits : Bytes) (b : UInt8) :
    number (digits ++ [b]) = number digits * 10 + (b.toNat - 48) := by
  rw [number, List.foldl_append]
  rfl

theorem decimal_digit {n : Nat} (h : n < 10) : decimal n = [UInt8.ofNat (48 + n)] := by
  have hall : ∀ n : Fin 10, decimal n.val = [UInt8.ofNat (48 + n.val)] := by decide
  exact hall ⟨n, h⟩

theorem decimal_step {n : Nat} (h : 10 ≤ n) :
    decimal n = decimal (n / 10) ++ [UInt8.ofNat (48 + n % 10)] := by
  have hlast : decimal (n % 10) = [UInt8.ofNat (48 + n % 10)] :=
    decimal_digit (Nat.mod_lt n (by decide))
  rw [decimal, Nat.toDigits_eq_if (by decide), if_neg (by omega), List.map_append, ← hlast, decimal,
    decimal, Nat.toDigits_of_lt_base (Nat.mod_lt n (by decide))]

theorem ofNat_digit {d : Nat} (h : d < 10) : (UInt8.ofNat (48 + d)).toNat = 48 + d := by
  rw [UInt8.toNat_ofNat']
  omega

/-- Induction on the digits of a number. -/
theorem decimal_induction {P : Nat → Prop} (hdigit : ∀ n < 10, P n)
    (hstep : ∀ n, 10 ≤ n → P (n / 10) → P n) (n : Nat) : P n := by
  induction n using Nat.strongRecOn with
  | ind n ih =>
    by_cases h : n < 10
    · exact hdigit n h
    · exact hstep n (by omega) (ih (n / 10) (by omega))

theorem number_decimal (n : Nat) : number (decimal n) = n := by
  refine decimal_induction (P := fun n => number (decimal n) = n) ?_ ?_ n
  · intro n h
    rw [decimal_digit h, number, List.foldl_cons, List.foldl_nil, ofNat_digit h]
    omega
  · intro n h ih
    rw [decimal_step h, number_snoc, ih, ofNat_digit (Nat.mod_lt n (by decide))]
    omega

theorem isDigit_decimal (n : Nat) : ∀ b ∈ decimal n, isDigit b = true := by
  have hone : ∀ d : Fin 10, isDigit (UInt8.ofNat (48 + d.val)) = true := by decide
  refine decimal_induction (P := fun n => ∀ b ∈ decimal n, isDigit b = true) ?_ ?_ n
  · intro n h b hb
    rw [decimal_digit h, List.mem_singleton] at hb
    rw [hb]
    exact hone ⟨n, h⟩
  · intro n h ih b hb
    rw [decimal_step h, List.mem_append, List.mem_singleton] at hb
    rcases hb with hb | rfl
    · exact ih b hb
    · exact hone ⟨n % 10, Nat.mod_lt n (by decide)⟩

theorem decimal_ne_nil (n : Nat) : decimal n ≠ [] := by
  simp [decimal, Nat.toDigits_ne_nil]

/-- No leading zero. -/
theorem head_decimal {n : Nat} (h : 0 < n) : (decimal n).head? ≠ some 48 := by
  have hone : ∀ d : Fin 10, 0 < d.val → UInt8.ofNat (48 + d.val) ≠ 48 := by decide
  revert h
  refine decimal_induction (P := fun n => 0 < n → (decimal n).head? ≠ some 48) ?_ ?_ n
  · intro n hn h
    rw [decimal_digit hn, List.head?_cons, ne_eq, Option.some.injEq]
    exact hone ⟨n, hn⟩ h
  · intro n hn ih h
    rw [decimal_step hn, List.head?_append_of_ne_nil _ (decimal_ne_nil _)]
    exact ih (by omega)

end Grid0Relay.Lib
