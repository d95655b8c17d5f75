import Mathlib.Data.List.TakeWhile

/-!
# `strtol`

The number a text begins with, in a given base or, for base 0, in the one the text announces.
-/

namespace Grid0Relay.Lib.Strtol

/-- `isspace` in the C locale. -/
def isSpace (c : Char) : Bool := c = ' ' ∨ '\t' ≤ c ∧ c ≤ '\r'

/-- The value of a digit; 36 is none. -/
def digitValue (c : Char) : Nat :=
  if c.isDigit then c.toNat - '0'.toNat
  else if 'a' ≤ c ∧ c ≤ 'z' then c.toNat - 87
  else if 'A' ≤ c ∧ c ≤ 'Z' then c.toNat - 55
  else 36

def isDigit (base : Nat) (c : Char) : Bool := digitValue c < base

def number (base : Nat) (digits : List Char) : Nat :=
  digits.foldl (fun acc c => acc * base + digitValue c) 0

/-- Whether there is a minus, and what stands behind the sign. -/
def sign : List Char → Bool × List Char
  | '-' :: rest => (true, rest)
  | '+' :: rest => (false, rest)
  | rest => (false, rest)

/-- The base of the digits, and the text behind its mark. -/
def findBase (base : Nat) (text : List Char) : Nat × List Char :=
  if (base = 0 ∨ base = 16) ∧ (text.take 2 = ['0', 'x'] ∨ text.take 2 = ['0', 'X']) ∧
      (text.drop 2).takeWhile (isDigit 16) ≠ [] then (16, text.drop 2)
  else if base ≠ 0 then (base, text)
  else if text.head? = some '0' then (8, text)
  else (10, text)

/-- The value and the rest of the text. Without a digit the value is zero and nothing is
consumed. -/
def strtol (base : Nat) (text : List Char) : Int × List Char :=
  let signed := sign (text.dropWhile isSpace)
  let found := findBase base signed.2
  let digits := found.2.takeWhile (isDigit found.1)
  if digits = [] then (0, text)
  else (if signed.1 then -(number found.1 digits : Int) else number found.1 digits,
    found.2.dropWhile (isDigit found.1))

theorem digitValue_of_isDigit {c : Char} (h : c.isDigit = true) :
    digitValue c = c.toNat - '0'.toNat := if_pos h

theorem isDigit_ten : isDigit 10 = Char.isDigit := by
  funext c
  unfold isDigit digitValue
  cases hdigit : c.isDigit with
  | true =>
    have := Char.isDigit_iff_toNat.mp hdigit
    have : '0'.toNat = 48 := rfl
    have : '9'.toNat = 57 := rfl
    rw [if_pos rfl, decide_eq_true_eq]
    omega
  | false =>
    rw [if_neg Bool.false_ne_true, decide_eq_false_iff_not]
    split_ifs with hlower hupper
    · have : 97 ≤ c.toNat := hlower.1
      omega
    · have : 65 ≤ c.toNat := hupper.1
      omega
    · decide

theorem findBase_ten (text : List Char) : findBase 10 text = (10, text) := by
  simp [findBase]

end Grid0Relay.Lib.Strtol
