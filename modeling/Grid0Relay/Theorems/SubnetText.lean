import Grid0Relay.Relay.Start

/-!
# The text of a subnet

What `parse_subnet` takes for `--subnet`. The address is left to `inet_pton` and the number
behind the slash to `strtol`, which also takes spaces, a sign, leading zeros and nothing at
all. The mask and the network that come out are those of the number.
-/

namespace Grid0Relay

open Lib.Strtol

/-! ## Numbers -/

/-- The value of some digits. -/
def numberOf (digits : List Char) : Nat :=
  digits.foldl (fun acc c => acc * 10 + (c.toNat - '0'.toNat)) 0

inductive Sign
  | none
  | plus
  | minus

def Sign.text : Sign → List Char
  | .none => []
  | .plus => ['+']
  | .minus => ['-']

def Sign.apply : Sign → Nat → Int
  | .none, n => n
  | .plus, n => n
  | .minus, n => -n

/-- A number as `strtol` reads one to its end: nothing, or spaces, a sign and digits. -/
inductive Number : List Char → Int → Prop
  | empty : Number [] 0
  | digits (spaces : List Char) (sign : Sign) (digits : List Char)
      (hspaces : ∀ c ∈ spaces, isSpace c = true) (hdigits : ∀ c ∈ digits, c.isDigit = true)
      (hne : digits ≠ []) :
      Number (spaces ++ (sign.text ++ digits)) (sign.apply (numberOf digits))

theorem isSpace_of_isDigit {c : Char} (h : c.isDigit = true) : isSpace c = false := by
  simp only [Char.isDigit, Bool.and_eq_true, decide_eq_true_eq] at h
  simp only [isSpace, decide_eq_false_iff_not, not_or, not_and]
  refine ⟨?_, fun _ hle => ?_⟩
  · rintro rfl
    exact absurd h.1 (by decide)
  · exact absurd (Nat.le_trans h.1 hle) (by decide)

theorem takeWhile_digits {digits : List Char} (h : ∀ c ∈ digits, c.isDigit = true) :
    digits.takeWhile Char.isDigit = digits ∧ digits.dropWhile Char.isDigit = [] :=
  ⟨List.takeWhile_eq_self_iff.mpr h, List.dropWhile_eq_nil_iff.mpr h⟩

theorem number_ten {digits : List Char} (h : ∀ c ∈ digits, c.isDigit = true) :
    number 10 digits = numberOf digits := by
  refine List.foldl_ext _ _ _ fun acc c hc => ?_
  rw [digitValue_of_isDigit (h c hc)]

/-- `strtol` in base 10, behind the spaces and the sign. -/
theorem strtol_ten (text : List Char) :
    strtol 10 text =
      (fun negative rest => if rest.takeWhile Char.isDigit = [] then (0, text)
        else (if negative then -(numberOf (rest.takeWhile Char.isDigit) : Int)
          else numberOf (rest.takeWhile Char.isDigit), rest.dropWhile Char.isDigit))
        (sign (text.dropWhile isSpace)).1 (sign (text.dropWhile isSpace)).2 := by
  dsimp only [strtol]
  rw [findBase_ten, isDigit_ten, number_ten fun c hc => List.mem_takeWhile_imp hc]

/-- It has taken all of the text. -/
theorem strtol_digits {text rest : List Char} {negative : Bool} {len : Int}
    (h : (if rest.takeWhile Char.isDigit = [] then (0, text)
      else (if negative then -(numberOf (rest.takeWhile Char.isDigit) : Int)
        else numberOf (rest.takeWhile Char.isDigit), rest.dropWhile Char.isDigit)) = (len, [])) :
    (text = [] ∧ len = 0) ∨
      (rest ≠ [] ∧ (∀ c ∈ rest, c.isDigit = true) ∧
        len = if negative then -(numberOf rest : Int) else numberOf rest) := by
  split at h
  · injection h with hlen htext
    exact Or.inl ⟨htext, hlen.symm⟩
  · rename_i hne
    injection h with hlen hrest
    have hall := List.dropWhile_eq_nil_iff.mp hrest
    rw [(takeWhile_digits hall).1] at hlen hne
    exact Or.inr ⟨hne, hall, hlen.symm⟩

theorem sign_text (body : List Char) : ∃ s : Sign, body = s.text ++ (sign body).2 ∧
    ∀ n : Nat, (if (sign body).1 then -(n : Int) else n) = s.apply n := by
  unfold sign
  split
  · exact ⟨.minus, rfl, fun _ => rfl⟩
  · exact ⟨.plus, rfl, fun _ => rfl⟩
  · exact ⟨.none, rfl, fun _ => rfl⟩

theorem number_of_strtol {s : List Char} {len : Int} (h : strtol 10 s = (len, [])) :
    Number s len := by
  have hsplit := (List.takeWhile_append_dropWhile (p := isSpace) (l := s)).symm
  have hspaces : ∀ c ∈ s.takeWhile isSpace, isSpace c = true := fun c hc =>
    List.mem_takeWhile_imp hc
  obtain ⟨sgn, hbody, happly⟩ := sign_text (s.dropWhile isSpace)
  rw [strtol_ten] at h
  rcases strtol_digits h with ⟨rfl, rfl⟩ | ⟨hne, hall, rfl⟩
  · exact .empty
  · have hnumber := Number.digits _ sgn _ hspaces hall hne
    rw [← hbody, ← hsplit] at hnumber
    rw [happly]
    exact hnumber

theorem dropWhile_spaces {spaces : List Char} (h : ∀ c ∈ spaces, isSpace c = true) {c : Char}
    (hc : isSpace c = false) (rest : List Char) :
    (spaces ++ c :: rest).dropWhile isSpace = c :: rest := by
  rw [List.dropWhile_append_of_pos h, List.dropWhile_cons_of_neg (by simp [hc])]

/-- A digit is no sign. -/
theorem sign_digit {d : Char} (hd : d.isDigit = true) (rest : List Char) :
    sign (d :: rest) = (false, d :: rest) := by
  unfold sign
  split
  · rename_i heq
    injection heq with hminus
    exact absurd (hminus ▸ hd) (by decide)
  · rename_i heq
    injection heq with hplus
    exact absurd (hplus ▸ hd) (by decide)
  · rfl

theorem Number.strtol_eq {s : List Char} {len : Int} (h : Number s len) :
    strtol 10 s = (len, []) := by
  cases h with
  | empty => rfl
  | digits spaces sgn digits hspaces hdigits hne =>
    obtain ⟨htake, hdrop⟩ := takeWhile_digits hdigits
    -- behind the spaces stand the sign and the digits
    obtain ⟨negative, hsign, happly⟩ : ∃ negative : Bool,
        sign ((spaces ++ (sgn.text ++ digits)).dropWhile isSpace) = (negative, digits) ∧
          (if negative then -(numberOf digits : Int) else numberOf digits) =
            sgn.apply (numberOf digits) := by
      cases sgn with
      | plus => exact ⟨false, by rw [Sign.text, List.singleton_append,
          dropWhile_spaces hspaces (by decide)]; rfl, rfl⟩
      | minus => exact ⟨true, by rw [Sign.text, List.singleton_append,
          dropWhile_spaces hspaces (by decide)]; rfl, rfl⟩
      | none =>
        obtain ⟨d, rest, rfl⟩ := List.exists_cons_of_ne_nil hne
        have hd : d.isDigit = true := hdigits d List.mem_cons_self
        refine ⟨false, ?_, rfl⟩
        rw [Sign.text, List.nil_append, dropWhile_spaces hspaces (isSpace_of_isDigit hd),
          sign_digit hd]
    rw [strtol_ten, hsign]
    dsimp only
    rw [htake, hdrop, if_neg hne, happly]

theorem Number.slash_not_mem {s : List Char} {len : Int} (h : Number s len) : '/' ∉ s := by
  cases h with
  | empty => exact List.not_mem_nil
  | digits spaces sign digits hspaces hdigits hne =>
    rw [List.mem_append, List.mem_append]
    rintro (hmem | hmem | hmem)
    · exact absurd (hspaces _ hmem) (by decide)
    · cases sign with
      | none => cases hmem
      | plus | minus => exact absurd hmem (by decide)
    · exact absurd (hdigits _ hmem) (by decide)

/-! ## Masks -/

/-- A bit of an address, counted from the most significant one. -/
def addressBit (ip : Ip4) (i : Nat) : Bool := (octet ip (i / 8)).toNat.testBit (7 - i % 8)

theorem addressBit_prefixMask {p : Nat} (hp : p ≤ 32) {i : Nat} (hi : i < 32) :
    addressBit (prefixMask p) i = decide (i < p) := by
  have hall : ∀ p : Fin 33, ∀ i : Fin 32,
      addressBit (prefixMask p.val) i.val = decide (i.val < p.val) := by decide
  exact hall ⟨p, by omega⟩ ⟨i, hi⟩

/-! ## Subnets -/

/-- A text is cut at its first slash. -/
theorem slash_cut {address rest : List Char} (h : '/' ∉ address) :
    (address ++ '/' :: rest).takeWhile (· ≠ '/') = address ∧
      (address ++ '/' :: rest).dropWhile (· ≠ '/') = '/' :: rest := by
  have hall : ∀ c ∈ address, decide (c ≠ '/') = true := by
    intro c hc
    rw [decide_eq_true_eq]
    rintro rfl
    exact h hc
  constructor
  · rw [List.takeWhile_append_of_pos hall]
    simp
  · rw [List.dropWhile_append_of_pos hall]
    simp

theorem slash_inj {a b s t : List Char} (ha : '/' ∉ a) (hs : '/' ∉ s)
    (h : a ++ '/' :: s = b ++ '/' :: t) : s = t := by
  rcases List.append_eq_append_iff.mp h with ⟨c, rfl, hc⟩ | ⟨c, rfl, hc⟩
  · cases c with
    | nil =>
      injection hc
    | cons x c =>
      injection hc with _ hrest
      exact absurd (by simp [hrest]) hs
  · cases c with
    | nil =>
      injection hc with _ hrest
      exact hrest.symm
    | cons x c =>
      injection hc with hx
      subst hx
      exact absurd (by simp) ha

/-- What `parse_subnet` accepts, and what it makes of it. -/
theorem parseSubnet_eq_some (text : List Char) (net mask : Ip4) :
    parseSubnet text = some (net, mask) ↔
      text.length < 16 ∧ ∃ address suffix addr len, text = address ++ '/' :: suffix ∧
        '/' ∉ address ∧ parseIpv4 address = some addr ∧ Number suffix len ∧ 0 ≤ len ∧ len ≤ 32 ∧
        mask = prefixMask len.toNat ∧ net = maskIp addr mask := by
  constructor
  · intro h
    have hsplit := (List.takeWhile_append_dropWhile (p := (· ≠ '/')) (l := text)).symm
    have hslash : '/' ∉ text.takeWhile (· ≠ '/') := by
      intro hmem
      simpa using List.mem_takeWhile_imp hmem
    unfold parseSubnet at h
    split at h
    · cases h
    rename_i hlen
    split at h
    · cases h
    rename_i slash rest hdrop
    have hhead : slash = '/' := by
      have hne : text.dropWhile (· ≠ '/') ≠ [] := by
        rw [hdrop]
        exact List.cons_ne_nil _ _
      have hnot := List.head_dropWhile_not (· ≠ '/') hne
      simp only [hdrop, List.head_cons] at hnot
      simpa using hnot
    rw [hdrop, hhead] at hsplit
    split at h
    · rename_i len addr hnumber haddr
      split at h
      · cases h
      · rename_i hrange
        injection h with h
        injection h with hnet hmask
        exact ⟨by omega, _, rest, addr, len, hsplit, hslash, haddr, number_of_strtol hnumber,
          by omega, by omega, hmask.symm, by rw [← hmask, hnet]⟩
    · cases h
  · rintro ⟨hlen, address, suffix, addr, len, rfl, hslash, haddr, hnumber, hlo, hhi, rfl, rfl⟩
    obtain ⟨htake, hdrop⟩ := @slash_cut address suffix hslash
    rw [parseSubnet, if_neg (by omega), htake, hdrop]
    simp only [hnumber.strtol_eq, haddr]
    rw [if_neg (by omega)]

/-- One or two digits. -/
def PlainNumber (digits : List Char) : Prop :=
  (∀ c ∈ digits, c.isDigit = true) ∧ (digits.length = 1 ∨ digits.length = 2)

/-- An address, a slash and a plain number up to 32, with the mask of that many ones and the
network of the address under it. -/
def IsSubnet (text : List Char) (net mask : Ip4) : Prop :=
  ∃ address digits addr, text = address ++ '/' :: digits ∧ parseIpv4 address = some addr ∧
    PlainNumber digits ∧ numberOf digits ≤ 32 ∧
    (∀ i < 32, addressBit mask i = decide (i < numberOf digits)) ∧ net = maskIp addr mask

/-- A number that only `strtol` takes for one: none at all, spaces or a sign in front of it, or
leading zeros up to three digits and more. -/
def LooseNumber (text : List Char) : Prop :=
  text.length < 16 ∧ ∃ address suffix addr len, text = address ++ '/' :: suffix ∧
    '/' ∉ address ∧ parseIpv4 address = some addr ∧ Number suffix len ∧ 0 ≤ len ∧ len ≤ 32 ∧
    ¬ PlainNumber suffix

theorem PlainNumber.number {digits : List Char} (h : PlainNumber digits) :
    Number digits (numberOf digits) := by
  have hne : digits ≠ [] := by
    rintro rfl
    rcases h.2 with h | h <;> cases h
  exact .digits [] .none digits (by simp) h.1 hne

/-- The number is what the digits say. -/
theorem PlainNumber.eq_of_number {digits : List Char} (h : PlainNumber digits) {len : Int}
    (hnumber : Number digits len) : len = numberOf digits := by
  have heq := hnumber.strtol_eq.symm.trans h.number.strtol_eq
  injection heq

theorem not_looseNumber {address digits : List Char} (hslash : '/' ∉ address)
    (h : PlainNumber digits) : ¬ LooseNumber (address ++ '/' :: digits) := by
  rintro ⟨-, address', suffix, addr, len, heq, -, -, -, -, -, hplain⟩
  exact hplain (slash_inj hslash h.number.slash_not_mem heq ▸ h)

/-- **Subnets.** What `parse_subnet` accepts is a subnet, and what it makes of it is right,
exactly when the number behind the slash is not a loose one. -/
theorem parseSubnet_sound_iff (text : List Char) :
    (∀ net mask, parseSubnet text = some (net, mask) → IsSubnet text net mask) ↔
      ¬ LooseNumber text := by
  constructor
  · rintro hsound ⟨hlen, address, suffix, addr, len, rfl, hslash, haddr, hnumber, hlo, hhi, hplain⟩
    have hparse := (parseSubnet_eq_some _ _ _).mpr
      ⟨hlen, address, suffix, addr, len, rfl, hslash, haddr, hnumber, hlo, hhi, rfl, rfl⟩
    obtain ⟨address', digits, addr', heq, -, hdigits, -⟩ := hsound _ _ hparse
    exact hplain (slash_inj hslash hnumber.slash_not_mem heq ▸ hdigits)
  · intro hloose net mask h
    obtain ⟨hlen, address, suffix, addr, len, rfl, hslash, haddr, hnumber, hlo, hhi, rfl, rfl⟩ :=
      (parseSubnet_eq_some _ _ _).mp h
    have hplain : PlainNumber suffix := by
      by_contra hplain
      exact hloose ⟨hlen, address, suffix, addr, len, rfl, hslash, haddr, hnumber, hlo, hhi, hplain⟩
    obtain rfl := hplain.eq_of_number hnumber
    rw [Int.toNat_natCast]
    have hle : numberOf suffix ≤ 32 := by omega
    exact ⟨address, suffix, addr, rfl, haddr, hplain, hle,
      fun i hi => addressBit_prefixMask hle hi, rfl⟩

theorem parseSubnet_sound_iff_plain :
    parseSubnet "10.147.17.9/24".toList = some (ip4 10 147 17 0, ip4 255 255 255 0) ∧
      IsSubnet "10.147.17.9/24".toList (ip4 10 147 17 0) (ip4 255 255 255 0) := by
  have hparse : parseSubnet "10.147.17.9/24".toList =
      some (ip4 10 147 17 0, ip4 255 255 255 0) := by decide
  have hloose : ¬ LooseNumber ("10.147.17.9".toList ++ '/' :: ['2', '4']) :=
    not_looseNumber (by decide) ⟨List.forall_mem_cons.mpr ⟨rfl, List.forall_mem_singleton.mpr rfl⟩, by decide⟩
  exact ⟨hparse, (parseSubnet_sound_iff "10.147.17.9/24".toList).mpr hloose _ _ hparse⟩

/-- A space and a leading zero go unnoticed. -/
theorem loose_subnet_accepted :
    parseSubnet "10.0.0.0/ 024".toList = some (ip4 10 0 0 0, ip4 255 255 255 0) ∧
      ¬ IsSubnet "10.0.0.0/ 024".toList (ip4 10 0 0 0) (ip4 255 255 255 0) := by
  refine ⟨by decide, ?_⟩
  rintro ⟨address, digits, addr, heq, -, hdigits, -⟩
  have hsuffix : " 024".toList = digits :=
    @slash_inj "10.0.0.0".toList address " 024".toList digits (by decide) (by decide) heq
  exact absurd (hdigits.1 ' ' (hsuffix ▸ by decide)) (by decide)

end Grid0Relay
