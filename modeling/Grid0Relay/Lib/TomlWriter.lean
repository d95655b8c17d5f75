import Grid0Relay.Lib.Toml

/-!
# Writing TOML

A writer that escapes only the quotes of its strings is understood exactly when its strings
need nothing else, whatever it writes: line by line the text is read as the items it was
written for if and only if these strings are plain.
-/

namespace Grid0Relay.Lib.Toml

@[simp] theorem expect_append (token rest : Bytes) : expect token (token ++ rest) = some rest := by
  rw [expect, if_pos (List.prefix_append _ _), List.drop_left]

theorem expect_cons (b : UInt8) (rest : Bytes) : expect [b] (b :: rest) = some rest :=
  expect_append [b] rest

theorem expect_ne {b c : UInt8} (h : b ≠ c) (token text : Bytes) :
    expect (b :: token) (c :: text) = none := by
  rw [expect, if_neg fun hp => h (List.cons_prefix_cons.mp hp).1]

theorem expect_same (b : UInt8) (token text : Bytes) :
    expect (b :: token) (b :: text) = expect token text := by
  simp only [expect, List.prefix_cons_inj, List.length_cons, List.drop_succ_cons]

/-- A nonempty key of bare characters. -/
structure Bare (key : Bytes) : Prop where
  nonempty : key ≠ []
  bare : ∀ b ∈ key, isBare b = true

instance (key : Bytes) : Decidable (Bare key) :=
  decidable_of_iff (key ≠ [] ∧ key.all isBare = true)
    ⟨fun h => ⟨h.1, List.all_eq_true.mp h.2⟩, fun h => ⟨h.nonempty, List.all_eq_true.mpr h.bare⟩⟩

theorem readKey_bare {key : Bytes} (h : Bare key) {stop : UInt8} (hstop : isBare stop = false)
    (rest : Bytes) : readKey (key ++ stop :: rest) = some (key, stop :: rest) := by
  have htake : (key ++ stop :: rest).takeWhile isBare = key := by
    rw [List.takeWhile_append_of_pos h.bare, List.takeWhile_cons_of_neg (by simp [hstop]),
      List.append_nil]
  have hdrop : (key ++ stop :: rest).dropWhile isBare = stop :: rest := by
    rw [List.dropWhile_append_of_pos h.bare, List.dropWhile_cons_of_neg (by simp [hstop])]
  rw [readKey, htake, hdrop, if_neg h.nonempty]

/-- No header begins with a bare key. -/
theorem expect_bracket_bare {key : Bytes} (h : Bare key) (token rest : Bytes) :
    expect (91 :: token) (key ++ rest) = none := by
  cases key with
  | nil => exact absurd rfl h.nonempty
  | cons b key =>
    refine expect_ne ?_ _ _
    rintro rfl
    exact absurd (h.bare 91 List.mem_cons_self) (by decide)

theorem readLine_pair {key : Bytes} (h : Bare key) (text : Bytes) :
    readLine (key ++ 61 :: text) =
      (readValue text).bind fun (value, rest) =>
        (expect [10] rest).map fun rest => (.pair key value, rest) := by
  rw [readLine, readEntry, expect_bracket_bare h, expect_bracket_bare h]
  dsimp only
  rw [readKey_bare h (by decide), Option.bind_some, expect_cons, Option.bind_some]
  cases readValue text with
  | none => rfl
  | some pair => rfl

theorem readItems_line {text rest : Bytes} {item : Item} (h : readLine text = some (item, rest))
    (hless : rest.length < text.length) :
    readItems text = (readItems rest).map fun items => item :: items := by
  have hne : text ≠ [] := by
    rintro rfl
    exact absurd hless (Nat.not_lt_zero _)
  rw [readItems, if_neg hne, h]
  dsimp only
  rw [if_pos hless]

theorem readItems_cons {text : Bytes} {item : Item} {items : List Item}
    (h : readItems text = some (item :: items)) :
    ∃ rest, readLine text = some (item, rest) ∧ readItems rest = some items := by
  by_cases hnil : text = []
  · rw [readItems, if_pos hnil] at h
    cases h
  rw [readItems, if_neg hnil] at h
  cases hline : readLine text with
  | none => rw [hline] at h; cases h
  | some pair =>
    obtain ⟨item', rest⟩ := pair
    rw [hline] at h
    dsimp only at h
    split_ifs at h
    obtain ⟨items', hitems, heq⟩ := Option.map_eq_some_iff.mp h
    obtain ⟨rfl, rfl⟩ := List.cons.inj heq
    exact ⟨rest, rfl, hitems⟩

/-- A line whose reading is known. -/
theorem readItems_line_iff {line rest : Bytes} {item : Item} (hline : line ≠ [])
    (h : readLine (line ++ rest) = some (item, rest)) (items : List Item) :
    readItems (line ++ rest) = some (item :: items) ↔ readItems rest = some items := by
  have hpos := List.length_pos_iff.mpr hline
  rw [readItems_line h (by rw [List.length_append]; omega), Option.map_eq_some_iff]
  constructor
  · rintro ⟨items', hitems, heq⟩
    obtain ⟨-, rfl⟩ := List.cons.inj heq
    exact hitems
  · intro hitems
    exact ⟨items, hitems, rfl⟩

/-! ## Headers -/

theorem readName_of {name rest : Bytes} (hstop : 93 ∉ name)
    (hkeys : ((name.splitOn 46).all fun key => key ≠ [] ∧ key.all isBare) = true) :
    readName (name ++ 93 :: rest) = some (name.splitOn 46, 93 :: rest) := by
  have hne : ∀ b ∈ name, decide (b ≠ 93) = true := by
    intro b hb
    exact decide_eq_true fun heq => hstop (heq ▸ hb)
  have htake : (name ++ 93 :: rest).takeWhile (· ≠ 93) = name := by
    rw [List.takeWhile_append_of_pos hne, List.takeWhile_cons_of_neg (by simp), List.append_nil]
  have hdrop : (name ++ 93 :: rest).dropWhile (· ≠ 93) = 93 :: rest := by
    rw [List.dropWhile_append_of_pos hne, List.dropWhile_cons_of_neg (by simp)]
  rw [readName, htake, hdrop, if_pos hkeys]

/-- The name of a header: dotted bare keys. -/
structure Dotted (name : Bytes) : Prop where
  start : name.head? ≠ some 91
  stop : 93 ∉ name
  keys : ((name.splitOn 46).all fun key => key ≠ [] ∧ key.all isBare) = true
  ascii : Ascii name

theorem readLine_table {name : Bytes} (h : Dotted name) (rest : Bytes) :
    readLine (91 :: name ++ 93 :: 10 :: rest) = some (.table (name.splitOn 46), rest) := by
  have hone : expect [91, 91] (91 :: name ++ 93 :: 10 :: rest) = none := by
    rw [List.cons_append, expect_same]
    cases hname : name with
    | nil => exact expect_ne (by decide) _ _
    | cons b name =>
      refine expect_ne ?_ _ _
      rintro rfl
      exact h.start (by rw [hname]; rfl)
  rw [readLine, readEntry, hone]
  dsimp only
  rw [List.cons_append, expect_cons]
  dsimp only
  rw [readName_of h.stop h.keys]
  simp only [Option.bind_some, expect_cons, Option.map_some]

theorem readLine_element {name : Bytes} (h : Dotted name) (rest : Bytes) :
    readLine (91 :: 91 :: name ++ 93 :: 93 :: 10 :: rest) =
      some (.element (name.splitOn 46), rest) := by
  have htwo : expect [91, 91] (91 :: 91 :: name ++ 93 :: 93 :: 10 :: rest) =
      some (name ++ 93 :: 93 :: 10 :: rest) := expect_append [91, 91] _
  have hend : expect [93, 93] (93 :: 93 :: 10 :: rest) = some (10 :: rest) :=
    expect_append [93, 93] _
  rw [readLine, readEntry, htwo]
  dsimp only
  rw [readName_of h.stop h.keys]
  simp only [Option.bind_some, hend, expect_cons, Option.map_some]

/-! ## Values -/

theorem readDigits_decimal (n : Nat) {stop : UInt8} (hstop : isDigit stop = false) (rest : Bytes) :
    readDigits (decimal n ++ stop :: rest) = some (n, stop :: rest) := by
  have htake : (decimal n ++ stop :: rest).takeWhile isDigit = decimal n := by
    rw [List.takeWhile_append_of_pos (isDigit_decimal n),
      List.takeWhile_cons_of_neg (by simp [hstop]), List.append_nil]
  have hdrop : (decimal n ++ stop :: rest).dropWhile isDigit = stop :: rest := by
    rw [List.dropWhile_append_of_pos (isDigit_decimal n),
      List.dropWhile_cons_of_neg (by simp [hstop])]
  rw [readDigits, htake, hdrop, number_decimal, if_neg]
  rintro (hnil | ⟨hlong, hzero⟩)
  · exact decimal_ne_nil n hnil
  · by_cases hn : 0 < n
    · exact head_decimal hn hzero
    · obtain rfl : n = 0 := by omega
      rw [decimal_digit (by decide)] at hlong
      exact absurd hlong (by decide)

/-- A number begins with a digit or a sign. -/
theorem decimalInt_head (n : Int) : ∃ b digits, decimalInt n = b :: digits ∧
    (b = 45 ∨ isDigit b = true) := by
  unfold decimalInt
  split_ifs
  · exact ⟨45, _, rfl, Or.inl rfl⟩
  · cases hdecimal : decimal n.natAbs with
    | nil => exact absurd hdecimal (decimal_ne_nil _)
    | cons b digits =>
      refine ⟨b, digits, rfl, Or.inr (isDigit_decimal n.natAbs b ?_)⟩
      rw [hdecimal]
      exact List.mem_cons_self

theorem readInteger_decimalInt (n : Int) {stop : UInt8} (hstop : isDigit stop = false)
    (rest : Bytes) : readInteger (decimalInt n ++ stop :: rest) = some (n, stop :: rest) := by
  unfold decimalInt readInteger
  split_ifs with hneg
  · rw [List.cons_append, expect_cons]
    dsimp only
    rw [readDigits_decimal _ hstop]
    simp only [Option.map_some, Option.some.injEq, Prod.mk.injEq, and_true]
    omega
  · have hsign : expect [45] (decimal n.natAbs ++ stop :: rest) = none := by
      cases hdecimal : decimal n.natAbs with
      | nil => exact absurd hdecimal (decimal_ne_nil _)
      | cons b digits =>
        refine expect_ne ?_ _ _
        rintro rfl
        exact absurd (isDigit_decimal n.natAbs 45 (by rw [hdecimal]; simp)) (by decide)
    rw [hsign]
    dsimp only
    rw [readDigits_decimal _ hstop]
    simp only [Option.map_some, Option.some.injEq, Prod.mk.injEq, and_true]
    omega

theorem readValue_string (text : Bytes) :
    readValue (34 :: text) = (basic.body text).map fun (value, rest) => (.string value, rest) := by
  rw [readValue, expect_cons]
  rfl

theorem readValue_strings (text : Bytes) :
    readValue (91 :: text) =
      (readStrings text).map fun (values, rest) => (.strings values, rest) := by
  rw [readValue, expect_ne (by decide), expect_cons]

theorem readValue_boolean (value : Bool) (rest : Bytes) :
    readValue ((if value then [116, 114, 117, 101] else [102, 97, 108, 115, 101]) ++ rest) =
      some (.boolean value, rest) := by
  cases value with
  | true =>
    have htrue := expect_append [116, 114, 117, 101] rest
    rw [if_pos rfl, readValue, htrue, List.cons_append, expect_ne (by decide),
      expect_ne (by decide)]
  | false =>
    have hfalse := expect_append [102, 97, 108, 115, 101] rest
    rw [if_neg (by simp), readValue, hfalse, List.cons_append, expect_ne (by decide),
      expect_ne (by decide), expect_ne (by decide)]

theorem readValue_integer (n : Int) {stop : UInt8} (hstop : isDigit stop = false) (rest : Bytes) :
    readValue (decimalInt n ++ stop :: rest) = some (.integer n, stop :: rest) := by
  have hread := readInteger_decimalInt n hstop rest
  obtain ⟨b, digits, hhead, hb⟩ := decimalInt_head n
  rw [hhead] at hread ⊢
  have hne : ∀ c, isDigit c = false → c ≠ 45 → c ≠ b := by
    rintro c hdigit hsign rfl
    rcases hb with hb | hb
    · exact hsign hb
    · rw [hdigit] at hb; cases hb
  rw [List.cons_append] at hread ⊢
  rw [readValue, expect_ne (hne 34 (by decide) (by decide)),
    expect_ne (hne 91 (by decide) (by decide)), expect_ne (hne 116 (by decide) (by decide)),
    expect_ne (hne 102 (by decide) (by decide))]
  dsimp only
  rw [hread]
  rfl

/-! ## Strings -/

/-- A string that needs no escapes but those of its quotes. -/
def Plain (value : Bytes) : Prop := ∀ b ∈ value, basic.Verbatim b

instance (value : Bytes) : Decidable (Plain value) :=
  List.decidableBAll basic.Verbatim value

/-- A string at the end of its line, or with something behind it that has no quote. -/
theorem body_line_iff (behind : Bytes) (hbehind : 34 ∉ behind) (more value rest : Bytes) :
    basic.body (basic.write value ++ 34 :: (behind ++ 10 :: more)) = some (value, rest) ↔
      Plain value ∧ rest = behind ++ 10 :: more := by
  refine Literal.body_write_iff basic_thrifty (fun _ => rfl) ?_ value rest
  intro used rest' hsplit
  refine ⟨10, ?_, basic_forbids_newline⟩
  rcases List.append_eq_append_iff.mp hsplit with ⟨front, rfl, hrest⟩ | ⟨front, rfl, hrest⟩
  · cases front with
    | nil => exact absurd (List.cons.inj hrest).1 (by decide)
    | cons b front =>
      rw [← (List.cons.inj hrest).1]
      simp
  · cases front with
    | nil => exact absurd (List.cons.inj hrest).1 (by decide)
    | cons b front =>
      rw [← (List.cons.inj hrest).1] at hbehind
      simp [basic] at hbehind

/-- The lines of an array. -/
def arrayLines (values : List Bytes) : Bytes :=
  values.flatMap fun value => 32 :: 32 :: 34 :: (basic.write value ++ [34, 44, 10])

theorem arrayLines_cons (value : Bytes) (values : List Bytes) (tail : Bytes) :
    arrayLines (value :: values) ++ tail =
      32 :: 32 :: 34 :: (basic.write value ++ 34 :: ([44] ++ 10 :: (arrayLines values ++ tail))) := by
  simp [arrayLines]

theorem read_basic (text : Bytes) : basic.read (34 :: text) = basic.body text := rfl

theorem readStrings_arrayLines (values : List Bytes) (tail rest : Bytes) :
    readStrings (10 :: (arrayLines values ++ 93 :: tail)) = some (values, rest) ↔
      (∀ value ∈ values, Plain value) ∧ rest = tail := by
  induction values generalizing rest with
  | nil =>
    have hskip : skipSpace (10 :: (arrayLines [] ++ 93 :: tail)) = 93 :: tail := rfl
    rw [readStrings, hskip, expect_cons]
    simp [eq_comm]
  | cons value values ih =>
    rw [arrayLines_cons]
    generalize hmore : arrayLines values ++ 93 :: tail = more at ih ⊢
    have hskip : ∀ text : Bytes, skipSpace (10 :: 32 :: 32 :: 34 :: text) = 34 :: text :=
      fun _ => rfl
    have hcomma : ∀ text : Bytes, skipSpace (44 :: text) = 44 :: text := fun _ => rfl
    rw [readStrings, hskip, expect_ne (by decide)]
    dsimp only
    rw [read_basic]
    have hiff := body_line_iff [44] (by decide) more value
    constructor
    · intro h
      cases hbody : basic.body (basic.write value ++ 34 :: ([44] ++ 10 :: more)) with
      | none => rw [hbody] at h; cases h
      | some pair =>
        obtain ⟨value', behind⟩ := pair
        rw [hbody] at h
        dsimp only at h
        have hvalue : value' = value := by
          split at h
          · split_ifs at h
            obtain ⟨_, -, hpair⟩ := Option.map_eq_some_iff.mp h
            exact (List.cons.inj (Prod.mk.inj hpair).1).1
          · obtain ⟨_, -, hpair⟩ := Option.map_eq_some_iff.mp h
            exact (List.cons.inj (Prod.mk.inj hpair).1).1
        subst hvalue
        obtain ⟨hplain, rfl⟩ := (hiff behind).mp hbody
        rw [List.singleton_append, hcomma, expect_cons] at h
        dsimp only at h
        split_ifs at h
        obtain ⟨⟨values', rest'⟩, hrest, hpair⟩ := Option.map_eq_some_iff.mp h
        obtain ⟨hvalues, rfl⟩ := Prod.mk.inj hpair
        obtain ⟨-, rfl⟩ := List.cons.inj hvalues
        obtain ⟨hall, htail⟩ := (ih rest').mp hrest
        refine ⟨?_, htail⟩
        intro v hv
        rcases List.mem_cons.mp hv with rfl | hv
        · exact hplain
        · exact hall v hv
    · rintro ⟨hall, rfl⟩
      rw [(hiff _).mpr ⟨hall value List.mem_cons_self, rfl⟩]
      dsimp only
      rw [List.singleton_append, hcomma, expect_cons]
      dsimp only
      rw [if_pos, (ih rest).mpr ⟨fun v hv => hall v (List.mem_cons_of_mem _ hv), rfl⟩]
      · rfl
      · simp only [List.length_cons, List.length_append]
        omega

/-! ## Lines and what they mean -/

theorem readValue_string_iff (value rest rest' : Bytes) :
    readValue (34 :: (basic.write value ++ 34 :: 10 :: rest)) = some (.string value, rest') ↔
      Plain value ∧ rest' = 10 :: rest := by
  have hiff := body_line_iff [] (by simp) rest value rest'
  rw [List.nil_append] at hiff
  rw [← hiff, readValue_string, Option.map_eq_some_iff]
  constructor
  · rintro ⟨⟨value', behind⟩, hbody, hpair⟩
    obtain ⟨hstring, rfl⟩ := Prod.mk.inj hpair
    injection hstring with hstring
    subst hstring
    exact hbody
  · intro hbody
    exact ⟨_, hbody, rfl⟩

theorem readValue_strings_iff (values : List Bytes) (rest rest' : Bytes) :
    readValue (91 :: 10 :: (arrayLines values ++ 93 :: 10 :: rest)) =
        some (.strings values, rest') ↔
      (∀ value ∈ values, Plain value) ∧ rest' = 10 :: rest := by
  rw [← readStrings_arrayLines values (10 :: rest) rest', readValue_strings,
    Option.map_eq_some_iff]
  constructor
  · rintro ⟨⟨values', behind⟩, hread, hpair⟩
    obtain ⟨hstrings, rfl⟩ := Prod.mk.inj hpair
    injection hstrings with hstrings
    subst hstrings
    exact hread
  · intro hread
    exact ⟨_, hread, rfl⟩

/-- A pair means its value exactly when its text does. -/
theorem readItems_pair_iff {key : Bytes} (h : Bare key) {text rest : Bytes} {value : Value}
    {P : Prop} (hvalue : ∀ rest', readValue text = some (value, rest') ↔ P ∧ rest' = 10 :: rest)
    (hless : rest.length < text.length) (items : List Item) :
    readItems (key ++ 61 :: text) = some (.pair key value :: items) ↔
      P ∧ readItems rest = some items := by
  have hline := readLine_pair h text
  constructor
  · intro hitems
    obtain ⟨rest', hread, hrest⟩ := readItems_cons hitems
    rw [hline] at hread
    obtain ⟨⟨v, behind⟩, hread', hend⟩ := Option.bind_eq_some_iff.mp hread
    obtain ⟨rest'', hexpect, hitem⟩ := Option.map_eq_some_iff.mp hend
    obtain ⟨hpair, rfl⟩ := Prod.mk.inj hitem
    injection hpair with _ hv
    subst hv
    obtain ⟨hP, rfl⟩ := (hvalue behind).mp hread'
    rw [expect_cons] at hexpect
    obtain rfl := Option.some.inj hexpect
    exact ⟨hP, hrest⟩
  · rintro ⟨hP, hrest⟩
    rw [(hvalue _).mpr ⟨hP, rfl⟩] at hline
    simp only [Option.bind_some, expect_cons, Option.map_some] at hline
    rw [readItems_line hline, hrest]
    · rfl
    · simp only [List.length_append, List.length_cons]
      omega

theorem readItems_string_iff {key : Bytes} (h : Bare key) (value rest : Bytes)
    (items : List Item) :
    readItems (key ++ 61 :: 34 :: (basic.write value ++ 34 :: 10 :: rest)) =
        some (.pair key (.string value) :: items) ↔
      Plain value ∧ readItems rest = some items :=
  readItems_pair_iff h (readValue_string_iff value rest) (by simp; omega) items

theorem readItems_strings_iff {key : Bytes} (h : Bare key) (values : List Bytes) (rest : Bytes)
    (items : List Item) :
    readItems (key ++ 61 :: 91 :: 10 :: (arrayLines values ++ 93 :: 10 :: rest)) =
        some (.pair key (.strings values) :: items) ↔
      (∀ value ∈ values, Plain value) ∧ readItems rest = some items :=
  readItems_pair_iff h (readValue_strings_iff values rest) (by simp; omega) items

/-- A value whose reading is known. -/
theorem readItems_known_iff {key : Bytes} (h : Bare key) {text rest : Bytes} {value : Value}
    (hread : readValue (text ++ 10 :: rest) = some (value, 10 :: rest)) (items : List Item) :
    readItems (key ++ 61 :: (text ++ 10 :: rest)) = some (.pair key value :: items) ↔
      readItems rest = some items := by
  have hvalue : ∀ rest', readValue (text ++ 10 :: rest) = some (value, rest') ↔
      True ∧ rest' = 10 :: rest := by
    intro rest'
    rw [hread]
    simp [eq_comm]
  rw [readItems_pair_iff h hvalue (by simp; omega), true_and]

theorem readItems_table_iff {name : Bytes} (h : Dotted name) (rest : Bytes) (items : List Item) :
    readItems (91 :: name ++ 93 :: 10 :: rest) = some (.table (name.splitOn 46) :: items) ↔
      readItems rest = some items := by
  have hline := readLine_table h rest
  have hsplit : 91 :: name ++ 93 :: 10 :: rest = (91 :: name ++ [93, 10]) ++ rest := by simp
  rw [hsplit] at hline ⊢
  exact readItems_line_iff (by simp) hline items

theorem readItems_element_iff {name : Bytes} (h : Dotted name) (rest : Bytes)
    (items : List Item) :
    readItems (91 :: 91 :: name ++ 93 :: 93 :: 10 :: rest) =
        some (.element (name.splitOn 46) :: items) ↔
      readItems rest = some items := by
  have hline := readLine_element h rest
  have hsplit : 91 :: 91 :: name ++ 93 :: 93 :: 10 :: rest =
      (91 :: 91 :: name ++ [93, 93, 10]) ++ rest := by simp
  rw [hsplit] at hline ⊢
  exact readItems_line_iff (by simp) hline items

/-! ## Encoding -/

/-- The escapes of the quotes do not touch the other characters. -/
theorem utf8_write_iff (value : Bytes) : Utf8 (basic.write value) ↔ Utf8 value := by
  induction hlen : value.length using Nat.strongRecOn generalizing value with
  | ind n ih =>
    subst hlen
    by_cases hmem : (34 : UInt8) ∈ value
    · obtain ⟨front, back, rfl⟩ := List.append_of_mem hmem
      have hwrite : basic.write (front ++ 34 :: back) =
          basic.write front ++ 92 :: 34 :: basic.write back := by
        rw [Literal.write_append]
        exact congrArg (basic.write front ++ ·) (Literal.write_quote back)
      have hfront := ih front.length (by rw [List.length_append, List.length_cons]; omega) front rfl
      have hback := ih back.length (by rw [List.length_append, List.length_cons]; omega) back rfl
      rw [hwrite, utf8_cut_iff (by decide), utf8_cons_iff (by decide), utf8_cut_iff (by decide),
        hfront, hback]
    · have hsame : basic.write value = value := Literal.flatMap_notMem hmem _
      rw [hsame]

/-! ## Writers -/

/-- The text is read as these items, whatever follows, exactly when these strings are plain;
and it is a text exactly when they are. -/
structure Writes (text : Bytes) (items : List Item) (strings : List Bytes) : Prop where
  lines : ∀ rest more, readItems (text ++ rest) = some (items ++ more) ↔
    (∀ s ∈ strings, Plain s) ∧ readItems rest = some more
  utf8 : ∀ rest, Utf8 (text ++ rest) ↔ (∀ s ∈ strings, Utf8 s) ∧ Utf8 rest

theorem Writes.nil : Writes [] [] [] := ⟨by simp, by simp⟩

theorem Writes.append {text text' : Bytes} {items items' : List Item} {strings strings' : List Bytes}
    (h : Writes text items strings) (h' : Writes text' items' strings') :
    Writes (text ++ text') (items ++ items') (strings ++ strings') where
  lines rest more := by
    rw [List.append_assoc, List.append_assoc, h.lines, h'.lines, List.forall_mem_append, and_assoc]
  utf8 rest := by
    rw [List.append_assoc, h.utf8, h'.utf8, List.forall_mem_append, and_assoc]

theorem Writes.flatMap {α : Type} {text : α → Bytes} {items : α → List Item}
    {strings : α → List Bytes} (h : ∀ x, Writes (text x) (items x) (strings x)) (xs : List α) :
    Writes (xs.flatMap text) (xs.flatMap items) (xs.flatMap strings) := by
  induction xs with
  | nil => exact .nil
  | cons x xs ih =>
    rw [List.flatMap_cons, List.flatMap_cons, List.flatMap_cons]
    exact (h x).append ih

/-- A document of such lines. -/
theorem Writes.reads_iff {text : Bytes} {items : List Item} {strings : List Bytes}
    (h : Writes text items strings) (hnames : (Scope.start.run items).isSome) :
    Reads text items ↔ ∀ s ∈ strings, Utf8 s ∧ Plain s := by
  have hlines := h.lines [] []
  have hutf8 := h.utf8 []
  have hdone : readItems [] = some [] := by rw [readItems, if_pos rfl]
  rw [List.append_nil, List.append_nil, hdone, eq_self, and_true] at hlines
  rw [List.append_nil, and_iff_left utf8_nil] at hutf8
  constructor
  · intro hreads s hs
    exact ⟨hutf8.mp hreads.utf8 s hs, hlines.mp hreads.lines s hs⟩
  · intro hall
    exact ⟨hutf8.mpr fun s hs => (hall s hs).1, hlines.mpr fun s hs => (hall s hs).2, hnames⟩

theorem ascii_of_isBare {b : UInt8} (h : isBare b = true) : b < 128 := by
  have hle : b ≤ 122 := by
    simp only [isBare, decide_eq_true_eq] at h
    rcases h with ⟨-, h⟩ | ⟨-, h⟩ | ⟨-, h⟩ | rfl | rfl
    · exact UInt8.le_trans h (by decide)
    · exact UInt8.le_trans h (by decide)
    · exact h
    · decide
    · decide
  exact UInt8.lt_of_le_of_lt hle (by decide)

theorem Bare.utf8_iff {key : Bytes} (h : Bare key) (text : Bytes) :
    Utf8 (key ++ 61 :: text) ↔ Utf8 text := by
  rw [utf8_ascii_append_iff fun b hb => ascii_of_isBare (h.bare b hb), utf8_cons_iff (by decide)]

theorem writes_string {key : Bytes} (h : Bare key) (value : Bytes) :
    Writes (key ++ 61 :: 34 :: (basic.write value ++ [34, 10])) [.pair key (.string value)]
      [value] where
  lines rest more := by
    have hiff := readItems_string_iff h value rest more
    simpa using hiff
  utf8 rest := by
    rw [List.append_assoc, List.cons_append, h.utf8_iff, List.cons_append,
      utf8_cons_iff (by decide), List.append_assoc, List.cons_append, utf8_cut_iff (by decide),
      utf8_write_iff, List.cons_append, utf8_cons_iff (by decide)]
    simp

/-- A value that is ASCII and whose reading is known. -/
theorem writes_known {key : Bytes} (h : Bare key) {text : Bytes} {value : Value}
    (hascii : Ascii text)
    (hread : ∀ rest, readValue (text ++ 10 :: rest) = some (value, 10 :: rest)) :
    Writes (key ++ 61 :: (text ++ [10])) [.pair key value] [] where
  lines rest more := by
    have hiff := readItems_known_iff h (hread rest) more
    simpa using hiff
  utf8 rest := by
    rw [List.append_assoc, List.cons_append, h.utf8_iff, List.append_assoc,
      utf8_ascii_append_iff hascii, List.cons_append, utf8_cons_iff (by decide)]
    simp

theorem decimal_ascii (n : Nat) : Ascii (decimal n) := by
  intro b hb
  have hdigit := isDigit_decimal n b hb
  simp only [isDigit, decide_eq_true_eq] at hdigit
  exact UInt8.lt_of_le_of_lt hdigit.2 (by decide)

theorem writes_integer {key : Bytes} (h : Bare key) (n : Int) :
    Writes (key ++ 61 :: (decimalInt n ++ [10])) [.pair key (.integer n)] [] := by
  refine writes_known h ?_ fun rest => readValue_integer n (by decide) rest
  intro b hb
  unfold decimalInt at hb
  split_ifs at hb
  · rcases List.mem_cons.mp hb with rfl | hb
    · decide
    · exact decimal_ascii _ b hb
  · exact decimal_ascii _ b hb

theorem writes_boolean {key : Bytes} (h : Bare key) (value : Bool) :
    Writes (key ++ 61 :: ((if value then [116, 114, 117, 101] else [102, 97, 108, 115, 101]) ++
      [10])) [.pair key (.boolean value)] [] := by
  refine writes_known h ?_ fun rest => readValue_boolean value _
  cases value with
  | true => decide
  | false => decide

theorem utf8_arrayLines_iff (values : List Bytes) (rest : Bytes) :
    Utf8 (arrayLines values ++ rest) ↔ (∀ s ∈ values, Utf8 s) ∧ Utf8 rest := by
  induction values with
  | nil => simp [arrayLines]
  | cons value values ih =>
    rw [arrayLines_cons, utf8_cons_iff (by decide), utf8_cons_iff (by decide),
      utf8_cons_iff (by decide), utf8_cut_iff (by decide), utf8_write_iff, List.singleton_append,
      utf8_cons_iff (by decide), utf8_cons_iff (by decide), ih, List.forall_mem_cons, and_assoc]

theorem writes_strings {key : Bytes} (h : Bare key) (values : List Bytes) :
    Writes (key ++ 61 :: 91 :: 10 :: (arrayLines values ++ [93, 10])) [.pair key (.strings values)]
      values where
  lines rest more := by
    have hiff := readItems_strings_iff h values rest more
    simpa using hiff
  utf8 rest := by
    rw [List.append_assoc, List.cons_append, h.utf8_iff, List.cons_append, List.cons_append,
      utf8_cons_iff (by decide), utf8_cons_iff (by decide), List.append_assoc, utf8_arrayLines_iff,
      List.cons_append, List.cons_append, utf8_cons_iff (by decide), utf8_cons_iff (by decide),
      List.nil_append]

theorem writes_table {name : Bytes} (h : Dotted name) :
    Writes (91 :: name ++ [93, 10]) [.table (name.splitOn 46)] [] where
  lines rest more := by
    have hiff := readItems_table_iff h rest more
    simpa using hiff
  utf8 rest := by
    rw [List.append_assoc, List.cons_append, utf8_cons_iff (by decide),
      utf8_ascii_append_iff h.ascii, List.cons_append, List.cons_append,
      utf8_cons_iff (by decide), utf8_cons_iff (by decide)]
    simp

theorem writes_element {name : Bytes} (h : Dotted name) :
    Writes (91 :: 91 :: name ++ [93, 93, 10]) [.element (name.splitOn 46)] [] where
  lines rest more := by
    have hiff := readItems_element_iff h rest more
    simpa using hiff
  utf8 rest := by
    rw [List.append_assoc, List.cons_append, List.cons_append, utf8_cons_iff (by decide),
      utf8_cons_iff (by decide), utf8_ascii_append_iff h.ascii, List.cons_append, List.cons_append,
      List.cons_append, utf8_cons_iff (by decide), utf8_cons_iff (by decide),
      utf8_cons_iff (by decide)]
    simp

/-! ## Names -/

/-- An item without its value, which names do not depend on. -/
def Item.shape : Item → Item
  | .pair key _ => .pair key (.boolean true)
  | item => item

theorem Scope.run_shape (s : Scope) (items : List Item) :
    s.run (items.map Item.shape) = s.run items := by
  induction items generalizing s with
  | nil => rfl
  | cons item items ih =>
    have hstep : s.step item.shape = s.step item := by cases item <;> rfl
    rw [List.map_cons, Scope.run, Scope.run, hstep]
    cases s.step item with
    | none => rfl
    | some s => exact ih s

theorem Scope.run_append (s : Scope) (items more : List Item) :
    s.run (items ++ more) = (s.run items).bind fun s => s.run more := by
  induction items generalizing s with
  | nil => rfl
  | cons item items ih =>
    rw [List.cons_append, Scope.run, Scope.run]
    cases s.step item with
    | none => rfl
    | some s => exact ih s

end Grid0Relay.Lib.Toml
