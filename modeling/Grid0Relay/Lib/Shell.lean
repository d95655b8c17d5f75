import Mathlib.Data.List.Basic

/-!
# Reading shell words

How the POSIX shell cuts a text into the words of one simple command: blanks between them,
backslashes, single and double quotes. A text with anything else in it that the shell acts
on (an operator, a comment, a parameter, a command substitution, a pattern) has no words
here. Every character carries whether it was quoted, and a quoted one stands for itself in
all that the shell does with a word afterwards.
-/

namespace Grid0Relay.Lib.Shell

abbrev squote : Char := '\x27'
abbrev dquote : Char := '\x22'
abbrev backslash : Char := '\x5c'
abbrev backquote : Char := '\x60'

/-- A character of a word, and whether it was quoted. -/
structure Lit where
  char : Char
  quoted : Bool
deriving DecidableEq

abbrev Word := List Lit

/-- The word that is nothing but this text. -/
def verbatim (text : List Char) : Word := text.map fun c => ⟨c, true⟩

inductive Mode
  | plain
  | escape
  | single
  | double
  | doubleEscape
deriving DecidableEq

/-- The words behind the reader and the one it is in, if it has begun. -/
structure Reader where
  mode : Mode
  word : Option Word
  words : List Word

namespace Reader

def start : Reader := ⟨.plain, none, []⟩

/-- The word goes on, or begins, with these characters. -/
def more (r : Reader) (mode : Mode) (lits : Word) : Reader :=
  { r with mode, word := some (r.word.getD [] ++ lits) }

/-- The end of a word. -/
def blank (r : Reader) : Reader :=
  match r.word with
  | none => r
  | some word => ⟨r.mode, none, r.words ++ [word]⟩

end Reader

/-- Operators, expansions and patterns begin with one of these. -/
def active : List Char :=
  ['|', '&', ';', '<', '>', '(', ')', '\n', '$', backquote, '*', '?', '[']

/-- An unquoted character. -/
def plainStep (r : Reader) (c : Char) : Option Reader :=
  if c = ' ' ∨ c = '\t' then some r.blank
  else if c = squote then some (r.more .single [])
  else if c = dquote then some (r.more .double [])
  else if c = backslash then some { r with mode := .escape }
  else if c ∈ active then none
  -- a comment or a home directory, at the beginning of a word
  else if r.word.isNone ∧ (c = '#' ∨ c = '~') then none
  else some (r.more .plain [⟨c, false⟩])

def step (r : Reader) (c : Char) : Option Reader :=
  match r.mode with
  | .plain => plainStep r c
  | .escape =>
    if c = '\n' then some { r with mode := .plain } else some (r.more .plain [⟨c, true⟩])
  | .single =>
    if c = squote then some (r.more .plain []) else some (r.more .single [⟨c, true⟩])
  | .double =>
    if c = dquote then some (r.more .plain [])
    else if c = backslash then some (r.more .doubleEscape [])
    else if c = '$' ∨ c = backquote then none
    else some (r.more .double [⟨c, true⟩])
  | .doubleEscape =>
    if c ∈ ['$', backquote, dquote, backslash] then some (r.more .double [⟨c, true⟩])
    else if c = '\n' then some (r.more .double [])
    else some (r.more .double [⟨backslash, true⟩, ⟨c, true⟩])

def run (r : Reader) (text : List Char) : Option Reader := text.foldlM step r

/-- The words, unless a quotation is left open. -/
def finish (r : Reader) : Option (List Word) := if r.mode = .plain then some r.blank.words else none

/-- The words of a text. -/
def read (text : List Char) : Option (List Word) := (run .start text).bind finish

/-- The words of a text, as texts. -/
def words (text : List Char) : Option (List (List Char)) :=
  (read text).map fun ws => ws.map fun w => w.map Lit.char

/-! ## Runs -/

@[simp] theorem run_nil (r : Reader) : run r [] = some r := rfl

theorem run_cons (r : Reader) (c : Char) (text : List Char) :
    run r (c :: text) = (step r c).bind fun r => run r text := List.foldlM_cons

theorem run_append (r : Reader) (a b : List Char) :
    run r (a ++ b) = (run r a).bind fun r => run r b := List.foldlM_append

theorem Reader.more_more (r : Reader) (m m' : Mode) (a b : Word) :
    (r.more m a).more m' b = r.more m' (a ++ b) := by
  simp [Reader.more]

/-- Between single quotes every character but one is itself. -/
theorem run_single {text : List Char} (h : squote ∉ text) (r : Reader) (w : Word) :
    run (r.more .single w) text = some (r.more .single (w ++ verbatim text)) := by
  induction text generalizing w with
  | nil => simp [verbatim]
  | cons c text ih =>
    rw [List.mem_cons, not_or] at h
    have hstep : step (r.more .single w) c = some (r.more .single (w ++ [⟨c, true⟩])) := by
      simp [step, Reader.more, Ne.symm h.1]
    rw [run_cons, hstep, Option.bind_some, ih h.2]
    simp [verbatim]

/-- A text between single quotes. -/
theorem run_quoted {text : List Char} (h : squote ∉ text) {r : Reader} (hr : r.mode = .plain)
    (rest : List Char) :
    run r (squote :: (text ++ squote :: rest)) = run (r.more .plain (verbatim text)) rest := by
  have hopen : step r squote = some (r.more .single []) := by
    simp only [step, hr]
    rfl
  have hclose : step (r.more .single (verbatim text)) squote =
      some (r.more .plain (verbatim text)) := by
    simp [step, Reader.more]
  rw [run_cons, hopen, Option.bind_some, run_append, run_single h, Option.bind_some,
    List.nil_append, run_cons, hclose, Option.bind_some]

/-- A single quote between double quotes. -/
theorem run_quoted_squote {r : Reader} (hr : r.mode = .plain) (rest : List Char) :
    run r (dquote :: squote :: dquote :: rest) = run (r.more .plain (verbatim [squote])) rest := by
  have hopen : step r dquote = some (r.more .double []) := by
    simp only [step, hr]
    rfl
  have hput : step (r.more .double []) squote = some (r.more .double (verbatim [squote])) := by
    rw [← List.nil_append (verbatim _), ← Reader.more_more r .double]
    rfl
  have hclose : step (r.more .double (verbatim [squote])) dquote =
      some (r.more .plain (verbatim [squote])) := by
    simp [step, Reader.more]
  rw [run_cons, hopen, Option.bind_some, run_cons, hput, Option.bind_some, run_cons, hclose,
    Option.bind_some]

/-! ## Lists of words -/

/-- Outside of quotations the quoted text reads as the text, whatever stands before it. -/
def Quotes (quote : List Char → List Char) (text : List Char) : Prop :=
  ∀ r : Reader, r.mode = .plain → run r (quote text) = some (r.more .plain (verbatim text))

variable {quote : List Char → List Char}

theorem intercalate_append_cons {α : Type} (sep : List α) (xs : List (List α)) (y : List α)
    (ys : List (List α)) :
    sep.intercalate (xs ++ y :: ys) = (xs.flatMap (· ++ sep)) ++ sep.intercalate (y :: ys) := by
  induction xs with
  | nil => rfl
  | cons x xs ih =>
    rw [List.cons_append, List.intercalate_cons_of_ne_nil (by simp), ih]
    simp

/-- Quoted texts with a blank behind each. -/
theorem run_before {l : List (List Char)} (h : ∀ text ∈ l, Quotes quote text) (ws : List Word) :
    run ⟨.plain, none, ws⟩ ((l.map quote).flatMap (· ++ [' '])) =
      some ⟨.plain, none, ws ++ l.map verbatim⟩ := by
  induction l generalizing ws with
  | nil => simp
  | cons text l ih =>
    have hfirst := h text List.mem_cons_self ⟨.plain, none, ws⟩ rfl
    have hblank : step (Reader.more ⟨.plain, none, ws⟩ .plain (verbatim text)) ' ' =
      some ⟨.plain, none, ws ++ [verbatim text]⟩ := rfl
    rw [List.map_cons, List.flatMap_cons, List.append_assoc, run_append, hfirst,
      Option.bind_some, List.singleton_append, run_cons, hblank, Option.bind_some,
      ih fun text htext => h text (List.mem_cons_of_mem _ htext)]
    simp

/-- A list of quoted texts, joined by blanks, reads as the list. -/
theorem run_join {l : List (List Char)} (h : ∀ text ∈ l, Quotes quote text) (ws : List Word) :
    (run ⟨.plain, none, ws⟩ ([' '].intercalate (l.map quote))).bind finish =
      some (ws ++ l.map verbatim) := by
  rcases List.eq_nil_or_concat l with rfl | ⟨init, last, rfl⟩
  · simp [finish, Reader.blank]
  · have hinit := run_before (l := init) (fun text htext => h text (by simp [htext])) ws
    have hlast := h last (by simp) ⟨.plain, none, ws ++ init.map verbatim⟩ rfl
    rw [List.concat_eq_append, List.map_append, List.map_singleton, intercalate_append_cons,
      List.intercalate_singleton, run_append, hinit, Option.bind_some, hlast]
    simp [finish, Reader.more, Reader.blank]

theorem words_verbatim (l : List (List Char)) :
    (l.map verbatim).map (fun w => w.map Lit.char) = l := by
  simp [verbatim, Function.comp_def]

/-! ## What has been read stays -/

/-- Behind these words the reader has begun, or finished, a word that starts like this. -/
def Begun (ws : List Word) (w : Word) (r : Reader) : Prop :=
  (r.words = ws ∧ ∃ more, r.word = some (w ++ more)) ∨
    ∃ more rest, r.words = ws ++ (w ++ more) :: rest

theorem Begun.more {ws : List Word} {w : Word} {r : Reader} (h : Begun ws w r) (mode : Mode)
    (lits : Word) : Begun ws w (r.more mode lits) := by
  rcases h with ⟨hws, more, hword⟩ | hdone
  · exact Or.inl ⟨hws, more ++ lits, by simp [Reader.more, hword]⟩
  · exact Or.inr hdone

theorem Begun.blank {ws : List Word} {w : Word} {r : Reader} (h : Begun ws w r) :
    ∃ more rest, r.blank.words = ws ++ (w ++ more) :: rest := by
  rcases h with ⟨hws, more, hword⟩ | ⟨more, rest, hdone⟩
  · exact ⟨more, [], by simp [Reader.blank, hws, hword]⟩
  · cases hword : r.word with
    | none => exact ⟨more, rest, by simp [Reader.blank, hword, hdone]⟩
    | some word => exact ⟨more, rest ++ [word], by simp [Reader.blank, hword, hdone]⟩

theorem Begun.of_step {ws : List Word} {w : Word} {r r' : Reader} {c : Char} (h : Begun ws w r)
    (hstep : step r c = some r') : Begun ws w r' := by
  have hmode : ∀ mode, Begun ws w { r with mode } := fun _ => h
  have hblank : Begun ws w r.blank := Or.inr h.blank
  unfold step plainStep at hstep
  -- a blank closes the word, every other character adds to it or only changes the mode
  split at hstep
  all_goals
    split_ifs at hstep
    all_goals
      obtain rfl := Option.some.inj hstep
      first | exact hblank | exact h.more _ _ | exact hmode _

theorem Begun.of_run {ws : List Word} {w : Word} {text : List Char} {r r' : Reader}
    (h : Begun ws w r) (hrun : run r text = some r') : Begun ws w r' := by
  induction text generalizing r with
  | nil =>
    obtain rfl := Option.some.inj hrun
    exact h
  | cons c text ih =>
    rw [run_cons] at hrun
    obtain ⟨r₁, hstep, hrest⟩ := Option.bind_eq_some_iff.mp hrun
    exact ih (h.of_step hstep) hrest

/-- Whatever follows, the words that are read in the end have the one that had begun. -/
theorem Begun.of_finish {ws : List Word} {w : Word} {text : List Char} {r : Reader}
    {l : List Word} (h : Begun ws w r) (hread : (run r text).bind finish = some l) :
    ∃ more rest, l = ws ++ (w ++ more) :: rest := by
  obtain ⟨r', hrun, hfinish⟩ := Option.bind_eq_some_iff.mp hread
  obtain ⟨more, rest, hwords⟩ := (h.of_run hrun).blank
  unfold finish at hfinish
  split at hfinish
  · exact ⟨more, rest, (Option.some.inj hfinish).symm.trans hwords⟩
  · cases hfinish

end Grid0Relay.Lib.Shell
