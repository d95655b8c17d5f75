import Grid0Relay.Desktop.Quoting

/-!
# What the shell reads of the administrator command

The shell reads the list the Qt application quoted, for every list, and AppleScript the text.
The Swift application's quoting loses every quote.
-/

namespace Grid0Relay

open Lib Lib.Shell

theorem replaceAll_of_notMem {c : Char} {s : Text} (h : c ∉ s) (text : Text) :
    replaceAll c text s = s := by
  induction s with
  | nil => rfl
  | cons d s ih =>
    rw [List.mem_cons, not_or] at h
    rw [replaceAll, List.flatMap_cons, if_neg (Ne.symm h.1)]
    exact congrArg (d :: ·) (ih h.2)

/-- The first occurrence. -/
theorem replaceAll_first {c : Char} {a : Text} (h : c ∉ a) (text b : Text) :
    replaceAll c text (a ++ c :: b) = a ++ text ++ replaceAll c text b := by
  have hmap : replaceAll c text (a ++ c :: b) =
      replaceAll c text a ++ (text ++ replaceAll c text b) := by
    simp [replaceAll]
  rw [hmap, replaceAll_of_notMem h, List.append_assoc]

/-! ## The Qt application -/

theorem shellQuote_first {a : Text} (h : squote ∉ a) (b : Text) :
    shellQuote (a ++ squote :: b) =
      squote :: (a ++ squote :: dquote :: squote :: dquote :: shellQuote b) := by
  simp [shellQuote, replaceAll_first h]

/-- The quoted text reads as the text, up to its first quote, over that quote, and behind it. -/
theorem quotes_shellQuote (s : Text) : Quotes shellQuote s := by
  induction hn : s.length using Nat.strongRecOn generalizing s with
  | ind n ih =>
    intro r hr
    by_cases hquote : squote ∈ s
    · obtain ⟨a, b, rfl, ha⟩ := List.eq_append_cons_of_mem hquote
      have hb : Quotes shellQuote b := by
        refine ih b.length ?_ b rfl
        rw [← hn, List.length_append, List.length_cons]
        omega
      rw [shellQuote_first ha, run_quoted ha hr, run_quoted_squote rfl, hb _ rfl,
        Reader.more_more, Reader.more_more]
      simp [verbatim]
    · have htext : shellQuote s = squote :: (s ++ squote :: []) := by
        simp [shellQuote, replaceAll_of_notMem hquote]
      rw [htext, run_quoted hquote hr, run_nil]

/-- What `appleScriptQuote` writes for a character. -/
def appleScriptChar (c : Char) : Text :=
  if c = backslash then [backslash, backslash]
  else if c = dquote then [backslash, dquote]
  else if c = '\n' then [backslash, 'n']
  else if c = '\r' then [backslash, 'r']
  else [c]

/-- None of the four replacements touches what an earlier one wrote. -/
theorem appleScriptQuote_eq (s : Text) :
    appleScriptQuote s = dquote :: (s.flatMap appleScriptChar ++ [dquote]) := by
  have hchar : ∀ c, replaceAll '\r' [backslash, 'r'] (replaceAll '\n' [backslash, 'n']
      (replaceAll dquote [backslash, dquote] (replaceAll backslash [backslash, backslash] [c]))) =
        appleScriptChar c := by
    intro c
    by_cases hbackslash : c = backslash
    · subst hbackslash
      rfl
    · by_cases hdquote : c = dquote
      · subst hdquote
        rfl
      · simp [replaceAll, appleScriptChar, hbackslash, hdquote]
        by_cases hnewline : c = '\n'
        · subst hnewline
          rfl
        · simp [hnewline]
  have hall : replaceAll '\r' [backslash, 'r'] (replaceAll '\n' [backslash, 'n']
      (replaceAll dquote [backslash, dquote] (replaceAll backslash [backslash, backslash] s))) =
        s.flatMap appleScriptChar := by
    rw [show appleScriptChar = _ from (funext hchar).symm]
    simp only [replaceAll, List.flatMap_assoc, List.flatMap_singleton]
  exact congrArg (fun text => [dquote] ++ text ++ [dquote]) hall

theorem body_appleScriptChar (c : Char) (text : Text) :
    Literal.appleScript.body (appleScriptChar c ++ text) =
      (Literal.appleScript.body text).map fun (value, rest) => (c :: value, rest) := by
  unfold appleScriptChar
  split_ifs with hbackslash hdquote hnewline hreturn
  · subst hbackslash
    refine Literal.body_escape_one ?_
    rfl
  · subst hdquote
    refine Literal.body_escape_one ?_
    rfl
  · subst hnewline
    refine Literal.body_escape_one ?_
    rfl
  · subst hreturn
    refine Literal.body_escape_one ?_
    rfl
  · rw [List.singleton_append, Literal.body_self hdquote hbackslash]
    rfl

theorem read_appleScriptQuote (s rest : Text) :
    Literal.appleScript.read (appleScriptQuote s ++ rest) = some (s, rest) := by
  rw [appleScriptQuote_eq, List.cons_append, List.append_assoc, List.singleton_append]
  exact Literal.body_flatMap (fun c _ => body_appleScriptChar c) rest

theorem read_shellQuote (l : List Text) :
    Shell.read (joinWords (l.map shellQuote)) = some (l.map verbatim) :=
  run_join (fun text _ => quotes_shellQuote text) []

theorem doShellScript_authorize (command : Text) :
    doShellScript (RelayController.scriptLead ++ appleScriptQuote command ++
      RelayController.scriptTail) = some command := by
  have hlead : RelayController.scriptLead.isPrefixOf? (RelayController.scriptLead ++
      (appleScriptQuote command ++ RelayController.scriptTail)) =
        some (appleScriptQuote command ++ RelayController.scriptTail) :=
    List.isPrefixOf?_eq_some_iff_append_eq.mpr rfl
  rw [List.append_assoc, doShellScript, hlead]
  simp [read_appleScriptQuote]

/-- **Quoting loses nothing.** The shell reads a list of quoted texts as the list, with every
character quoted, so that nothing in it is expanded; AppleScript reads a quoted text as the
text; and the command `RelayController::start` gives to `osascript` reaches the shell as its
argument vector. -/
theorem quoting_lossless :
    (∀ l : List Text, Shell.read (joinWords (l.map shellQuote)) = some (l.map verbatim)) ∧
    (∀ l : List Text, Shell.words (joinWords (l.map shellQuote)) = some l) ∧
    (∀ s rest : Text, Literal.appleScript.read (appleScriptQuote s ++ rest) = some (s, rest)) ∧
    ∀ (helper serverName : Text) (uid : Nat) (relay : Text) (p : Preferences) (sys : System)
      (adapters : List Adapter) (report : Text),
      let vector := RelayController.command helper serverName uid relay p sys adapters report
      ∃ script, RelayController.authorize vector =
          ("/usr/bin/osascript".toList, ["-e".toList, script]) ∧
        (doShellScript script).bind Shell.read = some (vector.map verbatim) ∧
        (doShellScript script).bind Shell.words = some vector := by
  have hwords : ∀ l : List Text, Shell.words (joinWords (l.map shellQuote)) = some l := by
    intro l
    rw [Shell.words, read_shellQuote, Option.map_some, words_verbatim]
  refine ⟨read_shellQuote, hwords, read_appleScriptQuote, ?_⟩
  intro helper serverName uid relay p sys adapters report vector
  refine ⟨_, rfl, ?_, ?_⟩
  · rw [doShellScript_authorize]
    exact read_shellQuote vector
  · rw [doShellScript_authorize]
    exact hwords vector

/-! ## The Swift application -/

theorem swiftQuote_of_notMem {s : Text} (h : squote ∉ s) :
    RelayModel.shellQuote s = squote :: (s ++ squote :: []) := by
  simp [RelayModel.shellQuote, replaceAll_of_notMem h]

theorem quotes_swiftQuote {s : Text} (h : squote ∉ s) : Quotes RelayModel.shellQuote s := by
  intro r hr
  rw [swiftQuote_of_notMem h, run_quoted h hr, run_nil]

/-- Behind the first quote the word goes on with a double quote. -/
theorem run_swiftQuote {a : Text} (h : squote ∉ a) (b : Text) {r : Reader} (hr : r.mode = .plain) :
    ∃ rest, ∀ tail, Shell.run r (RelayModel.shellQuote (a ++ squote :: b) ++ tail) =
      Shell.run (r.more .plain (verbatim (a ++ [dquote]))) (rest ++ tail) := by
  refine ⟨squote :: backslash :: dquote :: squote ::
    (replaceAll squote [squote, backslash, dquote, squote, backslash, dquote, squote] b ++
      [squote]), ?_⟩
  intro tail
  have htext : RelayModel.shellQuote (a ++ squote :: b) ++ tail =
      squote :: (a ++ squote :: backslash :: dquote :: (squote :: backslash :: dquote :: squote ::
        (replaceAll squote [squote, backslash, dquote, squote, backslash, dquote, squote] b ++
          [squote]) ++ tail)) := by
    simp [RelayModel.shellQuote, replaceAll_first h]
  have hescape : step (r.more .plain (verbatim a)) backslash =
      some { r.more .plain (verbatim a) with mode := .escape } := rfl
  have hdquote : step { r.more .plain (verbatim a) with mode := .escape } dquote =
      some (r.more .plain (verbatim (a ++ [dquote]))) := by
    simp only [step, Reader.more]
    rw [if_neg (by decide)]
    simp [verbatim]
  rw [htext, run_quoted h hr, run_cons, hescape, Option.bind_some, run_cons, hdquote,
    Option.bind_some]

/-- The list up to its first text with a quote. -/
theorem split_at_quoted {l : List Text} (h : ¬ ∀ s ∈ l, squote ∉ s) :
    ∃ before a b after, l = before ++ (a ++ squote :: b) :: after ∧ squote ∉ a ∧
      ∀ s ∈ before, squote ∉ s := by
  induction l with
  | nil => exact absurd (fun s hs => absurd hs List.not_mem_nil) h
  | cons s l ih =>
    by_cases hs : squote ∈ s
    · obtain ⟨a, b, rfl, ha⟩ := List.eq_append_cons_of_mem hs
      exact ⟨[], a, b, l, rfl, ha, fun s hs => absurd hs List.not_mem_nil⟩
    · have hl : ¬ ∀ s ∈ l, squote ∉ s := by
        intro hl
        exact h fun t ht => (List.mem_cons.mp ht).elim (fun heq => heq ▸ hs) (hl t)
      obtain ⟨before, a, b, after, rfl, ha, hbefore⟩ := ih hl
      refine ⟨s :: before, a, b, after, rfl, ha, ?_⟩
      intro t ht
      exact (List.mem_cons.mp ht).elim (fun heq => heq ▸ hs) (hbefore t)

/-- **The Swift application's quoting.** The shell reads the list that was quoted exactly when
none of its texts has a single quote. -/
theorem swift_quoting_iff (l : List Text) :
    Shell.words (joinWords (l.map RelayModel.shellQuote)) = some l ↔ ∀ s ∈ l, squote ∉ s := by
  constructor
  · intro hwords
    by_contra hquoted
    obtain ⟨before, a, b, after, rfl, ha, hbefore⟩ := split_at_quoted hquoted
    obtain ⟨ws, hread, hws⟩ := Option.map_eq_some_iff.mp hwords
    obtain ⟨tail, htail⟩ : ∃ tail, [' '].intercalate
        (((a ++ squote :: b) :: after).map RelayModel.shellQuote) =
          RelayModel.shellQuote (a ++ squote :: b) ++ tail := by
      cases after with
      | nil => exact ⟨[], by simp⟩
      | cons s after => exact ⟨_, List.intercalate_cons_cons.trans (List.append_assoc ..)⟩
    obtain ⟨rest, hrest⟩ := run_swiftQuote ha b (r := ⟨.plain, none, before.map verbatim⟩) rfl
    have hrun := run_before (fun s hs => quotes_swiftQuote (hbefore s hs)) []
    rw [Shell.read, joinWords, List.map_append, List.map_cons, intercalate_append_cons,
      ← List.map_cons, htail, run_append] at hread
    rw [show Reader.start = ⟨.plain, none, []⟩ from rfl, hrun, Option.bind_some,
      List.nil_append, hrest] at hread
    -- the word that has begun reads a double quote where the text has a single one
    have hbegun : Begun (before.map verbatim) (verbatim (a ++ [dquote]))
        (Reader.more ⟨.plain, none, before.map verbatim⟩ .plain (verbatim (a ++ [dquote]))) :=
      Or.inl ⟨rfl, [], by simp [Reader.more]⟩
    obtain ⟨more, others, rfl⟩ := hbegun.of_finish hread
    rw [List.map_append, words_verbatim, List.map_cons, List.append_cancel_left_eq] at hws
    have hword := (List.cons.inj hws).1
    have hchars : (verbatim (a ++ [dquote]) ++ more).map Lit.char =
        a ++ dquote :: more.map Lit.char := by
      simp [verbatim, Function.comp_def]
    rw [hchars, List.append_cancel_left_eq] at hword
    exact absurd (List.cons.inj hword).1 (by decide)
  · intro h
    have hread : Shell.read (joinWords (l.map RelayModel.shellQuote)) = some (l.map verbatim) :=
      run_join (fun s hs => quotes_swiftQuote (h s hs)) []
    rw [Shell.words, hread, Option.map_some, words_verbatim]

theorem swift_quoting_iff_plain :
    Shell.words (joinWords (["/opt/grid0 relay".toList, "$(id)".toList].map
      RelayModel.shellQuote)) = some ["/opt/grid0 relay".toList, "$(id)".toList] :=
  (swift_quoting_iff _).mpr (by decide)

/-- A path with a quote in it leaves a quotation open, and the shell runs nothing. -/
theorem swift_quote_left_open :
    Shell.words (joinWords (["/opt/it\x27s".toList, "--netif".toList].map RelayModel.shellQuote)) =
      none := by
  decide

end Grid0Relay
