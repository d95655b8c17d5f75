import Grid0Relay.Logic.RpcLines
import Grid0Relay.Theorems.BufferList

/-!
# The line splitter

`ReadLine` gives its callback the lines of the stream, however the stream is cut, and keeps
the unfinished one. It looks at the last byte of every line for a carriage return, also when
the line has none.
-/

namespace Grid0Relay.Rpc

open Lib Lib.Exec Lib.Stream

variable {δ : Type}

/-- A sequence of `feed` calls. -/
def feedAll (host : Host) (callback : Bytes → RpcM δ Unit) : List Bytes → RpcM δ Unit
  | [] => pure ()
  | data :: rest => do
    feed host callback data
    feedAll host callback rest

/-- A callback that writes down what it is called with. -/
def record (line : Bytes) : RpcM (List Bytes) Unit := modifyInner fun seen => seen ++ [line]

/-- The lines and the unfinished one make up the stream, and have no newline. -/
theorem rawLines_join (cur stream : Bytes) :
    (rawLines cur stream).flatMap (· ++ [10]) ++ (Stream.run (lineStep 10) cur stream).1 =
      cur ++ stream := by
  induction stream generalizing cur with
  | nil => simp [rawLines, Stream.run]
  | cons b stream ih =>
    by_cases hb : b = 10
    · subst hb
      have hstep : lineStep (10 : UInt8) cur 10 = ([], [cur]) := if_pos rfl
      have hrest := ih []
      rw [rawLines] at hrest ⊢
      rw [Stream.run, hstep, List.singleton_append, List.flatMap_cons, List.append_assoc, hrest]
      simp
    · have hstep : lineStep (10 : UInt8) cur b = (cur ++ [b], []) := if_neg hb
      have hrest := ih (cur ++ [b])
      rw [rawLines] at hrest ⊢
      rw [Stream.run, hstep, List.nil_append, hrest]
      simp

theorem notMem_rawLines {cur : Bytes} (hcur : 10 ∉ cur) (stream : Bytes) :
    ∀ line ∈ rawLines cur stream, 10 ∉ line := by
  induction stream generalizing cur with
  | nil => exact fun line hline => absurd hline List.not_mem_nil
  | cons b stream ih =>
    rw [rawLines, Stream.run]
    by_cases hb : b = 10
    · have hstep : lineStep (10 : UInt8) cur b = ([], [cur]) := if_pos hb
      rw [hstep, List.singleton_append]
      intro line hline
      rcases List.mem_cons.mp hline with rfl | hrest
      · exact hcur
      · exact ih List.not_mem_nil line hrest
    · have hstep : lineStep (10 : UInt8) cur b = (cur ++ [b], []) := if_neg hb
      rw [hstep, List.nil_append]
      exact ih (by simp [hcur, Ne.symm hb])

/-- The number of lines without a byte. -/
def blanks (lines : List Bytes) : Nat := lines.countP (· = [])

/-- A round asks for a byte outside of its line exactly when there is none inside. -/
theorem round_record (host : Host) (line : Bytes) (w : World (List Bytes)) :
    (chomp host line >>= record) w =
      .ok () ⟨{ w.conn with inner := w.conn.inner ++ [chomped line] },
        w.asked + blanks [line]⟩ := by
  cases hlast : line.getLast? with
  | some b =>
    have hne : line ≠ [] := by
      rintro rfl
      cases hlast
    have hchomp : chomp host line w = .ok (chomped line) w := by
      simp only [chomp, chomped, hlast, Option.some.injEq]
      rfl
    rw [bind_ok hchomp]
    simp [record, blanks, hne]
  | none =>
    obtain rfl : line = [] := List.getLast?_eq_none_iff.mp hlast
    have hchomp : chomp host [] w = .ok (chomped []) { w with asked := w.asked + 1 } := by
      simp only [chomp, chomped, List.getLast?_nil, bind_ok (ask_apply _ w), List.dropLast_nil,
        ite_self]
      rfl
    rw [bind_ok hchomp]
    simp [record, blanks]

/-- What a recorded connection has after these lines. -/
structure Recorded (w₀ : World (List Bytes)) (lines : List Bytes) (w : World (List Bytes)) :
    Prop where
  inner : w.conn.inner = w₀.conn.inner ++ lines.map chomped
  asked : w.asked = w₀.asked + blanks lines

/-- Whatever the cuts, the callback sees the lines and the rest is kept. -/
theorem feedAll_record (host : Host) {w₀ : World (List Bytes)} {stream : Bytes}
    {w : World (List Bytes)} (hheld : w.conn.buffer = unfinished stream)
    (h : Recorded w₀ (rawLines [] stream) w) (chunks : List Bytes) :
    ∃ w', feedAll host record chunks w = .ok () w' ∧
      w'.conn.buffer = unfinished (stream ++ chunks.flatten) ∧
      Recorded w₀ (rawLines [] (stream ++ chunks.flatten)) w' := by
  induction chunks generalizing stream w with
  | nil => exact ⟨w, rfl, by simpa using hheld, by simpa using h⟩
  | cons data rest ih =>
    have hround : ∀ seen line w, Recorded w₀ seen w →
        ∃ w', (chomp host line >>= record) w = .ok () w' ∧ Recorded w₀ (seen ++ [line]) w' := by
      intro seen line w hseen
      refine ⟨_, round_record host line w, ?_, ?_⟩
      · simp [hseen.inner]
      · simp only [hseen.asked, blanks, List.countP_append]
        omega
    obtain ⟨w₁, hfeed, hheld₁, h₁⟩ := feed_rounds host hround
      (fun _ _ _ hrec => ⟨hrec.inner, hrec.asked⟩) hheld h data
    obtain ⟨w₂, hrest, hheld₂, h₂⟩ := ih hheld₁ h₁
    rw [List.append_assoc, ← List.flatten_cons] at hheld₂ h₂
    exact ⟨w₂, by rw [feedAll, bind_ok hfeed, hrest], hheld₂, h₂⟩

/-- **The line splitter.** The newline-terminated lines and the unfinished one make up the
stream. The splitter calls its callback with these lines, without their carriage returns,
keeps the unfinished one, and stays inside of the lines, exactly when none of them is empty. -/
theorem read_line_exact_iff (host : Host) (chunks : List Bytes) (w : World (List Bytes))
    (fresh : w.conn.buffer = []) :
    ((rawLines [] chunks.flatten).flatMap (· ++ [10]) ++ unfinished chunks.flatten =
        chunks.flatten ∧
      (∀ line ∈ rawLines [] chunks.flatten, 10 ∉ line) ∧ 10 ∉ unfinished chunks.flatten) ∧
    ((∃ w', feedAll host record chunks w = .ok () w' ∧
      w'.conn.inner = w.conn.inner ++ (rawLines [] chunks.flatten).map chomped ∧
      w'.conn.buffer = unfinished chunks.flatten ∧ w'.asked = w.asked) ↔
      ∀ line ∈ rawLines [] chunks.flatten, line ≠ []) := by
  refine ⟨⟨rawLines_join [] _, notMem_rawLines List.not_mem_nil _, notMem_unfinished _⟩, ?_⟩
  have hheld₀ : w.conn.buffer = unfinished [] := fresh
  have hstart : Recorded w (rawLines [] []) w := ⟨(List.append_nil _).symm, rfl⟩
  obtain ⟨w', hrun, hheld, hrec⟩ := feedAll_record host hheld₀ hstart chunks
  rw [List.nil_append] at hheld hrec
  have hnone : w'.asked = w.asked ↔ ∀ line ∈ rawLines [] chunks.flatten, line ≠ [] := by
    rw [hrec.asked, Nat.add_eq_left, blanks, List.countP_eq_zero]
    simp
  constructor
  · rintro ⟨w₁, hrun₁, -, -, hasked⟩
    obtain ⟨-, rfl⟩ := EStateM.Result.ok.inj (hrun.symm.trans hrun₁)
    exact hnone.mp hasked
  · intro hlines
    exact ⟨w', hrun, hrec.inner, hheld, hnone.mpr hlines⟩

/-- A splitter at its beginning. -/
def unfed : World (List Bytes) := ⟨.init [], 0⟩

/-- The end of a line falls between two calls. -/
theorem read_line_exact_iff_cut :
    ∃ w', feedAll sevens record [text "GET\r", text "\nab"] unfed = .ok () w' ∧
      w'.conn.inner = [text "GET"] ∧ w'.conn.buffer = text "ab" ∧ w'.asked = 0 := by
  obtain ⟨w', hrun, hinner, hbuffer, hasked⟩ :=
    (read_line_exact_iff sevens [text "GET\r", text "\nab"] unfed rfl).2.mpr (by decide)
  exact ⟨w', hrun, hinner.trans (by decide), hbuffer.trans (by decide), hasked⟩

/-- A line without a byte is looked at in front of its beginning. -/
theorem empty_line_out_of_range :
    rawLines [] (text "a\n\n") = [text "a", []] ∧
      (after (feedAll sevens record [text "a\n\n"] unfed)).asked = 1 := by
  decide

end Grid0Relay.Rpc
