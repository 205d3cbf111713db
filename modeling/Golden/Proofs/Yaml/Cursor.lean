import Golden.Yaml.Cursor
import Mathlib.Tactic.SplitIfs

/-!
# What a cursor reads

A cursor stands before certain characters (`Cursor.At`), wherever the windows of the stream divide them.
Looking ahead leaves it there (`peekAt_at`), and passing over a character or a line break moves it by one
(`skip_at`, `skipLine_at`). What the loops that pass over blanks, lines and comments do is derived from
these, with no window in sight.
-/

namespace Golden.Yaml

/-- A first step that succeeds hands over its result and its state. -/
theorem bind_of_eq {σ α β : Type} {x : StateT σ Option α} {f : α → StateT σ Option β} {s s' : σ}
    {a : α} (h : x s = some (a, s')) : (x >>= f) s = f a s' := by
  simp [bind, StateT.bind, h]

/-- The characters of a window, as far as they can be read. -/
def Chunk.text : Chunk → List Char
  | .chars cs => cs
  | .broken => []

/-- The cursor stands before these characters up to the end of the stream, and no window is broken. None of
them is a byte order mark. -/
structure Cursor.At (c : Cursor) (cs : List Char) : Prop where
  text_eq : c.buffer ++ c.pending.flatMap Chunk.text = cs
  whole : Chunk.broken ∉ c.pending
  unmarked : c.startsWithMark = false
  noMark : '\ufeff' ∉ cs

namespace Cursor

theorem load_eq (n : Nat) (buffer : List Char) {pending : List Chunk} (h : Chunk.broken ∉ pending) :
    ∃ buffer' pending', load n buffer pending = some (buffer', pending') ∧
      buffer' ++ pending'.flatMap Chunk.text = buffer ++ pending.flatMap Chunk.text ∧
      Chunk.broken ∉ pending' ∧ (n ≤ buffer'.length ∨ pending' = []) := by
  induction pending generalizing buffer with
  | nil => exact ⟨buffer, [], rfl, rfl, h, .inr rfl⟩
  | cons chunk pending ih =>
    cases chunk with
    | broken => exact absurd List.mem_cons_self h
    | chars cs =>
      rw [load]
      split_ifs with hlength
      · exact ⟨buffer, .chars cs :: pending, rfl, rfl, h, .inl hlength⟩
      · obtain ⟨buffer', pending', hload, htext, hwhole, hn⟩ :=
          ih (buffer ++ cs) (fun hmem => h (List.mem_cons_of_mem _ hmem))
        refine ⟨buffer', pending', hload, ?_, hwhole, hn⟩
        rw [htext, List.append_assoc]
        rfl

end Cursor

variable {c : Cursor} {cs : List Char}

/-- Loading characters leaves the cursor where it is. -/
theorem need_at (n : Nat) (h : c.At cs) :
    ∃ c', need n c = some ((), c') ∧ c'.At cs ∧ c'.index = c.index ∧
      min n cs.length ≤ c'.buffer.length := by
  unfold need
  split_ifs with hlength
  · exact ⟨c, rfl, h, rfl, by omega⟩
  · obtain ⟨buffer, pending, hload, htext, hwhole, hn⟩ := Cursor.load_eq n c.buffer h.whole
    have hcs : buffer ++ pending.flatMap Chunk.text = cs := htext.trans h.text_eq
    have hmark : (buffer.head? == some '\ufeff') = false := by
      rw [beq_eq_false_iff_ne]
      intro hhead
      refine h.noMark ?_
      rw [← hcs]
      exact List.mem_append_left _ (List.mem_of_head? hhead)
    refine ⟨{ c with buffer, pending, startsWithMark := buffer.head? == some '\ufeff' }, by rw [hload],
      ⟨hcs, hwhole, hmark, h.noMark⟩, rfl, ?_⟩
    cases hn with
    | inl hn => exact Nat.le_trans (Nat.min_le_left _ _) hn
    | inr hn =>
      -- No window is left, so what is loaded is everything.
      have hall : buffer = cs := by rw [← hcs, hn, List.flatMap_nil, List.append_nil]
      rw [← hall]
      exact Nat.min_le_right _ _

/-- Looking ahead leaves the cursor where it is. -/
theorem peekAt_at (k : Nat) (h : c.At cs) :
    ∃ c', peekAt k c = some ((cs.drop k).headD endMark, c') ∧ c'.At cs ∧ c'.index = c.index ∧
      min (k + 1) cs.length ≤ c'.buffer.length := by
  obtain ⟨c', hneed, hat, hindex, hbuffer⟩ := need_at (k + 1) h
  refine ⟨c', ?_, hat, hindex, hbuffer⟩
  have hchar : c'.buffer[k]? = cs[k]? := by
    rcases Nat.lt_or_ge k c'.buffer.length with hk | hk
    · rw [← hat.text_eq, List.getElem?_append_left hk]
    · rw [List.getElem?_eq_none hk, List.getElem?_eq_none (by omega)]
  rw [peekAt, bind_of_eq hneed]
  show some ((c'.buffer.drop k).headD endMark, c') = _
  rw [List.headD_eq_head?_getD, List.headD_eq_head?_getD, List.head?_drop, List.head?_drop, hchar]

theorem peek_at (h : c.At cs) :
    ∃ c', peek c = some (cs.headD endMark, c') ∧ c'.At cs ∧ c'.index = c.index ∧
      (cs ≠ [] → c'.buffer ≠ []) := by
  obtain ⟨c', hpeek, hat, hindex, hbuffer⟩ := peekAt_at 0 h
  refine ⟨c', hpeek, hat, hindex, fun hne hnil => ?_⟩
  have hlength := List.length_pos_iff.mpr hne
  rw [hnil, List.length_nil] at hbuffer
  omega

theorem skip_at {x : Char} (h : c.At (x :: cs)) (hloaded : c.buffer ≠ []) :
    ∃ c', skip c = some ((), c') ∧ c'.At cs ∧ c'.index = c.index + 1 := by
  refine ⟨_, rfl, ⟨?_, h.whole, h.unmarked, fun hmem => h.noMark (List.mem_cons_of_mem x hmem)⟩, rfl⟩
  obtain ⟨y, ys, hbuffer⟩ := List.exists_cons_of_ne_nil hloaded
  have htext := h.text_eq
  rw [hbuffer] at htext
  show c.buffer.drop 1 ++ _ = cs
  rw [hbuffer]
  exact (List.cons.inj htext).2

theorem skipLine_at (h : c.At ('\n' :: cs)) :
    ∃ c', skipLine c = some ((), c') ∧ c'.At cs ∧ c'.index = c.index + 1 := by
  obtain ⟨c', hneed, hat, hindex, hbuffer⟩ := need_at 2 h
  rw [List.length_cons] at hbuffer
  obtain ⟨y, ys, hys⟩ := List.exists_cons_of_length_pos (l := c'.buffer) (by omega)
  have htext := hat.text_eq
  rw [hys] at htext
  obtain ⟨rfl, htail⟩ := List.cons.inj htext
  refine ⟨{ c' with
    buffer := ys, index := c'.index + 1, column := 0, line := c'.line + 1, newlines := c'.newlines + 1 },
    ?_, ⟨htail, hat.whole, hat.unmarked, fun hmem => hat.noMark (List.mem_cons_of_mem _ hmem)⟩, ?_⟩
  · rw [skipLine, bind_of_eq hneed]
    simp [modify, modifyGet, MonadStateOf.modifyGet, StateT.modifyGet, hys]
  · simp only [hindex]

end Golden.Yaml
