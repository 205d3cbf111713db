import Golden.Proofs.Yaml.Cursor
import Golden.Yaml.Value

/-!
# Streams of comments

A stream of spaces, line feeds and comments holds no document (`NoDocument`): the loops that pass over
blanks and comments run up to its end (`toNextToken_at`), so that its tokens are those of the start and
of the end of a stream (`tokens_of_noDocument`).

Comments on adjacent lines are passed over in one go as far as the lexer looks ahead for them. Where that
ends does not matter, since the characters behind it are again such a stream.
-/

namespace Golden.Yaml

/-- A printable ASCII character. -/
def isPrintableAscii (x : Char) : Bool := ' ' ≤ x && x ≤ '~'

/-- The rest of a stream of spaces, line feeds and comments, from a place inside or outside of a
comment. -/
inductive NoDocument : (inComment : Bool) → List Char → Prop
  | done (b : Bool) : NoDocument b []
  | newline (b : Bool) {cs : List Char} : NoDocument false cs → NoDocument b ('\n' :: cs)
  | space {cs : List Char} : NoDocument false cs → NoDocument false (' ' :: cs)
  | sign {cs : List Char} : NoDocument true cs → NoDocument false ('#' :: cs)
  | text {x : Char} {cs : List Char} : isPrintableAscii x → NoDocument true cs → NoDocument true (x :: cs)

namespace NoDocument

variable {b : Bool} {cs : List Char}

theorem mem {x : Char} (h : NoDocument b cs) (hx : x ∈ cs) : x = '\n' ∨ isPrintableAscii x := by
  induction h with
  | done => nomatch hx
  | newline _ _ ih =>
    cases hx with
    | head => exact .inl rfl
    | tail _ hx => exact ih hx
  | space _ ih =>
    cases hx with
    | head => exact .inr rfl
    | tail _ hx => exact ih hx
  | sign _ ih =>
    cases hx with
    | head => exact .inr rfl
    | tail _ hx => exact ih hx
  | text hprintable _ ih =>
    cases hx with
    | head => exact .inr hprintable
    | tail _ hx => exact ih hx

/-- Where a comment starts, one may as well be inside of it. -/
theorem inComment (h : NoDocument false ('#' :: cs)) : NoDocument true ('#' :: cs) := by
  cases h with
  | sign h => exact .text rfl h

/-- Behind spaces and line feeds outside of comments one is still outside. -/
theorem drop {blanks : List Char} (hblanks : ∀ x ∈ blanks, x = ' ' ∨ x = '\n')
    (h : NoDocument false (blanks ++ cs)) : NoDocument false cs := by
  induction blanks with
  | nil => exact h
  | cons x blanks ih =>
    obtain rfl | rfl := hblanks x List.mem_cons_self
    · cases h with
      | space h => exact ih (fun y hy => hblanks y (List.mem_cons_of_mem _ hy)) h
    · cases h with
      | newline _ h => exact ih (fun y hy => hblanks y (List.mem_cons_of_mem _ hy)) h

/-- A blank or plain line break of such a stream is a space or a line feed. -/
theorem eq_space_or_newline {x : Char} (h : NoDocument b cs) (hx : x ∈ cs)
    (hblank : isBlankChar x ∨ isPlainBreak x) : x = ' ' ∨ x = '\n' := by
  simp only [isBlankChar, isPlainBreak, Bool.or_eq_true, beq_iff_eq] at hblank
  obtain (rfl | rfl) | (rfl | rfl) := hblank
  · exact .inl rfl
  · exact absurd (h.mem hx) (by decide)
  · exact absurd (h.mem hx) (by decide)
  · exact .inr rfl

end NoDocument

/-- No printable character ends a line. -/
theorem isBreakOrEnd_of_isPrintableAscii {x : Char} (h : isPrintableAscii x) : isBreakOrEnd x = false := by
  rw [← Bool.not_eq_true]
  intro hbreak
  simp only [isBreakOrEnd, isBreak, Bool.or_eq_true, beq_iff_eq] at hbreak
  obtain ((((rfl | rfl) | rfl) | rfl) | rfl) | rfl := hbreak
  all_goals exact absurd h (by decide)

/-! ## Loops of the cursor -/

variable {c : Cursor} {cs : List Char}

theorem Cursor.remaining_eq (c : Cursor) : c.remaining =
    c.buffer.length + c.pending.foldl (fun n chunk => n + (Chunk.text chunk).length + 1) 0 := by
  rw [remaining]
  congr 2
  funext n chunk
  cases chunk <;> rfl

/-- The bound of the loops covers all the characters ahead. -/
theorem Cursor.At.length_le (h : c.At cs) : cs.length ≤ c.remaining := by
  have hpending (pending : List Chunk) (n : Nat) : n + (pending.flatMap Chunk.text).length ≤
      pending.foldl (fun n chunk => n + (Chunk.text chunk).length + 1) n := by
    induction pending generalizing n with
    | nil => exact Nat.le_refl n
    | cons chunk pending ih =>
      rw [List.foldl_cons, List.flatMap_cons, List.length_append, ← Nat.add_assoc]
      refine Nat.le_trans ?_ (ih (n + (Chunk.text chunk).length + 1))
      exact Nat.add_le_add_right (Nat.le_succ _) _
  rw [← h.text_eq, List.length_append, c.remaining_eq]
  refine Nat.add_le_add_left ?_ _
  have hwindows := hpending c.pending 0
  rwa [Nat.zero_add] at hwindows

/-- What is left of the characters behind a comment: a line break or the end, and then again no
document. -/
structure BehindComment (cs rest : List Char) : Prop where
  noDocument : NoDocument false rest
  atEnd : rest = [] ∨ ∃ t, rest = '\n' :: t
  length_le : rest.length ≤ cs.length

/-- From inside of a comment, the rest of its line is passed over. -/
theorem skipToBreak_at {fuel : Nat} (hfuel : cs.length ≤ fuel) (h : c.At cs) (hvoid : NoDocument true cs) :
    ∃ c' rest, skipToBreak fuel c = some ((), c') ∧ c'.At rest ∧ BehindComment cs rest := by
  induction fuel generalizing c cs with
  | zero =>
    obtain rfl : cs = [] := List.length_eq_zero_iff.mp (Nat.le_zero.mp hfuel)
    exact ⟨c, [], rfl, h, .done _, .inl rfl, Nat.le_refl _⟩
  | succ fuel ih =>
    obtain ⟨c₁, hpeek, h₁, -, hloaded⟩ := peek_at h
    rw [skipToBreak, bind_of_eq hpeek]
    cases hvoid with
    | done => exact ⟨c₁, [], rfl, h₁, .done _, .inl rfl, Nat.le_refl _⟩
    | newline _ hrest => exact ⟨c₁, _, rfl, h₁, .newline _ hrest, .inr ⟨_, rfl⟩, Nat.le_refl _⟩
    | text hprintable hrest =>
      obtain ⟨c₂, hskip, h₂, -⟩ := skip_at h₁ (hloaded (List.cons_ne_nil _ _))
      obtain ⟨c₃, rest, hloop, h₃, hbehind⟩ := ih (Nat.le_of_succ_le_succ hfuel) h₂ hrest
      refine ⟨c₃, rest, ?_, h₃, hbehind.noDocument, hbehind.atEnd, Nat.le_succ_of_le hbehind.length_le⟩
      rw [List.headD_cons, isBreakOrEnd_of_isPrintableAscii hprintable, Bool.not_false, if_pos rfl,
        bind_of_eq hskip, hloop]

/-- Looking for a comment leaves the cursor where it is, and what is found is a number sign behind blanks
and line breaks. -/
theorem commentAhead_at (allowed : Bool) (fuel k : Nat) (h : c.At cs) :
    ∃ r c', commentAhead allowed fuel k c = some (r, c') ∧ c'.At cs ∧ c'.index = c.index ∧
      ∀ n, r = some n → ∃ blanks rest, cs.drop k = blanks ++ '#' :: rest ∧ n = k + blanks.length ∧
        ∀ x ∈ blanks, isBlankChar x ∨ isPlainBreak x := by
  induction fuel generalizing c k with
  | zero => exact ⟨none, c, rfl, h, rfl, nofun⟩
  | succ fuel ih =>
    obtain ⟨c₁, hpeek, h₁, hindex, -⟩ := peekAt_at k h
    simp only [commentAhead, hpeek]
    cases hdrop : cs.drop k with
    | nil => exact ⟨none, c₁, by cases allowed <;> rfl, h₁, hindex, nofun⟩
    | cons x rest =>
      rw [List.headD_cons]
      split_ifs with hblank hsign
      · obtain ⟨r, c₂, hloop, h₂, hindex₂, hfound⟩ := ih (k + 1) h₁
        refine ⟨r, c₂, hloop, h₂, hindex₂.trans hindex, fun n hn => ?_⟩
        obtain ⟨blanks, rest', hrest, rfl, hblanks⟩ := hfound n hn
        have htail : cs.drop (k + 1) = rest := by
          rw [← List.drop_drop, hdrop, List.drop_one, List.tail_cons]
        refine ⟨x :: blanks, rest', ?_, by rw [List.length_cons]; omega, ?_⟩
        · rw [← htail, hrest, List.cons_append]
        · intro y hy
          cases hy with
          | head =>
            simp only [Bool.or_eq_true, Bool.and_eq_true] at hblank
            exact hblank.imp_right And.right
          | tail _ hy => exact hblanks y hy
      · refine ⟨some k, c₁, rfl, h₁, hindex, fun n hn => ⟨[], rest, ?_, ?_, nofun⟩⟩
        · rw [beq_iff_eq.mp hsign, List.nil_append]
        · rw [← Option.some.inj hn, List.length_nil, Nat.add_zero]
      · exact ⟨none, c₁, rfl, h₁, hindex, nofun⟩

/-- A space or a line feed is passed over. -/
theorem skipOver_at {x : Char} (hx : x = ' ' ∨ x = '\n') (h : c.At (x :: cs)) (hloaded : c.buffer ≠ []) :
    ∃ c', c'.At cs ∧ c'.index = c.index + 1 ∧
      ∀ next : Read Unit, (if isBreak x then do skipLine; next else do skip; next) c = next c' := by
  obtain rfl | rfl := hx
  · obtain ⟨c', hskip, h', hindex⟩ := skip_at h hloaded
    exact ⟨c', h', hindex, fun _ => bind_of_eq hskip⟩
  · obtain ⟨c', hskip, h', hindex⟩ := skipLine_at h
    exact ⟨c', h', hindex, fun _ => bind_of_eq hskip⟩

/-- Spaces and line feeds are passed over up to an index. -/
theorem skipTo_at {blanks : List Char} {fuel : Nat} (hfuel : blanks.length ≤ fuel)
    (hblanks : ∀ x ∈ blanks, x = ' ' ∨ x = '\n') (h : c.At (blanks ++ cs)) :
    ∃ c', skipTo (c.index + blanks.length) fuel c = some ((), c') ∧ c'.At cs := by
  induction fuel generalizing c blanks with
  | zero =>
    obtain rfl : blanks = [] := List.length_eq_zero_iff.mp (Nat.le_zero.mp hfuel)
    exact ⟨c, rfl, h⟩
  | succ fuel ih =>
    rw [skipTo, bind_of_eq (a := c) rfl]
    cases blanks with
    | nil =>
      refine ⟨c, ?_, h⟩
      rw [List.length_nil, Nat.add_zero, if_neg (Nat.lt_irrefl _)]
      rfl
    | cons x blanks =>
      rw [List.forall_mem_cons] at hblanks
      obtain ⟨c₁, hpeek, h₁, hindex, hloaded⟩ := peek_at h
      obtain ⟨c₂, h₂, hindex₂, hskip⟩ := skipOver_at hblanks.1 h₁ (hloaded (List.cons_ne_nil _ _))
      obtain ⟨c₃, hloop, h₃⟩ := ih (Nat.le_of_succ_le_succ hfuel) hblanks.2 h₂
      have hlt : c.index < c.index + (x :: blanks).length := Nat.lt_add_of_pos_right (Nat.succ_pos _)
      have htarget : c.index + (x :: blanks).length = c₂.index + blanks.length := by
        rw [hindex₂, hindex, List.length_cons]
        omega
      refine ⟨c₃, ?_, h₃⟩
      rw [if_pos hlt, bind_of_eq hpeek, List.cons_append, List.headD_cons, htarget]
      exact (hskip _).trans hloop

/-- From inside of a comment, this comment and those on the lines after it are passed over, up to a line
break or the end. -/
theorem skipComments_at {fuel : Nat} (hfuel : cs.length ≤ fuel) (h : c.At cs) (hvoid : NoDocument true cs) :
    ∃ c' rest, skipComments fuel c = some ((), c') ∧ c'.At rest ∧ BehindComment cs rest := by
  induction fuel generalizing c cs with
  | zero =>
    obtain rfl : cs = [] := List.length_eq_zero_iff.mp (Nat.le_zero.mp hfuel)
    exact ⟨c, [], rfl, h, .done _, .inl rfl, Nat.le_refl _⟩
  | succ fuel ih =>
    obtain ⟨c₁, line, hline, h₁, hbehind⟩ := skipToBreak_at (Nat.le_succ_of_le h.length_le) h hvoid
    obtain ⟨r, c₂, hahead, h₂, -, hfound⟩ := commentAhead_at true commentReach 0 h₁
    rw [skipComments, bind_of_eq (a := c.remaining + 1) rfl, bind_of_eq hline, bind_of_eq hahead]
    cases r with
    | none => exact ⟨c₂, line, rfl, h₂, hbehind⟩
    | some k =>
      obtain ⟨blanks, rest, hdrop, hk, hblanks⟩ := hfound k rfl
      obtain rfl : line = blanks ++ '#' :: rest := hdrop
      obtain rfl : k = blanks.length := hk.trans (Nat.zero_add _)
      have hspaces : ∀ x ∈ blanks, x = ' ' ∨ x = '\n' := fun x hx =>
        hbehind.noDocument.eq_space_or_newline (List.mem_append_left _ hx) (hblanks x hx)
      -- The line break before the next comment makes what is left shorter.
      have hshorter : ('#' :: rest).length < cs.length := by
        refine Nat.lt_of_lt_of_le ?_ hbehind.length_le
        rw [List.length_append]
        cases blanks with
        | nil => exact absurd hbehind.atEnd (by simp)
        | cons x blanks => exact Nat.lt_add_of_pos_left (Nat.succ_pos _)
      obtain ⟨c₃, hskip, h₃⟩ := skipTo_at (Nat.le_succ _) hspaces h₂
      obtain ⟨c₄, rest', hloop, h₄, hbehind'⟩ :=
        ih (Nat.le_of_lt_succ (Nat.lt_of_lt_of_le hshorter hfuel)) h₃ (hbehind.noDocument.drop hspaces).inComment
      refine ⟨c₄, rest', ?_, h₄, hbehind'.noDocument, hbehind'.atEnd,
        Nat.le_trans hbehind'.length_le (Nat.le_of_lt hshorter)⟩
      simp only
      rw [bind_of_eq (a := c₂) rfl, bind_of_eq hskip, hloop]

/-! ## The lexer -/

/-- Reading moves the cursor of the lexer and leaves everything else. -/
theorem reading_of_eq {α : Type} {r : Read α} {s : Lexer} {a : α} (h : r s.cursor = some (a, c)) :
    reading r s = some (a, { s with cursor := c }) := by
  simp only [reading, h]

/-- The step brings the cursor to the end of the stream. Of the rest of the lexer only whether keys may
start can change. -/
def RunsToEnd (step : Lex Unit) (s : Lexer) : Prop :=
  ∃ c' b, step s = some ((), { s with cursor := c', keyAllowed := b }) ∧ c'.At []

theorem RunsToEnd.after {α : Type} {first : Lex α} {step : α → Lex Unit} {s : Lexer} {a : α} {b : Bool}
    (hfirst : first s = some (a, { s with cursor := c, keyAllowed := b }))
    (h : RunsToEnd (step a) { s with cursor := c, keyAllowed := b }) : RunsToEnd (first >>= step) s := by
  obtain ⟨c', b', hstep, hat⟩ := h
  exact ⟨c', b', (bind_of_eq hfirst).trans hstep, hat⟩

theorem RunsToEnd.afterReading {α : Type} {r : Read α} {step : α → Lex Unit} {s : Lexer} {a : α}
    (hread : r s.cursor = some (a, c)) (h : RunsToEnd (step a) { s with cursor := c }) :
    RunsToEnd (reading r >>= step) s :=
  .after (reading_of_eq hread) h

/-- What a round on the way to the next token does once no space and no comment is ahead. -/
theorem passBreak_at {next : Lex Unit} {s : Lexer} {flowLevel : Nat} {rest : List Char}
    (h : s.cursor.At rest) (hrest : BehindComment cs rest)
    (hnext : ∀ {s' : Lexer} {t : List Char}, t.length < cs.length → s'.cursor.At t →
      NoDocument false t → RunsToEnd next s') :
    RunsToEnd (do
      if isBreak (← reading peek) then
        reading skipLine
        if flowLevel = 0 then allowKey true
        next) s := by
  obtain ⟨c₁, hpeek, h₁, -, -⟩ := peek_at h
  refine .afterReading hpeek ?_
  obtain ⟨hvoid, rfl | ⟨t, rfl⟩, hlength⟩ := hrest
  · exact ⟨c₁, s.keyAllowed, rfl, h₁⟩
  · obtain ⟨c₂, hskip, h₂, -⟩ := skipLine_at h₁
    cases hvoid with
    | newline _ hvoid =>
      rw [List.headD_cons, if_pos (by decide)]
      refine .afterReading hskip ?_
      split_ifs with hflow
      · exact .after (c := c₂) (b := true) rfl (hnext hlength h₂ hvoid)
      · exact hnext hlength h₂ hvoid

/-- Up to the next token everything is passed over, which is all there is. -/
theorem toNextToken_at {s : Lexer} {fuel : Nat} (hfuel : cs.length < fuel) (h : s.cursor.At cs)
    (hvoid : NoDocument false cs) : RunsToEnd (toNextToken fuel) s := by
  induction fuel generalizing s cs with
  | zero => exact absurd hfuel (Nat.not_lt_zero _)
  | succ fuel ih =>
    have hnext {s' : Lexer} {t : List Char} (ht : t.length < cs.length) (h' : s'.cursor.At t)
        (hvoid' : NoDocument false t) : RunsToEnd (toNextToken fuel) s' :=
      ih (Nat.lt_of_lt_of_le ht (Nat.le_of_lt_succ hfuel)) h' hvoid'
    obtain ⟨c₁, hneed, h₁, -, -⟩ := need_at 1 h
    obtain ⟨c₂, hpeek, h₂, -, hloaded⟩ := peek_at h₁
    rw [toNextToken]
    refine .afterReading hneed (.after rfl ?_)
    simp only [h₁.unmarked, Bool.and_false, Bool.false_eq_true, if_false]
    refine .afterReading hpeek (.after rfl ?_)
    cases hvoid with
    | done =>
      rw [if_neg (by simp [endMark]), if_neg (by decide)]
      exact passBreak_at h₂ ⟨.done _, .inl rfl, Nat.le_refl _⟩ hnext
    | newline _ hrest =>
      rw [List.headD_cons, if_neg (by simp), if_neg (by decide)]
      exact passBreak_at h₂ ⟨.newline _ hrest, .inr ⟨_, rfl⟩, Nat.le_refl _⟩ hnext
    | space hrest =>
      obtain ⟨c₃, hskip, h₃, -⟩ := skip_at h₂ (hloaded (List.cons_ne_nil _ _))
      rw [List.headD_cons, if_pos (by simp)]
      exact .afterReading hskip (hnext (Nat.lt_succ_self _) h₃ hrest)
    | sign hrest =>
      obtain ⟨c₃, rest, hskip, h₃, hbehind⟩ :=
        skipComments_at (Nat.le_succ_of_le h₂.length_le) h₂ (NoDocument.sign hrest).inComment
      have hcomments : (do skipComments (← fuelHere) : Read Unit) c₂ = some ((), c₃) := by
        rw [bind_of_eq (a := c₂.remaining + 1) rfl, hskip]
      rw [List.headD_cons, if_neg (by simp), if_pos (by decide)]
      exact .afterReading hcomments (passBreak_at h₃ hbehind hnext)

/-- Where no block is open and no key is waiting, the end of the stream adds its token only. -/
theorem endStream_of_fresh (c : Cursor) (b : Bool) :
    ∃ s, endStream { cursor := c, keyAllowed := b } = some ((), s) ∧
      s.tokens = #[.streamStart, .streamEnd] := by
  obtain ⟨c', hline⟩ : ∃ c', (modify fun s : Lexer =>
      if s.cursor.column = 0 then s
      else { s with cursor := { s.cursor with column := 0, line := s.cursor.line + 1 } } : Lex Unit)
        { cursor := c, keyAllowed := b } = some ((), { cursor := c', keyAllowed := b }) := by
    rcases Nat.decEq c.column 0 with hcolumn | hcolumn
    · exact ⟨_, congrArg (fun s => some ((), s)) (if_neg hcolumn)⟩
    · exact ⟨_, congrArg (fun s => some ((), s)) (if_pos hcolumn)⟩
  rw [endStream, bind_of_eq hline]
  exact ⟨_, rfl, rfl⟩

/-- The first round of the lexer ends the stream. -/
theorem lexNext_at (h : c.At cs) (hvoid : NoDocument false cs) :
    ∃ s, lexNext { cursor := c } = some ((), s) ∧ s.tokens = #[.streamStart, .streamEnd] := by
  obtain ⟨c₁, hneed, h₁, -, -⟩ := need_at 1 h
  obtain ⟨c₂, b, hnext, h₂⟩ :=
    toNextToken_at (s := { cursor := c₁ }) (Nat.lt_succ_of_le h₁.length_le) h₁ hvoid
  obtain ⟨c₃, hneed₃, h₃, -, -⟩ := need_at 4 h₂
  obtain ⟨c₄, hpeek, -, -, -⟩ := peek_at h₃
  have hhanded : (modify fun s : Lexer => { s with handedOut := s.availableCount } : Lex Unit)
      { cursor := c } = some ((), { cursor := c }) := rfl
  have hclose : closeBlocks c₂.column { cursor := c₂, keyAllowed := b } =
      some ((), { cursor := c₂, keyAllowed := b }) := rfl
  rw [lexNext, bind_of_eq hhanded, bind_of_eq (reading_of_eq hneed), bind_of_eq (a := { cursor := c₁ }) rfl,
    bind_of_eq hnext, bind_of_eq (a := { cursor := c₂, keyAllowed := b }) rfl, bind_of_eq hclose,
    bind_of_eq (reading_of_eq hneed₃), bind_of_eq (reading_of_eq hpeek), if_pos (by decide)]
  exact endStream_of_fresh c₄ b

/-! ## Documents -/

/-- The tokens of such a stream are those of its start and its end. -/
theorem tokens_of_noDocument {data : Bytes} (h : (Cursor.ofBytes data).At cs)
    (hvoid : NoDocument false cs) : tokens data = ⟨[.streamStart, .streamEnd], true⟩ := by
  obtain ⟨c₁, hneed, h₁, -, -⟩ := need_at 1 h
  obtain ⟨s, hnext, htokens⟩ := lexNext_at h₁ hvoid
  simp only [tokens, hneed, lexAll, hnext, htokens]
  rfl

/-- There is no value in such a stream, not even a null. -/
theorem toJson_of_noDocument {data : Bytes} (h : (Cursor.ofBytes data).At cs)
    (hvoid : NoDocument false cs) : toJson data = .error .malformed := by
  have hparse : Value.parse? data = none := by
    rw [Value.parse?, tokens_of_noDocument h hvoid]
    rfl
  rw [toJson, hparse]

end Golden.Yaml
