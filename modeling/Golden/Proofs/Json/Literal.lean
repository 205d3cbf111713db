import Golden.Json.Number
import Mathlib.Data.List.TakeWhile
import Mathlib.Tactic.SplitIfs

/-!
# Whole numbers as they are written

A number literal has up to three parts: whole part, fraction, exponent. One without the last two is a
string of digits, perhaps after a minus sign (`number?_digits`), and then its value as a decimal
number and as an integer of 64 bits are the same (`readInt64?_eq_filter_integer?`). With a fraction or
an exponent the value may still be a whole number, but no integer is read.
-/

namespace Golden.Json

/-- Is the literal written without a fraction and without an exponent? -/
def isPlain (literal : Bytes) : Bool := literal.all fun b => !(b == '.' || b == 'e' || b == 'E')

/-- A string of digits, not empty. -/
def IsDigits (s : Bytes) : Prop := s ≠ [] ∧ ∀ b ∈ s, isDigit b = true

theorem isPlain_append {s t : Bytes} : isPlain (s ++ t) = (isPlain s && isPlain t) := by
  rw [isPlain, List.all_append]
  rfl

/-! ## The parts of a literal -/

theorem digits1?_digits {s ds rest : Bytes} (h : digits1? s = some (ds, rest)) : IsDigits ds := by
  unfold digits1? at h
  split at h
  · cases h
  · rename_i hne
    obtain ⟨rfl, -⟩ := Prod.mk.inj (Option.some.inj h)
    refine ⟨by simpa using hne, ?_⟩
    intro b hb
    exact List.all_eq_true.1 List.all_takeWhile b hb

theorem wholePart?_digits {s ds rest : Bytes} (h : wholePart? s = some (ds, rest)) : IsDigits ds := by
  cases s with
  | nil => cases h
  | cons b s =>
    rw [wholePart?] at h
    by_cases hb : b = '0'
    · rw [if_pos hb] at h
      obtain ⟨rfl, -⟩ := Prod.mk.inj (Option.some.inj h)
      refine ⟨by simp, ?_⟩
      intro c hc
      rw [List.mem_singleton.1 hc, hb]
      decide
    · rw [if_neg hb] at h
      exact digits1?_digits h

theorem fraction?_not_plain {s f rest : Bytes} (h : fraction? s = some (f, rest)) :
    f = [] ∨ isPlain f = false := by
  cases s with
  | nil =>
    obtain ⟨rfl, -⟩ := Prod.mk.inj (Option.some.inj h)
    exact Or.inl rfl
  | cons b s =>
    rw [fraction?] at h
    by_cases hb : b = '.'
    · rw [if_pos hb] at h
      obtain ⟨⟨d, r⟩, -, hd⟩ := Option.map_eq_some_iff.1 h
      obtain ⟨rfl, -⟩ := Prod.mk.inj hd
      exact Or.inr (by simp [isPlain, hb])
    · rw [if_neg hb] at h
      obtain ⟨rfl, -⟩ := Prod.mk.inj (Option.some.inj h)
      exact Or.inl rfl

theorem exponent?_not_plain {s e rest : Bytes} (h : exponent? s = some (e, rest)) :
    e = [] ∨ isPlain e = false := by
  cases s with
  | nil =>
    obtain ⟨rfl, -⟩ := Prod.mk.inj (Option.some.inj h)
    exact Or.inl rfl
  | cons mark s =>
    rw [exponent?.eq_def] at h
    simp only at h
    split at h
    · rename_i hmark
      -- Whatever follows, the mark itself belongs to the exponent.
      have hmarked : ∀ t, isPlain (mark :: t) = false := by
        intro t
        have hcases : mark = Char.toUInt8 'e' ∨ mark = Char.toUInt8 'E' := by simpa using hmark
        rcases hcases with rfl | rfl
        · simp [isPlain]
        · simp [isPlain]
      cases s with
      | nil => cases h
      | cons sign s =>
        simp only at h
        split at h
        · obtain ⟨⟨d, r⟩, -, hd⟩ := Option.map_eq_some_iff.1 h
          obtain ⟨rfl, -⟩ := Prod.mk.inj hd
          exact Or.inr (hmarked _)
        · obtain ⟨⟨d, r⟩, -, hd⟩ := Option.map_eq_some_iff.1 h
          obtain ⟨rfl, -⟩ := Prod.mk.inj hd
          exact Or.inr (hmarked _)
    · obtain ⟨rfl, -⟩ := Prod.mk.inj (Option.some.inj h)
      exact Or.inl rfl

theorem unsigned?_digits {s t rest : Bytes} (h : unsigned? s = some (t, rest))
    (hplain : isPlain t = true) : IsDigits t := by
  simp only [unsigned?, bind, Option.bind_eq_some_iff, pure] at h
  obtain ⟨⟨w, s₁⟩, hw, ⟨f, s₂⟩, hf, ⟨e, s₃⟩, he, heq⟩ := h
  obtain ⟨rfl, -⟩ := Prod.mk.inj (Option.some.inj heq)
  rw [isPlain_append, isPlain_append, Bool.and_eq_true, Bool.and_eq_true] at hplain
  obtain ⟨⟨-, hplainf⟩, hplaine⟩ := hplain
  have hnof : f = [] := (fraction?_not_plain hf).resolve_right (by simp [hplainf])
  have hnoe : e = [] := (exponent?_not_plain he).resolve_right (by simp [hplaine])
  rw [hnof, hnoe, List.append_nil, List.append_nil]
  exact wholePart?_digits hw

/-- A plain literal is a string of digits, perhaps after a minus sign. -/
theorem number?_digits {s t rest : Bytes} (h : number? s = some (t, rest))
    (hplain : isPlain t = true) : ∃ ds, IsDigits ds ∧ (t = ds ∨ t = (0x2d : UInt8) :: ds) := by
  cases s with
  | nil => cases h
  | cons b s =>
    rw [number?] at h
    by_cases hb : b = '-'
    · rw [if_pos hb] at h
      obtain ⟨⟨ds, r⟩, hds, heq⟩ := Option.map_eq_some_iff.1 h
      obtain ⟨rfl, -⟩ := Prod.mk.inj heq
      refine ⟨ds, unsigned?_digits hds ?_, Or.inr (by rw [hb]; rfl)⟩
      simp only [isPlain, List.all_cons, Bool.and_eq_true] at hplain
      exact hplain.2
    · rw [if_neg hb] at h
      exact ⟨t, unsigned?_digits h hplain, Or.inl rfl⟩

/-! ## Literals of a document -/

theorem word?_eq_some {w s r : Bytes} {u v : Json} (h : word? w u s = some (v, r)) : v = u := by
  unfold word? at h
  split at h
  · exact (Prod.mk.inj (Option.some.inj h)).1.symm
  · cases h

/-- How a value is read, as far as numbers and objects go. -/
inductive ReadAs (s r : Bytes) : Json → Prop
  | number {t} (h : number? s = some (t, r)) : ReadAs s r (.number t)
  | members {fuel depth start ms} (h : members? fuel depth start = some (ms, r)) :
      ReadAs s r (.object ms)
  | noMembers : ReadAs s r (.object [])
  | null : ReadAs s r .null
  | bool (b) : ReadAs s r (.bool b)
  | string (t) : ReadAs s r (.string t)
  | array (items) : ReadAs s r (.array items)

theorem value?_readAs {fuel depth : Nat} {s r : Bytes} {v : Json}
    (h : value? fuel depth s = some (v, r)) : ReadAs s r v := by
  cases fuel with
  | zero => simp [value?] at h
  | succ fuel =>
    cases s with
    | nil => simp [value?] at h
    | cons b s =>
      rw [value?] at h
      -- One case for each first byte, in the order in which they are tried.
      split_ifs at h
      · obtain ⟨⟨t, r⟩, -, heq⟩ := Option.map_eq_some_iff.1 h
        obtain ⟨rfl, rfl⟩ := Prod.mk.inj heq
        exact .string t
      · rw [word?_eq_some h]
        exact .bool true
      · rw [word?_eq_some h]
        exact .bool false
      · rw [word?_eq_some h]
        exact .null
      · split at h
        · cases h
        · split_ifs at h
          · obtain ⟨rfl, -⟩ := Prod.mk.inj (Option.some.inj h)
            exact .array []
          · obtain ⟨⟨items, r⟩, -, heq⟩ := Option.map_eq_some_iff.1 h
            obtain ⟨rfl, rfl⟩ := Prod.mk.inj heq
            exact .array items
      · split at h
        · cases h
        · split_ifs at h
          · obtain ⟨rfl, -⟩ := Prod.mk.inj (Option.some.inj h)
            exact .noMembers
          · obtain ⟨⟨ms, r⟩, hms, heq⟩ := Option.map_eq_some_iff.1 h
            obtain ⟨rfl, rfl⟩ := Prod.mk.inj heq
            exact .members hms
      · obtain ⟨⟨t, r⟩, ht, heq⟩ := Option.map_eq_some_iff.1 h
        obtain ⟨rfl, rfl⟩ := Prod.mk.inj heq
        exact .number ht

/-- Members are read one by one: the first has a value that was read, and the others follow. -/
theorem members?_eq_some {fuel depth : Nat} {s r : Bytes} {ms : List (Bytes × Json)}
    (h : members? (fuel + 1) depth s = some (ms, r)) :
    ∃ key v rest, ms = (key, v) :: rest
      ∧ (∃ s₁ r₁, value? fuel depth s₁ = some (v, r₁))
      ∧ (rest = [] ∨ ∃ s₂, members? fuel depth s₂ = some (rest, r)) := by
  cases s with
  | nil => simp [members?] at h
  | cons q s =>
    rw [members?] at h
    -- Whatever is missing ends the reading; what is left is a brace or a comma behind the value.
    split at h
    case isFalse => cases h
    split at h
    case h_1 => cases h
    rename_i key _ _
    split at h
    case h_1 => cases h
    split at h
    case isFalse => cases h
    split at h
    case h_1 => cases h
    rename_i v _ hv
    split at h
    case h_1 => cases h
    split_ifs at h
    · obtain ⟨rfl, rfl⟩ := Prod.mk.inj (Option.some.inj h)
      exact ⟨key, v, [], rfl, ⟨_, _, hv⟩, Or.inl rfl⟩
    · obtain ⟨⟨rest, r⟩, hrest, heq⟩ := Option.map_eq_some_iff.1 h
      obtain ⟨rfl, rfl⟩ := Prod.mk.inj heq
      exact ⟨key, v, rest, rfl, ⟨_, _, hv⟩, Or.inr ⟨_, hrest⟩⟩

/-- A text that is read as a number. -/
def IsLiteral (t : Bytes) : Prop := ∃ s r, number? s = some (t, r)

theorem members?_literal {fuel depth : Nat} {s r : Bytes} {ms : List (Bytes × Json)}
    (h : members? fuel depth s = some (ms, r)) :
    ∀ {key t}, (key, Json.number t) ∈ ms → IsLiteral t := by
  induction fuel generalizing s ms with
  | zero => simp [members?] at h
  | succ fuel ih =>
    intro key t hmem
    obtain ⟨key₁, v, rest, rfl, ⟨s₁, r₁, hv⟩, hrest⟩ := members?_eq_some h
    rcases List.mem_cons.1 hmem with heq | hmem
    · obtain ⟨rfl, rfl⟩ := Prod.mk.inj heq
      cases value?_readAs hv with
      | number ht => exact ⟨s₁, r₁, ht⟩
    · rcases hrest with rfl | ⟨s₂, hms⟩
      · cases hmem
      · exact ih hms hmem

/-- The numbers among the members of a document are written as such. -/
theorem parse?_literal {data key t : Bytes} {ms : List (Bytes × Json)}
    (hdoc : parse? data = some (.object ms)) (hmem : (key, Json.number t) ∈ ms) : IsLiteral t := by
  unfold parse? at hdoc
  split at hdoc
  · rename_i v r hv
    split_ifs at hdoc
    obtain rfl := Option.some.inj hdoc
    cases value?_readAs hv with
    | members hms => exact members?_literal hms hmem
    | noMembers => cases hmem
  · cases hdoc

/-! ## Values -/

theorem readDecimal?_eq_some {s : Bytes} {n : Nat} (h : readDecimal? s = some n) : IsDigits s := by
  unfold readDecimal? at h
  split at h
  · cases h
  · rename_i hs
    simp only [Bool.or_eq_true, not_or, Bool.not_eq_true, List.isEmpty_eq_false_iff,
      Bool.not_eq_false', List.all_eq_true] at hs
    exact hs

theorem IsDigits.readDecimal? {ds : Bytes} (h : IsDigits ds) :
    Golden.readDecimal? ds = some (digitsValue ds) := by
  have hread : ∃ n, Golden.readDecimal? ds = some n := by
    unfold Golden.readDecimal?
    rw [if_neg (by simpa [IsDigits] using h)]
    exact ⟨_, rfl⟩
  obtain ⟨n, hn⟩ := hread
  rw [digitsValue, hn]
  rfl

theorem isDigit_ne {b : UInt8} (h : isDigit b = true) :
    ((b ≠ '.' ∧ b ≠ 'e') ∧ b ≠ 'E') ∧ b ≠ '-' ∧ b ≠ '+' := by
  refine ⟨⟨⟨?_, ?_⟩, ?_⟩, ?_, ?_⟩ <;>
  · rintro rfl
    exact absurd h (by decide)

theorem IsDigits.isPlain {ds : Bytes} (h : IsDigits ds) : Json.isPlain ds = true := by
  rw [Json.isPlain, List.all_eq_true]
  intro b hb
  simpa using (isDigit_ne (h.2 b hb)).1

/-- Digits have no exponent and no fraction to divide off. -/
theorem IsDigits.undivided {ds : Bytes} (h : IsDigits ds) :
    ds.takeWhile (fun b : UInt8 => !(b == 'e' || b == 'E')) = ds
      ∧ ds.dropWhile (fun b : UInt8 => !(b == 'e' || b == 'E')) = []
      ∧ Bytes.cut '.' ds = (ds, none) := by
  have hmark : ∀ b ∈ ds, (!(b == 'e' || b == 'E')) = true := by
    intro b hb
    obtain ⟨⟨⟨-, he⟩, hE⟩, -⟩ := isDigit_ne (h.2 b hb)
    simp [he, hE]
  refine ⟨List.takeWhile_eq_self_iff.2 hmark, List.dropWhile_eq_nil_iff.2 hmark, ?_⟩
  apply Bytes.cut_of_not_mem
  intro hdot
  exact (isDigit_ne (h.2 _ hdot)).1.1.1 rfl

theorem Decimal.ofLiteral_digits {ds : Bytes} (h : IsDigits ds) :
    Decimal.ofLiteral ds = ⟨false, digitsValue ds, 0⟩ := by
  obtain ⟨htake, hdrop, hcut⟩ := h.undivided
  have hhead : (ds.head? == some 0x2d) = false := by
    cases ds with
    | nil => rfl
    | cons b ds =>
      have hminus : b ≠ 0x2d := (isDigit_ne (h.2 b (by simp))).2.1
      simpa using hminus
  simp only [Decimal.ofLiteral, hhead, Bool.false_eq_true, if_false, htake, hdrop, hcut]
  simp [signedValue]

theorem Decimal.ofLiteral_minus {ds : Bytes} (h : IsDigits ds) :
    Decimal.ofLiteral (0x2d :: ds) = ⟨true, digitsValue ds, 0⟩ := by
  obtain ⟨htake, hdrop, hcut⟩ := h.undivided
  simp only [Decimal.ofLiteral, List.head?_cons, beq_self_eq_true, if_true, List.drop_one,
    List.tail_cons, htake, hdrop, hcut]
  simp [signedValue]

theorem Decimal.integer?_whole (negative : Bool) (n : Nat) :
    (⟨negative, n, 0⟩ : Decimal).integer? = some (if negative then -(n : Int) else n) := by
  simp [Decimal.integer?]

theorem readInt64?_digits {ds : Bytes} (h : IsDigits ds) :
    readInt64? ds = Option.guard (fitsInt64 ·) (digitsValue ds : Int) := by
  cases ds with
  | nil => exact absurd rfl h.1
  | cons b ds =>
    obtain ⟨-, hminus, hplus⟩ := isDigit_ne (h.2 b (by simp))
    simp [readInt64?, hminus, hplus, h.readDecimal?, Option.guard]

theorem readInt64?_minus {ds : Bytes} (h : IsDigits ds) :
    readInt64? (0x2d :: ds) = Option.guard (fitsInt64 ·) (-(digitsValue ds : Int)) := by
  have hsign : (0x2d : UInt8) = '-' := rfl
  simp [readInt64?, hsign, h.readDecimal?, Option.guard]

/-- A plain literal is read as its value, if that has 64 bits. -/
theorem IsLiteral.readInt64?_eq {t : Bytes} (h : IsLiteral t) (hplain : isPlain t = true) :
    readInt64? t = (Decimal.ofLiteral t).integer?.filter (fitsInt64 ·) := by
  obtain ⟨s, rest, hnumber⟩ := h
  obtain ⟨ds, hds, rfl | rfl⟩ := number?_digits hnumber hplain
  -- Neither reader changes the digits, and both look at the sign in the same way.
  · rw [readInt64?_digits hds, Decimal.ofLiteral_digits hds, Decimal.integer?_whole]
    rfl
  · rw [readInt64?_minus hds, Decimal.ofLiteral_minus hds, Decimal.integer?_whole]
    rfl

theorem readInt64?_eq_some {t : Bytes} {i : Int} (h : readInt64? t = some i) :
    ∃ sign ds, t = sign ++ ds ∧ isPlain sign = true ∧ IsDigits ds := by
  unfold readInt64? at h
  split at h
  rename_i negative ds hsplit
  have hds : IsDigits ds := by
    split at h
    · cases h
    · rename_i n hn
      exact readDecimal?_eq_some hn
  cases t with
  | nil => exact ⟨[], ds, (Prod.mk.inj hsplit).2, rfl, hds⟩
  | cons b rest =>
    by_cases hminus : b = '-'
    · simp only [if_pos hminus] at hsplit
      obtain ⟨-, rfl⟩ := Prod.mk.inj hsplit
      exact ⟨[b], rest, rfl, by rw [hminus]; rfl, hds⟩
    by_cases hplus : b = '+'
    · simp only [if_neg hminus, if_pos hplus] at hsplit
      obtain ⟨-, rfl⟩ := Prod.mk.inj hsplit
      exact ⟨[b], rest, rfl, by rw [hplus]; rfl, hds⟩
    · simp only [if_neg hminus, if_neg hplus] at hsplit
      obtain ⟨-, rfl⟩ := Prod.mk.inj hsplit
      exact ⟨[], b :: rest, rfl, rfl, hds⟩

/-- Only plain literals are read as integers. -/
theorem isPlain_of_readInt64? {t : Bytes} {i : Int} (h : readInt64? t = some i) :
    isPlain t = true := by
  obtain ⟨sign, ds, rfl, hsign, hds⟩ := readInt64?_eq_some h
  rw [isPlain_append, hsign, hds.isPlain]
  rfl

end Golden.Json
