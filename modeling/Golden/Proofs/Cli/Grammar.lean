import Golden.Cli.Flags
import Golden.Proofs.Text.Words
import Mathlib.Logic.Basic

/-!
# The grammar of the command line

`Spells` says which items an argument list is made of, without saying how to find them. Every list is
made of items in exactly one way, the way `Item.read` finds (`spells_read`, `Spells.read_eq`). Which
lists are accepted and what the flags then are is said of the items alone: `Accepted` and `meaning`
look at the last value of a flag, the first word, and whether a switch occurs, in no order of their
own.
-/

namespace Golden

namespace Cli

/-! ## Spellings -/

/-- The ways to write a switch. -/
def Switch.spellings : Switch → List Bytes
  | .strict => ["--strict"]
  | .lenient => ["--lenient"]
  | .quiet => ["-q", "--quiet"]
  | .verbose => ["-v", "--verbose"]
  | .noColor => ["--no-color"]

/-- The names of a flag with a value. -/
def ValueFlag.names : ValueFlag → List Bytes
  | .extension => ["--ext"]
  | .input => ["--input"]
  | .jobs => ["-j", "--jobs"]
  | .timeout => ["--timeout"]
  | .runner => ["--runner"]
  | .config => ["--config"]
  | .incomplete => ["--incomplete"]

/-- An argument that no other kind of item starts with. -/
structure IsWord (w : Bytes) : Prop where
  notSwitch : ∀ s : Switch, w ∉ s.spellings
  notFlag : ∀ f : ValueFlag, w ∉ f.names
  notFlagWithValue : ∀ f : ValueFlag, ∀ name ∈ f.names, ∀ v, w ≠ name ++ ('=' : UInt8) :: v
  notSeparator : w ≠ separator

/-- The argument list is made of these items. -/
inductive Spells : List Bytes → List Item → Prop
  | nil : Spells [] []
  | switch {s : Switch} {arg : Bytes} {args : List Bytes} {items : List Item}
      (spelled : arg ∈ s.spellings) (tail : Spells args items) :
      Spells (arg :: args) (.switch s :: items)
  | joined {f : ValueFlag} {name v : Bytes} {args : List Bytes} {items : List Item}
      (named : name ∈ f.names) (tail : Spells args items) :
      Spells ((name ++ ('=' : UInt8) :: v) :: args) (.value f name (some v) :: items)
  /-- The value is the next argument, whatever that looks like. -/
  | apart {f : ValueFlag} {name v : Bytes} {args : List Bytes} {items : List Item}
      (named : name ∈ f.names) (tail : Spells args items) :
      Spells (name :: v :: args) (.value f name (some v) :: items)
  | lacking {f : ValueFlag} {name : Bytes} (named : name ∈ f.names) :
      Spells [name] [.value f name none]
  | word {w : Bytes} {args : List Bytes} {items : List Item} (isWord : IsWord w)
      (tail : Spells args items) : Spells (w :: args) (.word w :: items)
  | rest {args : List Bytes} : Spells (separator :: args) [.rest args]

/-! ## The items of a list -/

theorem Switch.ofArg?_spelling (s : Switch) : ∀ arg ∈ s.spellings, ofArg? arg = some s := by
  cases s <;> decide

theorem Switch.mem_spellings {arg : Bytes} {s : Switch} (h : ofArg? arg = some s) :
    arg ∈ s.spellings := by
  unfold ofArg? at h
  split_ifs at h <;> cases h <;> simp_all [spellings]

theorem Switch.equalSign_not_mem (s : Switch) : ∀ arg ∈ s.spellings, ('=' : UInt8) ∉ arg := by
  cases s <;> decide

theorem ValueFlag.ofName?_name (f : ValueFlag) : ∀ name ∈ f.names, ofName? name = some f := by
  cases f <;> decide

theorem ValueFlag.mem_names {name : Bytes} {f : ValueFlag} (h : ofName? name = some f) :
    name ∈ f.names := by
  unfold ofName? at h
  split_ifs at h <;> cases h <;> simp_all [names]

theorem ValueFlag.equalSign_not_mem (f : ValueFlag) : ∀ name ∈ f.names, ('=' : UInt8) ∉ name := by
  cases f <;> decide

theorem ValueFlag.not_switch (f : ValueFlag) : ∀ name ∈ f.names, Switch.ofArg? name = none := by
  cases f <;> decide

/-- A flag joined to its value is no switch, since no switch holds an equal sign. -/
theorem Switch.ofArg?_joined (name v : Bytes) : ofArg? (name ++ ('=' : UInt8) :: v) = none := by
  cases h : ofArg? (name ++ ('=' : UInt8) :: v) with
  | none => rfl
  | some s => exact absurd (by simp) (s.equalSign_not_mem _ (mem_spellings h))

theorem IsWord.not_switch {w : Bytes} (h : IsWord w) : Switch.ofArg? w = none := by
  cases hs : Switch.ofArg? w with
  | none => rfl
  | some s => exact absurd (Switch.mem_spellings hs) (h.notSwitch s)

/-- A word is what is neither a switch nor, up to its first equal sign, the name of a flag, nor the
separator. -/
theorem isWord_iff {w : Bytes} :
    IsWord w ↔ Switch.ofArg? w = none ∧ ValueFlag.ofName? (Bytes.cut '=' w).1 = none ∧
      w ≠ separator := by
  constructor
  · intro h
    refine ⟨?_, ?_, h.notSeparator⟩
    · cases hs : Switch.ofArg? w with
      | none => rfl
      | some s => exact absurd (Switch.mem_spellings hs) (h.notSwitch s)
    · cases hf : ValueFlag.ofName? (Bytes.cut '=' w).1 with
      | none => rfl
      | some f =>
        have hname := ValueFlag.mem_names hf
        rcases hcut : Bytes.cut '=' w with ⟨name, v⟩
        rw [hcut] at hname
        cases v with
        | none => exact absurd (Bytes.eq_of_cut_none hcut ▸ hname) (h.notFlag f)
        | some v => exact absurd (Bytes.eq_of_cut_some hcut) (h.notFlagWithValue f name hname v)
  · rintro ⟨hs, hf, hsep⟩
    refine ⟨fun s hmem => ?_, fun f hmem => ?_, fun f name hmem v hw => ?_, hsep⟩
    · rw [s.ofArg?_spelling w hmem] at hs
      cases hs
    · rw [Bytes.cut_of_not_mem (f.equalSign_not_mem w hmem), f.ofName?_name w hmem] at hf
      cases hf
    · rw [hw, Bytes.cut_append_cons (f.equalSign_not_mem name hmem), f.ofName?_name name hmem] at hf
      cases hf

/-- The items of a list can only be those that are read. -/
theorem Spells.read_eq {args : List Bytes} {items : List Item} (h : Spells args items) :
    Item.read args = items := by
  induction h with
  | nil => rfl
  | @switch s arg args items spelled _ ih =>
    rw [Item.read, s.ofArg?_spelling arg spelled, ih]
  | @joined f name v args items named _ ih =>
    simp only [Item.read, Switch.ofArg?_joined,
      Bytes.cut_append_cons (f.equalSign_not_mem name named), f.ofName?_name name named, ih]
  | @apart f name v args items named _ ih =>
    simp only [Item.read, f.not_switch name named,
      Bytes.cut_of_not_mem (f.equalSign_not_mem name named), f.ofName?_name name named, ih]
  | @lacking f name named =>
    simp only [Item.read, f.not_switch name named,
      Bytes.cut_of_not_mem (f.equalSign_not_mem name named), f.ofName?_name name named]
  | @word w args items isWord _ ih =>
    obtain ⟨hs, hf, hsep⟩ := isWord_iff.mp isWord
    simp only [Item.read, hs, hf, if_neg hsep, ih]
  | rest => rfl

/-- The items that are read spell the list. -/
theorem spells_read (args : List Bytes) : Spells args (Item.read args) := by
  fun_induction Item.read args with
  | case1 => exact .nil
  | case2 arg args s hs ih => exact .switch (Switch.mem_spellings hs) ih
  | case3 arg args _ name f v hf hcut ih =>
    rw [Bytes.eq_of_cut_some hcut]
    exact .joined (ValueFlag.mem_names hf) ih
  | case4 arg _ name f hf hcut =>
    rw [Bytes.eq_of_cut_none hcut]
    exact .lacking (ValueFlag.mem_names hf)
  | case5 arg _ name f hf v args hcut ih =>
    rw [Bytes.eq_of_cut_none hcut]
    exact .apart (ValueFlag.mem_names hf) ih
  | case6 => exact .rest
  | case7 arg args hs name v hcut hf hsep ih =>
    refine .word (isWord_iff.mpr ⟨hs, ?_, hsep⟩) ih
    rw [hcut]
    exact hf

/-! ## What the items mean -/

/-- The word that an item is. -/
@[simp] def Item.word? : Item → Option Bytes
  | .word w => some w
  | _ => none

/-- The value that an item gives to a flag, under any of its names. -/
@[simp] def Item.valueOf? (f : ValueFlag) : Item → Option Bytes
  | .value g _ v => if g = f then v else none
  | _ => none

/-- The mode that an item asks for. -/
@[simp] def Item.mode? : Item → Option Bytes
  | .switch .strict => some Config.strict
  | .switch .lenient => some Config.lenient
  | _ => none

/-- What an item passes on as it is. -/
@[simp] def Item.verbatim : Item → List Bytes
  | .rest args => args
  | _ => []

/-- The words, in order. -/
def wordsOf (items : List Item) : List Bytes := items.filterMap Item.word?

/-- The values given to a flag, in order. -/
def valuesOf (f : ValueFlag) (items : List Item) : List Bytes := items.filterMap (Item.valueOf? f)

/-- The modes asked for, in order. -/
def modesOf (items : List Item) : List Bytes := items.filterMap Item.mode?

/-- The words to pass on when the directory is known, or else is still to come. -/
def laterWords (directory : Option Bytes) (words : List Bytes) : List Bytes :=
  match directory with
  | none => words.tail
  | some _ => words

/-- What the items ask for, given what has been asked for before them. -/
def meaning (before : Flags) (items : List Item) : Flags where
  mode := (modesOf items).getLast?.getD before.mode
  extension := (valuesOf .extension items).getLast?.getD before.extension
  inputMode := (valuesOf .input items).getLast?.getD before.inputMode
  jobs := (valuesOf .jobs items).getLast?.getD before.jobs
  timeout := (valuesOf .timeout items).getLast?.getD before.timeout
  runner := ((valuesOf .runner items).getLast?.map fields).or before.runner
  configPath := (valuesOf .config items).getLast?.getD before.configPath
  incomplete := (valuesOf .incomplete items).getLast?.getD before.incomplete
  quiet := before.quiet || decide (.switch .quiet ∈ items)
  verbose := before.verbose || decide (.switch .verbose ∈ items)
  noColor := before.noColor || decide (.switch .noColor ∈ items)
  directory := before.directory.or (wordsOf items).head?
  extraArgs := before.extraArgs ++ (laterWords before.directory (wordsOf items)).flatMap fields
    ++ items.flatMap Item.verbatim

/-- The first word does not look like a flag. -/
def StartsPlainly (words : List Bytes) : Prop :=
  ∀ w ∈ words.head?, w.head? = some ('-' : UInt8) → w = utf8 "-"

/-- Every flag that takes a value has one, and not an empty one. -/
def AllValued (items : List Item) : Prop :=
  ∀ f name v, Item.value f name v ∈ items → ∃ b bs, v = some (b :: bs)

/-- The items are free of mistakes. -/
structure Accepted (items : List Item) : Prop where
  valued : AllValued items
  directory : StartsPlainly (wordsOf items)
  verbosity : ¬(Item.switch .quiet ∈ items ∧ Item.switch .verbose ∈ items)
  /-- The last command holds more than white space. -/
  runner : ∀ v ∈ (valuesOf .runner items).getLast?, isBlank v = false

/-! ## One item at a time -/

theorem filterMap_cons_toList {α β : Type} (f : α → Option β) (a : α) (l : List α) :
    (a :: l).filterMap f = (f a).toList ++ l.filterMap f := by
  rw [List.filterMap_cons]
  cases f a <;> rfl

@[simp] theorem wordsOf_nil : wordsOf [] = [] := rfl

@[simp] theorem wordsOf_cons (i : Item) (items : List Item) :
    wordsOf (i :: items) = i.word?.toList ++ wordsOf items := filterMap_cons_toList ..

@[simp] theorem valuesOf_nil (f : ValueFlag) : valuesOf f [] = [] := rfl

@[simp] theorem valuesOf_cons (f : ValueFlag) (i : Item) (items : List Item) :
    valuesOf f (i :: items) = (i.valueOf? f).toList ++ valuesOf f items := filterMap_cons_toList ..

@[simp] theorem modesOf_nil : modesOf [] = [] := rfl

@[simp] theorem modesOf_cons (i : Item) (items : List Item) :
    modesOf (i :: items) = i.mode?.toList ++ modesOf items := filterMap_cons_toList ..

@[simp] theorem laterWords_nil (directory : Option Bytes) : laterWords directory [] = [] := by
  cases directory <;> rfl

theorem meaning_nil (o : Flags) : meaning o [] = o := by
  simp [meaning]

theorem meaning_switch (s : Switch) (items : List Item) (o : Flags) :
    meaning o (.switch s :: items) = meaning (o.switch s) items := by
  cases s <;> simp [meaning, Flags.switch, List.getLast?_cons]

theorem meaning_value (f : ValueFlag) (name v : Bytes) (items : List Item) (o : Flags) :
    meaning o (.value f name (some v) :: items) = meaning (o.set v f) items := by
  cases f <;> simp [meaning, Flags.set, List.getLast?_cons]

theorem meaning_first_word {w : Bytes} {items : List Item} {o : Flags} (h : o.directory = none) :
    meaning o (.word w :: items) = meaning { o with directory := some w } items := by
  simp [meaning, h, laterWords]

theorem meaning_later_word {w dir : Bytes} {items : List Item} {o : Flags}
    (h : o.directory = some dir) :
    meaning o (.word w :: items) = meaning { o with extraArgs := o.extraArgs ++ fields w } items := by
  simp [meaning, h, laterWords]

theorem meaning_rest (args : List Bytes) (o : Flags) :
    meaning o [.rest args] = { o with extraArgs := o.extraArgs ++ args } := by
  simp [meaning]

/-! ## All items -/

/-- No item is refused after what has been asked for before. -/
def Passes (o : Flags) (items : List Item) : Prop :=
  AllValued items ∧ (o.directory = none → StartsPlainly (wordsOf items))

theorem allValued_cons_value {f : ValueFlag} {name : Bytes} {v : Option Bytes} {items : List Item} :
    AllValued (.value f name v :: items) ↔ (∃ b bs, v = some (b :: bs)) ∧ AllValued items := by
  unfold AllValued
  constructor
  · intro h
    exact ⟨h f name v (by simp), fun f name v hmem => h f name v (by simp [hmem])⟩
  · rintro ⟨hv, h⟩ f' name' v' hmem
    rcases List.mem_cons.mp hmem with heq | hmem
    · cases heq
      exact hv
    · exact h f' name' v' hmem

theorem allValued_cons {i : Item} {items : List Item} (hi : ∀ f name v, i ≠ .value f name v) :
    AllValued (i :: items) ↔ AllValued items := by
  refine forall₃_congr fun f name v => ?_
  simp [Ne.symm (hi f name v)]

theorem looksLikeFlag_eq_false_iff {w : Bytes} :
    Flags.looksLikeFlag w = false ↔ (w.head? = some ('-' : UInt8) → w = utf8 "-") := by
  have hstarts : Bytes.startsWith "-" w = true ↔ w.head? = some ('-' : UInt8) := by
    cases w with
    | nil => decide
    | cons b w =>
      rw [Bytes.startsWith, List.isPrefixOf_iff_prefix, List.head?_cons, Option.some_inj]
      show ['-'.toUInt8] <+: b :: w ↔ _
      simp [List.cons_prefix_cons, eq_comm]
  rw [Flags.looksLikeFlag, Bool.and_eq_false_iff, ← Bool.not_eq_true, hstarts, bne_eq_false_iff_eq]
  exact imp_iff_not_or.symm

theorem passes_switch {s : Switch} {items : List Item} {o : Flags} :
    Passes o (.switch s :: items) ↔ Passes (o.switch s) items := by
  have hdir : (o.switch s).directory = o.directory := by cases s <;> rfl
  rw [Passes, Passes, hdir, allValued_cons (by simp)]
  rfl

theorem passes_value {f : ValueFlag} {name : Bytes} {b : UInt8} {bs : Bytes} {items : List Item}
    {o : Flags} :
    Passes o (.value f name (some (b :: bs)) :: items) ↔ Passes (o.set (b :: bs) f) items := by
  have hdir : (o.set (b :: bs) f).directory = o.directory := by cases f <;> rfl
  rw [Passes, Passes, hdir, allValued_cons_value]
  simp

theorem passes_first_word {w : Bytes} {items : List Item} {o : Flags} (h : o.directory = none) :
    Passes o (.word w :: items) ↔
      Flags.looksLikeFlag w = false ∧ Passes { o with directory := some w } items := by
  rw [Passes, Passes, looksLikeFlag_eq_false_iff, allValued_cons (by simp)]
  simp [h, StartsPlainly, and_comm]

theorem passes_later_word {w dir : Bytes} {items : List Item} {o : Flags}
    (h : o.directory = some dir) :
    Passes o (.word w :: items) ↔ Passes { o with extraArgs := o.extraArgs ++ fields w } items := by
  rw [Passes, Passes, allValued_cons (by simp)]
  simp [h]

theorem passes_rest (args : List Bytes) (o : Flags) : Passes o [.rest args] := by
  simp [Passes, AllValued, StartsPlainly]

/-- Adding the items of a list up, from any flags, gives what they mean. The separator can only be the
last item, so the words all come before what follows it. -/
theorem Spells.addAll_eq_ok_iff {args : List Bytes} {items : List Item} (h : Spells args items)
    (o o' : Flags) : o.addAll items = .ok o' ↔ Passes o items ∧ o' = meaning o items := by
  have value {f : ValueFlag} {name v : Bytes} {items : List Item} {o : Flags}
      (ih : ∀ o : Flags, o.addAll items = .ok o' ↔ Passes o items ∧ o' = meaning o items) :
      o.addAll (.value f name (some v) :: items) = .ok o' ↔
        Passes o (.value f name (some v) :: items) ∧
          o' = meaning o (.value f name (some v) :: items) := by
    cases v with
    | nil => simp [Flags.addAll, Flags.add, Passes, allValued_cons_value]
    | cons b bs =>
      rw [passes_value, meaning_value]
      exact ih (o.set (b :: bs) f)
  induction h generalizing o with
  | nil => simp [Flags.addAll, Passes, AllValued, StartsPlainly, meaning_nil, eq_comm]
  | @switch s _ _ _ _ _ ih =>
    rw [passes_switch, meaning_switch]
    exact ih (o.switch s)
  | joined _ _ ih => exact value ih
  | apart _ _ ih => exact value ih
  | lacking => simp [Flags.addAll, Flags.add, Passes, allValued_cons_value]
  | @word w args items _ _ ih =>
    cases hdir : o.directory with
    | none =>
      rw [passes_first_word hdir, meaning_first_word hdir, and_assoc, Flags.addAll, Flags.add, hdir]
      cases hflag : Flags.looksLikeFlag w with
      | false => simpa using ih { o with directory := some w }
      | true => simp
    | some dir =>
      rw [passes_later_word hdir, meaning_later_word hdir, Flags.addAll, Flags.add, hdir]
      exact ih { o with directory := some dir, extraArgs := o.extraArgs ++ fields w }
  | @rest args =>
    rw [meaning_rest, and_iff_right (passes_rest args o), eq_comm]
    simp [Flags.addAll, Flags.add]

/-- Flags pass the last checks iff the output is not asked to be both more and less and a command that
is given has words. -/
theorem check_eq_ok_iff {o o' : Flags} :
    o.check = .ok o' ↔ ¬(o.quiet = true ∧ o.verbose = true) ∧ o.runner ≠ some [] ∧ o' = o := by
  rw [← Bool.and_eq_true, Flags.check]
  split_ifs with hboth hrunner
  · simp [hboth]
  · simp [hrunner]
  · simp [hboth, hrunner, eq_comm]

theorem parse_eq_ok_iff {args : List Bytes} {o : Flags} :
    Flags.parse args = .ok o ↔ Flags.addAll {} (Item.read args) = .ok o ∧ o.check = .ok o := by
  unfold Flags.parse
  cases hall : Flags.addAll {} (Item.read args) with
  | error e => simp
  | ok o' =>
    rw [Except.ok.injEq]
    constructor
    · intro h
      obtain ⟨-, -, rfl⟩ := check_eq_ok_iff.mp h
      exact ⟨rfl, h⟩
    · rintro ⟨rfl, h⟩
      exact h

theorem runner_ne_nil_iff {items : List Item} :
    (meaning {} items).runner ≠ some [] ↔
      ∀ v ∈ (valuesOf .runner items).getLast?, isBlank v = false := by
  cases hlast : (valuesOf .runner items).getLast? with
  | none => simp [meaning, hlast]
  | some v => simp [meaning, hlast, fields_eq_nil_iff]

theorem accepted_iff {items : List Item} :
    Accepted items ↔ Passes {} items ∧
      ¬((meaning {} items).quiet = true ∧ (meaning {} items).verbose = true) ∧
        (meaning {} items).runner ≠ some [] := by
  rw [runner_ne_nil_iff]
  constructor
  · rintro ⟨hvalued, hdir, hverbosity, hrunner⟩
    exact ⟨⟨hvalued, fun _ => hdir⟩, by simpa [meaning] using hverbosity, hrunner⟩
  · rintro ⟨⟨hvalued, hdir⟩, hverbosity, hrunner⟩
    exact ⟨hvalued, hdir rfl, by simpa [meaning] using hverbosity, hrunner⟩

/-- The flags are read as the grammar has it: every argument list is made of items in exactly one way,
it is accepted iff the items are free of mistakes, and the flags are then what the items mean. -/
theorem parse_eq_ok_iff_grammar (args : List Bytes) :
    ∃ items, Spells args items ∧ (∀ items', Spells args items' → items' = items) ∧
      ∀ o, Flags.parse args = .ok o ↔ Accepted items ∧ o = meaning {} items := by
  have hspells := spells_read args
  refine ⟨Item.read args, hspells, fun items' h => h.read_eq.symm, fun o => ?_⟩
  have hadd := hspells.addAll_eq_ok_iff {}
  rw [accepted_iff, Flags.parse]
  constructor
  · intro h
    split at h
    · rename_i o' hall
      obtain ⟨hpasses, rfl⟩ := (hadd o').mp hall
      obtain ⟨hverbosity, hrunner, rfl⟩ := check_eq_ok_iff.mp h
      exact ⟨⟨hpasses, hverbosity, hrunner⟩, rfl⟩
    · cases h
  · rintro ⟨⟨hpasses, hverbosity, hrunner⟩, rfl⟩
    rw [(hadd _).mpr ⟨hpasses, rfl⟩]
    exact check_eq_ok_iff.mpr ⟨hverbosity, hrunner, rfl⟩

-- `--` is the value of a flag that waits for one; only elsewhere does it end the flags.
example : Flags.parse ["--ext", "--", "cases", "-x y", "--", "-q"]
    = .ok { extension := "--", directory := some (utf8 "cases"), extraArgs := ["-x", "y", "-q"] } := rfl

end Cli

end Golden
