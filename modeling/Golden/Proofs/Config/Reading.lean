import Golden.Proofs.Config.Agreement
import Golden.Proofs.Config.Settings

/-!
# What a document sets

Reading sets one field per member and leaves the others alone (`ConfigDraft.get_set_ne`), so a field has
the value of the last member for it (`ConfigDraft.get_setAll_last`). A document that says everything
once and in plain words (`Config.Unambiguous`) therefore gives the configuration that has what its
members say and nothing else (`Config.Unambiguous.reads`).
-/

namespace Golden

/-! ## What a member sets -/

theorem Field.key_inj {f g : Field} (h : f.key = g.key) : f = g :=
  Option.some.inj ((Field.ofKey?_eq_some_iff.mpr rfl).symm.trans (Field.ofKey?_eq_some_iff.mpr h))

/-- The setting is what the value says. -/
def Setting.WrittenAs (x : Setting) (v : Json) : Prop :=
  match x with
  | .text s => v = .string s
  | .texts ss => v = .array (ss.map .string)
  | .number i => ∃ literal, v = .number literal ∧ (Json.Decimal.ofLiteral literal).integer? = some i

theorem Setting.WrittenAs.eq_text {x : Setting} {s : Bytes} (h : x.WrittenAs (.string s)) :
    x = .text s := by
  cases x with
  | text t =>
    cases h
    rfl
  | texts ss => cases h
  | number i =>
    obtain ⟨literal, hnumber, -⟩ := h
    cases hnumber

theorem Setting.WrittenAs.eq_texts {x : Setting} {items : List Json} (h : x.WrittenAs (.array items)) :
    ∃ ss, x = .texts ss ∧ items = ss.map .string := by
  cases x with
  | text t => cases h
  | texts ss =>
    cases h
    exact ⟨ss, rfl, rfl⟩
  | number i =>
    obtain ⟨literal, hnumber, -⟩ := h
    cases hnumber

theorem Setting.WrittenAs.eq_number {x : Setting} {literal : Bytes}
    (h : x.WrittenAs (.number literal)) :
    ∃ i, x = .number i ∧ (Json.Decimal.ofLiteral literal).integer? = some i := by
  cases x with
  | text t => cases h
  | texts ss => cases h
  | number i =>
    obtain ⟨_, ⟨⟩, hi⟩ := h
    exact ⟨i, rfl, hi⟩

theorem exists_strings {items : List Json} {minLength : Nat}
    (h : ∀ item ∈ items, ∃ s, item = .string s ∧ minLength ≤ runeCount s) :
    ∃ ss : List Bytes, items = ss.map .string := by
  induction items with
  | nil => exact ⟨[], rfl⟩
  | cons item items ih =>
    obtain ⟨⟨s, rfl, -⟩, hitems⟩ := List.forall_mem_cons.mp h
    obtain ⟨ss, rfl⟩ := ih hitems
    exact ⟨s :: ss, rfl⟩

theorem decodeItems_strings (places ss : List Bytes) :
    decodeItems places (ss.map .string) = some ss := by
  induction ss generalizing places with
  | nil => rfl
  | cons s ss ih => simp [decodeItems, ih]

theorem decodeList_strings (places ss : List Bytes) :
    ∃ places', decodeList places (.array (ss.map .string)) = some (ss, places') := by
  cases ss with
  | nil => exact ⟨_, rfl⟩
  | cons s ss =>
    have hitems := decodeItems_strings places (s :: ss)
    exact ⟨_, by rw [List.map_cons] at hitems ⊢; simp only [decodeList, hitems]; rfl⟩

namespace ConfigDraft

variable {d d' : ConfigDraft} {f g : Field} {v : Json}

/-- Setting a field leaves all others alone. -/
theorem get_set_ne (h : d.set f v = some d') (hne : g ≠ f) : d'.config.get g = d.config.get g := by
  cases f <;>
  · simp only [set, Option.map_eq_some_iff] at h
    obtain ⟨x, -, rfl⟩ := h
    cases g <;> first | rfl | exact absurd rfl hne

/-- A value that the rule of the field admits sets it to what it says. -/
theorem get_set (h : d.set f v = some d') (hadmits : (Schema.ruleOf f).Admits v)
    (hliteral : ∀ t, v = .number t → Json.IsLiteral t) : (d'.config.get f).WrittenAs v := by
  cases f with
  | runner | extraArgs =>
    obtain ⟨items, rfl, -, hitems⟩ := hadmits
    obtain ⟨ss, rfl⟩ := exists_strings hitems
    obtain ⟨⟨ss', places⟩, hlist, rfl⟩ := Option.map_eq_some_iff.mp h
    obtain ⟨places', hlist'⟩ := decodeList_strings _ ss
    obtain ⟨rfl, -⟩ := Prod.mk.inj (Option.some.inj (hlist.symm.trans hlist'))
    rfl
  | jobs =>
    obtain ⟨t, i, rfl, -⟩ := hadmits
    obtain ⟨j, hread, rfl⟩ := Option.map_eq_some_iff.mp h
    -- An integer is only read from a plain literal, and then it is the literal's value.
    have hplain : Json.isPlain t = true := Json.isPlain_of_readInt64? hread
    have hvalue := hread
    rw [decodeInt, (hliteral t rfl).readInt64?_eq hplain] at hvalue
    exact ⟨t, rfl, (Option.filter_eq_some_iff.mp hvalue).1⟩
  | inputMode | mode | incomplete =>
    obtain ⟨s, -, rfl⟩ := hadmits
    cases h
    rfl
  | _ =>
    obtain ⟨s, rfl, -⟩ := hadmits
    cases h
    rfl

/-! ## What all members set -/

theorem setAll_append (d : ConfigDraft) (ms ms' : List (Bytes × Json)) :
    d.setAll (ms ++ ms') = (d.setAll ms).bind fun d' => d'.setAll ms' := by
  induction ms generalizing d with
  | nil => rfl
  | cons m ms ih =>
    obtain ⟨key, v⟩ := m
    simp only [List.cons_append, setAll]
    cases Field.matching? key with
    | none => exact ih d
    | some f =>
      dsimp only
      cases d.set f v with
      | none => rfl
      | some d' => exact ih d'

theorem get_setAll_of_no_match {ms : List (Bytes × Json)} (h : d.setAll ms = some d')
    (hg : ∀ m ∈ ms, Field.matching? m.1 ≠ some g) : d'.config.get g = d.config.get g := by
  induction ms generalizing d with
  | nil =>
    cases h
    rfl
  | cons m ms ih =>
    obtain ⟨key, v⟩ := m
    obtain ⟨hm, hms⟩ := List.forall_mem_cons.mp hg
    rw [setAll] at h
    cases hf : Field.matching? key with
    | none =>
      rw [hf] at h
      exact ih h hms
    | some f =>
      rw [hf] at h
      have hne : g ≠ f := fun heq => hm (heq ▸ hf)
      cases hset : d.set f v with
      | none => simp [hset] at h
      | some d₁ =>
        simp only [hset] at h
        rw [ih h hms, get_set_ne hset hne]

/-- Of several members for a field the last one counts. -/
theorem get_setAll_last {before after : List (Bytes × Json)} {key : Bytes}
    (h : d.setAll (before ++ (key, v) :: after) = some d') (hf : Field.matching? key = some f)
    (hafter : ∀ m ∈ after, Field.matching? m.1 ≠ some f) (hadmits : (Schema.ruleOf f).Admits v)
    (hliteral : ∀ t, v = .number t → Json.IsLiteral t) : (d'.config.get f).WrittenAs v := by
  rw [setAll_append] at h
  obtain ⟨d₁, -, h⟩ := Option.bind_eq_some_iff.mp h
  simp only [setAll, hf] at h
  cases hset : d₁.set f v with
  | none => simp [hset] at h
  | some d₂ =>
    simp only [hset] at h
    rw [get_setAll_of_no_match h hafter]
    exact get_set hset hadmits hliteral

end ConfigDraft

namespace Config

/-! ## Documents -/

/-- Every key is there once, none is a field's key but for its case, and the number of jobs is written
without a fraction and an exponent. -/
structure Unambiguous (members : List (Bytes × Json)) : Prop where
  distinct : (members.map Prod.fst).Nodup
  exactKeys : ∀ m ∈ members, ∀ f : Field, foldKey m.1 = foldKey f.key → m.1 = f.key
  plainJobs : ∀ t, (Field.jobs.key, Json.number t) ∈ members → Json.isPlain t = true

/-- The configuration has what the members say, and nothing else. -/
structure Reads (members : List (Bytes × Json)) (c : Config) : Prop where
  present : ∀ (f : Field) (v : Json), (f.key, v) ∈ members → (c.get f).WrittenAs v
  absent : ∀ f : Field, f.key ∉ members.map Prod.fst → c.get f = ({} : Config).get f

variable {data : Bytes} {members : List (Bytes × Json)} {c decoded : Config}

theorem Unambiguous.matching?_eq (h : Unambiguous members) {m : Bytes × Json} (hm : m ∈ members) :
    Field.matching? m.1 = Field.ofKey? m.1 := by
  unfold Field.matching?
  cases hexact : Field.ofKey? m.1 with
  | some f => rfl
  | none =>
    rw [List.find?_eq_none]
    intro f _ hfold
    have hkey : m.1 = f.key := h.exactKeys m hm f (by simpa using (of_decide_eq_true hfold).symm)
    rw [Field.ofKey?_eq_some_iff.mpr hkey] at hexact
    cases hexact

theorem Unambiguous.key_eq (h : Unambiguous members) {m : Bytes × Json} (hm : m ∈ members) {f : Field}
    (hf : Field.matching? m.1 = some f) : m.1 = f.key := by
  rwa [h.matching?_eq hm, Field.ofKey?_eq_some_iff] at hf

theorem key_not_mem_after {before after : List (Bytes × Json)} {key : Bytes} {v : Json}
    (h : ((before ++ (key, v) :: after).map Prod.fst).Nodup) : key ∉ after.map Prod.fst := by
  rw [List.map_append, List.map_cons, List.nodup_append, List.nodup_cons] at h
  exact h.2.1.1

theorem Unambiguous.lastMember?_eq (h : Unambiguous members) {key : Bytes} {v : Json}
    (hm : (key, v) ∈ members) : Json.lastMember? key members = some v := by
  obtain ⟨before, after, rfl⟩ := List.append_of_mem hm
  exact Json.lastMember?_append_cons (key_not_mem_after h.distinct)

/-- What is read from an unambiguous document that follows the schema is what its members say. -/
theorem Unambiguous.reads (h : Unambiguous members) (hdoc : Json.parse? data = some (.object members))
    (hfields : ∀ (f : Field) (v : Json), (f.key, v) ∈ members → (Schema.ruleOf f).Admits v)
    (hread : ofJson? (.object members) = some c) : Reads members c := by
  obtain ⟨d, hset, rfl⟩ := Option.map_eq_some_iff.mp hread
  constructor
  case present =>
    intro f v hm
    obtain ⟨before, after, heq⟩ := List.append_of_mem hm
    rw [heq] at hset
    refine ConfigDraft.get_setAll_last hset (Field.matching?_key f) ?_ (hfields f v hm) ?_
    · -- Another member for the field would have the same key.
      intro m hafter hf
      have hkey : m.1 = f.key := h.key_eq (by rw [heq]; simp [hafter]) hf
      have hnot : f.key ∉ after.map Prod.fst := key_not_mem_after (heq ▸ h.distinct)
      rw [← hkey] at hnot
      exact hnot (List.mem_map_of_mem hafter)
    · rintro t rfl
      exact Json.parse?_literal hdoc hm
  case absent =>
    intro f hf
    refine ConfigDraft.get_setAll_of_no_match hset fun m hm hmatch => hf ?_
    rw [← h.key_eq hm hmatch]
    exact List.mem_map_of_mem hm

/-- An unambiguous document that follows the schema can be read. -/
theorem Unambiguous.exists_reads (h : Unambiguous members)
    (hdoc : Json.parse? data = some (.object members))
    (hfields : ∀ (f : Field) (v : Json), (f.key, v) ∈ members → (Schema.ruleOf f).Admits v) :
    ∃ c, ofJson? (.object members) = some c := by
  rw [← Option.isSome_iff_exists, ofJson?_isSome_iff]
  intro m hm f hf
  have hm' : (f.key, m.2) ∈ members := by
    rw [← h.key_eq hm hf]
    exact hm
  have hadmits := hfields f m.2 hm'
  by_cases hjobs : f = .jobs
  · subst hjobs
    obtain ⟨t, -, hv, -⟩ := id hadmits
    rw [hv] at hadmits hm' ⊢
    exact (Field.fits_jobs_iff (Json.parse?_literal hdoc hm') hadmits).mpr (h.plainJobs t hm')
  · exact Field.fits_of_admits hjobs hadmits

/-- What is set in the configuration is said by a member. -/
theorem Reads.mem_of_given (h : Reads members c) {f : Field} {x : Setting}
    (hx : (c.get f).given? = some x) : ∃ v, (f.key, v) ∈ members ∧ x.WrittenAs v := by
  obtain ⟨rfl, hnonempty⟩ := Setting.given?_eq_some_iff.mp hx
  by_cases hkey : f.key ∈ members.map Prod.fst
  · obtain ⟨m, hm, hmkey⟩ := List.mem_map.mp hkey
    have hm' : (f.key, m.2) ∈ members := by
      rw [← hmkey]
      exact hm
    exact ⟨m.2, hm', h.present f m.2 hm'⟩
  · rw [h.absent f hkey] at hnonempty
    cases f <;> cases hnonempty

end Config

end Golden
