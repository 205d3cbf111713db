import Golden.Proofs.Config.Admission
import Golden.Proofs.Config.Members
import Golden.Proofs.Json.Literal

/-!
# Where the schema and the reader agree

The schema looks at the last value of each key that is exactly a field's. The reader looks at every
member whose key is a field's up to case. What the schema has looked at the reader can read, but for a
number of jobs that is written with a fraction or an exponent; what the schema has overlooked may be
anything (`decodes_validated_iff`).
-/

namespace Golden

/-! ## Keys and last members -/

theorem Field.mem_all (f : Field) : f ∈ Field.all := by
  cases f <;> decide

theorem Field.ofKey?_eq_some_iff {key : Bytes} {f : Field} : Field.ofKey? key = some f ↔ key = f.key := by
  constructor
  · intro h
    have hkey : f.key = key := by simpa using List.find?_some h
    exact hkey.symm
  · rintro rfl
    cases f <;> decide +kernel

theorem Field.matching?_key (f : Field) : Field.matching? f.key = some f := by
  rw [Field.matching?, Field.ofKey?_eq_some_iff.2 rfl]

theorem Json.mem_of_lastMember? {key : Bytes} {v : Json} {members : List (Bytes × Json)}
    (h : lastMember? key members = some v) : (key, v) ∈ members := by
  obtain ⟨m, hm, rfl⟩ := Option.map_eq_some_iff.1 h
  have hkey : m.1 = key := by simpa using List.find?_some hm
  rw [← hkey]
  exact List.mem_reverse.1 (List.mem_of_find?_eq_some hm)

theorem Json.lastMember?_append_cons {key : Bytes} {v : Json} {before after : List (Bytes × Json)}
    (h : key ∉ after.map Prod.fst) : lastMember? key (before ++ (key, v) :: after) = some v := by
  have hafter : after.reverse.find? (fun m => decide (m.1 = key)) = none := by
    rw [List.find?_eq_none]
    intro m hm hkey
    have hkey : m.1 = key := by simpa using hkey
    rw [← hkey] at h
    exact h (List.mem_map_of_mem (List.mem_reverse.1 hm))
  simp [lastMember?, List.find?_append, hafter]

/-! ## Values that are admitted -/

theorem Schema.mem_rules (f : Field) : (f.key, ruleOf f) ∈ rules :=
  List.mem_cons_of_mem _ (List.mem_map_of_mem f.mem_all)

/-- Every field but one can be set to all values that its rule admits. -/
theorem Field.fits_of_admits {f : Field} {v : Json} (hf : f ≠ .jobs)
    (h : (Schema.ruleOf f).Admits v) : f.Fits v := by
  cases f with
  | jobs => exact absurd rfl hf
  | runner | extraArgs =>
    obtain ⟨items, rfl, -, hitems⟩ := h
    refine Or.inr ⟨items, rfl, ?_⟩
    intro item hitem
    obtain ⟨s, hs, -⟩ := hitems item hitem
    exact Or.inr ⟨s, hs⟩
  | inputMode | mode | incomplete =>
    obtain ⟨s, -, hs⟩ := h
    exact Or.inr ⟨s, hs⟩
  | _ =>
    obtain ⟨s, hs, -⟩ := h
    exact Or.inr ⟨s, hs⟩

/-- The number of jobs, where it is admitted, can be read if it is written as a whole number. -/
theorem Field.fits_jobs_iff {literal : Bytes} (hliteral : Json.IsLiteral literal)
    (h : (Schema.ruleOf .jobs).Admits (.number literal)) :
    Field.jobs.Fits (.number literal) ↔ Json.isPlain literal = true := by
  constructor
  · rintro (hnull | ⟨_, i, ⟨⟩, hread⟩)
    · cases hnull
    · exact Json.isPlain_of_readInt64? hread
  · intro hplain
    obtain ⟨_, i, ⟨⟩, hvalue, hlow, hhigh⟩ := h
    have hbits : fitsInt64 i = true := by
      have : (Config.maxJobs : Int) = 256 := rfl
      simp only [fitsInt64, Bool.and_eq_true, decide_eq_true_eq]
      omega
    refine Or.inr ⟨literal, i, rfl, ?_⟩
    rw [hliteral.readInt64?_eq hplain, hvalue, Option.filter_some, if_pos hbits]

/-! ## Members that are overlooked -/

/-- A value for a field that the schema does not look at: its key is the field's only up to case, or a
later member has the key again. -/
def Overlooked (members : List (Bytes × Json)) (f : Field) (v : Json) : Prop :=
  ∃ before key after, members = before ++ (key, v) :: after ∧ Field.matching? key = some f
    ∧ (key ≠ f.key ∨ f.key ∈ after.map Prod.fst)

variable {members : List (Bytes × Json)}

theorem Overlooked.mem {f : Field} {v : Json} (h : Overlooked members f v) :
    ∃ key, (key, v) ∈ members ∧ Field.matching? key = some f := by
  obtain ⟨before, key, after, rfl, hf, -⟩ := h
  exact ⟨key, by simp, hf⟩

theorem overlooked_or_last {m : Bytes × Json} {f : Field} (hm : m ∈ members)
    (hf : Field.matching? m.1 = some f) :
    Overlooked members f m.2 ∨ Json.lastMember? f.key members = some m.2 := by
  obtain ⟨before, after, rfl⟩ := List.append_of_mem hm
  by_cases hkey : m.1 = f.key
  · -- The key is the field's own, so only a later member can hide this one from the schema.
    by_cases hlater : f.key ∈ after.map Prod.fst
    · exact Or.inl ⟨before, m.1, after, rfl, hf, Or.inr hlater⟩
    · rw [← hkey] at hlater ⊢
      exact Or.inr (Json.lastMember?_append_cons hlater)
  · exact Or.inl ⟨before, m.1, after, rfl, hf, Or.inl hkey⟩

/-- Nothing is overlooked in an object that has no key twice and none that is a field's only up to
case. -/
theorem not_overlooked (hdistinct : (members.map Prod.fst).Nodup)
    (hexact : ∀ m ∈ members, Field.matching? m.1 = Field.ofKey? m.1) {f : Field} {v : Json} :
    ¬Overlooked members f v := by
  rintro ⟨before, key, after, rfl, hf, hkey⟩
  rw [hexact (key, v) (by simp), Field.ofKey?_eq_some_iff] at hf
  rcases hkey with hne | hlater
  · exact hne hf
  · rw [← hf] at hlater
    simp only [List.map_append, List.map_cons, List.nodup_append, List.nodup_cons] at hdistinct
    exact hdistinct.2.1.1 hlater

/-- A valid document can be read exactly when the values that the schema has overlooked fit their
fields and the number of jobs is written as a whole number. -/
theorem decodes_validated_iff {data : Bytes} (hvalid : Schema.validate data = .ok ()) :
    ∃ members, Json.parse? data = some (.object members)
      ∧ ((∃ c warnings, Config.decodeWithWarnings data = .ok (c, warnings))
        ↔ (∀ f v, Overlooked members f v → f.Fits v)
          ∧ ∀ literal, Json.lastMember? Field.jobs.key members = some (.number literal) →
              Json.isPlain literal = true) := by
  obtain ⟨members, hdoc, hadmits⟩ := Schema.validate_eq_ok_iff.1 hvalid
  refine ⟨members, hdoc, ?_⟩
  rw [Config.exists_decodeWithWarnings_iff hdoc]
  constructor
  · intro hfitting
    constructor
    · intro f v hover
      obtain ⟨key, hmem, hf⟩ := hover.mem
      exact hfitting (key, v) hmem f hf
    · intro literal hlast
      have hmem := Json.mem_of_lastMember? hlast
      have hfits := hfitting _ hmem .jobs (Field.matching?_key .jobs)
      have hadmitted := hadmits _ (Schema.mem_rules .jobs) _ hlast
      exact (Field.fits_jobs_iff (Json.parse?_literal hdoc hmem) hadmitted).1 hfits
  · rintro ⟨hover, hplain⟩ m hm f hf
    rcases overlooked_or_last hm hf with h | hlast
    · exact hover f m.2 h
    · have hadmitted := hadmits _ (Schema.mem_rules f) _ hlast
      -- The schema has looked at this value; only for the number of jobs is that not enough.
      by_cases hjobs : f = .jobs
      · subst hjobs
        obtain ⟨literal, -, hv, -⟩ := id hadmitted
        rw [hv] at hadmitted hlast ⊢
        have hliteral := Json.parse?_literal hdoc (Json.mem_of_lastMember? hlast)
        exact (Field.fits_jobs_iff hliteral hadmitted).2 (hplain literal hlast)
      · exact Field.fits_of_admits hjobs hadmitted

/-- A valid document without overlooked values. -/
theorem decodes_validated_four_jobs :
    Schema.validate "\x7b\"mode\":\"strict\",\"jobs\":4\x7d" = .ok ()
      ∧ ∃ c warnings, Config.decodeWithWarnings "\x7b\"mode\":\"strict\",\"jobs\":4\x7d"
        = .ok (c, warnings) := by
  have hvalid : Schema.validate "\x7b\"mode\":\"strict\",\"jobs\":4\x7d" = .ok () := by decide +kernel
  refine ⟨hvalid, ?_⟩
  obtain ⟨members, hdoc, hiff⟩ := decodes_validated_iff hvalid
  have hmembers : Json.parse? "\x7b\"mode\":\"strict\",\"jobs\":4\x7d"
      = some (.object [(utf8 "mode", .string "strict"), (utf8 "jobs", .number "4")]) := by decide +kernel
  obtain ⟨⟩ := hmembers.symm.trans hdoc
  refine hiff.2 ⟨?_, ?_⟩
  · intro f v hover
    exact absurd hover (not_overlooked (by decide +kernel) (by decide +kernel))
  · intro literal hlast
    obtain ⟨⟩ := hlast
    decide +kernel

/-- Documents that are valid and cannot be read: a whole number of jobs that is not written as one, a
key that is a field's only up to case, and a value that a later one replaces. -/
theorem validated_not_decoded :
    (Schema.validate "\x7b\"jobs\":2.0\x7d" = .ok ()
        ∧ Config.decodeWithWarnings "\x7b\"jobs\":2.0\x7d" = .error Config.parseFault)
      ∧ (Schema.validate "\x7b\"JOBS\":\"four\"\x7d" = .ok ()
        ∧ Config.decodeWithWarnings "\x7b\"JOBS\":\"four\"\x7d" = .error Config.parseFault)
      ∧ (Schema.validate "\x7b\"mode\":1,\"mode\":\"strict\"\x7d" = .ok ()
        ∧ Config.decodeWithWarnings "\x7b\"mode\":1,\"mode\":\"strict\"\x7d"
          = .error Config.parseFault) := by
  refine ⟨⟨?_, ?_⟩, ⟨?_, ?_⟩, ⟨?_, ?_⟩⟩ <;> decide +kernel

end Golden
