import Golden.Proofs.Config.Loading
import Golden.Proofs.Config.Reading
import Mathlib.Data.List.Basic

/-!
# Which configuration files are accepted

A document is checked against the schema, read into a configuration, filled up with defaults and
validated. For a document that says everything once and in plain words the four stages together come
down to rules for single members (`Acceptable`), and the configuration they lead to has the value of
every member and the default of every field without one (`loadAndValidate_acceptable`).
-/

namespace Golden.Config

/-! ## Rules for members -/

/-- The rules for the members of a configuration file. -/
structure Acceptable (members : List (Bytes × Json)) : Prop where
  schema : ∀ v, (Schema.schemaKey, v) ∈ members → ∃ s, v = .string s
  /-- Every member for a field follows the field's rule in the schema. -/
  fields : ∀ (f : Field) (v : Json), (f.key, v) ∈ members → (Schema.ruleOf f).Admits v
  timeout : ∀ s, (Field.timeout.key, Json.string s) ∈ members → s ≠ [] →
    ∃ d, Duration.parse? s = some d ∧ 0 ≤ d.ns
  extension : ∀ s, (Field.extension.key, Json.string s) ∈ members →
    s ≠ inputExtension ∧ s ≠ expectedExtension
  runner : ∀ s rest, (Field.runner.key, Json.array (.string s :: rest)) ∈ members →
    isBlank s = false

/-- The configuration has what the members say, and the default of everything else. -/
structure Completes (members : List (Bytes × Json)) (c : Config) : Prop where
  present : ∀ (f : Field) (v : Json), (f.key, v) ∈ members →
    (f ≠ .timeout ∨ v ≠ .string []) → (c.get f).WrittenAs v
  /-- An empty time limit is none that is given. -/
  unlimited : (Field.timeout.key, Json.string []) ∈ members → c.timeout = default.timeout
  absent : ∀ f : Field, f.key ∉ members.map Prod.fst → c.get f = default.get f

variable {data : Bytes} {members : List (Bytes × Json)} {c decoded : Config}

/-! ## Schema and validity, member by member -/

/-- An unambiguous document is valid under the schema iff each member is. -/
theorem Unambiguous.schema_eq_ok_iff (h : Unambiguous members)
    (hdoc : Json.parse? data = some (.object members)) :
    Schema.validate data = .ok () ↔
      (∀ v, (Schema.schemaKey, v) ∈ members → ∃ s, v = .string s) ∧
      ∀ (f : Field) (v : Json), (f.key, v) ∈ members → (Schema.ruleOf f).Admits v := by
  rw [Schema.validate_eq_ok_iff]
  constructor
  · rintro ⟨_, hdoc', hrules⟩
    cases hdoc.symm.trans hdoc'
    constructor
    · intro v hm
      obtain ⟨s, hs, -⟩ := hrules _ List.mem_cons_self v (h.lastMember?_eq hm)
      exact ⟨s, hs⟩
    · intro f v hm
      exact hrules _ (Schema.mem_rules f) v (h.lastMember?_eq hm)
  · rintro ⟨hschema, hfields⟩
    refine ⟨members, hdoc, fun entry hentry v hlast => ?_⟩
    have hm := Json.mem_of_lastMember? hlast
    rcases List.mem_cons.mp hentry with rfl | hentry
    · obtain ⟨s, rfl⟩ := hschema v hm
      exact ⟨s, rfl, Nat.zero_le _⟩
    · obtain ⟨f, -, rfl⟩ := List.mem_map.mp hentry
      exact hfields f v hm

theorem parseTimeout_isOk_iff {s : Bytes} :
    (∃ d, parseTimeout s = .ok d) ↔ ∃ d, Duration.parse? s = some d ∧ 0 ≤ d.ns := by
  unfold parseTimeout
  cases Duration.parse? s with
  | none => simp
  | some d =>
    by_cases hneg : d.ns < 0
    · simp [hneg]
    · have hnonneg : 0 ≤ d.ns := by omega
      simp [hneg, hnonneg]

/-! ## The four stages together -/

/-- Validation of what was read asks for three things that the schema does not. -/
theorem Reads.valid_iff (h : Reads members c)
    (hfields : ∀ (f : Field) (v : Json), (f.key, v) ∈ members → (Schema.ruleOf f).Admits v) :
    c.withDefaults.Valid ↔
      (∀ s, (Field.timeout.key, Json.string s) ∈ members → s ≠ [] →
        ∃ d, Duration.parse? s = some d ∧ 0 ≤ d.ns) ∧
      (∀ s, (Field.extension.key, Json.string s) ∈ members →
        s ≠ inputExtension ∧ s ≠ expectedExtension) ∧
      ∀ s rest, (Field.runner.key, Json.array (.string s :: rest)) ∈ members → isBlank s = false := by
  rw [default_valid.over_iff fun f _ => get_withDefaults c f]
  constructor
  · intro hpermits
    refine ⟨?timeout, ?extension, ?runner⟩
    case timeout =>
      intro s hm hne
      have hs : c.get .timeout = .text s := (h.present _ _ hm).eq_text
      have hgiven : (c.get .timeout).given? = some (.text s) := by
        rw [hs, Setting.given?_text hne]
      exact parseTimeout_isOk_iff.mp (hpermits .timeout (.text s) nofun hgiven)
    case extension =>
      intro s hm
      have hs : c.get .extension = .text s := (h.present _ _ hm).eq_text
      obtain ⟨_, ⟨⟩, hmatches⟩ := hfields .extension _ hm
      have hne : s ≠ [] := by
        rintro rfl
        cases hmatches
      have hgiven : (c.get .extension).given? = some (.text s) := by
        rw [hs, Setting.given?_text hne]
      exact (checkExtension_eq_ok_iff.mp (hpermits .extension (.text s) nofun hgiven)).2
    case runner =>
      intro s rest hm
      obtain ⟨ss, hss, hitems⟩ := (h.present .runner _ hm).eq_texts
      obtain ⟨w, ws, rfl, hw, -⟩ := List.map_eq_cons_iff.mp hitems.symm
      have hgiven : (c.get .runner).given? = some (.texts (w :: ws)) := by
        rw [hss, Setting.given?_texts_cons]
      obtain ⟨_, _, ⟨⟩, hblank⟩ := hpermits .runner (.texts (w :: ws)) nofun hgiven
      cases hw
      exact hblank
  · rintro ⟨htimeout, hextension, hrunner⟩ f x - hx
    obtain ⟨v, hm, hwritten⟩ := h.mem_of_given hx
    obtain ⟨hget, hnonempty⟩ := Setting.given?_eq_some_iff.mp hx
    rw [hget] at hnonempty
    have hadmits := hfields f v hm
    cases f with
    | timeout =>
      obtain ⟨s, rfl, -⟩ := hadmits
      obtain rfl := hwritten.eq_text
      have hne : s ≠ [] := by
        rintro rfl
        cases hnonempty
      exact parseTimeout_isOk_iff.mpr (htimeout s hm hne)
    | extension =>
      obtain ⟨s, rfl, hmatches⟩ := hadmits
      obtain rfl := hwritten.eq_text
      exact checkExtension_eq_ok_iff.mpr ⟨hmatches, hextension s hm⟩
    | runner =>
      obtain ⟨items, rfl, -⟩ := hadmits
      obtain ⟨ss, rfl, rfl⟩ := hwritten.eq_texts
      cases ss with
      | nil => cases hnonempty
      | cons s ss => exact ⟨s, ss, rfl, hrunner s _ hm⟩
    | inputMode | mode | incomplete =>
      obtain ⟨s, hs, rfl⟩ := hadmits
      obtain rfl := hwritten.eq_text
      rw [List.mem_pair] at hs
      exact hs
    | jobs =>
      obtain ⟨literal, i, rfl, hi, hrange⟩ := hadmits
      obtain ⟨j, rfl, hj⟩ := hwritten.eq_number
      obtain rfl := Option.some.inj (hi.symm.trans hj)
      exact hrange
    | directory | inlineInputFlag | fileInputFlag | extraArgs => cases x <;> trivial

theorem decode_eq_ok_iff (hdoc : Json.parse? data = some (.object members)) :
    decode data = .ok decoded ↔ ofJson? (.object members) = some decoded := by
  rw [decode, decode?_object hdoc]
  cases ofJson? (.object members) <;> simp

/-- An unambiguous document gives a configuration iff it is acceptable, and then the one that it
reads as, filled up with defaults. -/
theorem Unambiguous.gives_iff (h : Unambiguous members) {t : Tree} {path : Bytes}
    (hread : readAsJson t path = .ok data) (hdoc : Json.parse? data = some (.object members)) :
    Gives t path c ↔
      Acceptable members ∧ ∃ decoded, Reads members decoded ∧ decode data = .ok decoded
        ∧ c = decoded.withDefaults := by
  constructor
  · rintro ⟨_, decoded, hread', hschema, hdecode, rfl, hvalid⟩
    cases hread.symm.trans hread'
    obtain ⟨hschemaKey, hfields⟩ := (h.schema_eq_ok_iff hdoc).mp hschema
    have hreads : Reads members decoded := h.reads hdoc hfields ((decode_eq_ok_iff hdoc).mp hdecode)
    obtain ⟨htimeout, hextension, hrunner⟩ :=
      (hreads.valid_iff hfields).mp (validate_eq_ok_iff.mp hvalid)
    exact ⟨⟨hschemaKey, hfields, htimeout, hextension, hrunner⟩, decoded, hreads, hdecode, rfl⟩
  · rintro ⟨hacceptable, decoded, hreads, hdecode, rfl⟩
    have hschema := (h.schema_eq_ok_iff hdoc).mpr ⟨hacceptable.schema, hacceptable.fields⟩
    have hvalid := (hreads.valid_iff hacceptable.fields).mpr
      ⟨hacceptable.timeout, hacceptable.extension, hacceptable.runner⟩
    exact ⟨data, decoded, hread, hschema, hdecode, rfl, validate_eq_ok_iff.mpr hvalid⟩

/-- An empty setting that the schema admits is an empty time limit or the default. -/
theorem eq_default_of_isEmpty {f : Field} {v : Json} {x : Setting} (hx : x.WrittenAs v)
    (hadmits : (Schema.ruleOf f).Admits v) (hempty : x.isEmpty = true) :
    (f = .timeout ∧ v = .string []) ∨ x = default.get f := by
  cases f with
  | timeout =>
    obtain ⟨s, rfl, -⟩ := hadmits
    obtain rfl := hx.eq_text
    obtain rfl := List.isEmpty_iff.mp hempty
    exact Or.inl ⟨rfl, rfl⟩
  | extraArgs =>
    obtain ⟨items, rfl, -⟩ := hadmits
    obtain ⟨ss, rfl, -⟩ := hx.eq_texts
    obtain rfl := List.isEmpty_iff.mp hempty
    exact Or.inr rfl
  | jobs =>
    obtain ⟨literal, -, rfl, -⟩ := hadmits
    obtain ⟨i, rfl, -⟩ := hx.eq_number
    obtain rfl : i = 0 := of_decide_eq_true hempty
    exact Or.inr rfl
  | runner =>
    obtain ⟨items, rfl, hitems, -⟩ := hadmits
    obtain ⟨ss, rfl, rfl⟩ := hx.eq_texts
    obtain rfl := List.isEmpty_iff.mp hempty
    cases hitems
  | inputMode | mode | incomplete =>
    obtain ⟨s, hs, rfl⟩ := hadmits
    obtain rfl := hx.eq_text
    obtain rfl := List.isEmpty_iff.mp hempty
    exact absurd hs (by decide)
  | extension =>
    obtain ⟨s, rfl, hmatches⟩ := hadmits
    obtain rfl := hx.eq_text
    obtain rfl := List.isEmpty_iff.mp hempty
    cases hmatches
  | directory | inlineInputFlag | fileInputFlag =>
    obtain ⟨s, rfl, hlength⟩ := hadmits
    obtain rfl := hx.eq_text
    obtain rfl := List.isEmpty_iff.mp hempty
    cases hlength

theorem Reads.completes (h : Reads members c)
    (hfields : ∀ (f : Field) (v : Json), (f.key, v) ∈ members → (Schema.ruleOf f).Admits v) :
    Completes members c.withDefaults := by
  constructor
  case present =>
    intro f v hm hne
    have hwritten : (c.get f).WrittenAs v := h.present f v hm
    rw [get_withDefaults]
    by_cases hempty : (c.get f).isEmpty = true
    · rcases eq_default_of_isEmpty hwritten (hfields f v hm) hempty with ⟨hf, hv⟩ | hdefault
      · exact (hne.elim (· hf) (· hv)).elim
      · rw [Setting.given?, if_pos hempty, Option.getD_none, ← hdefault]
        exact hwritten
    · rw [Setting.given?, if_neg hempty, Option.getD_some]
      exact hwritten
  case unlimited =>
    intro hm
    have hempty : c.get .timeout = .text [] := (h.present .timeout _ hm).eq_text
    have hdefault := get_withDefaults c .timeout
    rw [hempty] at hdefault
    exact Setting.text.inj hdefault
  case absent =>
    intro f hf
    rw [get_withDefaults, h.absent f hf]
    cases f <;> rfl

/-- Which documents are accepted, and what they lead to. -/
theorem loadAndValidate_acceptable {t : Tree} {path : Bytes} (hpath : isYamlPath path = false)
    (hfile : t.read path = .ok data) (hdoc : Json.parse? data = some (.object members))
    (h : Unambiguous members) :
    ((∃ c, (loadAndValidate t path).result = .ok c) ↔ Acceptable members) ∧
    ∀ c, (loadAndValidate t path).result = .ok c →
      (∃ decoded, load t path = .ok decoded ∧ c = decoded.withDefaults) ∧
      Completes members c ∧ c.validate = .ok () := by
  have hread : readAsJson t path = .ok data := by
    rw [readAsJson, hfile]
    simp only [hpath, Bool.false_eq_true, if_false]
  refine ⟨⟨?accepted, ?accepts⟩, ?gives⟩
  case accepted =>
    rintro ⟨c, hc⟩
    exact ((h.gives_iff hread hdoc).mp (loadAndValidate_eq_ok_iff.mp hc)).1
  case accepts =>
    intro hacceptable
    obtain ⟨decoded, hdecoded⟩ := h.exists_reads hdoc hacceptable.fields
    have hreads := h.reads hdoc hacceptable.fields hdecoded
    exact ⟨_, loadAndValidate_eq_ok_iff.mpr ((h.gives_iff hread hdoc).mpr
      ⟨hacceptable, decoded, hreads, (decode_eq_ok_iff hdoc).mpr hdecoded, rfl⟩)⟩
  case gives =>
    intro c hc
    have hgives := loadAndValidate_eq_ok_iff.mp hc
    obtain ⟨hacceptable, decoded, hreads, -, rfl⟩ := (h.gives_iff hread hdoc).mp hgives
    exact ⟨hgives.load, hreads.completes hacceptable.fields, hgives.validate⟩

/-! ## A file -/

def lenientText : Bytes := "\x7b\"mode\":\"lenient\",\"timeout\":\"\",\"jobs\":0\x7d"

/-- A tree with one configuration file. -/
def lenientTree : Tree := { cwd := [], entries := [(["run.json"], .file lenientText)] }

def lenientMembers : List (Bytes × Json) :=
  [(Field.mode.key, .string "lenient"), (Field.timeout.key, .string []), (Field.jobs.key, .number "0")]

theorem lenientMembers_cases {f : Field} {v : Json} (h : (f.key, v) ∈ lenientMembers) :
    (f = .mode ∧ v = .string "lenient") ∨ (f = .timeout ∧ v = .string [])
      ∨ (f = .jobs ∧ v = .number "0") := by
  simp only [lenientMembers, List.mem_cons, Prod.mk.injEq, List.not_mem_nil, or_false] at h
  rcases h with ⟨hkey, rfl⟩ | ⟨hkey, rfl⟩ | ⟨hkey, rfl⟩
  · exact Or.inl ⟨Field.key_inj hkey, rfl⟩
  · exact Or.inr (Or.inl ⟨Field.key_inj hkey, rfl⟩)
  · exact Or.inr (Or.inr ⟨Field.key_inj hkey, rfl⟩)

theorem lenientMembers_unambiguous : Unambiguous lenientMembers := by
  constructor
  case distinct => decide +kernel
  case exactKeys =>
    intro m hm
    have hfolded : ∀ m ∈ lenientMembers, ∀ f ∈ Field.all, foldKey m.1 = foldKey f.key → m.1 = f.key := by
      decide +kernel
    exact fun f => hfolded m hm f f.mem_all
  case plainJobs =>
    intro literal hm
    rcases lenientMembers_cases hm with ⟨hf, -⟩ | ⟨hf, -⟩ | ⟨-, hv⟩
    · cases hf
    · cases hf
    · cases hv
      decide +kernel

theorem lenientMembers_acceptable : Acceptable lenientMembers := by
  constructor
  case schema =>
    intro v hm
    have hkey : Schema.schemaKey ∈ lenientMembers.map Prod.fst := List.mem_map_of_mem hm
    exact absurd hkey (by decide +kernel)
  case fields =>
    intro f v hm
    rcases lenientMembers_cases hm with ⟨rfl, rfl⟩ | ⟨rfl, rfl⟩ | ⟨rfl, rfl⟩
    · exact ⟨lenient, by decide, rfl⟩
    · exact ⟨[], rfl, Nat.le_refl _⟩
    · exact ⟨"0", 0, rfl, by decide +kernel, by decide, by decide⟩
  case timeout =>
    intro s hm hne
    rcases lenientMembers_cases hm with ⟨hf, -⟩ | ⟨-, hv⟩ | ⟨hf, -⟩
    · cases hf
    · cases hv
      exact absurd rfl hne
    · cases hf
  case extension =>
    intro s hm
    rcases lenientMembers_cases hm with ⟨hf, -⟩ | ⟨hf, -⟩ | ⟨hf, -⟩ <;> cases hf
  case runner =>
    intro s rest hm
    rcases lenientMembers_cases hm with ⟨hf, -⟩ | ⟨hf, -⟩ | ⟨hf, -⟩ <;> cases hf

/-- A file that sets the mode, and a time limit and a number of jobs that are empty or zero. -/
theorem loadAndValidate_lenientTree :
    ∃ c, (loadAndValidate lenientTree "run.json").result = .ok c ∧ c.mode = lenient ∧ c.jobs = 0 ∧
      c.timeout = default.timeout ∧ c.runner = default.runner := by
  have hpath : isYamlPath "run.json" = false := by decide +kernel
  have hfile : lenientTree.read "run.json" = .ok lenientText := by decide +kernel
  have hdoc : Json.parse? lenientText = some (.object lenientMembers) := by decide +kernel
  obtain ⟨hiff, hgives⟩ := loadAndValidate_acceptable hpath hfile hdoc lenientMembers_unambiguous
  obtain ⟨c, hc⟩ := hiff.mpr lenientMembers_acceptable
  obtain ⟨-, hcompletes, -⟩ := hgives c hc
  have hmode : c.get .mode = .text lenient :=
    (hcompletes.present .mode _ List.mem_cons_self (Or.inl (by decide))).eq_text
  have hjobs : c.get .jobs = .number 0 := by
    obtain ⟨i, hi, hvalue⟩ :=
      (hcompletes.present .jobs (.number "0") (by simp [lenientMembers])
        (Or.inl (by decide))).eq_number
    have hzero : (Json.Decimal.ofLiteral "0").integer? = some 0 := by decide +kernel
    rw [hi, Option.some.inj (hvalue.symm.trans hzero)]
  have htimeout := hcompletes.unlimited (by simp [lenientMembers])
  have hrunner : c.get .runner = default.get .runner := hcompletes.absent .runner (by decide +kernel)
  exact ⟨c, hc, Setting.text.inj hmode, Setting.number.inj hjobs, htimeout, Setting.texts.inj hrunner⟩

end Golden.Config
