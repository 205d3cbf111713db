import Golden.Config.Load
import Mathlib.Tactic.SplitIfs

/-!
# What the members of a document do

A document is read member by member. It is readable when every member that sets a field has a value
that the field can take (`ofJson?_isSome_iff`), and members whose key matches no field leave no trace
(`setAll_filter`). Those are all the keys without effect: a key that matches a field only up to case
sets it, although it is reported as ignored (`inert_iff`).
-/

namespace Golden

/-! ## Values of the right type -/

/-- A string, or `null` in place of one. -/
def Json.IsText (v : Json) : Prop := v = .null ∨ ∃ s, v = .string s

/-- A value that a field can be set to: `null`, or a value of the type of the field. -/
def Field.Fits (f : Field) (v : Json) : Prop :=
  match f with
  | .runner | .extraArgs => v = .null ∨ ∃ items, v = .array items ∧ ∀ item ∈ items, item.IsText
  | .jobs => v = .null ∨ ∃ literal i, v = .number literal ∧ readInt64? literal = some i
  | _ => v.IsText

theorem decodeText_isSome_iff {old : Bytes} {v : Json} : (decodeText old v).isSome ↔ v.IsText := by
  cases v <;> simp [decodeText, Json.IsText]

theorem decodeInt_isSome_iff {old : Int} {v : Json} :
    (decodeInt old v).isSome
      ↔ v = .null ∨ ∃ literal i, v = .number literal ∧ readInt64? literal = some i := by
  cases v <;> simp [decodeInt, Option.isSome_iff_exists]

theorem decodeItems_isSome_iff {places : List Bytes} {items : List Json} :
    (decodeItems places items).isSome ↔ ∀ item ∈ items, item.IsText := by
  induction items generalizing places with
  | nil => simp [decodeItems]
  | cons item items ih => cases item <;> simp [decodeItems, Json.IsText, ih]

theorem decodeList_isSome_iff {places : List Bytes} {v : Json} :
    (decodeList places v).isSome
      ↔ v = .null ∨ ∃ items, v = .array items ∧ ∀ item ∈ items, item.IsText := by
  cases v with
  | array items =>
    cases items with
    | nil => simp [decodeList]
    | cons item items => simp [decodeList, decodeItems_isSome_iff]
  | _ => simp [decodeList]

namespace ConfigDraft

/-- A field is set by the values that fit it and by no others. -/
theorem set_isSome_iff {d : ConfigDraft} {f : Field} {v : Json} : (d.set f v).isSome ↔ f.Fits v := by
  cases f <;>
    simp only [set, Field.Fits, Option.isSome_map, decodeText_isSome_iff, decodeInt_isSome_iff,
      decodeList_isSome_iff]

/-! ## Members in order -/

/-- A member that sets a field fits it. -/
def Fitting (m : Bytes × Json) : Prop := ∀ f, Field.matching? m.1 = some f → f.Fits m.2

theorem setAll_isSome_iff {d : ConfigDraft} {ms : List (Bytes × Json)} :
    (d.setAll ms).isSome ↔ ∀ m ∈ ms, Fitting m := by
  -- The draft changes from member to member; whether a value fits does not depend on it.
  induction ms generalizing d with
  | nil => simp [setAll]
  | cons m ms ih =>
    obtain ⟨key, v⟩ := m
    rw [List.forall_mem_cons, setAll]
    cases hf : Field.matching? key with
    | none => simp [ih, Fitting, hf]
    | some f =>
      have hfit : Fitting (key, v) ↔ (d.set f v).isSome := by simp [Fitting, hf, set_isSome_iff]
      rw [hfit]
      cases hset : d.set f v with
      | none => simp [hset]
      | some d' => simp [hset, ih]

/-- Members whose keys match no field can be left out. -/
theorem setAll_filter {d : ConfigDraft} {ms : List (Bytes × Json)} {p : Bytes × Json → Bool}
    (h : ∀ m ∈ ms, p m = false → Field.matching? m.1 = none) :
    d.setAll (ms.filter p) = d.setAll ms := by
  induction ms generalizing d with
  | nil => rfl
  | cons m ms ih =>
    obtain ⟨key, v⟩ := m
    obtain ⟨hm, hms⟩ := List.forall_mem_cons.1 h
    cases hp : p (key, v) with
    | false =>
      rw [List.filter_cons_of_neg (by simp [hp]), ih hms]
      simp [setAll, hm hp]
    | true =>
      rw [List.filter_cons_of_pos hp]
      simp only [setAll, ih hms]

end ConfigDraft

namespace Config

open ConfigDraft

theorem ofJson?_isSome_iff {members : List (Bytes × Json)} :
    (ofJson? (.object members)).isSome ↔ ∀ m ∈ members, Fitting m := by
  rw [ofJson?, Option.isSome_map, setAll_isSome_iff]

theorem ofJson?_filter {members : List (Bytes × Json)} {p : Bytes × Json → Bool}
    (h : ∀ m ∈ members, p m = false → Field.matching? m.1 = none) :
    ofJson? (.object (members.filter p)) = ofJson? (.object members) := by
  rw [ofJson?, ofJson?, setAll_filter h]

/-- Some value that a field can be set to and does not have at the start. -/
def sample : Field → Json
  | .runner | .extraArgs => .array [.string "x"]
  | .jobs => .number "1"
  | _ => .string "x"

theorem ofJson?_sample {key : Bytes} {f : Field} (h : Field.matching? key = some f) :
    ∃ c, ofJson? (.object [(key, sample f)]) = some c ∧ c ≠ {} := by
  have hset : ∃ d, ConfigDraft.set {} f (sample f) = some d ∧ d.config ≠ {} := by
    cases f <;> exact ⟨_, rfl, by decide⟩
  obtain ⟨d, hd, hne⟩ := hset
  exact ⟨d.config, by simp [ofJson?, setAll, h, hd], hne⟩

/-- Deleting a key from a readable document never changes what is read exactly when the key matches no
field, not even up to case. -/
theorem inert_iff {key : Bytes} :
    (∀ members c, ofJson? (.object members) = some c →
        ofJson? (.object (members.filter (·.1 ≠ key))) = some c)
      ↔ Field.matching? key = none := by
  constructor
  · intro h
    cases hf : Field.matching? key with
    | none => rfl
    | some f =>
      -- A document with this member alone sets the field, and without it is empty.
      obtain ⟨c, hc, hne⟩ := ofJson?_sample hf
      have hempty : ofJson? (.object []) = some c := by simpa using h _ c hc
      exact absurd (Option.some.inj hempty).symm hne
  · intro hkey members c hc
    rw [ofJson?_filter, hc]
    intro m _ hm
    have : m.1 = key := by simpa using hm
    rw [this, hkey]

/-! ## Reported keys -/

theorem decodeWithWarnings_eq_ok_iff {data : Bytes} {c : Config} {warnings : List Bytes} :
    decodeWithWarnings data = .ok (c, warnings)
      ↔ decode? data = some c ∧ unknownFieldWarnings data = warnings := by
  unfold decodeWithWarnings decode
  cases decode? data <;> simp

theorem decode?_object {data : Bytes} {members : List (Bytes × Json)}
    (hdoc : Json.parse? data = some (.object members)) : decode? data = ofJson? (.object members) := by
  rw [decode?, hdoc]

/-- A document can be read if all its members fit. -/
theorem exists_decodeWithWarnings_iff {data : Bytes} {members : List (Bytes × Json)}
    (hdoc : Json.parse? data = some (.object members)) :
    (∃ c warnings, decodeWithWarnings data = .ok (c, warnings)) ↔ ∀ m ∈ members, Fitting m := by
  rw [← ofJson?_isSome_iff, Option.isSome_iff_exists, ← decode?_object hdoc]
  simp [decodeWithWarnings_eq_ok_iff]

/-- The warnings of a document, where its keys and the warnings come in ascending order. -/
theorem unknownFieldWarnings_eq {data : Bytes} {members : List (Bytes × Json)} {warnings : List Bytes}
    (hdoc : Json.parse? data = some (.object members))
    (hkeys : (members.map (·.1)).eraseDups.Pairwise (· < ·))
    (hunknown : ((members.map (·.1)).eraseDups.filter isUnknownKey).map unknownFieldWarning = warnings)
    (hwarnings : warnings.Pairwise (· < ·)) : unknownFieldWarnings data = warnings := by
  simp only [unknownFieldWarnings, hdoc]
  rw [Json.keySet, Bytes.sort_of_pairwise hkeys, hunknown, Bytes.sort_of_pairwise hwarnings]

theorem mem_unknownFieldWarnings {data w : Bytes} {members : List (Bytes × Json)}
    (hdoc : Json.parse? data = some (.object members)) :
    w ∈ unknownFieldWarnings data
      ↔ ∃ m ∈ members, isUnknownKey m.1 = true ∧ unknownFieldWarning m.1 = w := by
  simp only [unknownFieldWarnings, hdoc, Bytes.sort, Json.keySet, List.mem_mergeSort, List.mem_map,
    List.mem_filter, List.mem_eraseDups]
  constructor
  · rintro ⟨key, ⟨⟨m, hm, rfl⟩, hunknown⟩, rfl⟩
    exact ⟨m, hm, hunknown, rfl⟩
  · rintro ⟨m, hm, hunknown, rfl⟩
    exact ⟨m.1, ⟨⟨m, hm, rfl⟩, hunknown⟩, rfl⟩

/-- The members whose keys are not among the reported ones. -/
def unreported (warnings : List Bytes) (members : List (Bytes × Json)) : List (Bytes × Json) :=
  members.filter fun m => !warnings.contains (unknownFieldWarning m.1)

/-- If no reported key matches a field up to case, then deleting the members with reported keys changes
nothing but that the warnings are gone. -/
theorem decodeWithWarnings_unreported {data : Bytes} {members : List (Bytes × Json)} {c : Config}
    {warnings : List Bytes} (hdoc : Json.parse? data = some (.object members))
    (hread : decodeWithWarnings data = .ok (c, warnings))
    (hcase : ∀ m ∈ members, unknownFieldWarning m.1 ∈ warnings → Field.matching? m.1 = none) :
    ofJson? (.object (unreported warnings members)) = some c
      ∧ ∀ data', Json.parse? data' = some (.object (unreported warnings members)) →
          decodeWithWarnings data' = .ok (c, []) := by
  obtain ⟨hc, hw⟩ := decodeWithWarnings_eq_ok_iff.1 hread
  rw [decode?_object hdoc] at hc
  have hrest : ofJson? (.object (unreported warnings members)) = some c := by
    rw [unreported, ofJson?_filter, hc]
    intro m hm hreported
    exact hcase m hm (by simpa using hreported)
  refine ⟨hrest, fun data' hdoc' => decodeWithWarnings_eq_ok_iff.2 ⟨?_, ?_⟩⟩
  · rw [decode?_object hdoc', hrest]
  rw [List.eq_nil_iff_forall_not_mem]
  intro w hmem
  obtain ⟨m, hm, hunknown, rfl⟩ := (mem_unknownFieldWarnings hdoc').1 hmem
  obtain ⟨hm, hkept⟩ := List.mem_filter.1 hm
  -- The key is unknown and was in the document, so it was reported, and the member deleted.
  have : unknownFieldWarning m.1 ∈ warnings := by
    rw [← hw]
    exact (mem_unknownFieldWarnings hdoc).2 ⟨m, hm, hunknown, rfl⟩
  simp [this] at hkept

theorem decodeWithWarnings_unreported_colour :
    decodeWithWarnings "\x7b\"colour\":[1],\"mode\":\"lenient\"\x7d"
        = .ok ({ mode := lenient }, [unknownFieldWarning "colour"])
      ∧ decodeWithWarnings "\x7b\"mode\":\"lenient\"\x7d" = .ok ({ mode := lenient }, []) := by
  have hdoc : Json.parse? "\x7b\"colour\":[1],\"mode\":\"lenient\"\x7d"
      = some (.object [(utf8 "colour", .array [.number "1"]), (utf8 "mode", .string "lenient")]) := by
    decide +kernel
  have hread : decodeWithWarnings "\x7b\"colour\":[1],\"mode\":\"lenient\"\x7d"
      = .ok ({ mode := lenient }, [unknownFieldWarning "colour"]) :=
    decodeWithWarnings_eq_ok_iff.2
      ⟨by decide +kernel, unknownFieldWarnings_eq hdoc (by decide) (by decide +kernel) (by decide)⟩
  have hcolour : Field.matching? "colour" = none := by decide +kernel
  have hmode : unknownFieldWarning "mode" ≠ unknownFieldWarning "colour" := by decide +kernel
  have hrest := decodeWithWarnings_unreported hdoc hread (by simp [hcolour, hmode])
  exact ⟨hread, hrest.2 _ (by decide +kernel)⟩

/-- A key that is reported as ignored and sets a field all the same: without it the field is empty. -/
theorem reported_key_sets_mode :
    Json.parse? "\x7b\"MODE\":\"lenient\"\x7d" = some (.object [(utf8 "MODE", .string "lenient")])
      ∧ decodeWithWarnings "\x7b\"MODE\":\"lenient\"\x7d"
        = .ok ({ mode := lenient }, [unknownFieldWarning "MODE"])
      ∧ ofJson? (.object (unreported [unknownFieldWarning "MODE"] [(utf8 "MODE", .string "lenient")]))
        = some {} := by
  have hdoc : Json.parse? "\x7b\"MODE\":\"lenient\"\x7d"
      = some (.object [(utf8 "MODE", .string "lenient")]) := by decide +kernel
  have hwarnings := unknownFieldWarnings_eq hdoc (by decide) rfl (by decide)
  refine ⟨hdoc, decodeWithWarnings_eq_ok_iff.2 ⟨by decide +kernel, hwarnings⟩, ?_⟩
  simp [unreported, ofJson?, setAll]

end Config

end Golden
