import Golden.Proofs.Config.Agreement
import Golden.Proofs.Text.Quote
import Mathlib.Data.List.Sort

/-!
# Warnings of unknown keys

A readable document is warned of once for each unknown key on its top level, however often the key stands
there, and in the order of the warnings (`unknownFieldWarnings_spec`). So its warnings depend on nothing but
the set of its keys (`unknownFieldWarnings_congr`), and members that change places leave them as they are
(`warnings_canonical`). That no two keys share a warning is the injectivity of quoting.
-/

namespace Golden

/-- The keys on the top level of a document. -/
def Json.topKeys : Json → List Bytes
  | .object members => members.map (·.1)
  | _ => []

theorem nodup_eraseDups {α : Type} [BEq α] [LawfulBEq α] : ∀ xs : List α, xs.eraseDups.Nodup
  | [] => by simp
  | x :: xs => by
    rw [List.eraseDups_cons, List.nodup_cons]
    exact ⟨by simp, nodup_eraseDups (xs.filter fun y => !y == x)⟩
termination_by xs => xs.length
decreasing_by
  have := List.length_filter_le (fun y => !y == x) xs
  simp only [List.length_cons]
  omega

/-- Different texts are sorted in strictly ascending order. -/
theorem Bytes.pairwise_sort {xs : List Bytes} (h : xs.Nodup) : (Bytes.sort xs).Pairwise (· < ·) := by
  have hle : (Bytes.sort xs).Pairwise fun a b => Bytes.le a b = true :=
    List.pairwise_mergeSort Bytes.le_trans Bytes.le_total xs
  have hne : (Bytes.sort xs).Nodup := (List.mergeSort_perm xs _).nodup_iff.mpr h
  refine (hle.and hne).imp ?_
  rintro a b ⟨hab, hneq⟩
  exact (List.le_iff_lt_or_eq.mp (of_decide_eq_true hab)).resolve_right hneq

/-! ## One warning -/

theorem isUnknownKey_iff {key : Bytes} :
    isUnknownKey key = true ↔ key ≠ ignoredKey ∧ ∀ f : Field, key ≠ f.key := by
  have hfield : (Field.ofKey? key).isNone = true ↔ ∀ f : Field, key ≠ f.key := by
    rw [Option.isNone_iff_eq_none, Option.eq_none_iff_forall_ne_some]
    simp only [ne_eq, Field.ofKey?_eq_some_iff]
  rw [isUnknownKey, Bool.and_eq_true, hfield, bne_iff_ne]

/-- No two keys share a warning. -/
theorem unknownFieldWarning_inj {key key' : Bytes} :
    unknownFieldWarning key = unknownFieldWarning key' ↔ key = key' := by
  refine ⟨fun h => ?_, fun h => h ▸ rfl⟩
  rw [unknownFieldWarning, unknownFieldWarning] at h
  exact quote_inj.mp (List.append_cancel_left (List.append_cancel_right h))

theorem unknownFieldWarning_ne_reparseWarning (key : Bytes) :
    unknownFieldWarning key ≠ reparseWarning := fun h => by
  have hhead : (unknownFieldWarning key).head? = reparseWarning.head? := by rw [h]
  cases hhead

/-! ## All warnings -/

/-- The warnings that keys lead to: one for each unknown key, in ascending order. -/
structure WarnsOf (keys : List Bytes) (warnings : List Bytes) : Prop where
  ascending : warnings.Pairwise (· < ·)
  exact_keys : ∃ unknown : List Bytes, unknown.Nodup ∧
    (∀ key, key ∈ unknown ↔ key ∈ keys ∧ key ≠ ignoredKey ∧ ∀ f : Field, key ≠ f.key) ∧
    warnings.Perm (unknown.map unknownFieldWarning)

namespace WarnsOf

variable {keys keys' warnings warnings' : List Bytes}

/-- One warning for each unknown key, and once where it is repeated. -/
theorem of_perm (hascending : warnings.Pairwise (· < ·))
    (hperm : warnings.Perm ((keys.eraseDups.filter isUnknownKey).map unknownFieldWarning)) :
    WarnsOf keys warnings := by
  refine ⟨hascending, _, (nodup_eraseDups keys).filter isUnknownKey, fun key => ?_, hperm⟩
  rw [List.mem_filter, List.mem_eraseDups, isUnknownKey_iff]

theorem mem_iff (h : WarnsOf keys warnings) {w : Bytes} :
    w ∈ warnings ↔ ∃ key ∈ keys, isUnknownKey key = true ∧ unknownFieldWarning key = w := by
  obtain ⟨unknown, -, hunknown, hperm⟩ := h.exact_keys
  rw [hperm.mem_iff, List.mem_map]
  simp only [hunknown, isUnknownKey_iff, and_assoc]

/-- Nothing but the set of the keys counts. -/
theorem unique (h : WarnsOf keys warnings) (h' : WarnsOf keys' warnings')
    (hkeys : ∀ key, key ∈ keys ↔ key ∈ keys') : warnings = warnings' := by
  refine h.ascending.eq_of_mem_iff h'.ascending fun w => ?_
  simp only [h.mem_iff, h'.mem_iff, hkeys]

theorem reparseWarning_not_mem (h : WarnsOf keys warnings) : reparseWarning ∉ warnings := by
  rw [h.mem_iff]
  rintro ⟨key, -, -, hwarning⟩
  exact unknownFieldWarning_ne_reparseWarning key hwarning

end WarnsOf

theorem unknownFieldWarnings_object {data : Bytes} {members : List (Bytes × Json)}
    (hdoc : Json.parse? data = some (.object members)) :
    WarnsOf (members.map (·.1)) (unknownFieldWarnings data) := by
  have hwarnings : unknownFieldWarnings data
      = Bytes.sort (((Json.keySet members).filter isUnknownKey).map unknownFieldWarning) := by
    rw [unknownFieldWarnings, hdoc]
  have hkeys : (Json.keySet members).Perm (members.map (·.1)).eraseDups := List.mergeSort_perm _ _
  have hnodup := (hkeys.nodup_iff.mpr (nodup_eraseDups _)).filter isUnknownKey
  rw [hwarnings]
  exact .of_perm (Bytes.pairwise_sort (hnodup.map fun _ _ => unknownFieldWarning_inj.mp))
    ((List.mergeSort_perm _ _).trans ((hkeys.filter isUnknownKey).map unknownFieldWarning))

namespace Config

/-- A readable document is an object or null. -/
theorem exists_parse?_of_decode? {data : Bytes} {c : Config} (h : decode? data = some c) :
    Json.parse? data = some .null ∨ ∃ members, Json.parse? data = some (.object members) := by
  rw [decode?] at h
  cases hdoc : Json.parse? data with
  | none => simp [hdoc] at h
  | some doc => cases doc <;> simp_all [ofJson?]

/-- The warnings of a readable document are those of its keys. -/
theorem exists_warnsOf {data : Bytes} {c : Config} {warnings : List Bytes}
    (h : decodeWithWarnings data = .ok (c, warnings)) :
    ∃ doc, Json.parse? data = some doc ∧ WarnsOf doc.topKeys warnings := by
  obtain ⟨hc, rfl⟩ := decodeWithWarnings_eq_ok_iff.1 h
  rcases exists_parse?_of_decode? hc with hnull | ⟨members, hobject⟩
  · refine ⟨.null, hnull, ?_⟩
    rw [unknownFieldWarnings, hnull]
    exact ⟨.nil, [], .nil, by simp [Json.topKeys], .nil⟩
  · exact ⟨.object members, hobject, unknownFieldWarnings_object hobject⟩

/-- Members that change places leave a document readable. -/
theorem exists_decodeWithWarnings_perm {data data' : Bytes} {members members' : List (Bytes × Json)}
    {c : Config} {warnings : List Bytes} (h : decodeWithWarnings data = .ok (c, warnings))
    (hdoc : Json.parse? data = some (.object members)) (hperm : members'.Perm members)
    (hdoc' : Json.parse? data' = some (.object members')) :
    ∃ c' warnings', decodeWithWarnings data' = .ok (c', warnings') := by
  have hfit := (exists_decodeWithWarnings_iff hdoc).mp ⟨c, warnings, h⟩
  exact (exists_decodeWithWarnings_iff hdoc').mpr fun m hm => hfit m (hperm.mem_iff.mp hm)

/-- The warnings of a readable document: in ascending order, one for each key on its top level that is
neither passed over nor that of a field, never the one about a text that is no object, and the same in
every order of the members. -/
theorem warnings_canonical {data : Bytes} {c : Config} {warnings : List Bytes}
    (h : decodeWithWarnings data = .ok (c, warnings)) :
    warnings.Pairwise (· < ·) ∧
      (∃ (doc : Json) (unknown : List Bytes), Json.parse? data = some doc ∧ unknown.Nodup ∧
        (∀ key, key ∈ unknown ↔ key ∈ doc.topKeys ∧ key ≠ utf8 "$schema" ∧ ∀ f : Field, key ≠ f.key) ∧
        warnings.Perm (unknown.map unknownFieldWarning)) ∧
      reparseWarning ∉ warnings ∧
      ∀ members members' data', Json.parse? data = some (.object members) →
        members'.Perm members → Json.parse? data' = some (.object members') →
        ∃ c', decodeWithWarnings data' = .ok (c', warnings) := by
  obtain ⟨doc, hdoc, hwarns⟩ := exists_warnsOf h
  obtain ⟨unknown, hnodup, hunknown, hperm⟩ := hwarns.exact_keys
  refine ⟨hwarns.ascending, ⟨doc, unknown, hdoc, hnodup, hunknown, hperm⟩,
    hwarns.reparseWarning_not_mem, ?_⟩
  intro members members' data' hmembers hreordered hdoc'
  obtain ⟨c', warnings', h'⟩ := exists_decodeWithWarnings_perm h hmembers hreordered hdoc'
  obtain ⟨-, hwarnings'⟩ := decodeWithWarnings_eq_ok_iff.1 h'
  obtain ⟨-, hwarnings⟩ := decodeWithWarnings_eq_ok_iff.1 h
  have hsame : warnings' = warnings := by
    rw [← hwarnings, ← hwarnings']
    exact (unknownFieldWarnings_object hdoc').unique (unknownFieldWarnings_object hmembers)
      fun key => (hreordered.map _).mem_iff
  exact ⟨c', hsame ▸ h'⟩

/-- A repeated key is warned of once, and where it stands makes no difference. -/
theorem warnings_canonical_repeated :
    decodeWithWarnings "\x7b\"b\":1,\"mode\":\"lenient\",\"a\":2,\"b\":3\x7d"
        = .ok ({ mode := lenient }, [unknownFieldWarning "a", unknownFieldWarning "b"])
      ∧ ∃ c, decodeWithWarnings "\x7b\"b\":3,\"a\":2,\"mode\":\"lenient\",\"b\":1\x7d"
        = .ok (c, [unknownFieldWarning "a", unknownFieldWarning "b"]) := by
  have hdoc : Json.parse? "\x7b\"b\":1,\"mode\":\"lenient\",\"a\":2,\"b\":3\x7d"
      = some (.object [(utf8 "b", .number "1"), (utf8 "mode", .string "lenient"),
        (utf8 "a", .number "2"), (utf8 "b", .number "3")]) := by
    decide +kernel
  have hwarns : WarnsOf [utf8 "b", utf8 "mode", utf8 "a", utf8 "b"]
      [unknownFieldWarning "a", unknownFieldWarning "b"] :=
    .of_perm (by decide) (by decide +kernel)
  have hread : decodeWithWarnings "\x7b\"b\":1,\"mode\":\"lenient\",\"a\":2,\"b\":3\x7d"
      = .ok ({ mode := lenient }, [unknownFieldWarning "a", unknownFieldWarning "b"]) :=
    decodeWithWarnings_eq_ok_iff.2
      ⟨by decide +kernel, (unknownFieldWarnings_object hdoc).unique hwarns fun _ => Iff.rfl⟩
  exact ⟨hread, (warnings_canonical hread).2.2.2 _ _ _ hdoc (List.reverse_perm _) (by decide +kernel)⟩

end Config

end Golden
