import Golden.Config.Load

/-!
# The configuration that a file gives

A file passes through four stages until it is accepted, and each of them can refuse it. `Config.Gives`
says what all four ask for; loading succeeds exactly then.
-/

namespace Golden.Config

/-- The file at a path gives this configuration: it can be read as a document, has the shape that the
schema asks for, can be decoded, and is valid once the defaults are filled in. -/
def Gives (t : Tree) (path : Bytes) (c : Config) : Prop :=
  ∃ data decoded, readAsJson t path = .ok data ∧ Schema.validate data = .ok () ∧
    decode data = .ok decoded ∧ c = decoded.withDefaults ∧ c.validate = .ok ()

theorem complete_eq_ok_iff {path : Bytes} {decoded c : Config} :
    complete path decoded = .ok c ↔ c = decoded.withDefaults ∧ c.validate = .ok () := by
  unfold complete
  split
  · rename_i hvalid
    constructor
    · rintro ⟨⟩
      exact ⟨rfl, hvalid⟩
    · rintro ⟨rfl, -⟩
      rfl
  · rename_i issue hissue
    refine iff_of_false nofun ?_
    rintro ⟨rfl, hvalid⟩
    rw [hissue] at hvalid
    cases hvalid

theorem loadAndValidate_eq_ok_iff {t : Tree} {path : Bytes} {c : Config} :
    (loadAndValidate t path).result = .ok c ↔ Gives t path c := by
  unfold loadAndValidate Gives
  cases hread : readAsJson t path with
  | error e => simp
  | ok data =>
    cases hschema : Schema.validate data with
    | error e => simp [hschema]
    | ok _ =>
      cases hdecode : decode data with
      | error e => simp [hschema, hdecode, decodeWithWarnings]
      | ok decoded => simp [hschema, hdecode, decodeWithWarnings, complete_eq_ok_iff]

/-- What an accepted file gives is what it sets, filled up with defaults. -/
theorem Gives.load {t : Tree} {path : Bytes} {c : Config} (h : Gives t path c) :
    ∃ decoded, load t path = .ok decoded ∧ c = decoded.withDefaults := by
  obtain ⟨data, decoded, hread, -, hdecode, hc, -⟩ := h
  refine ⟨decoded, ?_, hc⟩
  rw [Config.load, hread]
  exact hdecode

theorem Gives.validate {t : Tree} {path : Bytes} {c : Config} (h : Gives t path c) :
    c.validate = .ok () := by
  obtain ⟨-, -, -, -, -, -, hvalid⟩ := h
  exact hvalid

end Golden.Config
