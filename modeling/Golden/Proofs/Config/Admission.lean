import Golden.Config.Schema
import Mathlib.Tactic.SplitIfs

/-!
# What the schema admits

`Schema.check` collects violations. A value has none exactly when its rule admits it
(`check_eq_nil_iff`), and a text is valid exactly when it is an object in which the last value of every
key with a rule is admitted (`validate_eq_ok_iff`).
-/

namespace Golden

/-- The values that follow a rule. -/
def Rule.Admits (rule : Rule) (v : Json) : Prop :=
  match rule with
  | .text minLength => ∃ s, v = .string s ∧ minLength ≤ runeCount s
  | .extension => ∃ s, v = .string s ∧ Schema.matchesExtension s = true
  | .texts minItems minLength => ∃ items, v = .array items ∧ minItems ≤ items.length
      ∧ ∀ item ∈ items, ∃ s, item = .string s ∧ minLength ≤ runeCount s
  | .word choices => ∃ s ∈ choices, v = .string s
  | .integer low high => ∃ literal i, v = .number literal
      ∧ (Json.Decimal.ofLiteral literal).integer? = some i ∧ low ≤ i ∧ i ≤ high

namespace Schema

/-! ## One value -/

theorem checkText_eq_none_iff {pointer : Bytes} {minLength : Nat} {v : Json} :
    checkText pointer minLength v = none ↔ ∃ s, v = .string s ∧ minLength ≤ runeCount s := by
  cases v <;> simp [checkText]

theorem checkItems_eq_nil_iff {pointer : Bytes} {minLength : Nat} {items : List Json} :
    checkItems pointer minLength items = []
      ↔ ∀ item ∈ items, ∃ s, item = .string s ∧ minLength ≤ runeCount s := by
  have hitems : items = items.zipIdx.map Prod.fst := by simp
  rw [checkItems, List.filterMap_eq_nil_iff]
  constructor
  · intro h item hitem
    rw [hitems] at hitem
    obtain ⟨place, hplace, rfl⟩ := List.mem_map.1 hitem
    exact checkText_eq_none_iff.1 (h place hplace)
  · intro h place hplace
    have hitem : place.1 ∈ items := by
      rw [hitems]
      exact List.mem_map_of_mem hplace
    exact checkText_eq_none_iff.2 (h place.1 hitem)

theorem bundle_eq_nil_iff {pointer : Bytes} {vs : List Violation} : bundle pointer vs = [] ↔ vs = [] := by
  cases vs with
  | nil => simp [bundle]
  | cons v vs => cases vs <;> simp [bundle]

/-- A value violates nothing exactly when its rule admits it. -/
theorem check_eq_nil_iff {pointer : Bytes} {rule : Rule} {v : Json} :
    check pointer rule v = [] ↔ rule.Admits v := by
  cases rule with
  | text minLength => simp only [check, Option.toList_eq_nil_iff, checkText_eq_none_iff, Rule.Admits]
  | extension => cases v <;> simp [check, Rule.Admits]
  | texts minItems minLength =>
    cases v with
    | array items =>
      simp only [check, bundle_eq_nil_iff, List.append_eq_nil_iff, checkItems_eq_nil_iff, Rule.Admits]
      simp
    | _ => simp [check, Rule.Admits]
  | word choices => cases v <;> simp [check, Rule.Admits]
  | integer low high =>
    cases v with
    | number literal =>
      cases hvalue : (Json.Decimal.ofLiteral literal).integer? with
      | none => simp [check, Rule.Admits, hvalue]
      | some i =>
        have hadmits : (Rule.integer low high).Admits (.number literal) ↔ low ≤ i ∧ i ≤ high := by
          simp only [Rule.Admits]
          constructor
          · rintro ⟨_, j, ⟨⟩, hj, hrange⟩
            obtain rfl := Option.some.inj (hvalue.symm.trans hj)
            exact hrange
          · intro hrange
            exact ⟨literal, i, rfl, hvalue, hrange⟩
        rw [hadmits]
        simp only [check, hvalue]
        split_ifs with hlow hhigh
        · exact iff_of_false (by simp) (by omega)
        · exact iff_of_false (by simp) (by omega)
        · exact iff_of_true rfl (by omega)
    | _ => simp [check, Rule.Admits]

/-! ## A document -/

theorem violations_object_eq_nil_iff {members : List (Bytes × Json)} :
    violations (.object members) = []
      ↔ ∀ entry ∈ rules, ∀ v, Json.lastMember? entry.1 members = some v → entry.2.Admits v := by
  simp only [violations, List.flatMap_eq_nil_iff]
  constructor
  · intro h entry hentry v hv
    have := h entry hentry
    rw [hv] at this
    exact check_eq_nil_iff.1 this
  · intro h entry hentry
    cases hv : Json.lastMember? entry.1 members with
    | none => rfl
    | some v => exact check_eq_nil_iff.2 (h entry hentry v hv)

/-- A text is valid exactly when it is an object in which the last value of every key with a rule is
admitted. -/
theorem validate_eq_ok_iff {data : Bytes} :
    validate data = .ok ()
      ↔ ∃ members, Json.parse? data = some (.object members)
        ∧ ∀ entry ∈ rules, ∀ v, Json.lastMember? entry.1 members = some v → entry.2.Admits v := by
  have hok : ∀ doc, Json.parse? data = some doc → (validate data = .ok () ↔ violations doc = []) := by
    intro doc hdoc
    rw [validate, hdoc]
    cases hvs : violations doc <;> simp [hvs]
  cases hdoc : Json.parse? data with
  | none => simp [validate, hdoc]
  | some doc =>
    rw [hok doc hdoc]
    cases doc with
    | object members => simp [violations_object_eq_nil_iff]
    | _ => simp [violations]

end Schema

end Golden
