import Golden.Fixture.Classify
import Golden.Proofs.Config.Validity

/-!
# A file name is its identifier and its extension

Splitting at the last dot loses nothing (`splitExtension?_eq_some_iff`), and a role has one extension, so
an identifier and a role determine the name of the file (`eq_append_of_classify?`). No two files of a
directory can therefore belong to one slot of a fixture. Where the extension of programs is one that is
accepted, a name that is put together from an identifier and the extension of a role is taken apart again
in the same way (`classify?_eq_some_iff`).
-/

namespace Golden

/-- The extension of the files of a role. -/
def Role.extension (programExtension : Bytes) : Role → Bytes
  | .program => programExtension
  | .input => inputExtension
  | .expected => expectedExtension

/-- A dot and a name without dots, which is what a file name is split into at its last dot. -/
def IsExtension (e : Bytes) : Prop := ∃ name, e = ('.' : UInt8) :: name ∧ name ≠ [] ∧ ('.' : UInt8) ∉ name

theorem splitExtension?_append {id e : Bytes} (hid : id ≠ []) (he : IsExtension e) :
    splitExtension? (id ++ e) = some (id, e) := by
  obtain ⟨name, rfl, hname, hdot⟩ := he
  have hfirst : id.length ≠ 0 := mt List.length_eq_zero_iff.mp hid
  have hlast : id.length + 1 ≠ (id ++ ('.' : UInt8) :: name).length := by
    have hlength : name.length ≠ 0 := mt List.length_eq_zero_iff.mp hname
    rw [List.length_append, List.length_cons]
    omega
  unfold splitExtension?
  rw [Bytes.lastIndexOf_append_cons hdot]
  dsimp only
  rw [if_neg (by simp only [hfirst, hlast, decide_false, Bool.or_false, Bool.false_eq_true,
    not_false_eq_true]), List.take_left, List.drop_left]

/-- A name is split into two parts that give it back, of which the one in front is not empty and the other
has its only dot at the front. -/
theorem splitExtension?_eq_some_iff {name id e : Bytes} :
    splitExtension? name = some (id, e) ↔ id ++ e = name ∧ id ≠ [] ∧ IsExtension e := by
  constructor
  · intro h
    unfold splitExtension? at h
    split at h
    · cases h
    · rename_i dot hdot
      split at h
      · cases h
      · rename_i hinner
        obtain ⟨before, after, rfl, hafter, rfl⟩ := Bytes.eq_append_cons_of_lastIndexOf hdot
        rw [List.take_left, List.drop_left] at h
        cases h
        refine ⟨rfl, ?_, after, rfl, ?_, hafter⟩
        · rintro rfl
          exact hinner (by simp)
        · rintro rfl
          exact hinner (by simp)
  · rintro ⟨rfl, hid, he⟩
    exact splitExtension?_append hid he

theorem extension_of_roleOf? {programExtension extension : Bytes} {role : Role}
    (h : roleOf? programExtension extension = some role) :
    extension = role.extension programExtension := by
  unfold roleOf? at h
  split at h
  · cases h; assumption
  · split at h
    · cases h; assumption
    · split at h
      · cases h; assumption
      · cases h

theorem classify?_eq_some {name programExtension id : Bytes} {role : Role}
    (h : classify? name programExtension = some (id, role)) :
    ∃ e, splitExtension? name = some (id, e) ∧ roleOf? programExtension e = some role := by
  unfold classify? at h
  split at h
  · cases h
  · rename_i id' e hsplit
    obtain ⟨role', hrole, hpair⟩ := Option.map_eq_some_iff.mp h
    cases hpair
    exact ⟨e, hsplit, hrole⟩

/-- The name of a file of a fixture, from its identifier and its role. -/
theorem eq_append_of_classify? {name programExtension id : Bytes} {role : Role}
    (h : classify? name programExtension = some (id, role)) :
    name = id ++ role.extension programExtension := by
  obtain ⟨e, hsplit, hrole⟩ := classify?_eq_some h
  rw [← extension_of_roleOf? hrole]
  exact (splitExtension?_eq_some_iff.mp hsplit).1.symm

/-- What belongs to a role has an extension of the form that names are split at. -/
theorem isExtension_of_classify? {name programExtension id : Bytes} {role : Role}
    (h : classify? name programExtension = some (id, role)) :
    IsExtension (role.extension programExtension) := by
  obtain ⟨e, hsplit, hrole⟩ := classify?_eq_some h
  rw [← extension_of_roleOf? hrole]
  exact (splitExtension?_eq_some_iff.mp hsplit).2.2

theorem not_classify?_nil (programExtension : Bytes) : classify? [] programExtension = none := rfl

/-! ## Extensions that are accepted -/

/-- The bytes that an extension has none of behind its dot. -/
def extensionBreakers : Bytes := ['.', '/', '\\']

theorem matchesExtension_iff {e : Bytes} :
    Schema.matchesExtension e = true ↔
      ∃ name, e = ('.' : UInt8) :: name ∧ name ≠ [] ∧ ∀ b ∈ extensionBreakers, b ∉ name := by
  cases e with
  | nil => exact iff_of_false (by decide) (by simp)
  | cons b name =>
    simp only [Schema.matchesExtension, Bool.and_eq_true, beq_iff_eq, Bool.not_eq_true',
      List.isEmpty_eq_false_iff, List.all_eq_true, Bool.or_eq_false_iff, beq_eq_false_iff_ne]
    constructor
    · rintro ⟨⟨rfl, hne⟩, hall⟩
      refine ⟨name, rfl, hne, fun c hc hmem => ?_⟩
      obtain ⟨⟨hdot, hslash⟩, hbackslash⟩ := hall c hmem
      simp only [extensionBreakers, List.mem_cons, List.not_mem_nil, or_false] at hc
      rcases hc with rfl | rfl | rfl
      · exact hdot rfl
      · exact hslash rfl
      · exact hbackslash rfl
    · rintro ⟨name', hcons, hne, hnone⟩
      obtain ⟨rfl, rfl⟩ := List.cons.inj hcons
      refine ⟨⟨rfl, hne⟩, fun c hmem => ⟨⟨?_, ?_⟩, ?_⟩⟩
      all_goals
        rintro rfl
        exact hnone _ (by decide) hmem

theorem matchesExtension_iff_isExtension {e : Bytes} :
    Schema.matchesExtension e = true ↔ IsExtension e ∧ ('/' : UInt8) ∉ e ∧ ('\\' : UInt8) ∉ e := by
  rw [matchesExtension_iff]
  constructor
  · rintro ⟨name, rfl, hne, hnone⟩
    have hslash : ('/' : UInt8) ∉ name := hnone _ (by decide)
    have hbackslash : ('\\' : UInt8) ∉ name := hnone _ (by decide)
    refine ⟨⟨name, rfl, hne, hnone _ (by decide)⟩, ?_, ?_⟩
    · exact List.not_mem_cons_of_ne_of_not_mem (by decide) hslash
    · exact List.not_mem_cons_of_ne_of_not_mem (by decide) hbackslash
  · rintro ⟨⟨name, rfl, hne, hdot⟩, hslash, hbackslash⟩
    refine ⟨name, rfl, hne, fun b hb => ?_⟩
    simp only [extensionBreakers, List.mem_cons, List.not_mem_nil, or_false] at hb
    rcases hb with rfl | rfl | rfl
    · exact hdot
    · exact List.not_mem_of_not_mem_cons hslash
    · exact List.not_mem_of_not_mem_cons hbackslash

theorem isExtension_of_checkExtension {e : Bytes} (h : checkExtension e = .ok ()) : IsExtension e :=
  (matchesExtension_iff_isExtension.mp (Config.checkExtension_eq_ok_iff.mp h).1).1

theorem Role.isExtension {programExtension : Bytes} (h : checkExtension programExtension = .ok ())
    (role : Role) : IsExtension (role.extension programExtension) := by
  cases role with
  | program => exact isExtension_of_checkExtension h
  | input => exact ⟨"in", rfl, by decide, by decide⟩
  | expected => exact ⟨"out", rfl, by decide, by decide⟩

theorem roleOf?_extension {programExtension : Bytes} (h : checkExtension programExtension = .ok ())
    (role : Role) : roleOf? programExtension (role.extension programExtension) = some role := by
  obtain ⟨-, hinput, hexpected⟩ := Config.checkExtension_eq_ok_iff.mp h
  cases role with
  | program => exact if_pos rfl
  | input => rw [roleOf?, Role.extension, if_neg hinput.symm, if_pos rfl]
  | expected =>
    rw [roleOf?, Role.extension, if_neg hexpected.symm, if_neg (by decide), if_pos rfl]

/-- The files of a fixture are those with its name and the extension of a role. -/
theorem classify?_eq_some_iff {programExtension name id : Bytes} {role : Role}
    (h : checkExtension programExtension = .ok ()) :
    classify? name programExtension = some (id, role) ↔
      id ≠ [] ∧ name = id ++ role.extension programExtension := by
  constructor
  · intro hc
    obtain ⟨e, hsplit, -⟩ := classify?_eq_some hc
    exact ⟨(splitExtension?_eq_some_iff.mp hsplit).2.1, eq_append_of_classify? hc⟩
  · rintro ⟨hid, rfl⟩
    rw [classify?, splitExtension?_append hid (role.isExtension h)]
    show (roleOf? _ _).map _ = _
    rw [roleOf?_extension h, Option.map_some]

end Golden
