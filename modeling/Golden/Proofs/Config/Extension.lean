import Golden.Proofs.Config.Admission
import Golden.Proofs.Fixture.Names
import Golden.Proofs.Text.Characters
import Mathlib.Computability.Language

/-!
# Extensions of programs

What an extension has to look like is said three times: by the pattern in the schema, by the check of a
configuration, and by how discovery takes file names apart. The pattern is about characters and the
others are about bytes; since it only names ASCII characters, this makes no difference
(`mem_extensionForm_iff`). An extension is accepted iff discovery can use it, and the pattern lets
through two more, those of the other roles (`checkExtension_usable`).
-/

namespace Golden

/-! ## Patterns -/

/-- Patterns of the kind that the schema uses. -/
inductive Pattern where
  /-- This character. -/
  | char (c : Char)
  /-- One character, which is none of these. -/
  | noneOf (cs : List Char)
  /-- One pattern after the other. -/
  | seq (p q : Pattern)
  /-- A pattern once or more often. -/
  | plus (p : Pattern)

namespace Pattern

/-- The texts that have the form of a pattern. -/
def language : Pattern → Language Char
  | char c => {[c]}
  | noneOf cs => {w | ∃ c, c ∉ cs ∧ w = [c]}
  | seq p q => p.language * q.language
  | plus p => p.language * KStar.kstar p.language

/-- A character with a backslash in front of it, where it would otherwise have a meaning of its own. -/
def escape (special : String) (c : Char) : List Char := if c ∈ special.toList then ['\\', c] else [c]

/-- Does the pattern stand for one character? Such a pattern needs no parentheses. -/
def isAtom : Pattern → Bool
  | char _ | noneOf _ => true
  | seq _ _ | plus _ => false

/-- How a pattern is written. -/
def text : Pattern → List Char
  | char c => escape "\\.+*?()[]{}^$|" c
  | noneOf cs => '[' :: '^' :: cs.flatMap (escape "\\]^-") ++ [']']
  | seq p q => p.text ++ q.text
  | plus p => (if p.isAtom then p.text else '(' :: p.text ++ [')']) ++ ['+']

variable {c : Char} {cs w : List Char} {p q : Pattern}

theorem mem_char_iff : w ∈ (char c).language ↔ w = [c] := Iff.rfl

theorem mem_noneOf_iff : w ∈ (noneOf cs).language ↔ ∃ c, c ∉ cs ∧ w = [c] := Iff.rfl

theorem mem_seq_iff : w ∈ (seq p q).language ↔ ∃ u ∈ p.language, ∃ v ∈ q.language, u ++ v = w :=
  Language.mem_mul

theorem mem_plus_iff :
    w ∈ (plus p).language ↔
      ∃ u ∈ p.language, ∃ vs : List (List Char), (∀ v ∈ vs, v ∈ p.language) ∧ u ++ vs.flatten = w := by
  rw [language, Language.mem_mul]
  refine exists_congr fun u => and_congr_right fun _ => ?_
  constructor
  · rintro ⟨_, ⟨vs, rfl, hvs⟩, happend⟩
    exact ⟨vs, hvs, happend⟩
  · rintro ⟨vs, hvs, happend⟩
    exact ⟨_, ⟨vs, rfl, hvs⟩, happend⟩

/-- Single characters one after the other are a text of such characters. -/
theorem mem_plus_noneOf_iff : w ∈ (plus (noneOf cs)).language ↔ w ≠ [] ∧ ∀ c ∈ w, c ∉ cs := by
  rw [mem_plus_iff]
  constructor
  · rintro ⟨u, hu, vs, hvs, rfl⟩
    obtain ⟨c, hc, rfl⟩ := mem_noneOf_iff.mp hu
    refine ⟨by simp, fun d hd => ?_⟩
    rcases List.mem_cons.mp hd with rfl | hd
    · exact hc
    · obtain ⟨v, hv, hdv⟩ := List.mem_flatten.mp hd
      obtain ⟨e, he, rfl⟩ := mem_noneOf_iff.mp (hvs v hv)
      rw [List.mem_singleton.mp hdv]
      exact he
  · rintro ⟨hne, hall⟩
    obtain ⟨c, w, rfl⟩ := List.exists_cons_of_ne_nil hne
    refine ⟨[c], mem_noneOf_iff.mpr ⟨c, hall c List.mem_cons_self, rfl⟩, w.map fun d => [d], ?_, ?_⟩
    · intro v hv
      obtain ⟨d, hd, rfl⟩ := List.mem_map.mp hv
      exact mem_noneOf_iff.mpr ⟨d, hall d (List.mem_cons_of_mem c hd), rfl⟩
    · rw [List.singleton_append, ← List.flatMap_def, List.flatMap_singleton']

end Pattern

/-! ## The form of extensions -/

/-- The form of extensions: a dot, and something without dots and slashes behind it. -/
def extensionForm : Pattern :=
  .seq (.char '.') (.plus (.noneOf (extensionBreakers.map asciiChar)))

/-- The pattern in the schema is for texts that have this form as a whole. -/
theorem extensionPattern_eq :
    Schema.extensionPattern = utf8 (String.ofList ('^' :: extensionForm.text ++ ['$'])) := by
  decide

theorem extensionBreakers_ascii : ∀ b ∈ extensionBreakers, b < 0x80 := by
  decide +kernel

/-- The check of the bytes looks for the form that the pattern describes. -/
theorem mem_extensionForm_iff {e : Bytes} :
    characters e ∈ extensionForm.language ↔ Schema.matchesExtension e = true := by
  rw [matchesExtension_iff, extensionForm, Pattern.mem_seq_iff]
  constructor
  · rintro ⟨u, hu, v, hv, happend⟩
    obtain rfl := Pattern.mem_char_iff.mp hu
    obtain ⟨hne, hall⟩ := Pattern.mem_plus_noneOf_iff.mp hv
    obtain ⟨name, rfl, rfl⟩ := (characters_eq_cons_iff (b := ('.' : UInt8)) (by decide)).mp happend.symm
    refine ⟨name, rfl, mt characters_eq_nil_iff.mpr hne, fun b hb hmem => ?_⟩
    have hshown := (mem_characters_iff (extensionBreakers_ascii b hb)).mpr hmem
    exact hall _ hshown (List.mem_map_of_mem hb)
  · rintro ⟨name, rfl, hne, hnone⟩
    refine ⟨['.'], rfl, characters name, Pattern.mem_plus_noneOf_iff.mpr ⟨?_, ?_⟩, ?_⟩
    · exact mt characters_eq_nil_iff.mp hne
    · intro c hshown hc
      obtain ⟨b, hb, rfl⟩ := List.mem_map.mp hc
      exact hnone b hb ((mem_characters_iff (extensionBreakers_ascii b hb)).mp hshown)
    · exact (characters_cons (b := ('.' : UInt8)) (by decide) name).symm

/-! ## Extensions that discovery can use -/

/-- With the extension for programs, every role of every fixture has its file: the name that is put
together from the identifier and the extension of the role is taken apart again in the same way. -/
def Usable (extension : Bytes) : Prop :=
  ∀ id role, id ≠ [] → classify? (id ++ Role.extension extension role) extension = some (id, role)

/-- An extension that is usable is of the form that names are split at, and gives no other role its
extension. -/
theorem Usable.isExtension {e : Bytes} (h : Usable e) :
    IsExtension e ∧ e ≠ inputExtension ∧ e ≠ expectedExtension := by
  -- one identifier is enough, and one role for each of the extensions that it would take over
  refine ⟨isExtension_of_classify? (h "a" .program (by decide)), ?_, ?_⟩
  · rintro rfl
    exact absurd (h "a" .input (by decide)) (by decide)
  · rintro rfl
    exact absurd (h "a" .expected (by decide)) (by decide)

theorem usable_of_checkExtension {e : Bytes} (h : checkExtension e = .ok ()) : Usable e :=
  fun _ _ hid => (classify?_eq_some_iff h).mpr ⟨hid, rfl⟩

/-- An extension is accepted iff it has no slashes and discovery can use it. The pattern of the schema
admits these and the extensions of the other two roles, and the schema admits what has the form of the
pattern. -/
theorem checkExtension_usable (extension : Bytes) :
    (checkExtension extension = .ok () ↔
      ('/' : UInt8) ∉ extension ∧ ('\\' : UInt8) ∉ extension ∧ Usable extension) ∧
    (characters extension ∈ extensionForm.language ↔
      checkExtension extension = .ok () ∨ extension = inputExtension ∨ extension = expectedExtension) ∧
    ∀ pointer, Schema.check pointer .extension (.string extension) = [] ↔
      characters extension ∈ extensionForm.language := by
  refine ⟨⟨fun h => ?_, ?_⟩, ?_, fun pointer => ?_⟩
  · obtain ⟨hmatches, -, -⟩ := Config.checkExtension_eq_ok_iff.mp h
    obtain ⟨-, hslash, hbackslash⟩ := matchesExtension_iff_isExtension.mp hmatches
    exact ⟨hslash, hbackslash, usable_of_checkExtension h⟩
  · rintro ⟨hslash, hbackslash, husable⟩
    obtain ⟨hform, hinput, hexpected⟩ := husable.isExtension
    have hmatches := matchesExtension_iff_isExtension.mpr ⟨hform, hslash, hbackslash⟩
    exact Config.checkExtension_eq_ok_iff.mpr ⟨hmatches, hinput, hexpected⟩
  · rw [mem_extensionForm_iff, Config.checkExtension_eq_ok_iff]
    constructor
    · intro hmatches
      by_cases hinput : extension = inputExtension
      · exact .inr (.inl hinput)
      · by_cases hexpected : extension = expectedExtension
        · exact .inr (.inr hexpected)
        · exact .inl ⟨hmatches, hinput, hexpected⟩
    · rintro (⟨hmatches, -, -⟩ | rfl | rfl)
      · exact hmatches
      · decide
      · decide
  · rw [mem_extensionForm_iff, Schema.check_eq_nil_iff]
    constructor
    · rintro ⟨e, hstring, hmatches⟩
      cases hstring
      exact hmatches
    · intro hmatches
      exact ⟨extension, rfl, hmatches⟩

end Golden
