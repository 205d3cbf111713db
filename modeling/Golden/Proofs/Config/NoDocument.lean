import Golden.Proofs.Config.Members
import Golden.Proofs.Config.Settings
import Golden.Proofs.Files.Clean
import Golden.Proofs.Yaml.Comments
import Golden.Proofs.Yaml.Source

/-!
# Configuration files without a document

A YAML file of empty lines, spaces and comments holds no document. What is made of it depends on the
comments: without one the text is blank and counts as an empty configuration, but a single number sign
makes the same file unreadable.
-/

namespace Golden

namespace Config

open Yaml (NoDocument isPlainByte isPrintableAscii)

/-- The sign that starts a comment. -/
def commentSign : UInt8 := 0x23

/-- A line without content: spaces, or a comment behind spaces. -/
inductive IsVoidLine : Bytes → Prop
  | spaces (n : Nat) : IsVoidLine (List.replicate n 0x20)
  | comment (n : Nat) {text : Bytes} (htext : ∀ b ∈ text, 0x20 ≤ b ∧ b ≤ 0x7e) :
    IsVoidLine (List.replicate n 0x20 ++ commentSign :: text)

namespace IsVoidLine

variable {line : Bytes}

theorem range {b : UInt8} (h : IsVoidLine line) (hb : b ∈ line) : 0x20 ≤ b ∧ b ≤ 0x7e := by
  cases h with
  | spaces n =>
    obtain rfl := List.eq_of_mem_replicate hb
    decide
  | comment n htext =>
    rw [List.mem_append, List.mem_cons] at hb
    obtain hb | rfl | hb := hb
    · obtain rfl := List.eq_of_mem_replicate hb
      decide
    · decide
    · exact htext b hb

/-- A line without content that starts no comment has spaces only. -/
theorem eq_space {b : UInt8} (h : IsVoidLine line) (hsign : commentSign ∉ line) (hb : b ∈ line) :
    b = 0x20 := by
  cases h with
  | spaces n => exact List.eq_of_mem_replicate hb
  | comment n _ => exact absurd (List.mem_append_right _ List.mem_cons_self) hsign

end IsVoidLine

/-! ## Characters without a document -/

section Characters

variable {cs : List Char}

theorem isPrintableAscii_asciiChar {b : UInt8} (h : 0x20 ≤ b ∧ b ≤ 0x7e) :
    isPrintableAscii (asciiChar b) := by
  have hval := val_asciiChar b
  have hlo := UInt8.le_iff_toNat_le.mp h.1
  have hhi := UInt8.le_iff_toNat_le.mp h.2
  simp only [isPrintableAscii, Bool.and_eq_true, decide_eq_true_eq, Char.le_def, UInt32.le_iff_toNat_le,
    hval]
  exact ⟨hlo, hhi⟩

theorem noDocument_spaces (n : Nat) (h : NoDocument false cs) :
    NoDocument false ((List.replicate n 0x20).map asciiChar ++ cs) := by
  induction n with
  | zero => exact h
  | succ n ih => exact .space ih

theorem noDocument_text {text : Bytes} (htext : ∀ b ∈ text, 0x20 ≤ b ∧ b ≤ 0x7e) (h : NoDocument true cs) :
    NoDocument true (text.map asciiChar ++ cs) := by
  induction text with
  | nil => exact h
  | cons b text ih =>
    exact .text (isPrintableAscii_asciiChar (htext b List.mem_cons_self))
      (ih fun a ha => htext a (List.mem_cons_of_mem b ha))

/-- A line without content may stand in front of what comes behind any line. -/
theorem IsVoidLine.noDocument {line : Bytes} (h : IsVoidLine line) (hrest : ∀ b, NoDocument b cs) :
    NoDocument false (line.map asciiChar ++ cs) := by
  cases h with
  | spaces n => exact noDocument_spaces n (hrest false)
  | comment n htext =>
    rw [List.map_append, List.append_assoc]
    exact noDocument_spaces n (.sign (noDocument_text htext (hrest true)))

theorem noDocument_join {lines : List Bytes} (h : ∀ line ∈ lines, IsVoidLine line) :
    NoDocument false ((Bytes.join [0x0a] lines).map asciiChar) := by
  induction lines with
  | nil => exact .done _
  | cons line lines ih =>
    have hline := h line List.mem_cons_self
    cases lines with
    | nil =>
      rw [← List.append_nil (List.map _ _)]
      exact hline.noDocument .done
    | cons next lines =>
      rw [Bytes.join_cons_cons, List.append_assoc, List.map_append]
      exact hline.noDocument fun b => .newline b (ih fun l hl => h l (List.mem_cons_of_mem line hl))

end Characters

/-! ## Blank texts -/

section Lines

variable {lines : List Bytes}

theorem isPlainByte_of_mem_join (h : ∀ line ∈ lines, IsVoidLine line) {b : UInt8}
    (hb : b ∈ Bytes.join [0x0a] lines) : isPlainByte b := by
  simp only [isPlainByte, Bool.or_eq_true, Bool.and_eq_true, beq_iff_eq, decide_eq_true_eq]
  obtain hb | ⟨line, hline, hb⟩ := Bytes.mem_of_mem_join hb
  · exact .inl (List.mem_singleton.mp hb)
  · exact .inr ((h line hline).range hb)

/-- A text of lines without content is blank exactly if none of them starts a comment. -/
theorem isBlank_join_iff (h : ∀ line ∈ lines, IsVoidLine line) :
    isBlank (Bytes.join [0x0a] lines) ↔ ¬∃ line ∈ lines, commentSign ∈ line := by
  have hrunes := runes_ascii fun b hb => Yaml.lt_of_isPlainByte (isPlainByte_of_mem_join h hb)
  rw [isBlank, hrunes, List.all_map, List.all_eq_true]
  constructor
  · rintro hblank ⟨line, hline, hsign⟩
    exact absurd (hblank commentSign (Bytes.mem_join_of_mem hline hsign)) (by decide)
  · intro hsign b hb
    obtain hb | ⟨line, hline, hb⟩ := Bytes.mem_of_mem_join hb
    · obtain rfl := List.mem_singleton.mp hb
      rfl
    · obtain rfl := (h line hline).eq_space (fun hmem => hsign ⟨line, hline, hmem⟩) hb
      rfl

/-- Without a comment the text counts as an empty configuration, with one as a malformed document. -/
theorem yamlToJson_join (h : ∀ line ∈ lines, IsVoidLine line) :
    yamlToJson (Bytes.join [0x0a] lines) =
      if ∃ line ∈ lines, commentSign ∈ line then .error parseFault else .ok emptyDocument := by
  have hfault : Yaml.toJson (Bytes.join [0x0a] lines) = .error .malformed :=
    Yaml.toJson_of_noDocument (Yaml.ofBytes_at fun b hb => isPlainByte_of_mem_join h hb) (noDocument_join h)
  rw [yamlToJson, hfault]
  simp only [isBlank_join_iff h, ite_not]

end Lines

/-! ## Loading -/

/-- The empty configuration is accepted without a warning and filled up with defaults. -/
theorem loadAndValidate_emptyDocument {t : Tree} {path : Bytes}
    (h : readAsJson t path = .ok emptyDocument) :
    loadAndValidate t path = { result := .ok Config.default, warnings := [] } := by
  have hschema : Schema.validate emptyDocument = .ok () := rfl
  have hdoc : Json.parse? emptyDocument = some (.object []) := by decide +kernel
  have hdecode : decodeWithWarnings emptyDocument = .ok ({}, []) :=
    decodeWithWarnings_eq_ok_iff.2 ⟨by decide +kernel, unknownFieldWarnings_eq hdoc .nil rfl .nil⟩
  have hcomplete : complete path {} = .ok Config.default := rfl
  rw [loadAndValidate, h]
  simp only [hschema, hdecode, hcomplete]

/-- A YAML file of any number of lines without content gives the default configuration, with no warning,
unless one of the lines is a comment. A file with a comment is refused: the reader reports the missing
document as a fault, and only a text of white space is taken for an empty configuration all the same. -/
theorem loadAndValidate_voidLines {lines : List Bytes} (h : ∀ line ∈ lines, IsVoidLine line) :
    (yamlToJson (Bytes.join [0x0a] lines) =
      if ∃ line ∈ lines, commentSign ∈ line then .error parseFault else .ok emptyDocument) ∧
    ∀ t path, isYamlPath path → t.read path = .ok (Bytes.join [0x0a] lines) →
      loadAndValidate t path =
        { result := if ∃ line ∈ lines, commentSign ∈ line then .error parseFault else .ok Config.default
          warnings := [] } := by
  refine ⟨yamlToJson_join h, fun t path hyaml hread => ?_⟩
  have hjson : readAsJson t path = yamlToJson (Bytes.join [0x0a] lines) := by
    rw [readAsJson, hread]
    exact if_pos hyaml
  rw [yamlToJson_join h] at hjson
  split_ifs at hjson with hcomment
  · rw [if_pos hcomment, loadAndValidate, hjson]
  · rw [if_neg hcomment]
    exact loadAndValidate_emptyDocument hjson

def blankLines : List Bytes := [[], "  "]

def commentedLines : List Bytes := [[], "  # no settings"]

theorem blankLines_void : ∀ line ∈ blankLines, IsVoidLine line := by
  simp only [blankLines, List.forall_mem_cons]
  exact ⟨.spaces 0, .spaces 2, nofun⟩

theorem commentedLines_void : ∀ line ∈ commentedLines, IsVoidLine line := by
  have htext : ∀ b ∈ utf8 " no settings", 0x20 ≤ b ∧ b ≤ 0x7e := by decide +kernel
  simp only [commentedLines, List.forall_mem_cons]
  exact ⟨.spaces 0, .comment 2 htext, nofun⟩

/-- A file of blank lines, and one with a comment behind them. -/
def voidTree : Tree where
  cwd := []
  entries := [(["blank.yaml"], .file "\n  "), (["comment.yml"], .file "\n  # no settings")]

theorem loadAndValidate_voidTree :
    (∀ line ∈ blankLines, IsVoidLine line) ∧ (∀ line ∈ commentedLines, IsVoidLine line) ∧
      loadAndValidate voidTree "blank.yaml" = { result := .ok Config.default } ∧
      loadAndValidate voidTree "comment.yml" = { result := .error parseFault } := by
  have hblank : voidTree.read "blank.yaml" = .ok (Bytes.join [0x0a] blankLines) := rfl
  have hcommented : voidTree.read "comment.yml" = .ok (Bytes.join [0x0a] commentedLines) := rfl
  refine ⟨blankLines_void, commentedLines_void, ?_, ?_⟩
  · rw [(loadAndValidate_voidLines blankLines_void).2 _ _ (by decide +kernel) hblank,
      if_neg (by decide)]
  · rw [(loadAndValidate_voidLines commentedLines_void).2 _ _ (by decide +kernel) hcommented,
      if_pos (by decide)]

/-- Not every text without a document is taken for an empty configuration. -/
theorem comment_not_emptyDocument :
    ¬∀ lines : List Bytes, (∀ line ∈ lines, IsVoidLine line) →
      yamlToJson (Bytes.join [0x0a] lines) = .ok emptyDocument := by
  intro hempty
  have hcommented := hempty commentedLines commentedLines_void
  rw [yamlToJson_join commentedLines_void, if_pos (by decide)] at hcommented
  cases hcommented

end Config

end Golden
