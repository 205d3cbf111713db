import Golden.Proofs.Files.Walk
import Golden.Proofs.Text.Number
import Mathlib.Data.List.Nodup
import Mathlib.Data.List.Perm.Subperm

/-!
# Paths that are free

With different numbers behind it a path names different locations (`placeOf_append_decimal_inj`). So of more
numbers than there are entries one makes the path free, and the first free path is found
(`isFree_freePath`). A directory that is put there takes the place of nothing (`get?_place_freePath`).
-/

namespace Golden

/-! ## Text behind the last name -/

/-- Text without a separator belongs to the last piece. -/
theorem Bytes.exists_splitOn_append (sep : UInt8) (s : Bytes) :
    ∃ front last, ∀ t : Bytes, sep ∉ t → splitOn sep (s ++ t) = front ++ [last ++ t] := by
  induction s with
  | nil => exact ⟨[], [], fun t ht => splitOn_of_not_mem ht⟩
  | cons b s ih =>
    obtain ⟨front, last, ih⟩ := ih
    by_cases hb : b = sep
    · refine ⟨[] :: front, last, fun t ht => ?_⟩
      rw [List.cons_append, splitOn, if_pos hb, ih t ht, List.cons_append]
    · cases front with
      | nil =>
        refine ⟨[], b :: last, fun t ht => ?_⟩
        rw [List.cons_append, splitOn, if_neg hb, ih t ht]
        rfl
      | cons p front =>
        refine ⟨(b :: p) :: front, last, fun t ht => ?_⟩
        rw [List.cons_append, splitOn, if_neg hb, ih t ht]
        rfl

namespace Tree

variable {t : Tree} {l : Location}

/-- A number leaves neither an empty name nor a dot. -/
theorem isPlain_append_decimal (last : Bytes) (n : Nat) :
    (!(last ++ decimal n).isEmpty && last ++ decimal n != utf8 ".") = true := by
  obtain ⟨b, hb⟩ := List.exists_mem_of_ne_nil (decimal n)
    (by simp [decimal, digits, Nat.toDigits_ne_nil])
  have hmem : b ∈ last ++ decimal n := List.mem_append_right _ hb
  have hne : last ++ decimal n ≠ utf8 "." := by
    intro heq
    rw [heq] at hmem
    obtain rfl : b = 0x2e := List.mem_singleton.mp hmem
    exact not_mem_decimal (by decide) n hb
  simp [List.ne_nil_of_mem hmem, hne]

/-! ## Numbers behind a path -/

theorem isAbsolute_decimal (n : Nat) : Path.isAbsolute (decimal n) = false := by
  refine beq_eq_false_iff_ne.mpr fun hhead => ?_
  exact not_mem_decimal (by decide) n (List.mem_of_mem_head? hhead)

/-- A number behind a path is one behind the name of the location. -/
theorem exists_placeOf_append_decimal (t : Tree) (p : Bytes) :
    ∃ (dir : Location) (name : Bytes), ∀ n, t.placeOf (p ++ decimal n) = dir ++ [name ++ decimal n] := by
  obtain ⟨front, last, hsplit⟩ := Bytes.exists_splitOn_append Path.slash p
  refine ⟨t.start p ++ front.filter fun n => !n.isEmpty && n != utf8 ".", last, fun n => ?_⟩
  have hstart : t.start (p ++ decimal n) = t.start p := by
    have habsolute : Path.isAbsolute (p ++ decimal n) = Path.isAbsolute p := by
      cases p with
      | nil => exact isAbsolute_decimal n
      | cons b p => rfl
    rw [start, habsolute, start]
  rw [placeOf, hstart, plainNames, hsplit _ (not_mem_decimal (by decide) n), List.filter_append,
    List.append_assoc, List.filter_singleton, isPlain_append_decimal]
  rfl

theorem placeOf_append_decimal_inj {p : Bytes} {m n : Nat}
    (h : t.placeOf (p ++ decimal m) = t.placeOf (p ++ decimal n)) : m = n := by
  obtain ⟨dir, name, hplace⟩ := t.exists_placeOf_append_decimal p
  rw [hplace, hplace] at h
  exact decimal_inj (List.append_cancel_left (List.singleton_inj.mp (List.append_cancel_left h)))

/-! ## The first free path -/

theorem mem_entries_of_not_isFree {p : Bytes} (hne : t.placeOf p ≠ []) (h : ¬t.isFree p = true) :
    t.placeOf p ∈ t.entries.map (·.1) := by
  rw [isFree, Option.isNone_iff_eq_none, ← ne_eq, Option.ne_none_iff_exists'] at h
  obtain ⟨e, he⟩ := h
  rcases exists_of_get? he with ⟨hnil, -⟩ | hmem
  · exact absurd hnil hne
  · exact List.mem_map_of_mem hmem

/-- Among more numbers than entries, one makes a path free. -/
theorem exists_isFree (t : Tree) (p : Bytes) :
    ∃ n ≤ t.entries.length, t.isFree (p ++ decimal n) = true := by
  by_contra! hnone
  let places := (List.range (t.entries.length + 1)).map fun n => t.placeOf (p ++ decimal n)
  have hnodup : places.Nodup :=
    List.nodup_range.map fun _ _ => placeOf_append_decimal_inj
  have hsubset : places ⊆ t.entries.map (·.1) := by
    intro l hl
    obtain ⟨n, hn, rfl⟩ := List.mem_map.mp hl
    obtain ⟨dir, name, hplace⟩ := t.exists_placeOf_append_decimal p
    have hne : t.placeOf (p ++ decimal n) ≠ [] := by simp [hplace]
    exact mem_entries_of_not_isFree hne (hnone n (Nat.le_of_lt_succ (List.mem_range.mp hn)))
  have hlength : places.length ≤ (t.entries.map (·.1)).length :=
    (List.subperm_of_subset hnodup hsubset).length_le
  rw [List.length_map, List.length_range, List.length_map] at hlength
  omega

/-- Nothing stands at the first free path. -/
theorem isFree_freePath (t : Tree) (p : Bytes) : t.isFree (t.freePath p) = true := by
  obtain ⟨n, hn, hfree⟩ := t.exists_isFree p
  have hmem : p ++ decimal n ∈ (List.range (t.entries.length + 2)).map (numbered p) :=
    List.mem_map.mpr ⟨n + 1, List.mem_range.mpr (by omega), rfl⟩
  obtain ⟨q, hq⟩ := Option.isSome_iff_exists.mp (List.find?_isSome.mpr ⟨_, hmem, hfree⟩)
  rw [freePath, hq]
  exact List.find?_some hq

/-! ## Putting an entry there -/

theorem ne_of_free {free : Location} {e : Entry} (hfree : t.get? free = none)
    (h : t.get? l = some e) : l ≠ free := by
  rintro rfl
  rw [hfree] at h
  cases h

/-- Adding directories where nothing stands keeps every entry. -/
theorem get?_foldl_dirs {e : Entry} (above : List Location) (h : t.get? l = some e) :
    (above.foldl (fun t l => if (t.get? l).isNone then t.put l .dir else t) t).get? l = some e := by
  induction above generalizing t with
  | nil => exact h
  | cons dir above ih =>
    refine ih ?_
    beta_reduce
    split
    · rename_i hfree
      rw [get?_put_ne t (ne_of_free (Option.isNone_iff_eq_none.mp hfree) h), h]
    · exact h

/-- An entry that is put at the first free path takes the place of nothing. -/
theorem get?_place_freePath {e : Entry} (p : Bytes) (new : Entry) (h : t.get? l = some e) :
    (t.place (t.freePath p) new).get? l = some e := by
  have hfree : t.get? (t.placeOf (t.freePath p)) = none :=
    Option.isNone_iff_eq_none.mp (t.isFree_freePath p)
  rw [place]
  split
  · exact get?_foldl_dirs _ h
  · rw [get?_put_ne _ (ne_of_free hfree h)]
    exact get?_foldl_dirs _ h

end Tree

end Golden
