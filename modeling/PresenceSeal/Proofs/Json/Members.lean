import Mathlib.Data.String.Basic
import PresenceSeal.Json.Value

/-! The members of an object. They are put in one by one and end up in the ascending order of
their keys, so objects that differ only in the order in which they were written are one. -/
namespace PresenceSeal.Json

theorem mem_insertMember {key : String} {value : Json} {members : List (String × Json)}
    {member : String × Json} (inside : member ∈ insertMember key value members) :
    member = (key, value) ∨ member ∈ members := by
  induction members with
  | nil => exact .inl (List.mem_singleton.mp inside)
  | cons first rest ih =>
    unfold insertMember at inside
    split at inside
    · exact (List.mem_cons.mp inside).imp_right (List.mem_cons_of_mem _)
    · split at inside
      · exact List.mem_cons.mp inside
      · rcases List.mem_cons.mp inside with rfl | inside
        · exact .inr List.mem_cons_self
        · exact (ih inside).imp_right (List.mem_cons_of_mem _)

theorem mem_of_insertAll {entries members : List (String × Json)} {member : String × Json}
    (inside : member ∈ entries.foldl (fun members (key, value) => insertMember key value members)
      members) : member ∈ entries ∨ member ∈ members := by
  induction entries generalizing members with
  | nil => exact .inr inside
  | cons entry entries ih =>
    rcases ih inside with later | earlier
    · exact .inl (List.mem_cons_of_mem _ later)
    · rcases mem_insertMember earlier with rfl | earlier
      · exact .inl List.mem_cons_self
      · exact .inr earlier

/-- Entries of different keys are all found. -/
theorem lookup_insertAll {entries : List (String × Json)} (distinct : (entries.map (·.1)).Nodup)
    (members : List (String × Json)) (key : String) :
    (entries.foldl (fun members (key, value) => insertMember key value members)
      members).lookup key = (entries.lookup key).or (members.lookup key) := by
  induction entries generalizing members with
  | nil => rfl
  | cons entry entries ih =>
    obtain ⟨name, value⟩ := entry
    rw [List.map_cons, List.nodup_cons] at distinct
    rw [List.foldl_cons, ih distinct.2, lookup_insertMember, List.lookup_cons]
    by_cases same : key = name
    · have absent : entries.lookup key = none := by
        rw [List.lookup_eq_none_iff]
        intro entry inside
        rw [same, bne_iff_ne]
        rintro rfl
        exact distinct.1 (List.mem_map.mpr ⟨entry, inside, rfl⟩)
      rw [if_pos same, absent, same, beq_self_eq_true]
      rfl
    · rw [if_neg same, beq_false_of_ne same]

theorem insertMember_perm {key : String} {value : Json} {members : List (String × Json)}
    (fresh : key ∉ members.map (·.1)) :
    (insertMember key value members).Perm ((key, value) :: members) := by
  induction members with
  | nil => exact .refl _
  | cons member rest ih =>
    obtain ⟨other, found⟩ := member
    rw [List.map_cons, List.mem_cons, not_or] at fresh
    obtain ⟨differs, fresh⟩ := fresh
    rw [insertMember, if_neg differs]
    split
    · exact .refl _
    · exact ((ih fresh).cons _).trans (.swap _ _ _)

theorem insertMember_ascending {key : String} {value : Json} {members : List (String × Json)}
    (fresh : key ∉ members.map (·.1)) (ascending : members.Pairwise (·.1 < ·.1)) :
    (insertMember key value members).Pairwise (·.1 < ·.1) := by
  induction members with
  | nil => exact List.pairwise_singleton _ _
  | cons member rest ih =>
    obtain ⟨other, found⟩ := member
    rw [List.map_cons, List.mem_cons, not_or] at fresh
    obtain ⟨differs, fresh⟩ := fresh
    obtain ⟨above, ascends⟩ := List.pairwise_cons.mp ascending
    rw [insertMember, if_neg differs]
    split
    · rename_i below
      refine List.pairwise_cons.mpr ⟨List.forall_mem_cons.mpr ⟨below, ?_⟩, ascending⟩
      intro member inside
      exact below.trans (above member inside)
    · rename_i notBelow
      refine List.pairwise_cons.mpr ⟨?_, ih fresh ascends⟩
      intro member inside
      rcases mem_insertMember inside with rfl | inside
      · exact lt_of_le_of_ne (not_lt.mp notBelow) (Ne.symm differs)
      · exact above member inside

theorem insertAll_perm {entries members : List (String × Json)}
    (distinct : (entries.map (·.1)).Nodup)
    (fresh : ∀ entry ∈ entries, entry.1 ∉ members.map (·.1))
    (ascending : members.Pairwise (·.1 < ·.1)) :
    let all := entries.foldl (fun members (key, value) => insertMember key value members) members
    all.Perm (entries ++ members) ∧ all.Pairwise (·.1 < ·.1) := by
  induction entries generalizing members with
  | nil => exact ⟨.refl _, ascending⟩
  | cons entry entries ih =>
    obtain ⟨key, value⟩ := entry
    rw [List.map_cons, List.nodup_cons] at distinct
    obtain ⟨new, fresh⟩ := List.forall_mem_cons.mp fresh
    have put : (insertMember key value members).Perm ((key, value) :: members) :=
      insertMember_perm new
    have others : ∀ entry ∈ entries, entry.1 ∉ (insertMember key value members).map (·.1) := by
      intro entry inside again
      rw [(put.map (·.1)).mem_iff, List.map_cons, List.mem_cons] at again
      rcases again with same | again
      · exact distinct.1 (same ▸ List.mem_map_of_mem inside)
      · exact fresh entry inside again
    obtain ⟨permuted, ascends⟩ := ih distinct.2 others (insertMember_ascending new ascending)
    refine ⟨?_, ascends⟩
    calc entries.foldl (fun members (key, value) => insertMember key value members)
          (insertMember key value members)
      _ |>.Perm (entries ++ insertMember key value members) := permuted
      _ |>.Perm (entries ++ (key, value) :: members) := put.append_left entries
      _ |>.Perm ((key, value) :: entries ++ members) := List.perm_middle

/-- Members in whatever order come to the one object that has them in ascending order. -/
theorem ofEntries_of_perm {entries members : List (String × Json)} (same : entries.Perm members)
    (ascending : members.Pairwise (·.1 < ·.1)) : ofEntries entries = .object members := by
  have keys : (members.map (·.1)).Pairwise (· < ·) := List.pairwise_map.mpr ascending
  have distinct : (entries.map (·.1)).Nodup := by
    rw [(same.map (·.1)).nodup_iff]
    exact keys.imp ne_of_lt
  obtain ⟨permuted, ascends⟩ := insertAll_perm distinct (fun _ _ => List.not_mem_nil) .nil
  rw [List.append_nil] at permuted
  rw [ofEntries]
  congr 1
  apply (permuted.trans same).eq_of_pairwise _ ascends ascending
  intro a b _ _ below above
  exact absurd (below.trans above) (lt_irrefl _)

end PresenceSeal.Json
