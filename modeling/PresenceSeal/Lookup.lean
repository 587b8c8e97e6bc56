/-! Lists of keys and values, of which the first entry of a key counts. -/
namespace PresenceSeal

/-- With the entries of one key gone, that key is not found and the others are found as before. -/
theorem lookup_filter_ne [BEq α] [LawfulBEq α] [DecidableEq α] (entries : List (α × β))
    (gone key : α) :
    (entries.filter (·.1 != gone)).lookup key =
      if key = gone then none else entries.lookup key := by
  induction entries with
  | nil => simp
  | cons entry rest ih =>
    obtain ⟨k, value⟩ := entry
    by_cases dropped : k = gone
    · subst dropped
      by_cases same : key = k
      · simpa [same] using ih
      · simpa [List.lookup_cons, same, beq_eq_false_iff_ne.mpr same] using ih
    · by_cases same : key = k
      · simp [same, dropped]
      · simpa [List.lookup_cons, dropped, beq_eq_false_iff_ne.mpr same] using ih

end PresenceSeal
