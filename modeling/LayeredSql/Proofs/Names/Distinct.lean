import LayeredSql.Names.Basic
import LayeredSql.Proofs.Outcome
import Mathlib.Data.List.Nodup

namespace LayeredSql.Names

theorem require_column_ok {vars : List String} {name : String} {u : Unit} :
    requireColumn vars name = .ok u ↔ name ∈ vars := by
  unfold requireColumn
  split <;> simp_all

theorem require_all_ok {vars names : List String} {u : Unit} :
    requireAll vars names = .ok u ↔ ∀ name ∈ names, name ∈ vars := by
  induction names with
  | nil => simp [requireAll]
  | cons name names ih =>
    simp only [requireAll, bind_ok, require_column_ok, ih, List.forall_mem_cons]
    constructor
    · rintro ⟨_, hn, hs⟩
      exact ⟨hn, hs⟩
    · rintro ⟨hn, hs⟩
      exact ⟨(), hn, hs⟩

/-- A name is reported when its second occurrence is still to come. -/
theorem mem_repeated_after {seen names : List String} {n : String} :
    n ∈ repeatedAfter seen names ↔ seen.count n ≤ 1 ∧ 2 ≤ seen.count n + names.count n := by
  induction names generalizing seen with
  | nil =>
    simp only [repeatedAfter, List.not_mem_nil, List.count_nil, false_iff]
    omega
  | cons name names ih =>
    unfold repeatedAfter
    by_cases he : name = n
    · subst he
      split
      · rename_i hc
        simp only [List.mem_cons, true_or, List.count_cons_self, true_iff]
        omega
      · rename_i hc
        rw [ih, List.count_cons_self, List.count_cons_self]
        omega
    · have hs : (name :: seen).count n = seen.count n := List.count_cons_of_ne he
      have hns : (name :: names).count n = names.count n := List.count_cons_of_ne he
      split
      · rw [List.mem_cons, ih, hs, hns]
        simp [Ne.symm he]
      · rw [ih, hs, hns]

theorem mem_repeated {names : List String} {n : String} :
    n ∈ repeated names ↔ 2 ≤ names.count n := by
  simp [repeated, mem_repeated_after]

theorem repeated_after_nodup (seen names : List String) : (repeatedAfter seen names).Nodup := by
  induction names generalizing seen with
  | nil => exact List.nodup_nil
  | cons name names ih =>
    unfold repeatedAfter
    split
    · rename_i hc
      refine List.nodup_cons.mpr ⟨?_, ih _⟩
      intro hm
      have hle := (mem_repeated_after.mp hm).1
      rw [List.count_cons_self] at hle
      omega
    · exact ih _

theorem repeated_nodup (names : List String) : (repeated names).Nodup :=
  repeated_after_nodup [] names

theorem repeated_eq_nil {names : List String} : repeated names = [] ↔ names.Nodup := by
  rw [List.eq_nil_iff_forall_not_mem, List.nodup_iff_count_le_one]
  refine forall_congr' fun n => ?_
  rw [mem_repeated]
  omega

theorem require_distinct_ok {names : List String} {u : Unit} :
    requireDistinct names = .ok u ↔ names.Nodup := by
  rw [← repeated_eq_nil]
  unfold requireDistinct
  split <;> simp_all

/-- A refusal names exactly the names that stand more than once. -/
theorem require_distinct_error {names : List String} (h : ¬ names.Nodup) :
    requireDistinct names = .error (.duplicate (repeated names)) := by
  unfold requireDistinct
  split
  · rename_i he
    exact absurd (repeated_eq_nil.mp he) h
  · rfl

end LayeredSql.Names
