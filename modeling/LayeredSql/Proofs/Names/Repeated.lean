import LayeredSql.Proofs.Names.Distinct
import Mathlib.Data.Finset.Dedup
import Mathlib.Data.Finset.Insert
import Mathlib.Data.List.Induction

namespace LayeredSql.Names

theorem repeated_after_snoc (seen names : List String) (name : String) :
    repeatedAfter seen (names ++ [name]) =
      if seen.count name + names.count name = 1 then repeatedAfter seen names ++ [name]
      else repeatedAfter seen names := by
  induction names generalizing seen with
  | nil => rfl
  | cons first names ih =>
    have hcount : (first :: seen).count name + names.count name =
        seen.count name + (first :: names).count name := by
      rw [List.count_cons, List.count_cons]
      omega
    rw [List.cons_append, repeatedAfter, ih, hcount, repeatedAfter]
    split <;> split <;> rfl

/-- One more name is reported if it stands for the second time. -/
theorem repeated_snoc (names : List String) (name : String) :
    repeated (names ++ [name]) =
      if names.count name = 1 then repeated names ++ [name] else repeated names := by
  rw [repeated, repeated_after_snoc, List.count_nil, Nat.zero_add]
  rfl

def secondPlace (names : List String) (name : String) : Nat :=
  names.idxOfNth name 1

/-- Occurrences are numbered through a list and what follows it. -/
theorem place_append (names rest : List String) (name : String) (k : Nat) :
    (names ++ rest).idxOfNth name k =
      if k < names.count name then names.idxOfNth name k
      else names.length + rest.idxOfNth name (k - names.count name) := by
  induction names generalizing k with
  | nil => simp
  | cons first names ih => grind

theorem second_place_append {names : List String} {name : String} (h : 2 ≤ names.count name)
    (rest : List String) : secondPlace (names ++ rest) name = secondPlace names name :=
  (place_append names rest name 1).trans (if_pos h)

theorem second_place_snoc {names : List String} {name : String} (h : names.count name = 1) :
    secondPlace (names ++ [name]) name = names.length := by
  rw [secondPlace, place_append, h, if_neg (Nat.lt_irrefl 1), Nat.sub_self,
    List.idxOfNth_cons_zero_of_beq (beq_self_eq_true name), Nat.add_zero]

theorem repeated_ordered (names : List String) :
    (repeated names).Pairwise fun a b => secondPlace names a < secondPlace names b := by
  induction names using List.reverseRecOn with
  | nil => exact .nil
  | append_singleton names name ih =>
    have hkept : (repeated names).Pairwise fun a b =>
        secondPlace (names ++ [name]) a < secondPlace (names ++ [name]) b := by
      refine ih.imp_of_mem fun {a b} ha hb hlt => ?_
      rwa [second_place_append (mem_repeated.mp ha), second_place_append (mem_repeated.mp hb)]
    rw [repeated_snoc]
    split
    · rename_i hone
      refine List.pairwise_append.mpr ⟨hkept, List.pairwise_singleton _ _, fun a ha b hb => ?_⟩
      rw [List.mem_singleton.mp hb, second_place_snoc hone,
        second_place_append (mem_repeated.mp ha)]
      exact List.idxOfNth_lt_length_of_lt_count (mem_repeated.mp ha)
    · exact hkept

/-- The report is told by what it names and in which order. -/
theorem eq_repeated_iff {names dups : List String} :
    dups = repeated names ↔ dups.Nodup ∧ (∀ n, n ∈ dups ↔ 2 ≤ names.count n) ∧
      dups.Pairwise fun a b => secondPlace names a < secondPlace names b := by
  constructor
  · rintro rfl
    exact ⟨repeated_nodup names, fun _ => mem_repeated, repeated_ordered names⟩
  · rintro ⟨hn, hm, ho⟩
    have hperm : dups.Perm (repeated names) :=
      (List.perm_ext_iff_of_nodup hn (repeated_nodup names)).mpr fun n =>
        (hm n).trans mem_repeated.symm
    exact hperm.eq_of_pairwise (fun _ _ _ _ hab hba => absurd hab (Nat.lt_asymm hba)) ho
      (repeated_ordered names)

structure Pass where
  met : Finset String
  reported : List String

/-- A name met before is reported, once. -/
def Pass.meet (p : Pass) (name : String) : Pass where
  met := insert name p.met
  reported := if name ∈ p.met ∧ name ∉ p.reported then p.reported ++ [name] else p.reported

def Pass.start : Pass := ⟨∅, []⟩

def Pass.outcome (p : Pass) : Except NameError Unit :=
  if p.reported.isEmpty then .ok () else .error (.duplicate p.reported)

theorem pass_over (names : List String) :
    names.foldl Pass.meet .start = ⟨names.toFinset, repeated names⟩ := by
  induction names using List.reverseRecOn with
  | nil => rfl
  | append_singleton names name ih =>
    have hsecond : name ∈ names.toFinset ∧ name ∉ repeated names ↔ names.count name = 1 := by
      rw [List.mem_toFinset, mem_repeated, ← List.count_pos_iff]
      omega
    have hmet : (names ++ [name]).toFinset = insert name names.toFinset := by
      ext n
      rw [List.mem_toFinset, List.mem_append, List.mem_singleton, Finset.mem_insert,
        List.mem_toFinset, or_comm]
    rw [List.foldl_append, ih, List.foldl_cons, List.foldl_nil, Pass.meet, repeated_snoc, hmet]
    simp only [hsecond]

theorem require_distinct_eq (names : List String) :
    requireDistinct names = (names.foldl Pass.meet .start).outcome := by
  rw [pass_over, requireDistinct, Pass.outcome]
  cases repeated names <;> rfl

/-- The check passes exactly a list without repetitions. A refusal reports the names that stand
twice or more and no others, once each, by where they stand for the second time. A single pass that
keeps the names met and the names reported comes to the same. -/
theorem require_distinct_reports (names : List String) :
    (requireDistinct names = .ok () ↔ names.Nodup) ∧
    (∀ e, requireDistinct names = .error e ↔ ¬ names.Nodup ∧ ∃ dups, e = .duplicate dups ∧
      dups.Nodup ∧ (∀ n, n ∈ dups ↔ 2 ≤ names.count n) ∧
      dups.Pairwise fun a b => secondPlace names a < secondPlace names b) ∧
    requireDistinct names = (names.foldl Pass.meet .start).outcome := by
  refine ⟨require_distinct_ok, fun e => ?_, require_distinct_eq names⟩
  simp only [← eq_repeated_iff, exists_eq_right]
  by_cases hn : names.Nodup
  · have hok : requireDistinct names = .ok () := require_distinct_ok.mpr hn
    rw [hok]
    exact ⟨nofun, fun h => absurd hn h.1⟩
  · rw [require_distinct_error hn, Except.error.injEq, and_iff_right hn]
    exact eq_comm

end LayeredSql.Names
