import LayeredSql.Sql.Window
import Mathlib.Algebra.Group.Nat.Defs
import Mathlib.Data.List.Nodup
import Mathlib.Order.Bounds.Defs

namespace LayeredSql.Expr

/-- A letter, and the digits of the number with zeros before them up to two. -/
theorem hoisted_name_padded (n : Nat) :
    (hoistedName n).toList = 'q' :: (Nat.toDigits 10 n).leftpad 2 '0' := by
  have hdigits : (toString n).toList = Nat.toDigits 10 n := by
    rw [Nat.toString_eq_repr, Nat.toList_repr]
  unfold hoistedName
  split
  · rename_i hn
    rw [String.toList_append, hdigits, Nat.toDigits_of_lt_base hn]
    rfl
  · rename_i hn
    have hlong : ¬ (Nat.toDigits 10 n).length ≤ 1 := by
      rwa [Nat.length_toDigits_le_iff (by decide) (by decide)]
    rw [String.toList_append, hdigits, List.leftpad, Nat.sub_eq_zero_of_le (by omega)]
    rfl

def hoistedNumber (name : String) : Nat :=
  Nat.ofDigitChars 10 (name.toList.drop 1) 0

/-- A leading zero does not change the number. -/
theorem hoisted_number_name (n : Nat) : hoistedNumber (hoistedName n) = n := by
  rw [hoistedNumber, hoisted_name_padded]
  change Nat.ofDigitChars 10 ((Nat.toDigits 10 n).leftpad 2 '0') 0 = n
  rw [List.leftpad, Nat.ofDigitChars_append, Nat.ofDigitChars_replicate_zero, Nat.mul_zero,
    Nat.ofDigitChars_ten_toDigits]

theorem hoisted_name_injective {m n : Nat} (h : hoistedName m = hoistedName n) : m = n := by
  rw [← hoisted_number_name m, h, hoisted_number_name]

/-- Among so many names one is not taken by a shorter list. -/
theorem exists_free_name (taken : List String) (n : Nat) :
    ∃ d, d ≤ taken.length ∧ hoistedName (n + d) ∉ taken := by
  by_contra hnone
  have hn : ((List.range' n (taken.length + 1)).map hoistedName).Nodup :=
    (List.nodup_range' 1).map fun _ _ he => hoisted_name_injective he
  have hsub : (List.range' n (taken.length + 1)).map hoistedName ⊆ taken := by
    intro name hm
    obtain ⟨k, hk, rfl⟩ := List.mem_map.mp hm
    obtain ⟨d, hd, rfl⟩ := List.mem_range'.mp hk
    rw [Nat.one_mul]
    exact by_contra fun hfree => hnone ⟨d, by omega, hfree⟩
  have hle := hn.length_le_of_subset hsub
  rw [List.length_map, List.length_range'] at hle
  omega

/-- Tries that reach a free name end at one. -/
theorem free_name_from_free {taken : List String} {tries n d : Nat} (hd : d ≤ tries)
    (hfree : hoistedName (n + d) ∉ taken) : freeNameFrom taken tries n ∉ taken := by
  induction tries generalizing n d with
  | zero =>
    obtain rfl := Nat.le_zero.mp hd
    exact hfree
  | succ tries ih =>
    rw [freeNameFrom]
    split
    · rename_i ht
      cases d with
      | zero => exact absurd ht hfree
      | succ d =>
        apply ih (Nat.le_of_succ_le_succ hd)
        rwa [Nat.add_assoc, Nat.add_comm 1]
    · assumption

theorem free_name_not_taken (taken : List String) : freeName taken ∉ taken := by
  obtain ⟨d, hd, hfree⟩ := exists_free_name taken 1
  exact free_name_from_free hd hfree

def countedName (n : Int32) : String :=
  hoistedName n.toNatClampNeg

/-- The search as it goes from the name numbered `n` on, with nothing to bound it but the width of
its counter: every turn looks at one name, and the last of so many turns finds `last` free. There is
no turn after the greatest number, which cannot be counted on from. -/
inductive Search (taken : List String) : Int32 → Nat → Int32 → Prop where
  | found {n : Int32} (h : countedName n ∉ taken) : Search taken n 1 n
  | next {n last : Int32} {turns : Nat} (h : countedName n ∈ taken) (hn : n ≠ Int32.maxValue)
      (hs : Search taken (n + 1) turns last) : Search taken n (turns + 1) last

theorem counted_first : (1 : Int32).toNatClampNeg = 1 := by
  decide

theorem counted_on {n : Int32} (hpos : 0 < n) (hn : n ≠ Int32.maxValue) :
    0 < n + 1 ∧ (n + 1).toNatClampNeg = n.toNatClampNeg + 1 := by
  have hle : n.toInt < 2 ^ 31 - 1 := by
    have hne : n.toInt ≠ Int32.maxValue.toInt := fun he => hn (Int32.toInt_inj.mp he)
    have hlt := n.toInt_lt
    rw [Int32.toInt_maxValue] at hne
    omega
  have hpos' : 0 < n.toInt := Int32.lt_iff_toInt_lt.mp hpos
  have hnext : (n + 1).toInt = n.toInt + 1 := by
    rw [Int32.toInt_add, Int32.toInt_one, Int.bmod_eq_of_le (by omega) (by omega)]
  constructor
  · rw [Int32.lt_iff_toInt_lt, hnext, Int32.toInt_zero]
    omega
  · change (n + 1).toInt.toNat = n.toInt.toNat + 1
    rw [hnext]
    omega

variable {taken : List String} {n last : Int32} {turns : Nat}

theorem Search.unique {turns' : Nat} {last' : Int32} (h : Search taken n turns last)
    (h' : Search taken n turns' last') : turns' = turns ∧ last' = last := by
  induction h generalizing turns' with
  | found hn =>
    cases h' with
    | found => exact ⟨rfl, rfl⟩
    | next ht => exact absurd ht hn
  | next ht _ _ ih =>
    cases h' with
    | found hn => exact absurd ht hn
    | next _ _ hs =>
      obtain ⟨rfl, rfl⟩ := ih hs
      exact ⟨rfl, rfl⟩

/-- The search takes one turn for each name up to the one it finds, and passes no free one. -/
theorem Search.passes (h : Search taken n turns last) (hpos : 0 < n) :
    0 < last ∧ last.toNatClampNeg + 1 = n.toNatClampNeg + turns ∧ countedName last ∉ taken ∧
      ∀ k, n.toNatClampNeg ≤ k → k < last.toNatClampNeg → hoistedName k ∈ taken := by
  induction h with
  | found hn => exact ⟨hpos, rfl, hn, fun k _ _ => by omega⟩
  | @next n last turns ht hn _ ih =>
    obtain ⟨hpos', hnext⟩ := counted_on hpos hn
    obtain ⟨hlast, hturns, hfree, hbefore⟩ := ih hpos'
    rw [hnext] at hturns hbefore
    refine ⟨hlast, by omega, hfree, fun k hk hkl => ?_⟩
    rcases Nat.eq_or_lt_of_le hk with rfl | hk
    · exact ht
    · exact hbefore k hk hkl

theorem Search.least (h : Search taken 1 turns last) :
    IsLeast {n : Int32 | 0 < n ∧ countedName n ∉ taken} last := by
  obtain ⟨hpos, -, hfree, hbefore⟩ := h.passes (by decide)
  refine ⟨⟨hpos, hfree⟩, ?_⟩
  intro k ⟨hk, hkfree⟩
  have hone := Int32.lt_iff_toInt_lt.mp hk
  rw [Int32.toInt_zero] at hone
  rw [Int32.le_iff_toInt_le]
  by_contra hlt
  apply hkfree
  apply hbefore
  · rw [counted_first]
    change 1 ≤ k.toInt.toNat
    omega
  · change k.toInt.toNat < last.toInt.toNat
    omega

/-- Tries for all turns but the last are enough, and more of them change nothing. -/
theorem Search.name_found (h : Search taken n turns last) (hpos : 0 < n) {tries : Nat}
    (htries : turns ≤ tries + 1) :
    freeNameFrom taken tries n.toNatClampNeg = countedName last := by
  induction h generalizing tries with
  | found hn =>
    cases tries with
    | zero => rfl
    | succ tries => exact if_neg hn
  | @next n last turns ht hn hs ih =>
    obtain ⟨hpos', hnext⟩ := counted_on hpos hn
    cases tries with
    | zero => cases hs <;> omega
    | succ tries =>
      have htaken : hoistedName n.toNatClampNeg ∈ taken := ht
      rw [freeNameFrom, if_pos htaken, ← hnext]
      exact ih hpos' (by omega)

/-- A free name ahead is not passed, so the search has ended by then. -/
theorem search_ends_by {d : Nat} (hpos : 0 < n) (hroom : n.toNatClampNeg + d < 2 ^ 31)
    (hfree : hoistedName (n.toNatClampNeg + d) ∉ taken) :
    ∃ turns last, turns ≤ d + 1 ∧ Search taken n turns last := by
  induction d generalizing n with
  | zero => exact ⟨1, n, by omega, .found hfree⟩
  | succ d ih =>
    by_cases ht : countedName n ∈ taken
    · have hn : n ≠ Int32.maxValue := by
        intro he
        have hmax : Int32.maxValue.toNatClampNeg = 2 ^ 31 - 1 := by decide
        rw [he, hmax] at hroom
        omega
      obtain ⟨hpos', hnext⟩ := counted_on hpos hn
      obtain ⟨turns, last, hturns, hs⟩ := ih hpos' (by omega) (by
        rwa [hnext, Nat.add_right_comm])
      exact ⟨turns + 1, last, by omega, .next ht hn hs⟩
    · exact ⟨1, n, by omega, .found ht⟩

/-- A number that a counter can come to, for a name that is free. -/
theorem counted_of_free {k : Nat} (hpos : 0 < k) (hroom : k < 2 ^ 31)
    (hfree : hoistedName k ∉ taken) : ∃ n : Int32, 0 < n ∧ countedName n ∉ taken := by
  have hto : (Int32.ofNat k).toInt = k := Int32.toInt_ofNat_of_lt hroom
  refine ⟨.ofNat k, ?_, ?_⟩
  · rw [Int32.lt_iff_toInt_lt, hto, Int32.toInt_zero]
    omega
  · have hk : (Int32.ofNat k).toNatClampNeg = k := congrArg Int.toNat hto
    rwa [countedName, hk]

/-- Where the counter can come to a free name, the search ends in time. -/
theorem search_ends (hpos : 0 < n) (hfree : countedName n ∉ taken) :
    ∃ turns last, turns ≤ taken.length + 1 ∧ Search taken 1 turns last := by
  have hnat : 0 < n.toNatClampNeg ∧ n.toNatClampNeg < 2 ^ 31 := by
    have hlt := n.toInt_lt
    have hgt := Int32.lt_iff_toInt_lt.mp hpos
    rw [Int32.toInt_zero] at hgt
    change 0 < n.toInt.toNat ∧ n.toInt.toNat < 2 ^ 31
    omega
  -- Of the free name that is given and the one that the length promises, the nearer will do.
  obtain ⟨d, hd, hfree'⟩ := exists_free_name taken 1
  rcases Nat.le_total (1 + d) n.toNatClampNeg with hle | hle
  · obtain ⟨turns, last, hturns, hs⟩ := search_ends_by (n := 1) (d := d) (by decide)
      (by rw [counted_first]; omega) (by rwa [counted_first])
    exact ⟨turns, last, by omega, hs⟩
  · have hgiven : (1 : Int32).toNatClampNeg + (n.toNatClampNeg - 1) = n.toNatClampNeg := by
      rw [counted_first]
      omega
    obtain ⟨turns, last, hturns, hs⟩ := search_ends_by (n := 1) (d := n.toNatClampNeg - 1)
      (by decide) (by omega) (by rwa [hgiven])
    exact ⟨turns, last, by omega, hs⟩

/-- Fewer names than a counter of 32 bits has numbers for leave one free. Then, and whenever it can
come to a free name at all, the search ends, within one turn more than names are taken, at the least
number whose name is free. That name is chosen, whatever tries there are beyond the names taken. A
name is the letter and two digits or more, and no two numbers have the same. -/
theorem free_name_least (taken : List String) :
    (taken.length < 2 ^ 31 - 1 → ∃ n : Int32, 0 < n ∧ countedName n ∉ taken) ∧
    ((∃ turns last, Search taken 1 turns last) ↔ ∃ n : Int32, 0 < n ∧ countedName n ∉ taken) ∧
    ((∃ n : Int32, 0 < n ∧ countedName n ∉ taken) →
      ∃ m, IsLeast {n : Int32 | 0 < n ∧ countedName n ∉ taken} m ∧
        m.toNatClampNeg ≤ taken.length + 1 ∧
        (∀ turns last, Search taken 1 turns last ↔ turns = m.toNatClampNeg ∧ last = m) ∧
        freeName taken = countedName m ∧
        ∀ more, freeNameFrom taken (taken.length + more) 1 = countedName m) ∧
    Function.Injective hoistedName ∧
    ∀ n, (hoistedName n).toList = 'q' :: (Nat.toDigits 10 n).leftpad 2 '0' := by
  refine ⟨fun hlen => ?_, ⟨?_, ?_⟩, ?_, fun _ _ => hoisted_name_injective, hoisted_name_padded⟩
  · obtain ⟨d, hd, hfree⟩ := exists_free_name taken 1
    exact counted_of_free (by omega) (by omega) hfree
  · intro ⟨turns, last, hs⟩
    obtain ⟨hpos, -, hfree, -⟩ := hs.passes (by decide)
    exact ⟨last, hpos, hfree⟩
  · intro ⟨n, hpos, hfree⟩
    obtain ⟨turns, last, -, hs⟩ := search_ends hpos hfree
    exact ⟨turns, last, hs⟩
  · intro ⟨n, hn, hfree⟩
    obtain ⟨turns, m, hturns, hs⟩ := search_ends hn hfree
    obtain ⟨-, hcount, -⟩ := hs.passes (by decide)
    obtain rfl : turns = m.toNatClampNeg := by
      rw [counted_first] at hcount
      omega
    refine ⟨m, hs.least, hturns, fun turns' last => ⟨hs.unique, ?_⟩, ?_, fun more => ?_⟩
    · rintro ⟨rfl, rfl⟩
      exact hs
    · exact hs.name_found (by decide) hturns
    · exact hs.name_found (by decide) (by omega)

/-- A gap is filled: a name without padding takes no number, and neither does a repeated one. -/
theorem gap_filled :
    (["q01", "q1", "q03", "q100", "q01"].length < 2 ^ 31 - 1) ∧
    IsLeast {n : Int32 | 0 < n ∧ countedName n ∉ ["q01", "q1", "q03", "q100", "q01"]} 2 ∧
    (∀ turns last, Search ["q01", "q1", "q03", "q100", "q01"] 1 turns last ↔
      turns = 2 ∧ last = 2) ∧
    freeName ["q01", "q1", "q03", "q100", "q01"] = "q02" := by
  have hlen : ["q01", "q1", "q03", "q100", "q01"].length < 2 ^ 31 - 1 := by decide
  obtain ⟨hshort, -, hleast, -⟩ := free_name_least ["q01", "q1", "q03", "q100", "q01"]
  obtain ⟨m, hm, -, hturns, hname, -⟩ := hleast (hshort hlen)
  have hsearch : Search ["q01", "q1", "q03", "q100", "q01"] 1 2 2 :=
    .next (by decide) (by decide) (.found (by decide))
  obtain ⟨-, rfl⟩ := (hturns 2 2).mp hsearch
  exact ⟨hlen, hm, hturns, hname⟩

end LayeredSql.Expr
