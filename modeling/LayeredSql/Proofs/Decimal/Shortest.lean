import LayeredSql.Decimal.Shortest
import Mathlib.Algebra.Order.Field.Power
import Mathlib.Tactic.FieldSimp
import Mathlib.Tactic.Linarith
import Mathlib.Tactic.Positivity
import Mathlib.Tactic.Ring

namespace LayeredSql.Decimal

def value (d : Decimal) : ℚ :=
  d.digits * 10 ^ d.exponent

/-- A power with its sign taken apart. -/
theorem zpow_split {b : ℕ} (hb : b ≠ 0) (g : ℤ) :
    ((b ^ g.toNat : ℕ) : ℚ) / (b ^ (-g).toNat : ℕ) = (b : ℚ) ^ g := by
  have hb : (b : ℚ) ≠ 0 := by exact_mod_cast hb
  rcases le_total 0 g with hg | hg
  · obtain ⟨n, rfl⟩ := Int.eq_ofNat_of_zero_le hg
    simp
  · obtain ⟨n, hn⟩ := Int.eq_ofNat_of_zero_le (Int.neg_nonneg_of_nonpos hg)
    obtain rfl : g = -n := by omega
    simp

namespace Interval

def Holds (i : Interval) (r : ℚ) : Prop :=
  if i.closed then (i.low : ℚ) / i.den ≤ r ∧ r ≤ i.high / i.den
  else (i.low : ℚ) / i.den < r ∧ r < i.high / i.den

variable {i : Interval}

theorem contains_iff (hi : 0 < i.den) {num den : ℕ} (hd : 0 < den) :
    i.contains num den = true ↔ i.Holds (num / den) := by
  have hi : (0 : ℚ) < i.den := by exact_mod_cast hi
  have hd : (0 : ℚ) < den := by exact_mod_cast hd
  unfold contains Holds
  split
  · rw [Bool.and_eq_true, decide_eq_true_eq, decide_eq_true_eq, div_le_div_iff₀ hi hd,
      div_le_div_iff₀ hd hi]
    exact_mod_cast Iff.rfl
  · rw [Bool.and_eq_true, decide_eq_true_eq, decide_eq_true_eq, div_lt_div_iff₀ hi hd,
      div_lt_div_iff₀ hd hi]
    exact_mod_cast Iff.rfl

/-- A point of a grid, as it is tested for lying in an interval. -/
theorem grid_point (k : ℕ) (g : ℤ) :
    ((k * 10 ^ g.toNat : ℕ) : ℚ) / (10 ^ (-g).toNat : ℕ) = value ⟨k, g⟩ := by
  rw [Nat.cast_mul, mul_div_assoc, zpow_split (by decide)]
  rfl

theorem grid_point_holds (hi : 0 < i.den) (k : ℕ) (g : ℤ) :
    i.contains (k * 10 ^ g.toNat) (10 ^ (-g).toNat) = true ↔ i.Holds (value ⟨k, g⟩) := by
  rw [contains_iff hi (Nat.pow_pos (by decide)), grid_point]

theorem on_grid_holds (hi : 0 < i.den) {tieUp : Bool} {g : ℤ} {k : ℕ}
    (h : i.onGrid tieUp g = some k) : i.Holds (value ⟨k, g⟩) := by
  rw [← grid_point_holds hi]
  unfold onGrid at h
  simp only [Nat.pow_eq] at h
  split at h
  · rename_i hboth
    simp only [Bool.and_eq_true] at hboth
    split at h
    · cases h; exact hboth.1
    · split at h
      · cases h; exact hboth.2
      · split at h
        · cases h; exact hboth.2
        · cases h; exact hboth.1
  · split at h
    · rename_i hlower
      cases h; exact hlower
    · split at h
      · rename_i hupper
        cases h; exact hupper
      · cases h

/-- The points of a grid next to a fraction. -/
theorem grid_around (num : ℕ) {den : ℕ} (hd : 0 < den) (g : ℤ) :
    value ⟨num * 10 ^ (-g).toNat / (10 ^ g.toNat * den), g⟩ ≤ (num : ℚ) / den ∧
      (num : ℚ) / den < value ⟨num * 10 ^ (-g).toNat / (10 ^ g.toNat * den) + 1, g⟩ := by
  have hdown : 0 < 10 ^ (-g).toNat := Nat.pow_pos (by decide)
  have hstep : 0 < 10 ^ g.toNat * den := Nat.mul_pos (Nat.pow_pos (by decide)) hd
  generalize hk : num * 10 ^ (-g).toNat / (10 ^ g.toNat * den) = k
  have hle : k * (10 ^ g.toNat * den) ≤ num * 10 ^ (-g).toNat := hk ▸ Nat.div_mul_le_self _ _
  have hlt : num * 10 ^ (-g).toNat < (k + 1) * (10 ^ g.toNat * den) := by
    rw [← hk, Nat.mul_comm (_ + 1)]
    exact Nat.lt_mul_div_succ _ hstep
  rw [← grid_point, ← grid_point, div_le_div_iff₀ (by exact_mod_cast hdown) (by exact_mod_cast hd),
    div_lt_div_iff₀ (by exact_mod_cast hd) (by exact_mod_cast hdown)]
  rw [← Nat.mul_assoc] at hle hlt
  exact ⟨by exact_mod_cast hle, by exact_mod_cast hlt⟩

/-- A grid finer than the interval is wide has a point in it. -/
theorem on_grid_some (hi : 0 < i.den) (hl : i.low < i.mid) (hh : i.mid < i.high) {tieUp : Bool}
    {g : ℤ} (hg : (10 : ℚ) ^ g < ((i.high : ℚ) - i.low) / i.den) :
    ∃ k, i.onGrid tieUp g = some k := by
  have hden : (0 : ℚ) < i.den := by exact_mod_cast hi
  have hlow : (i.low : ℚ) / i.den < i.mid / i.den := by gcongr
  have hhigh : (i.mid : ℚ) / i.den < i.high / i.den := by gcongr
  obtain ⟨hk, hk'⟩ := grid_around i.mid hi g
  rw [sub_div] at hg
  unfold onGrid
  simp only [Nat.pow_eq]
  generalize i.mid * 10 ^ (-g).toNat / (10 ^ g.toNat * i.den) = k at hk hk' ⊢
  have hnext : value ⟨k + 1, g⟩ = value ⟨k, g⟩ + 10 ^ g := by
    simp only [value, Nat.cast_add, Nat.cast_one, add_mul, one_mul]
  -- both points cannot be outside, for the interval would lie between them
  have hone : i.Holds (value ⟨k, g⟩) ∨ i.Holds (value ⟨k + 1, g⟩) := by
    unfold Holds
    rcases lt_or_ge ((i.low : ℚ) / i.den) (value ⟨k, g⟩) with hin | hout
    · left
      split <;> constructor <;> linarith
    · right
      split <;> constructor <;> linarith
  rw [← grid_point_holds hi, ← grid_point_holds hi] at hone
  split
  · split
    · exact ⟨_, rfl⟩
    · split
      · exact ⟨_, rfl⟩
      · split <;> exact ⟨_, rfl⟩
  · rename_i hboth
    split
    · exact ⟨_, rfl⟩
    · rename_i hlower
      simp [hone.resolve_left hlower]

end Interval

theorem digit_count_lt (n : ℕ) : n < 10 ^ digitCount n := by
  unfold digitCount
  split
  · rename_i h
    simp [h]
  · exact (Nat.length_toDigits_le_iff (by decide) Nat.length_toDigits_pos).mp (Nat.le_refl _)

theorem digit_count_le {n : ℕ} (h : 0 < n) : 10 ^ (digitCount n - 1) ≤ n := by
  unfold digitCount
  rw [if_neg (by omega)]
  rcases Nat.eq_zero_or_pos ((Nat.toDigits 10 n).length - 1) with hz | hp
  · rw [hz]
    exact h
  · by_contra hlt
    have hle := (Nat.length_toDigits_le_iff (by decide) hp).mpr (Nat.not_le.mp hlt)
    omega

/-- The point is not put too far to the left. -/
theorem point_position_le {num den : ℕ} (hn : 0 < num) (hd : 0 < den) :
    (10 : ℚ) ^ (pointPosition num den - 1) ≤ num / den := by
  have hdq : (0 : ℚ) < den := by exact_mod_cast hd
  rw [le_div_iff₀ hdq]
  unfold pointPosition
  split
  · rename_i hle
    have hpos : 0 < num / den := Nat.div_pos hle hd
    have hone : 1 ≤ digitCount (num / den) := by
      have hlt := digit_count_lt (num / den)
      by_contra hz
      rw [Nat.lt_one_iff.mp (Nat.not_le.mp hz)] at hlt
      omega
    have hexp :
        Int.ofNat (digitCount (num / den)) - 1 = ((digitCount (num / den) - 1 : ℕ) : ℤ) := by
      simp [hone]
    rw [hexp, zpow_natCast]
    have hle := Nat.mul_le_mul_right den (digit_count_le hpos)
    exact_mod_cast hle.trans (Nat.div_mul_le_self num den)
  · rename_i hlt
    have hcount := digit_count_lt ((den - 1) / num)
    have hexp : 1 - Int.ofNat (digitCount ((den - 1) / num)) - 1 =
        -((digitCount ((den - 1) / num) : ℕ) : ℤ) := by
      simp
    rw [hexp, zpow_neg, zpow_natCast, inv_mul_le_iff₀ (by positivity)]
    have hstep : den - 1 < num * ((den - 1) / num + 1) := Nat.lt_mul_div_succ _ hn
    have hle : num * ((den - 1) / num + 1) ≤ num * 10 ^ digitCount ((den - 1) / num) :=
      Nat.mul_le_mul_left num hcount
    have hall : den ≤ 10 ^ digitCount ((den - 1) / num) * num := by
      rw [Nat.mul_comm]
      omega
    exact_mod_cast hall

theorem value_strip_zeros (n : ℕ) (d : Decimal) : value (stripZeros n d) = value d := by
  induction n generalizing d with
  | zero => rfl
  | succ n ih =>
    rw [stripZeros]
    split
    · rename_i h
      rw [ih]
      have hten : d.digits = 10 * (d.digits / 10) := by omega
      have hq : (d.digits : ℚ) = 10 * (d.digits / 10 : ℕ) := by exact_mod_cast hten
      simp only [value]
      rw [hq, zpow_add_one₀ (by decide)]
      ring
    · rfl

/-- The parts of a positive float. Only the smallest exponent goes with a significand without a
leading bit. -/
structure Canonical (m : ℕ) (q : ℤ) : Prop where
  pos : 0 < m
  lt : m < 2 ^ 53
  exponent : -1074 ≤ q
  leading : -1074 < q → 2 ^ 52 ≤ m

theorem binary_parts_canonical {bits : UInt64} (h : 0 < bits.toNat) (hs : bits.toNat < 2 ^ 63) :
    Canonical (binaryParts bits).1 (binaryParts bits).2 := by
  have hbit : leadingBit = 2 ^ 52 := rfl
  unfold binaryParts
  simp only [hbit]
  split
  · exact ⟨by omega, by omega, by omega, by omega⟩
  · simp only [Int.ofNat_eq_natCast]
    exact ⟨by omega, by omega, by omega, by omega⟩

theorem binary_parts_injective {a b : UInt64} (ha : a.toNat < 2 ^ 63) (hb : b.toNat < 2 ^ 63)
    (h : binaryParts a = binaryParts b) : a = b := by
  have hbit : leadingBit = 2 ^ 52 := rfl
  rw [← UInt64.toNat_inj]
  unfold binaryParts at h
  simp only [hbit] at h
  split at h <;> split at h <;> simp only [Prod.mk.injEq, Int.ofNat_eq_natCast] at h <;> omega

/-- How far the lower end is away, in quarters of the last place. -/
def below (m : ℕ) (q : ℤ) : ℕ :=
  if m = 2 ^ 52 ∧ -1074 < q then 1 else 2

theorem below_cases (m : ℕ) (q : ℤ) :
    below m q = 1 ∧ m = 2 ^ 52 ∧ -1074 < q ∨ below m q = 2 ∧ ¬(m = 2 ^ 52 ∧ -1074 < q) := by
  unfold below
  split
  · rename_i h
    exact .inl ⟨rfl, h⟩
  · rename_i h
    exact .inr ⟨rfl, h⟩

/-- The interval in quarters of the last place. -/
theorem rounding_interval_eq {m : ℕ} (q : ℤ) (hm : 0 < m) :
    let i := roundingInterval m q
    0 < i.den ∧ (i.low : ℚ) / i.den = (4 * m - below m q) * 2 ^ (q - 2) ∧
      (i.mid : ℚ) / i.den = 4 * m * 2 ^ (q - 2) ∧
      (i.high : ℚ) / i.den = (4 * m + 2) * 2 ^ (q - 2) ∧ i.closed = decide (m % 2 = 0) := by
  have hscale := zpow_split (b := 2) (by decide) (q - 2)
  rw [show (-(q - 2)).toNat = (2 - q).toNat by omega] at hscale
  have hbelow : below m q ≤ 4 * m := by
    rcases below_cases m q with h | h <;> omega
  have hpart : ∀ k : ℕ, ((k * 2 ^ (q - 2).toNat : ℕ) : ℚ) / (2 ^ (2 - q).toNat : ℕ) =
      k * 2 ^ (q - 2) := by
    intro k
    rw [Nat.cast_mul, mul_div_assoc, hscale]
    rfl
  refine ⟨Nat.pow_pos (by decide), ?_, ?_, ?_, rfl⟩
  · rw [← Nat.cast_ofNat, ← Nat.cast_mul, ← Nat.cast_sub hbelow]
    exact hpart _
  · rw [← Nat.cast_ofNat, ← Nat.cast_mul]
    exact hpart _
  · rw [← Nat.cast_ofNat, ← Nat.cast_mul, ← Nat.cast_ofNat (n := 2), ← Nat.cast_add]
    exact hpart _

theorem rounding_holds_iff {m : ℕ} (q : ℤ) (hm : 0 < m) (r : ℚ) :
    (roundingInterval m q).Holds r ↔
      if m % 2 = 0 then (4 * m - below m q : ℚ) * 2 ^ (q - 2) ≤ r ∧ r ≤ (4 * m + 2) * 2 ^ (q - 2)
      else (4 * m - below m q : ℚ) * 2 ^ (q - 2) < r ∧ r < (4 * m + 2) * 2 ^ (q - 2) := by
  obtain ⟨-, hlow, -, hhigh, hclosed⟩ := rounding_interval_eq q hm
  rw [Interval.Holds, hlow, hhigh, hclosed]
  simp only [decide_eq_true_eq]

/-- The ends of the interval belong to it when the significand is even. -/
theorem rounding_ends {m : ℕ} {q : ℤ} (hm : 0 < m) {r : ℚ}
    (h : (roundingInterval m q).Holds r) :
    (4 * m - below m q : ℚ) * 2 ^ (q - 2) ≤ r ∧ r ≤ (4 * m + 2) * 2 ^ (q - 2) ∧
      (m % 2 = 1 → (4 * m - below m q : ℚ) * 2 ^ (q - 2) < r ∧ r < (4 * m + 2) * 2 ^ (q - 2)) := by
  rw [rounding_holds_iff q hm] at h
  split at h
  · exact ⟨h.1, h.2, by omega⟩
  · exact ⟨h.1.le, h.2.le, fun _ => h⟩

/-- The interval is wider than the finest grid that is tried. -/
theorem grid_finer {m : ℕ} {q : ℤ} (hc : Canonical m q) :
    let i := roundingInterval m q
    (10 : ℚ) ^ (pointPosition i.mid i.den - 17) < ((i.high : ℚ) - i.low) / i.den := by
  intro i
  obtain ⟨hden, hlow, hmid, hhigh, -⟩ := rounding_interval_eq q hc.pos
  have hu : (0 : ℚ) < 2 ^ (q - 2) := by positivity
  have hpos : 0 < i.mid :=
    Nat.mul_pos (Nat.mul_pos (by decide) hc.pos) (Nat.pow_pos (by decide))
  have hpoint := point_position_le hpos hden
  have hmid : (i.mid : ℚ) / i.den = 4 * m * 2 ^ (q - 2) := hmid
  have hwidth : ((i.high : ℚ) - i.low) / i.den = (2 + below m q) * 2 ^ (q - 2) := by
    rw [sub_div]
    have hlow : (i.low : ℚ) / i.den = _ := hlow
    have hhigh : (i.high : ℚ) / i.den = _ := hhigh
    rw [hlow, hhigh]
    ring
  have hsteps : (10 : ℚ) ^ (pointPosition i.mid i.den - 17) =
      10 ^ (pointPosition i.mid i.den - 1) / 10 ^ 16 := by
    rw [show pointPosition i.mid i.den - 17 = (pointPosition i.mid i.den - 1) - 16 by omega,
      zpow_sub₀ (by decide)]
    rfl
  have hunits : (4 * m : ℚ) < (2 + below m q) * 10 ^ 16 := by
    have hlt := hc.lt
    have hnat : 4 * m < (2 + below m q) * 10 ^ 16 := by
      rcases below_cases m q with h | h <;> rw [h.1] <;> omega
    exact_mod_cast hnat
  rw [hwidth, hsteps, div_lt_iff₀ (by positivity)]
  calc (10 : ℚ) ^ (pointPosition i.mid i.den - 1)
      ≤ 4 * m * 2 ^ (q - 2) := hmid ▸ hpoint
    _ < (2 + below m q) * 10 ^ 16 * 2 ^ (q - 2) := by gcongr
    _ = (2 + below m q) * 2 ^ (q - 2) * 10 ^ 16 := by ring

/-- The shortest decimal is one of the reals that round to the float. -/
theorem shortest_holds {tieUp : Bool} {bits : UInt64} {m : ℕ} {q : ℤ}
    (hparts : binaryParts bits = (m, q)) (hc : Canonical m q) :
    (roundingInterval m q).Holds (value (shortest tieUp bits)) := by
  have hden := (rounding_interval_eq q hc.pos).1
  have hscale : 0 < Nat.pow 2 (q - 2).toNat := Nat.pow_pos (by decide)
  have hm := hc.pos
  have hl : (roundingInterval m q).low < (roundingInterval m q).mid := by
    refine Nat.mul_lt_mul_of_pos_right ?_ hscale
    split <;> omega
  have hh : (roundingInterval m q).mid < (roundingInterval m q).high :=
    Nat.mul_lt_mul_of_pos_right (by omega) hscale
  unfold shortest
  simp only [hparts, value_strip_zeros]
  cases hfound : (List.range 17).findSome? fun n =>
      ((roundingInterval m q).onGrid tieUp (pointPosition (roundingInterval m q).mid
        (roundingInterval m q).den - Int.ofNat (n + 1))).map fun k =>
          (⟨k, pointPosition (roundingInterval m q).mid (roundingInterval m q).den -
            Int.ofNat (n + 1)⟩ : Decimal) with
  | some d =>
    obtain ⟨n, -, hn⟩ := List.exists_of_findSome?_eq_some hfound
    obtain ⟨k, hk, rfl⟩ := Option.map_eq_some_iff.mp hn
    exact Interval.on_grid_holds hden hk
  | none =>
    -- the finest grid has a point in the interval
    obtain ⟨k, hk⟩ : ∃ k, (roundingInterval m q).onGrid tieUp _ = some k :=
      Interval.on_grid_some hden hl hh (grid_finer hc)
    have hlast := List.findSome?_eq_none_iff.mp hfound 16 (by decide)
    rw [Option.map_eq_none_iff] at hlast
    exact absurd (hlast.symm.trans hk) (by simp)

theorem rounding_apart {m m' : ℕ} {q q' : ℤ} (h : Canonical m q) (h' : Canonical m' q')
    (hlt : q < q' ∨ q = q' ∧ m < m') {r : ℚ} (hr : (roundingInterval m q).Holds r) :
    ¬(roundingInterval m' q').Holds r := by
  intro hr'
  obtain ⟨-, hhigh, hodd⟩ := rounding_ends h.pos hr
  obtain ⟨hlow', -, hodd'⟩ := rounding_ends h'.pos hr'
  have hu : (0 : ℚ) < 2 ^ (q - 2) := by positivity
  have hm := h.lt
  rcases hlt with hq | ⟨rfl, hmm⟩
  · -- the higher float is at least twice as coarse
    have hlead := h'.leading (by have := h.exponent; omega)
    have hsplit : (2 : ℚ) ^ (q' - 2) = 2 ^ (q' - q) * 2 ^ (q - 2) := by
      rw [← zpow_add₀ (by decide)]
      congr 1
      omega
    have htwo : (2 : ℚ) ≤ 2 ^ (q' - q) := by
      calc (2 : ℚ) = 2 ^ (1 : ℤ) := (zpow_one 2).symm
        _ ≤ 2 ^ (q' - q) := zpow_le_zpow_right₀ (by norm_num) (by omega)
    have hpos : (0 : ℚ) ≤ 4 * m' - below m' q' := by
      have hnat : below m' q' ≤ 4 * m' := by
        rcases below_cases m' q' with hb | hb <;> omega
      have hq : (below m' q' : ℚ) ≤ 4 * m' := by exact_mod_cast hnat
      linarith
    have hcoarse : (4 * m' - below m' q' : ℚ) * 2 * 2 ^ (q - 2) ≤ r := by
      calc (4 * m' - below m' q' : ℚ) * 2 * 2 ^ (q - 2)
          ≤ (4 * m' - below m' q') * 2 ^ (q' - q) * 2 ^ (q - 2) := by gcongr
        _ = (4 * m' - below m' q') * 2 ^ (q' - 2) := by rw [hsplit, mul_assoc]
        _ ≤ r := hlow'
    have hle : 8 * m' ≤ 4 * m + 2 + 2 * below m' q' := by
      have hunits := le_of_mul_le_mul_right (hcoarse.trans hhigh) hu
      have hq : (8 * m' : ℚ) ≤ 4 * m + 2 + 2 * below m' q' := by linarith
      exact_mod_cast hq
    have hlt : m % 2 = 1 → 8 * m' < 4 * m + 2 + 2 * below m' q' := by
      intro hparity
      have hunits := lt_of_mul_lt_mul_right (hcoarse.trans_lt (hodd hparity).2) hu.le
      have hq : (8 * m' : ℚ) < 4 * m + 2 + 2 * below m' q' := by linarith
      exact_mod_cast hq
    have hbelow := below_cases m' q'
    have hexponent := h.exponent
    omega
  · -- two neighbours share an end, and one of them is odd
    have hle : 4 * m' ≤ 4 * m + 2 + below m' q := by
      have hunits := le_of_mul_le_mul_right (hlow'.trans hhigh) hu
      have hq : (4 * m' : ℚ) ≤ 4 * m + 2 + below m' q := by linarith
      exact_mod_cast hq
    have hlt : m % 2 = 1 ∨ m' % 2 = 1 → 4 * m' < 4 * m + 2 + below m' q := by
      intro hparity
      have hr : (4 * m' - below m' q : ℚ) * 2 ^ (q - 2) < (4 * m + 2) * 2 ^ (q - 2) := by
        rcases hparity with hp | hp
        · exact hlow'.trans_lt (hodd hp).2
        · exact (hodd' hp).1.trans_le hhigh
      have hunits := lt_of_mul_lt_mul_right hr hu.le
      have hq : (4 * m' : ℚ) < 4 * m + 2 + below m' q := by linarith
      exact_mod_cast hq
    have hbelow := below_cases m' q
    omega

/-- No real rounds to two floats. -/
theorem rounding_disjoint {m m' : ℕ} {q q' : ℤ} (h : Canonical m q) (h' : Canonical m' q') {r : ℚ}
    (hr : (roundingInterval m q).Holds r) (hr' : (roundingInterval m' q').Holds r) :
    m = m' ∧ q = q' := by
  rcases lt_trichotomy q q' with hq | rfl | hq
  · exact absurd hr' (rounding_apart h h' (.inl hq) hr)
  · rcases lt_trichotomy m m' with hm | rfl | hm
    · exact absurd hr' (rounding_apart h h' (.inr ⟨rfl, hm⟩) hr)
    · exact ⟨rfl, rfl⟩
    · exact absurd hr (rounding_apart h' h (.inr ⟨rfl, hm⟩) hr')
  · exact absurd hr (rounding_apart h' h (.inl hq) hr')

/-- A float is found again from its decimal. -/
theorem shortest_injective {tieUp : Bool} {a b : UInt64} (ha : 0 < a.toNat)
    (ha' : a.toNat < 2 ^ 63) (hb : 0 < b.toNat) (hb' : b.toNat < 2 ^ 63)
    (h : value (shortest tieUp a) = value (shortest tieUp b)) : a = b := by
  have hca := binary_parts_canonical ha ha'
  have hcb := binary_parts_canonical hb hb'
  have hra : (roundingInterval (binaryParts a).1 (binaryParts a).2).Holds
      (value (shortest tieUp a)) :=
    shortest_holds rfl hca
  have hrb : (roundingInterval (binaryParts b).1 (binaryParts b).2).Holds
      (value (shortest tieUp b)) :=
    shortest_holds rfl hcb
  rw [h] at hra
  obtain ⟨hm, hq⟩ := rounding_disjoint hca hcb hra hrb
  exact binary_parts_injective ha' hb' (Prod.ext hm hq)

end LayeredSql.Decimal
