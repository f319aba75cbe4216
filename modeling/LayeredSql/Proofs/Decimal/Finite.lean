import LayeredSql.Decimal.Scale
import LayeredSql.Proofs.Decimal.Sign

namespace LayeredSql.Decimal
open Float.Model
open Float.Model.UnpackedFloat

def Within (k : Int) : UnpackedFloat → Prop
  | .zero _ => True
  | .finite _ m e _ => totalExponent m e ≤ k
  | _ => False

def Reaches (k : Int) : UnpackedFloat → Prop
  | .finite _ m e _ => k < totalExponent m e
  | _ => False

instance (k : Int) (u : UnpackedFloat) : Decidable (Reaches k u) :=
  match u with
  | .finite _ m e _ => inferInstanceAs (Decidable (k < totalExponent m e))
  | .zero _ | .infinity _ | .notANumber => inferInstanceAs (Decidable False)

theorem Within.mono {j k : Int} (hjk : j ≤ k) {u : UnpackedFloat} (h : Within j u) :
    Within k u := by
  cases u with
  | zero s => trivial
  | finite s m e hm => exact Int.le_trans h hjk
  | infinity s | notANumber => exact h

theorem Within.finite {k : Int} {u : UnpackedFloat} (h : Within k u) : u.isFinite = true := by
  cases u with
  | zero s | finite s m e hm => rfl
  | infinity s | notANumber => exact h.elim

theorem Reaches.finite {k : Int} {u : UnpackedFloat} (h : Reaches k u) : u.isFinite = true := by
  cases u with
  | finite s m e hm => rfl
  | zero s | infinity s | notANumber => exact h.elim

theorem shifted_mantissa (em : ExtendedMantissa) (n : Nat) :
    (em >>> n).mantissa = em.mantissa / 2 ^ n := by
  induction n with
  | zero => exact (Nat.div_one _).symm
  | succ n ih =>
    change (em >>> n).mantissa / 2 = _
    rw [ih, Nat.div_div_eq_div_mul, ← Nat.pow_succ]

theorem first_mantissa (m : Nat) (a : Accuracy) :
    (ExtendedMantissa.ofMantissaAndAccuracy m a).mantissa = m := by
  cases a with
  | exact => rfl
  | inexact o => cases o <;> rfl

theorem rounded_le (em : ExtendedMantissa) : em.roundedMantissa ≤ em.mantissa + 1 := by
  obtain ⟨m, round, sticky⟩ := em
  unfold ExtendedMantissa.roundedMantissa
  cases round <;> cases sticky <;>
    simp only [ExtendedMantissa.accuracy, Accuracy.roundToNearestEven] <;> omega

theorem log2_le {m k : Nat} (h : m ≤ 2 ^ k) : m.log2 ≤ k := by
  rcases Nat.eq_zero_or_pos m with rfl | hm
  · exact Nat.zero_le _
  · have hlow := Nat.log2_self_le (Nat.pos_iff_ne_zero.mp hm)
    exact (Nat.pow_le_pow_iff_right (by decide)).mp (hlow.trans h)

/-- Dropping bits and rounding up once. -/
theorem log2_rounded {m n r : Nat} (hr : r ≤ m / 2 ^ n + 1) : r.log2 ≤ m.log2 + 1 - n := by
  refine log2_le (hr.trans ?_)
  have hm : m < 2 ^ (m.log2 + 1) := Nat.lt_log2_self
  rcases Nat.lt_or_ge m.log2 n with hn | hn
  · rw [Nat.div_eq_of_lt (hm.trans_le (Nat.pow_le_pow_right (by decide) hn))]
    exact Nat.one_le_two_pow
  · refine Nat.succ_le_of_lt ?_
    rw [Nat.div_lt_iff_lt_mul (Nat.two_pow_pos n), ← Nat.pow_add]
    exact hm.trans_le (Nat.pow_le_pow_right (by decide) (by omega))

theorem log2_shifted {m n : Nat} (h : m / 2 ^ n ≠ 0) :
    n ≤ m.log2 ∧ (m / 2 ^ n).log2 = m.log2 - n := by
  have hm : 2 ^ n ≤ m := Nat.le_of_not_lt fun hlt => h (Nat.div_eq_of_lt hlt)
  have hpos : m ≠ 0 := Nat.pos_iff_ne_zero.mp (Nat.pos_of_neZero (2 ^ n) |>.trans_le hm)
  have hn : n ≤ m.log2 := (Nat.le_log2 hpos).mpr hm
  refine ⟨hn, (Nat.log2_eq_iff h).mpr ?_⟩
  rw [Nat.le_div_iff_mul_le (Nat.two_pow_pos n), Nat.div_lt_iff_lt_mul (Nat.two_pow_pos n),
    ← Nat.pow_add, ← Nat.pow_add, Nat.sub_add_cancel hn,
    show m.log2 - n + 1 + n = m.log2 + 1 by omega]
  exact ⟨Nat.log2_self_le hpos, Nat.lt_log2_self⟩

theorem target64 (k : Int) : Format.binary64.targetExponent k = max (k - 53) (-1074) := rfl

theorem within_unless_zero {k e : Int} {m : Nat} {s : Sign} (h : m ≠ 0 → totalExponent m e ≤ k) :
    Within k (if hm : m = 0 then .zero s else .finite s m e (Nat.pos_of_ne_zero hm)) := by
  split
  · trivial
  · rename_i hm
    exact h hm

theorem round_within {k : Int} (hk : -1073 ≤ k) {m : Nat} {e : Int} (h : totalExponent m e ≤ k)
    (s : Sign) (a : Accuracy) : Within (k + 1) (roundWithAccuracy .binary64 s m e a) := by
  unfold totalExponent at h
  refine within_unless_zero fun hz => ?_
  simp only [target64, totalExponent, shifted_mantissa, first_mantissa] at hz ⊢
  generalize hn : (max (m.log2 + 1 + e - 53) (-1074) - e).toNat = n at hz ⊢
  generalize hr : (ExtendedMantissa.ofMantissaAndAccuracy m a >>> n).roundedMantissa = r at hz ⊢
  have hlog : r.log2 ≤ m.log2 + 1 - n := by
    have hle := rounded_le (ExtendedMantissa.ofMantissaAndAccuracy m a >>> n)
    rw [hr, shifted_mantissa, first_mantissa] at hle
    exact log2_rounded hle
  obtain ⟨hle, heq⟩ := log2_shifted hz
  rw [heq]
  omega

theorem unpack_within {b : BitVec Format.binary64.numBits} (h : unpackExponent b ≠ -1) :
    Within ((unpackExponent b).toNat - 1022) (UnpackedFloat.unpack .binary64 b) := by
  have hm : (unpackMantissa b).toNat < 2 ^ 52 := (unpackMantissa b).isLt
  have hbias : (Format.binary64.exponentBias : Int) = 1023 := rfl
  unfold UnpackedFloat.unpack
  simp only [hbias]
  split
  · rename_i he
    exact absurd he h
  · split
    · rename_i he
      split
      · trivial
      · rename_i hz
        have hpos : (unpackMantissa b).toNat ≠ 0 := fun hzero => hz (BitVec.eq_of_toNat_eq hzero)
        have hlog := (Nat.log2_lt hpos).mpr hm
        change totalExponent _ _ ≤ _
        rw [totalExponent, he]
        change _ + 1 + ((0 : Int) - (1023 + 52) + 1) ≤ 0 - 1022
        omega
    · have hlead : (1#1 ++ unpackMantissa b).toNat < 2 ^ 53 := (1#1 ++ unpackMantissa b).isLt
      have hpos : (1#1 ++ unpackMantissa b).toNat ≠ 0 := by
        rw [BitVec.toNat_append, ← Nat.shiftLeft_add_eq_or_of_lt (unpackMantissa b).isLt]
        exact Nat.ne_of_gt (Nat.add_pos_left (by decide) _)
      have hlog := (Nat.log2_lt hpos).mpr hlead
      change totalExponent _ _ ≤ _
      unfold totalExponent
      omega

/-- The stored exponent of a number is at most that of its bound. -/
theorem packed_exponent {k : Int} (hk : k ≤ 900) {u : UnpackedFloat} (h : Within k u) :
    ((unpackExponent (u.pack .binary64)).toNat : Int) ≤ max (k + 1022) 0 := by
  have hbias : (Format.binary64.exponentBias : Int) = 1023 := rfl
  cases u with
  | infinity s | notANumber => exact h.elim
  | zero s =>
    unfold UnpackedFloat.pack packedZero
    rw [unpackExponent_packComponents]
    change (0 : Int) ≤ _
    omega
  | finite s m e hm =>
    change (m.log2 : Int) + 1 + e ≤ k at h
    simp only [UnpackedFloat.pack, hbias]
    split
    · rename_i hlarge
      change 2048 ≤ (e + 1023 + 52).toNat + 1 at hlarge
      omega
    · split
      · rename_i hlog
        change m.log2 + 1 = 53 at hlog
        rw [unpackExponent_packComponents, BitVec.toNat_ofNat]
        have hmod := Nat.mod_le (e + 1023 + 52).toNat (2 ^ 11)
        change (((e + 1023 + 52).toNat % 2 ^ 11 : Nat) : Int) ≤ _
        omega
      · rw [unpackExponent_packComponents]
        change (0 : Int) ≤ _
        omega

/-- Storing a number keeps it within its bound. -/
theorem stored_within {k : Int} (hl : -1022 ≤ k) (hk : k ≤ 900) {u : UnpackedFloat}
    (h : Within k u) : Within k (Float.Model.pack u).unpack := by
  have hle := packed_exponent hk h
  have hfinite : unpackExponent (u.pack .binary64) ≠ -1 := by
    intro he
    rw [he] at hle
    change (2047 : Int) ≤ _ at hle
    omega
  exact (unpack_within hfinite).mono (by omega)

/-- A number that does not overflow is stored as a number. -/
theorem stored_finite {u : UnpackedFloat} (h : u.isFinite = true)
    (hi : (Float.Model.pack u).unpack.isInf = false) :
    (Float.Model.pack u).unpack.isFinite = true := by
  refine (unpack_finite_iff _).mpr ?_
  change unpackExponent (u.pack .binary64) ≠ -1
  cases u with
  | infinity s | notANumber => cases h
  | zero s =>
    unfold UnpackedFloat.pack packedZero
    rw [unpackExponent_packComponents]
    decide
  | finite s m e hm =>
    revert hi
    change (UnpackedFloat.unpack .binary64 (UnpackedFloat.pack .binary64 _)).isInf = false → _
    simp only [UnpackedFloat.pack]
    split
    · intro hi
      cases s <;> cases hi
    · rename_i hlarge
      intro _
      split
      · rw [unpackExponent_packComponents]
        intro he
        have hnat := congrArg BitVec.toNat he
        rw [BitVec.toNat_ofNat] at hnat
        change _ % 2048 = 2047 at hnat
        change ¬2048 ≤ _ + 1 at hlarge
        omega
      · rw [unpackExponent_packComponents]
        decide

theorem mul_within {j k : Int} {u v : UnpackedFloat} (hu : Within j u) (hv : Within k v)
    (hjk : -1073 ≤ j + k) : Within (j + k + 1) (u.mul .binary64 v) := by
  cases u with
  | infinity s | notANumber => exact hu.elim
  | zero s =>
    cases v with
    | infinity s | notANumber => exact hv.elim
    | zero t | finite t m e hm => trivial
  | finite s m e hm =>
    cases v with
    | infinity s | notANumber => exact hv.elim
    | zero t => trivial
    | finite t n f hn =>
      refine round_within hjk ?_ _ _
      change (m.log2 : Int) + 1 + e ≤ j at hu
      change (n.log2 : Int) + 1 + f ≤ k at hv
      have hm' : m < 2 ^ (m.log2 + 1) := Nat.lt_log2_self
      have hn' : n < 2 ^ (n.log2 + 1) := Nat.lt_log2_self
      have hprod : m * n < 2 ^ (m.log2 + 1 + (n.log2 + 1)) := by
        rw [Nat.pow_add]
        exact Nat.mul_lt_mul'' hm' hn'
      have hlog := (Nat.log2_lt (Nat.mul_pos hm hn).ne').mpr hprod
      unfold totalExponent
      omega

theorem round_finite (s : Sign) (m : Nat) (e : Int) (a : Accuracy) :
    (roundWithAccuracy .binary64 s m e a).isFinite = true :=
  (round_within (Int.le_max_right _ _) (Int.le_max_left (totalExponent m e) (-1073)) s a).finite

theorem mul_finite {u v : UnpackedFloat} (hu : u.isFinite = true) (hv : v.isFinite = true) :
    (u.mul .binary64 v).isFinite = true := by
  cases u with
  | infinity s | notANumber => cases hu
  | zero s =>
    cases v with
    | infinity t | notANumber => cases hv
    | zero t | finite t n f hn => rfl
  | finite s m e hm =>
    cases v with
    | infinity t | notANumber => cases hv
    | zero t => rfl
    | finite t n f hn => exact round_finite _ _ _ _

theorem log2_shiftLeft {m : Nat} (hm : 0 < m) (n : Nat) : (m <<< n).log2 = m.log2 + n := by
  have hpos : 0 < m * 2 ^ n := Nat.mul_pos hm (Nat.two_pow_pos n)
  rw [Nat.shiftLeft_eq, Nat.log2_eq_iff hpos.ne', Nat.pow_add, Nat.add_right_comm, Nat.pow_add]
  exact ⟨Nat.mul_le_mul_right _ (Nat.log2_self_le hm.ne'),
    Nat.mul_lt_mul_of_pos_right Nat.lt_log2_self (Nat.two_pow_pos n)⟩

theorem log2_div (a : Nat) {b : Nat} (hb : 0 < b) : (a / b).log2 ≤ a.log2 - b.log2 := by
  have ha : a < 2 ^ (a.log2 + 1) := Nat.lt_log2_self
  have hlow := Nat.log2_self_le hb.ne'
  rcases Nat.lt_or_ge a.log2 b.log2 with hab | hab
  · rw [Nat.div_eq_of_lt (ha.trans_le ((Nat.pow_le_pow_right (by decide) hab).trans hlow))]
    exact Nat.zero_le _
  · rcases Nat.eq_zero_or_pos (a / b) with hz | hz
    · rw [hz]
      exact Nat.zero_le _
    · have hlt : a / b < 2 ^ (a.log2 - b.log2 + 1) := by
        rw [Nat.div_lt_iff_lt_mul hb]
        refine ha.trans_le (le_trans ?_ (Nat.mul_le_mul_left _ hlow))
        rw [← Nat.pow_add]
        exact Nat.pow_le_pow_right (by decide) (by omega)
      have hlog := (Nat.log2_lt hz.ne').mpr hlt
      omega

/-- A quotient by at least four does not grow beyond the bound of what is divided. -/
theorem div_within {k : Int} (hk : -1000 ≤ k) {u v : UnpackedFloat} (hu : Within k u)
    (hv : Reaches 1 v) : Within k (u.div .binary64 v) := by
  cases v with
  | infinity s | notANumber | zero s => exact hv.elim
  | finite t n f hn =>
    cases u with
    | infinity s | notANumber => exact hu.elim
    | zero s => trivial
    | finite s m e hm =>
      change (m.log2 : Int) + 1 + e ≤ k at hu
      change 1 < (n.log2 : Int) + 1 + f at hv
      refine (round_within (k := k - 1) (by omega) ?_ _ _).mono (by omega)
      simp only [target64, totalExponent]
      generalize hw : (e - f -
        min (e - f) (max (m.log2 + 1 + e - (n.log2 + 1 + f) - 53) (-1074))).toNat = w
      have hlog := log2_div (m <<< w) hn
      rw [log2_shiftLeft hm w] at hlog
      omega

/-- Powers of ten are numbers from one on, and from two on if they are no unit. -/
theorem tenPow_reaches {n : Nat} (hn : n ≤ 308) :
    Reaches (min n 1 : Nat) (tenPow n).toModel.unpack := by
  have hall : ∀ n < 309, Reaches (min n 1 : Nat) (tenPow n).toModel.unpack := by
    decide +kernel
  exact hall n (by omega)

theorem divided_within {k : Int} (hl : -1000 ≤ k) (hk : k ≤ 900) {x : Float}
    (h : Within k x.toModel.unpack) {n : Nat} (hn : n ≤ 308) (hpos : 0 < n) :
    Within k (x / tenPow n).toModel.unpack := by
  have hpower := tenPow_reaches hn
  rw [Nat.min_eq_right hpos] at hpower
  exact stored_within (by omega) hk (div_within hl h hpower)

theorem divideOften_within {k : Int} (hl : -1000 ≤ k) (hk : k ≤ 900) (n : Nat) {x : Float}
    (h : Within k x.toModel.unpack) : Within k (divideOften n x).toModel.unpack := by
  induction n generalizing x with
  | zero => exact h
  | succ n ih =>
    unfold divideOften
    split
    · exact h
    · exact ih (divided_within hl hk h (Nat.le_refl _) (by decide))

theorem normalized_within {n : Nat} {k : Int} (hk : -1073 ≤ k) (h : totalExponent n 0 ≤ k) :
    Within (k + 1) (UnpackedFloat.ofNat .binary64 n) := by
  unfold UnpackedFloat.ofNat UnpackedFloat.ofInt UnpackedFloat.normalize
  split
  · rename_i hlt
    exact absurd (Int.compare_eq_lt.mp hlt) (by omega)
  · trivial
  · rename_i hgt
    have hpos : 0 < n := by
      have := Int.compare_eq_gt.mp hgt
      omega
    refine round_within hk ?_ _ _
    rw [Int.toNat_natCast]
    unfold totalExponent at h ⊢
    rw [log2_shiftLeft hpos]
    omega

/-- Numbers of 64 bits are far from overflowing. -/
theorem ofNat_within {n : Nat} (hn : n < UInt64.size) :
    Within 67 (Float.ofNat n).toModel.unpack := by
  have hlog : n.log2 ≤ 63 := by
    rcases Nat.eq_zero_or_pos n with rfl | hpos
    · decide
    · exact Nat.le_of_lt_succ ((Nat.log2_lt hpos.ne').mpr hn)
  change Within 67 (Float.ofScientific n false 0).toModel.unpack
  unfold Float.ofScientific
  split
  · have hone : Within 1 (Float.ofBits 0x3FF0000000000000).toModel.unpack := by
      change (_ : Int) ≤ 1
      decide +kernel
    have hnat : n.toUInt64.toNat = n := Nat.mod_eq_of_lt hn
    have htotal : totalExponent n.toUInt64.toNat 0 ≤ 64 := by
      rw [hnat]
      unfold totalExponent
      omega
    have hfloat : Within 65 n.toUInt64.toFloat.toModel.unpack :=
      stored_within (by decide) (by decide) (normalized_within (by decide) htotal)
    exact stored_within (by decide) (by decide) (mul_within hfloat hone (by decide))
  · refine stored_within (by decide) (by decide) ?_
    simp only [Bool.false_eq_true, if_false]
    unfold UnpackedFloat.ofScientific
    split
    · trivial
    · rename_i hz
      have hsmall : ¬Int.ofNat 0 < -((2 ^ Format.binary64.exponentBits : Int) + n.log2) := by
        change ¬(0 : Int) < -(2048 + n.log2)
        omega
      rw [if_neg (by decide), if_neg hsmall, if_pos (by decide)]
      refine (mul_within (j := 64) (k := 1) ?_ ?_ (by decide)).mono (by decide)
      · change totalExponent (n <<< 53) (-53) ≤ 64
        rw [totalExponent, log2_shiftLeft (Nat.pos_of_ne_zero hz)]
        omega
      · change totalExponent (10 ^ 0) 0 ≤ 1
        decide

theorem absorb_lt {v : Nat} (hv : v < UInt64.size) (ds : List Nat) :
    (absorb v ds).1 < UInt64.size := by
  induction ds generalizing v with
  | nil => exact hv
  | cons d ds ih =>
    unfold absorb
    split
    · rename_i hfits
      exact ih hfits
    · exact hv

theorem scale_finite {x y : Float} (hx : Within 67 x.toModel.unpack) {e : Int}
    (h : scale x e = some y) : y.isFinite = true := by
  unfold scale at h
  split at h
  · rename_i he
    have hdivided := divideOften_within (by decide) (by decide) ((e.natAbs - 1) / 308) hx
    cases h
    exact (divided_within (by decide) (by decide) hdivided (by omega) (by omega)).finite
  split at h
  · cases h
    exact hx.finite
  split at h
  · simp only at h
    split at h
    · cases h
    · rename_i hle hi
      cases h
      exact stored_finite (mul_finite hx.finite (tenPow_reaches (by omega)).finite)
        (Bool.eq_false_iff.mpr hi)
  · cases h

/-- Whatever is read as a float is a number. -/
theorem toFloat_finite {negative : Bool} {whole fraction : List Nat} {e : Int} {x : Float}
    (h : toFloat negative whole fraction e = some x) : x.isFinite = true := by
  have hw := absorb_lt (absorb_lt (show 0 < UInt64.size by decide) whole) fraction
  unfold toFloat at h
  obtain ⟨y, hy, rfl⟩ := Option.map_eq_some_iff.mp h
  have hfinite := scale_finite (ofNat_within hw) hy
  split
  · exact finite_neg hfinite
  · exact hfinite

end LayeredSql.Decimal
