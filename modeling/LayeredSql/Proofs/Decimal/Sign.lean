import LayeredSql.Decimal.Style
import Mathlib

namespace LayeredSql.Decimal
open Float.Model

/-- A finite number is stored as its sign and the rest. -/
theorem pack_neg {u : UnpackedFloat} (h : u.isFinite = true) :
    ∃ s e m, u.pack .binary64 = UnpackedFloat.packComponents .binary64 s e m ∧
      u.neg.pack .binary64 = UnpackedFloat.packComponents .binary64 (-s) e m := by
  cases u with
  | notANumber | infinity s => cases h
  | zero s => exact ⟨s, 0, 0, rfl, rfl⟩
  | finite s m e hm =>
    simp only [UnpackedFloat.neg, UnpackedFloat.pack]
    split
    · exact ⟨s, _, _, rfl, rfl⟩
    · split
      · exact ⟨s, _, _, rfl, rfl⟩
      · exact ⟨s, _, _, rfl, rfl⟩

theorem packed_nat (s : UnpackedFloat.Sign) (e : BitVec Format.binary64.exponentBits)
    (m : BitVec Format.binary64.mantissaBitsWithoutImplicit) :
    (UnpackedFloat.packComponents .binary64 s e m).toNat =
      s.toBitVec.toNat * 2 ^ 63 + (e.toNat * 2 ^ 52 + m.toNat) := by
  have hm : m.toNat < 2 ^ 52 := m.isLt
  have he : e.toNat < 2 ^ 11 := e.isLt
  have happend {a b : Nat} (x : BitVec a) (y : BitVec b) :
      (x ++ y).toNat = x.toNat * 2 ^ b + y.toNat := by
    rw [BitVec.toNat_append, ← Nat.shiftLeft_add_eq_or_of_lt y.isLt, Nat.shiftLeft_eq]
  change (s.toBitVec ++ e ++ m).toNat = _
  rw [happend, happend]
  change (_ * 2 ^ 11 + _) * 2 ^ 52 + _ = _
  omega

/-- The parts of a number and of its negation, as they are stored. -/
theorem stored_neg {x : Float} (h : x.isFinite = true) :
    ∃ s e m, x.toModel.toBits.toBitVec = UnpackedFloat.packComponents .binary64 s e m ∧
      (-x).toModel.toBits.toBitVec = UnpackedFloat.packComponents .binary64 (-s) e m := by
  obtain ⟨s, e, m, hx, hn⟩ := pack_neg h
  exact ⟨s, e, m, (UnpackedFloat.pack_unpack_of_valid x.toModel.valid).symm.trans hx, hn⟩

theorem unpack_finite_iff (b : BitVec Format.binary64.numBits) :
    (UnpackedFloat.unpack .binary64 b).isFinite = true ↔ UnpackedFloat.unpackExponent b ≠ -1 := by
  unfold UnpackedFloat.unpack
  simp only
  split
  · rename_i he
    refine iff_of_false ?_ (fun hne => hne he)
    split <;> simp [UnpackedFloat.isFinite]
  · rename_i he
    refine iff_of_true ?_ he
    split
    · split <;> rfl
    · rfl

theorem finite_neg {x : Float} (h : x.isFinite = true) : (-x).isFinite = true := by
  obtain ⟨s, e, m, hx, hn⟩ := stored_neg h
  have hexponent := (unpack_finite_iff _).mp h
  rw [hx, UnpackedFloat.unpackExponent_packComponents] at hexponent
  refine (unpack_finite_iff _).mpr ?_
  rwa [hn, UnpackedFloat.unpackExponent_packComponents]

theorem neg_bits {x : Float} (h : x.isFinite = true) (hs : x.toBits.toNat < 2 ^ 63) :
    (-x).toBits.toNat = x.toBits.toNat + 2 ^ 63 := by
  obtain ⟨s, e, m, hx, hn⟩ := stored_neg h
  have hbits : x.toBits.toNat = (UnpackedFloat.packComponents .binary64 s e m).toNat :=
    congrArg BitVec.toNat hx
  have hneg : (-x).toBits.toNat = (UnpackedFloat.packComponents .binary64 (-s) e m).toNat :=
    congrArg BitVec.toNat hn
  rw [packed_nat] at hbits hneg
  cases s with
  | positive =>
    rw [hneg, hbits]
    change 1 * 2 ^ 63 + _ = 0 * 2 ^ 63 + _ + 2 ^ 63
    omega
  | negative =>
    change _ = 1 * 2 ^ 63 + _ at hbits
    omega

theorem neg_magnitude {x : Float} (h : x.isFinite = true) (hs : x.toBits.toNat < 2 ^ 63) :
    (-x).toBits % 0x8000000000000000 = x.toBits % 0x8000000000000000 := by
  rw [← UInt64.toNat_inj, UInt64.toNat_mod, UInt64.toNat_mod, neg_bits h hs]
  exact Nat.add_mod_right _ _

namespace Style

def unsigned (style : Style) (magnitude : UInt64) : List Char :=
  if magnitude = 0 then ['0', '.', '0'] else style.write (shortest style.tieUp magnitude)

theorem text_unsigned (style : Style) (x : Float) :
    (style.text x).toList =
      (if x.toBits.toNat < 2 ^ 63 then [] else ['-']) ++
        style.unsigned (x.toBits % 0x8000000000000000) := by
  have hsign : x.toBits = x.toBits % 0x8000000000000000 ↔ x.toBits.toNat < 2 ^ 63 := by
    rw [← UInt64.toNat_inj, UInt64.toNat_mod]
    change _ = _ % 2 ^ 63 ↔ _
    omega
  simp only [text, unsigned, String.toList_ofList, hsign]

end Style
end LayeredSql.Decimal
