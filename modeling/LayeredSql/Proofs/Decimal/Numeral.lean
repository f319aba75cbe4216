import LayeredSql.Proofs.Decimal.Shortest
import LayeredSql.Proofs.Decimal.Sign

namespace LayeredSql.Decimal

structure Numeral where
  negative : Bool
  whole : List Char
  fraction : List Char
  exponent : Option Int

namespace Numeral

def signText (n : Numeral) : List Char :=
  if n.negative then ['-'] else []

def fractionText (n : Numeral) : List Char :=
  if n.fraction = [] then [] else '.' :: n.fraction

def powerText (plusSign : Bool) (n : Numeral) : List Char :=
  match n.exponent with
  | none => []
  | some e => 'e' :: exponentText plusSign e

def chars (plusSign : Bool) (n : Numeral) : List Char :=
  n.signText ++ (n.whole ++ (n.fractionText ++ n.powerText plusSign))

/-- What a reader accepts: a zero is the first of several digits in a fraction only. -/
structure Well (n : Numeral) : Prop where
  whole_digits : ∀ c ∈ n.whole, c.isDigit = true
  fraction_digits : ∀ c ∈ n.fraction, c.isDigit = true
  whole_some : n.whole ≠ []
  no_leading_zero : n.whole.head? = some '0' → n.whole = ['0']

def value (n : Numeral) : ℚ :=
  Nat.ofDigitChars 10 (n.whole ++ n.fraction) 0 * 10 ^ (n.exponent.getD 0 - n.fraction.length)

end Numeral

theorem digits_are_digits (n : ℕ) : ∀ c ∈ Nat.toDigits 10 n, c.isDigit = true :=
  fun _ hc => Nat.isDigit_of_mem_toDigits (by decide) (by decide) hc

theorem digit_ne {c x : Char} (h : c.isDigit = true) (hx : x.isDigit = false) : c ≠ x := by
  rintro rfl
  rw [h] at hx
  cases hx

theorem digits_head_ne_zero {n : ℕ} (h : 0 < n) : (Nat.toDigits 10 n).head? ≠ some '0' := by
  induction n using Nat.strong_induction_on with
  | _ n ih =>
    rw [Nat.toDigits_eq_if (by decide)]
    split
    · rename_i hlt
      intro hz
      have hd : ∀ k < 10, Nat.digitChar k = '0' → k = 0 := by decide
      have := hd n hlt (by simpa using hz)
      omega
    · rename_i hge
      have hne := Nat.toDigits_ne_nil (b := 10) (n := n / 10)
      rw [List.head?_append_of_ne_nil _ hne]
      exact ih (n / 10) (by omega) (by omega)

theorem zeros_are_digits (n : ℕ) : ∀ c ∈ List.replicate n '0', c.isDigit = true := by
  intro c hc
  rw [List.eq_of_mem_replicate hc]
  decide

theorem ofDigitChars_append (a b : List Char) :
    Nat.ofDigitChars 10 (a ++ b) 0 =
      10 ^ b.length * Nat.ofDigitChars 10 a 0 + Nat.ofDigitChars 10 b 0 := by
  rw [Nat.ofDigitChars_append, Nat.ofDigitChars_eq_ofDigitChars_zero]

theorem ofDigitChars_zeros (n : ℕ) : Nat.ofDigitChars 10 (List.replicate n '0') 0 = 0 := by
  rw [Nat.ofDigitChars_replicate_zero, Nat.mul_zero]

def intNumeral (n : ℤ) : Numeral :=
  ⟨n < 0, Nat.toDigits 10 n.natAbs, [], none⟩

theorem int_text (n : ℤ) (plusSign : Bool) :
    (toString n).toList = (intNumeral n).chars plusSign := by
  have hchars : (intNumeral n).chars plusSign =
      (if n < 0 then ['-'] else []) ++ Nat.toDigits 10 n.natAbs := by
    simp [intNumeral, Numeral.chars, Numeral.signText, Numeral.fractionText, Numeral.powerText]
  rw [hchars, Int.toString_eq_repr, Int.repr_eq_if]
  split
  · rw [if_neg (by omega), Nat.toList_repr, show n.toNat = n.natAbs by omega]
    rfl
  · rw [if_pos (by omega), String.toList_append, Nat.toList_repr,
      show (-n).toNat = n.natAbs by omega]
    rfl

theorem int_well (n : ℤ) : (intNumeral n).Well where
  whole_digits := digits_are_digits _
  fraction_digits := by simp [intNumeral]
  whole_some := Nat.toDigits_ne_nil
  no_leading_zero := by
    intro hz
    rcases Nat.eq_zero_or_pos n.natAbs with h | h
    · simp [intNumeral, h]
    · exact absurd hz (digits_head_ne_zero h)

def positionalNumeral (ds : List Char) (p : ℤ) : Numeral :=
  if p ≤ 0 then ⟨false, ['0'], List.replicate (-p).toNat '0' ++ ds, none⟩
  else
    ⟨false, (ds ++ List.replicate (p.toNat - ds.length) '0').take p.toNat,
      if (ds.drop p.toNat).isEmpty then ['0'] else ds.drop p.toNat, none⟩

def scientificNumeral (ds : List Char) (p : ℤ) : Numeral :=
  ⟨false, ds.take 1, ds.drop 1, some (p - 1)⟩

def Style.numeral (style : Style) (d : Decimal) : Numeral :=
  let ds := Nat.toDigits 10 d.digits
  let p := d.exponent + ds.length
  if style.firstPlain ≤ p ∧ p ≤ style.lastPlain then positionalNumeral ds p
  else scientificNumeral ds p

theorem positional_chars {ds : List Char} (hne : ds ≠ []) (p : ℤ) (plusSign : Bool) :
    positional ds p = (positionalNumeral ds p).chars plusSign := by
  unfold positional positionalNumeral
  split
  · simp [Numeral.chars, Numeral.signText, Numeral.fractionText, Numeral.powerText, hne]
  · have hsome : (if (ds.drop p.toNat).isEmpty then ['0'] else ds.drop p.toNat) ≠ [] := by
      split
      · simp
      · rename_i h
        simpa using h
    simp only [Numeral.chars, Numeral.signText, Numeral.fractionText, Numeral.powerText,
      if_neg hsome]
    simp

theorem scientific_chars (ds : List Char) (p : ℤ) (plusSign : Bool) :
    scientific plusSign ds p = (scientificNumeral ds p).chars plusSign := by
  have hdrop : ds.tail = [] ↔ ds.length ≤ 1 := by
    rw [← List.drop_one, List.drop_eq_nil_iff]
  simp [scientific, scientificNumeral, Numeral.chars, Numeral.signText, Numeral.fractionText,
    Numeral.powerText, hdrop]

theorem write_chars (style : Style) (d : Decimal) :
    style.write d = (style.numeral d).chars style.plusSign := by
  unfold Style.write Style.numeral
  simp only
  split
  · exact positional_chars Nat.toDigits_ne_nil _ _
  · exact scientific_chars _ _ _

theorem positional_well {ds : List Char} (hd : ∀ c ∈ ds, c.isDigit = true) (hne : ds ≠ [])
    (hz : ds.head? ≠ some '0') (p : ℤ) : (positionalNumeral ds p).Well := by
  unfold positionalNumeral
  split
  · refine ⟨zeros_are_digits 1, ?_, by simp, fun _ => rfl⟩
    intro c hc
    exact (List.mem_append.mp hc).elim (zeros_are_digits _ c) (hd c)
  · rename_i hp
    obtain ⟨c, cs, rfl⟩ := List.exists_cons_of_ne_nil hne
    obtain ⟨k, hk⟩ : ∃ k, p.toNat = k + 1 := Nat.exists_eq_succ_of_ne_zero (by omega)
    refine ⟨?_, ?_, by simp [hk], ?_⟩
    · intro x hx
      exact (List.mem_append.mp (List.mem_of_mem_take hx)).elim (hd x) (zeros_are_digits _ x)
    · intro x hx
      split at hx
      · rw [List.mem_singleton.mp hx]
        decide
      · exact hd x (List.mem_of_mem_drop hx)
    · intro hzero
      rw [hk] at hzero
      exact absurd hzero (by simpa using hz)

theorem scientific_well {ds : List Char} (hd : ∀ c ∈ ds, c.isDigit = true) (hne : ds ≠ [])
    (hz : ds.head? ≠ some '0') (p : ℤ) : (scientificNumeral ds p).Well := by
  obtain ⟨c, cs, rfl⟩ := List.exists_cons_of_ne_nil hne
  refine ⟨fun x hx => hd x (List.mem_of_mem_take hx), fun x hx => hd x (List.mem_of_mem_drop hx),
    by simp [scientificNumeral], ?_⟩
  intro hzero
  exact absurd hzero (by simpa [scientificNumeral] using hz)

theorem numeral_well (style : Style) {d : Decimal} (h : 0 < d.digits) : (style.numeral d).Well := by
  have hd := digits_are_digits d.digits
  have hz := digits_head_ne_zero h
  unfold Style.numeral
  simp only
  split
  · exact positional_well hd Nat.toDigits_ne_nil hz _
  · exact scientific_well hd Nat.toDigits_ne_nil hz _

theorem positional_value (ds : List Char) (p : ℤ) :
    (positionalNumeral ds p).value = Nat.ofDigitChars 10 ds 0 * 10 ^ (p - ds.length) := by
  unfold positionalNumeral
  split
  · rename_i hp
    have hexp : (0 : ℤ) - ((-p).toNat + ds.length : ℕ) = p - ds.length := by omega
    have hdigits : Nat.ofDigitChars 10 (['0'] ++ (List.replicate (-p).toNat '0' ++ ds)) 0 =
        Nat.ofDigitChars 10 ds 0 := by
      rw [← List.append_assoc, ofDigitChars_append,
        show ['0'] ++ List.replicate (-p).toNat '0' = List.replicate ((-p).toNat + 1) '0' from rfl,
        ofDigitChars_zeros, Nat.mul_zero, Nat.zero_add]
    simp only [Numeral.value, Option.getD_none, List.length_append, List.length_replicate, hexp,
      hdigits]
  · rename_i hp
    rcases Nat.lt_or_ge p.toNat ds.length with hlt | hge
    · -- the point is among the digits
      have hdrop : (ds.drop p.toNat).isEmpty = false := by
        rw [List.isEmpty_eq_false_iff, Ne, List.drop_eq_nil_iff]
        omega
      have hexp : (0 : ℤ) - (ds.length - p.toNat : ℕ) = p - ds.length := by omega
      simp only [Numeral.value, hdrop, Bool.false_eq_true, if_false, Option.getD_none,
        List.length_drop, hexp, Nat.sub_eq_zero_of_le hlt.le, List.replicate_zero, List.append_nil,
        List.take_append_drop]
    · -- the point is behind them
      have hdrop : ds.drop p.toNat = [] := List.drop_eq_nil_iff.mpr hge
      have htake : (ds ++ List.replicate (p.toNat - ds.length) '0').take p.toNat =
          ds ++ List.replicate (p.toNat - ds.length) '0' :=
        List.take_of_length_le (by simp; omega)
      have hdigits : Nat.ofDigitChars 10
          (ds ++ List.replicate (p.toNat - ds.length) '0' ++ ['0']) 0 =
            10 ^ (p.toNat - ds.length + 1) * Nat.ofDigitChars 10 ds 0 := by
        rw [List.append_assoc, ← List.replicate_succ', ofDigitChars_append, ofDigitChars_zeros,
          List.length_replicate, Nat.add_zero]
      simp only [Numeral.value, hdrop, List.isEmpty_nil, if_true, htake, hdigits, Option.getD_none,
        List.length_singleton]
      rw [show p - (ds.length : ℤ) = ((p.toNat - ds.length : ℕ) : ℤ) by omega, zpow_natCast]
      push_cast
      rw [zpow_neg_one, pow_succ]
      field_simp

theorem scientific_value {ds : List Char} (hne : ds ≠ []) (p : ℤ) :
    (scientificNumeral ds p).value = Nat.ofDigitChars 10 ds 0 * 10 ^ (p - ds.length) := by
  have hlen := List.length_pos_of_ne_nil hne
  have hexp : p - 1 - (ds.length - 1 : ℕ) = p - ds.length := by omega
  simp only [Numeral.value, scientificNumeral, List.take_append_drop, Option.getD_some,
    List.length_drop, hexp]

theorem numeral_value (style : Style) (d : Decimal) : (style.numeral d).value = value d := by
  have hvalue : ∀ p : ℤ, p = d.exponent + (Nat.toDigits 10 d.digits).length →
      (Nat.ofDigitChars 10 (Nat.toDigits 10 d.digits) 0 : ℚ) *
        10 ^ (p - (Nat.toDigits 10 d.digits).length) = value d := by
    rintro p rfl
    rw [Nat.ofDigitChars_ten_toDigits, add_sub_cancel_right]
    rfl
  unfold Style.numeral
  simp only
  split
  · rw [positional_value, hvalue _ rfl]
  · rw [scientific_value Nat.toDigits_ne_nil, hvalue _ rfl]

def Style.unsignedNumeral (style : Style) (magnitude : UInt64) : Numeral :=
  if magnitude = 0 then ⟨false, ['0'], ['0'], none⟩
  else style.numeral (shortest style.tieUp magnitude)

def Style.floatNumeral (style : Style) (x : Float) : Numeral :=
  { style.unsignedNumeral (x.toBits % 0x8000000000000000) with
    negative := decide (2 ^ 63 ≤ x.toBits.toNat) }

variable {style : Style}

theorem style_numeral_positive (style : Style) (d : Decimal) :
    (style.numeral d).negative = false := by
  unfold Style.numeral positionalNumeral scientificNumeral
  simp only
  split
  · split <;> rfl
  · rfl

theorem unsigned_chars (style : Style) (magnitude : UInt64) :
    style.unsigned magnitude = (style.unsignedNumeral magnitude).chars style.plusSign := by
  unfold Style.unsigned Style.unsignedNumeral
  split
  · simp [Numeral.chars, Numeral.signText, Numeral.fractionText, Numeral.powerText]
  · exact write_chars style _

theorem text_chars (style : Style) (x : Float) :
    (style.text x).toList = (style.floatNumeral x).chars style.plusSign := by
  have hpositive : (style.unsignedNumeral (x.toBits % 0x8000000000000000)).negative = false := by
    unfold Style.unsignedNumeral
    split
    · rfl
    · exact style_numeral_positive style _
  rw [Style.text_unsigned, unsigned_chars]
  simp only [Numeral.chars, Numeral.signText, hpositive, Style.floatNumeral, decide_eq_true_eq,
    Bool.false_eq_true, if_false, List.nil_append]
  by_cases hs : x.toBits.toNat < 2 ^ 63
  · rw [if_pos hs, if_neg (Nat.not_le.mpr hs)]
    rfl
  · rw [if_neg hs, if_pos (Nat.not_lt.mp hs)]
    rfl

/-- The negation of a number differs in the sign only. -/
theorem float_numeral_neg (style : Style) {x : Float} (h : x.isFinite = true)
    (hs : x.toBits.toNat < 2 ^ 63) :
    style.floatNumeral (-x) = { style.floatNumeral x with negative := true } := by
  unfold Style.floatNumeral
  rw [neg_magnitude h hs, neg_bits h hs, decide_eq_true (by omega)]

theorem magnitude_lt (x : Float) : (x.toBits % 0x8000000000000000).toNat < 2 ^ 63 := by
  rw [UInt64.toNat_mod]
  exact Nat.mod_lt _ (by decide)

/-- The shortest decimal of a number other than zero is not zero. -/
theorem shortest_pos (tieUp : Bool) {bits : UInt64} (h : 0 < bits.toNat)
    (hs : bits.toNat < 2 ^ 63) : 0 < value (shortest tieUp bits) := by
  have hc := binary_parts_canonical h hs
  have hr : (roundingInterval (binaryParts bits).1 (binaryParts bits).2).Holds
      (value (shortest tieUp bits)) :=
    shortest_holds rfl hc
  have hlow := (rounding_ends hc.pos hr).1
  have hbelow : below (binaryParts bits).1 (binaryParts bits).2 < 4 * (binaryParts bits).1 := by
    have hpos := hc.pos
    rcases below_cases (binaryParts bits).1 (binaryParts bits).2 with hb | hb <;> omega
  have hq : (below (binaryParts bits).1 (binaryParts bits).2 : ℚ) < 4 * (binaryParts bits).1 := by
    exact_mod_cast hbelow
  refine lt_of_lt_of_le (mul_pos ?_ (by positivity)) hlow
  linarith

theorem float_well (style : Style) (x : Float) : (style.floatNumeral x).Well := by
  have hunsigned : (style.unsignedNumeral (x.toBits % 0x8000000000000000)).Well := by
    unfold Style.unsignedNumeral
    split
    · exact ⟨zeros_are_digits 1, zeros_are_digits 1, by simp, fun _ => rfl⟩
    · rename_i hne
      refine numeral_well style (Nat.pos_of_ne_zero fun hz => ?_)
      have hbits : 0 < (x.toBits % 0x8000000000000000).toNat := by
        rw [Nat.pos_iff_ne_zero, Ne, ← UInt64.toNat_zero, UInt64.toNat_inj]
        exact hne
      have hpos := shortest_pos style.tieUp hbits (magnitude_lt x)
      simp [value, hz] at hpos
  exact ⟨hunsigned.1, hunsigned.2, hunsigned.3, hunsigned.4⟩

/-- A float is always written with a point or an exponent. -/
theorem float_marked (style : Style) (x : Float) :
    (style.floatNumeral x).fraction ≠ [] ∨ (style.floatNumeral x).exponent ≠ none := by
  change (style.unsignedNumeral _).fraction ≠ [] ∨ (style.unsignedNumeral _).exponent ≠ none
  unfold Style.unsignedNumeral Style.numeral positionalNumeral scientificNumeral
  simp only
  split
  · simp
  · split
    · left
      split
      · simp [Nat.toDigits_ne_nil]
      · split
        · simp
        · rename_i h
          simpa using h
    · simp

theorem float_value (style : Style) (x : Float) :
    (style.floatNumeral x).value =
      if x.toBits % 0x8000000000000000 = 0 then 0
      else value (shortest style.tieUp (x.toBits % 0x8000000000000000)) := by
  change (style.unsignedNumeral _).value = _
  unfold Style.unsignedNumeral
  split
  · simp [Numeral.value, Nat.ofDigitChars]
  · exact numeral_value style _

/-- A float is found again from the sign and the value of its numeral. -/
theorem float_value_injective {x y : Float}
    (hnegative : (style.floatNumeral x).negative = (style.floatNumeral y).negative)
    (hvalue : (style.floatNumeral x).value = (style.floatNumeral y).value) : x = y := by
  have hsign : decide (2 ^ 63 ≤ x.toBits.toNat) = decide (2 ^ 63 ≤ y.toBits.toNat) := hnegative
  rw [float_value, float_value] at hvalue
  have hpos : ∀ z : UInt64, z ≠ 0 → 0 < z.toNat := by
    intro z hz
    rwa [Nat.pos_iff_ne_zero, Ne, ← UInt64.toNat_zero, UInt64.toNat_inj]
  have hmagnitude : x.toBits % 0x8000000000000000 = y.toBits % 0x8000000000000000 := by
    split at hvalue <;> rename_i hx <;> split at hvalue <;> rename_i hy
    · rw [hx, hy]
    · exact absurd hvalue (shortest_pos _ (hpos _ hy) (magnitude_lt y)).ne
    · exact absurd hvalue (shortest_pos _ (hpos _ hx) (magnitude_lt x)).ne'
    · exact shortest_injective (hpos _ hx) (magnitude_lt x) (hpos _ hy) (magnitude_lt y) hvalue
  rw [← Float.toBits_inj, ← UInt64.toNat_inj]
  have hmod := congrArg UInt64.toNat hmagnitude
  rw [UInt64.toNat_mod, UInt64.toNat_mod] at hmod
  have hx := x.toBits.toNat_lt
  have hy := y.toBits.toNat_lt
  change _ % 2 ^ 63 = _ % 2 ^ 63 at hmod
  rw [decide_eq_decide] at hsign
  omega

end LayeredSql.Decimal
