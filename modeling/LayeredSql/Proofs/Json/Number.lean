import LayeredSql.Json.Printer
import LayeredSql.Json.Reader
import LayeredSql.Proofs.Decimal.Numeral

namespace LayeredSql.Json
open Decimal (Numeral digit_ne)

def Ends (rest : List Char) : Prop :=
  ∀ c ∈ rest.head?, c ∈ [',', ']', '\x7d', '\n']

theorem ends_nil : Ends [] := by
  simp [Ends]

theorem ends_comma (rest : List Char) : Ends (',' :: rest) := by
  simp [Ends]

theorem ends_bracket (rest : List Char) : Ends (']' :: rest) := by
  simp [Ends]

theorem ends_brace (rest : List Char) : Ends ('\x7d' :: rest) := by
  simp [Ends]

theorem ends_line (rest : List Char) : Ends ('\n' :: rest) := by
  simp [Ends]

def digitValue (c : Char) : Nat :=
  c.toNat - 48

def numberText (n : Numeral) : NumberText :=
  ⟨n.negative, n.whole.map digitValue, n.fraction.map digitValue, n.exponent⟩

theorem ofDigits_values (ds : List Char) :
    ofDigits (ds.map digitValue) = Nat.ofDigitChars 10 ds 0 := by
  rw [ofDigits, List.foldl_map, Nat.ofDigitChars_eq_foldl]
  rfl

/-- Digits are read up to the first character that is none. -/
theorem digits_read {ds rest : List Char} (hd : ∀ c ∈ ds, c.isDigit = true)
    (hr : ∀ c ∈ rest.head?, c.isDigit = false) :
    digitValues (ds ++ rest) = ds.map digitValue ∧ afterDigits (ds ++ rest) = rest := by
  have hrest : rest.takeWhile Char.isDigit = [] ∧ rest.dropWhile Char.isDigit = rest := by
    cases rest with
    | nil => exact ⟨rfl, rfl⟩
    | cons c rest => simp [hr c rfl]
  unfold digitValues afterDigits
  rw [List.takeWhile_append_of_pos hd, List.dropWhile_append_of_pos hd, hrest.1, hrest.2,
    List.append_nil]
  exact ⟨rfl, rfl⟩

theorem ends_no_digit {rest : List Char} (h : Ends rest) : ∀ c ∈ rest.head?, c.isDigit = false := by
  intro c hc
  have hm := h c hc
  simp only [List.mem_cons, List.not_mem_nil, or_false] at hm
  rcases hm with rfl | rfl | rfl | rfl <;> decide

theorem value_zero {c : Char} (h : c.isDigit = true) (hz : digitValue c = 0) : c = '0' := by
  rw [Char.isDigit_iff_toNat] at h
  have h48 : '0'.toNat = 48 := rfl
  rw [← Char.toNat_inj]
  unfold digitValue at hz
  omega

theorem readExponentDigits_text (negative : Bool) (k : Nat) {rest : List Char} (hr : Ends rest) :
    readExponentDigits negative (Nat.toDigits 10 k ++ rest) =
      some (some (if negative then -(k : Int) else k), rest) := by
  obtain ⟨hv, ha⟩ := digits_read (Decimal.digits_are_digits k) (ends_no_digit hr)
  obtain ⟨c, cs, hc⟩ := List.exists_cons_of_ne_nil (Nat.toDigits_ne_nil (b := 10) (n := k))
  have hvalue : ofDigits ((Nat.toDigits 10 k).map digitValue) = k := by
    rw [ofDigits_values, Nat.ofDigitChars_ten_toDigits]
  unfold readExponentDigits
  rw [hv, ha]
  rw [hc, List.map_cons] at hvalue ⊢
  simp only [hvalue]

theorem readExponent_bare {c : Char} (hm : c ≠ '-') (hp : c ≠ '+') (cs : List Char) :
    readExponent ('e' :: c :: cs) = readExponentDigits false (c :: cs) := by
  unfold readExponent
  split <;> simp_all

theorem readExponent_text (plusSign : Bool) (e : Int) {rest : List Char} (hr : Ends rest) :
    readExponent ('e' :: (Decimal.exponentText plusSign e ++ rest)) = some (some e, rest) := by
  unfold Decimal.exponentText
  by_cases he : e < 0
  · rw [if_pos he]
    change readExponentDigits true (Nat.toDigits 10 e.natAbs ++ rest) = _
    rw [readExponentDigits_text true _ hr, if_pos rfl, show -(e.natAbs : Int) = e by omega]
  · rw [if_neg he]
    have hread : readExponentDigits false (Nat.toDigits 10 e.natAbs ++ rest) =
        some (some e, rest) := by
      rw [readExponentDigits_text false _ hr, if_neg (by decide),
        show (e.natAbs : Int) = e by omega]
    cases plusSign with
    | true => exact hread
    | false =>
      obtain ⟨c, cs, hc⟩ :=
        List.exists_cons_of_ne_nil (Nat.toDigits_ne_nil (b := 10) (n := e.natAbs))
      have hdigit := Decimal.digits_are_digits e.natAbs c (hc ▸ List.mem_cons_self)
      rw [hc] at hread ⊢
      exact (readExponent_bare (digit_ne hdigit rfl) (digit_ne hdigit rfl) _).trans hread

theorem power_head (n : Numeral) (plusSign : Bool) {rest : List Char} (hr : Ends rest) :
    ∀ c ∈ (n.powerText plusSign ++ rest).head?, c.isDigit = false ∧ c ≠ '.' := by
  intro c hc
  unfold Numeral.powerText at hc
  cases he : n.exponent with
  | none =>
    rw [he] at hc
    refine ⟨ends_no_digit hr c hc, ?_⟩
    rintro rfl
    exact absurd (hr _ hc) (by decide)
  | some e =>
    rw [he] at hc
    cases hc
    decide

/-- What is left of a numeral after its whole digits. -/
theorem readFraction_text {n : Numeral} (h : n.Well) (plusSign : Bool) {rest : List Char}
    (hr : Ends rest) :
    readFraction (n.fractionText ++ (n.powerText plusSign ++ rest)) =
      some (n.fraction.map digitValue, n.powerText plusSign ++ rest) := by
  have hpower := power_head n plusSign hr
  unfold Numeral.fractionText
  split
  · rename_i hf
    rw [List.nil_append, hf]
    unfold readFraction
    split
    · rename_i he
      exact absurd rfl (hpower '.' (by rw [he]; rfl)).2
    · rfl
  · rename_i hf
    obtain ⟨hv, ha⟩ := digits_read h.fraction_digits (fun c hc => (hpower c hc).1)
    obtain ⟨c, cs, hc⟩ := List.exists_cons_of_ne_nil hf
    rw [List.cons_append, readFraction, hv, ha, hc]
    rfl

theorem readExponent_power (n : Numeral) (plusSign : Bool) {rest : List Char} (hr : Ends rest) :
    readExponent (n.powerText plusSign ++ rest) = some (n.exponent, rest) := by
  unfold Numeral.powerText
  cases n.exponent with
  | some e => exact readExponent_text plusSign e hr
  | none =>
    change readExponent rest = _
    unfold readExponent
    split
    all_goals first
      | rfl
      | exact absurd (hr _ rfl) (by decide)

/-- A numeral is read to its end. -/
theorem readNumberText_chars {n : Numeral} (h : n.Well) (plusSign : Bool) {rest : List Char}
    (hr : Ends rest) :
    readNumberText (n.chars plusSign ++ rest) = some (numberText n, rest) := by
  obtain ⟨c, cs, hc⟩ := List.exists_cons_of_ne_nil h.whole_some
  have hdigit := h.whole_digits c (hc ▸ List.mem_cons_self)
  have hsign : readSign (n.chars plusSign ++ rest) =
      (n.negative, n.whole ++ (n.fractionText ++ (n.powerText plusSign ++ rest))) := by
    unfold Numeral.chars Numeral.signText
    cases n.negative with
    | true => simp [readSign]
    | false =>
      simp only [Bool.false_eq_true, if_false, List.nil_append, List.append_assoc, hc,
        List.cons_append]
      unfold readSign
      split
      · rename_i he
        exact absurd (List.cons.inj he).1 (digit_ne hdigit rfl)
      · rfl
  have hstop : ∀ c ∈ (n.fractionText ++ (n.powerText plusSign ++ rest)).head?,
      c.isDigit = false := by
    intro c hc
    unfold Numeral.fractionText at hc
    split at hc
    · exact (power_head n plusSign hr c hc).1
    · cases hc
      decide
  obtain ⟨hv, ha⟩ := digits_read h.whole_digits hstop
  have hlead : ¬((n.whole.map digitValue).isEmpty ||
      ((n.whole.map digitValue).head? = some 0 && 1 < (n.whole.map digitValue).length)) = true := by
    intro hl
    simp only [hc, List.map_cons, List.isEmpty_cons, Bool.false_or, List.head?_cons,
      Option.some.injEq, Bool.and_eq_true, decide_eq_true_eq] at hl
    have hzero := h.no_leading_zero
    rw [hc, value_zero hdigit hl.1] at hzero
    have hlength := congrArg List.length (hzero rfl)
    rw [List.length_cons, List.length_map] at hl
    rw [List.length_cons, List.length_singleton] at hlength
    omega
  unfold readNumberText
  simp only [hsign, hv, ha, if_neg hlead, bind, Option.bind, readFraction_text h plusSign hr,
    readExponent_power n plusSign hr]
  rfl

/-- A text is that of one numeral. -/
theorem numberText_of_chars {n m : Numeral} (hn : n.Well) (hm : m.Well) {plusSign : Bool}
    (h : n.chars plusSign = m.chars plusSign) : numberText n = numberText m := by
  have hread := readNumberText_chars hn plusSign ends_nil
  rw [h, readNumberText_chars hm plusSign ends_nil] at hread
  exact (Prod.mk.inj (Option.some.inj hread)).1.symm

/-- The value of a numeral is that of its digits. -/
theorem numeral_value_read (n : Numeral) :
    n.value = (ofDigits ((numberText n).whole ++ (numberText n).fraction) : ℚ) *
      10 ^ ((numberText n).exponent.getD 0 - ((numberText n).fraction.length : ℤ)) := by
  simp only [numberText, ← List.map_append, ofDigits_values, List.length_map]
  rfl

def seen (style : Decimal.Style) (x : Float) : Bool × List Nat × List Nat × Int :=
  let t := numberText (style.floatNumeral x)
  (t.negative, t.whole, t.fraction, t.exponent.getD 0)

theorem seen_injective (style : Decimal.Style) : Function.Injective (seen style) := by
  intro x y h
  simp only [seen, Prod.mk.injEq] at h
  obtain ⟨hnegative, hwhole, hfraction, hexponent⟩ := h
  have hsign : (style.floatNumeral x).negative = (style.floatNumeral y).negative := hnegative
  apply Decimal.float_value_injective hsign
  rw [numeral_value_read, numeral_value_read, hwhole, hfraction, hexponent]

theorem float_of_numberText {style : Decimal.Style} {x y : Float}
    (h : numberText (style.floatNumeral x) = numberText (style.floatNumeral y)) : x = y := by
  apply seen_injective style
  unfold seen
  rw [h]

end LayeredSql.Json
