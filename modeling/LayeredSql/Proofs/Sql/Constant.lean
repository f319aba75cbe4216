import LayeredSql.Proofs.Json.Number
import LayeredSql.Proofs.Outcome
import LayeredSql.Proofs.Sql.Form

namespace LayeredSql

inductive Literal.Negation : Literal → Literal → Prop where
  | int {n : Int64} : 0 < n.toInt → Negation (.int n) (.int (-n))
  | float {x : Float} : x.isFinite = true → x.toBits.toNat < 2 ^ 63 →
      Negation (.float x) (.float (-x))

namespace Sql
open Decimal (Numeral digit_ne)
open Json (numberText)
variable {d : Dialect} {n m : Numeral} {a b : Literal}

def magnitude (n : Numeral) : List Char :=
  n.whole ++ (n.fractionText ++ n.powerText false)

theorem magnitude_head (h : n.Well) :
    ∃ c cs, magnitude n = c :: cs ∧ c.isDigit = true := by
  obtain ⟨c, cs, hc⟩ := List.exists_cons_of_ne_nil h.whole_some
  have hd := h.whole_digits c (hc ▸ List.mem_cons_self)
  rw [magnitude, hc, List.cons_append]
  exact ⟨c, _, rfl, hd⟩

theorem magnitude_ne_minus (h : n.Well) : (magnitude n).head? ≠ some '-' := by
  obtain ⟨c, cs, hc, hd⟩ := magnitude_head h
  rw [hc, List.head?_cons, Ne, Option.some.injEq]
  exact digit_ne hd rfl

theorem magnitude_inside (h : n.Well) :
    ∀ c ∈ magnitude n, c.isDigit = true ∨ c ∈ ['.', 'e', '-'] := by
  intro c hc
  unfold magnitude at hc
  rcases List.mem_append.mp hc with hc | hc
  · exact .inl (h.whole_digits c hc)
  rcases List.mem_append.mp hc with hc | hc
  · unfold Numeral.fractionText at hc
    split at hc
    · cases hc
    · rcases List.mem_cons.mp hc with rfl | hc
      · exact .inr (by decide)
      · exact .inl (h.fraction_digits c hc)
  · unfold Numeral.powerText at hc
    split at hc
    · cases hc
    · rcases List.mem_cons.mp hc with rfl | hc
      · exact .inr (by decide)
      · unfold Decimal.exponentText at hc
        split at hc
        · rcases List.mem_cons.mp hc with rfl | hc
          · exact .inr (by decide)
          · exact .inl (Decimal.digits_are_digits _ c hc)
        · exact .inl (Decimal.digits_are_digits _ c hc)

theorem magnitude_word (h : n.Well) : Form.IsWord (magnitude n) where
  inside := by
    intro c hc
    rcases magnitude_inside h c hc with hd | hm
    · simp [Form.inWord, digit_ne hd]
    · simp only [List.mem_cons, List.not_mem_nil, or_false] at hm
      rcases hm with rfl | rfl | rfl <;> decide
  start := by
    obtain ⟨c, cs, hc, hd⟩ := magnitude_head h
    refine ⟨c, by rw [hc]; rfl, ?_⟩
    simp [digit_ne hd]
  free := by
    obtain ⟨c, cs, hc, hd⟩ := magnitude_head h
    rw [hc]
    simp [digit_ne hd]

/-- Two numerals with one magnitude differ in the sign only. -/
theorem numberText_of_magnitude (hn : n.Well) (hm : m.Well) (h : magnitude n = magnitude m) :
    numberText { n with negative := m.negative } = numberText m := by
  have hsigned : ({ n with negative := m.negative } : Numeral).Well :=
    ⟨hn.whole_digits, hn.fraction_digits, hn.whole_some, hn.no_leading_zero⟩
  have hchars : ({ n with negative := m.negative } : Numeral).chars false = m.chars false := by
    change m.signText ++ magnitude n = m.signText ++ magnitude m
    rw [h]
  exact Json.numberText_of_chars hsigned hm hchars

def numeralForm (n : Numeral) : Form :=
  if n.negative then .minus (.word (magnitude n)) else .word (magnitude n)

theorem negated_magnitude (h : n.Well) : negated (String.ofList (magnitude n)) =
    String.ofList ('-' :: magnitude n) := by
  rw [negated, String.toList_ofList, if_neg (magnitude_ne_minus h)]
  simp

theorem numeral_written (h : n.Well) (nested : Bool) :
    (numeralForm n).write d nested = String.ofList (n.chars false) ∧ (numeralForm n).Well := by
  have hword := magnitude_word h
  have hchars : n.chars false = n.signText ++ magnitude n := rfl
  rw [hchars]
  unfold numeralForm Numeral.signText
  split
  · exact ⟨negated_magnitude h, hword⟩
  · exact ⟨rfl, hword⟩

def numeral? : Literal → Option Numeral
  | .int n => some (Decimal.intNumeral n.toInt)
  | .float x => some (Decimal.Style.sql.floatNumeral x)
  | .null | .bool _ | .string _ => none

theorem numeral_well (h : numeral? a = some n) : n.Well := by
  cases a with
  | null | bool _ | string _ => cases h
  | int i =>
    cases h
    exact Decimal.int_well _
  | float x =>
    cases h
    exact Decimal.float_well _ x

theorem numeral_text {text : String} (h : numeral? a = some n) (ha : literal a = .ok text) :
    text = String.ofList (n.chars false) := by
  cases a with
  | null | bool _ | string _ => cases h
  | int i =>
    cases h
    cases ha
    rw [← String.toList_inj, String.toList_ofList]
    exact Decimal.int_text _ false
  | float x =>
    cases h
    simp only [literal] at ha
    split at ha
    · cases ha
      rw [← String.toList_inj, String.toList_ofList]
      exact Decimal.text_chars .sql x
    · cases ha

def literalForm : Literal → Form
  | .null => .word "NULL".toList
  | .bool b => .word (if b then "TRUE".toList else "FALSE".toList)
  | .int n => numeralForm (Decimal.intNumeral n.toInt)
  | .float x => numeralForm (Decimal.Style.sql.floatNumeral x)
  | .string s => .string s

theorem numeral_form (h : numeral? a = some n) : literalForm a = numeralForm n := by
  cases a <;> cases h <;> rfl

/-- What is no number is written as a keyword or in quotes. -/
theorem no_numeral (h : numeral? a = none) :
    (∃ cs ∈ ["NULL".toList, "TRUE".toList, "FALSE".toList], literalForm a = .word cs) ∨
      ∃ s, a = .string s := by
  cases a with
  | null => exact .inl ⟨_, by simp, rfl⟩
  | bool b =>
    refine .inl ⟨_, ?_, rfl⟩
    cases b <;> simp
  | int _ | float _ => cases h
  | string s => exact .inr ⟨s, rfl⟩

theorem literal_written {text : String} (h : literal a = .ok text) (nested : Bool) :
    (literalForm a).write d nested = text ∧ (literalForm a).Well := by
  cases hn : numeral? a with
  | some n =>
    rw [numeral_form hn, numeral_text hn h]
    exact numeral_written (numeral_well hn) nested
  | none =>
    have hkeyword : ∀ cs ∈ ["NULL".toList, "TRUE".toList, "FALSE".toList], Form.IsWord cs := by
      intro cs hcs
      simp only [List.mem_cons, List.not_mem_nil, or_false] at hcs
      rcases hcs with rfl | rfl | rfl
      all_goals exact ⟨List.all_eq_true.mp (by decide), ⟨_, rfl, by decide⟩, by decide⟩
    cases a with
    | int _ | float _ => cases hn
    | null =>
      cases h
      exact ⟨String.ofList_toList, hkeyword _ (by simp)⟩
    | bool b =>
      cases h
      cases b
      · exact ⟨String.ofList_toList, hkeyword _ (by simp)⟩
      · exact ⟨String.ofList_toList, hkeyword _ (by simp)⟩
    | string s =>
      cases h
      exact ⟨rfl, trivial⟩

theorem numeral_form_eq (h : numeralForm n = numeralForm m) :
    n.negative = m.negative ∧ magnitude n = magnitude m := by
  unfold numeralForm at h
  split at h <;> rename_i hn <;> split at h <;> rename_i hm
  · rw [hn, hm]
    exact ⟨rfl, Form.word.inj (Form.minus.inj h)⟩
  · cases h
  · cases h
  · rw [Bool.eq_false_iff.mpr hn, Bool.eq_false_iff.mpr hm]
    exact ⟨rfl, Form.word.inj h⟩

/-- No number is written as a keyword. -/
theorem magnitude_ne_form (hn : n.Well) (ha : numeral? a = none) :
    literalForm a ≠ .word (magnitude n) := by
  intro h
  obtain ⟨c, cs, hc, hd⟩ := magnitude_head hn
  obtain ⟨ks, hk, he⟩ | ⟨s, rfl⟩ := no_numeral ha
  · rw [he, hc, Form.word.injEq] at h
    rw [h] at hk
    simp [digit_ne hd] at hk
  · cases h

theorem numeral_ne_form (hn : n.Well) (ha : numeral? a = none) :
    numeralForm n ≠ literalForm a := by
  unfold numeralForm
  split
  · intro h
    obtain ⟨ks, -, he⟩ | ⟨s, rfl⟩ := no_numeral ha
    · rw [he] at h
      cases h
    · cases h
  · exact (magnitude_ne_form hn ha).symm

theorem int_numeral_abs {i j : Int}
    (h : (numberText (Decimal.intNumeral i)).whole = (numberText (Decimal.intNumeral j)).whole) :
    i.natAbs = j.natAbs := by
  have hvalue := congrArg Json.ofDigits h
  simpa only [numberText, Decimal.intNumeral, Json.ofDigits_values,
    Nat.ofDigitChars_ten_toDigits] using hvalue

/-- An integer has neither a fraction nor an exponent, and a float has one of them. -/
theorem int_ne_float (i : Int) (x : Float) (s t : Bool) :
    numberText { Decimal.intNumeral i with negative := s } ≠
      numberText { Decimal.Style.sql.floatNumeral x with negative := t } := by
  intro h
  simp only [numberText, Json.NumberText.mk.injEq] at h
  obtain ⟨-, -, hfraction, hexponent⟩ := h
  rcases Decimal.float_marked .sql x with hm | hm
  · exact hm (List.map_eq_nil_iff.mp hfraction.symm)
  · exact hm hexponent.symm

/-- Numbers that are written alike up to the sign are of one kind. -/
theorem same_kind {s t : Bool} (ha : numeral? a = some n) (hb : numeral? b = some m)
    (h : numberText { n with negative := s } = numberText { m with negative := t }) :
    (∃ i j, a = .int i ∧ b = .int j ∧ i.toInt.natAbs = j.toInt.natAbs) ∨
      ∃ x y, a = .float x ∧ b = .float y := by
  cases a with
  | null | bool _ | string _ => cases ha
  | int i =>
    cases ha
    cases b with
    | null | bool _ | string _ => cases hb
    | int j =>
      cases hb
      have hwhole := congrArg Json.NumberText.whole h
      exact .inl ⟨i, j, rfl, rfl, int_numeral_abs hwhole⟩
    | float y =>
      cases hb
      exact absurd h (int_ne_float _ y _ _)
  | float x =>
    cases ha
    cases b with
    | null | bool _ | string _ => cases hb
    | int j =>
      cases hb
      exact absurd h.symm (int_ne_float _ x _ _)
    | float y => exact .inr ⟨x, y, rfl, rfl⟩

theorem same_number (ha : numeral? a = some n) (hb : numeral? b = some m)
    (h : numberText n = numberText m) : a = b := by
  obtain ⟨i, j, rfl, rfl, habs⟩ | ⟨x, y, rfl, rfl⟩ := same_kind ha hb h
  · cases ha
    cases hb
    have hsign := decide_eq_decide.mp (congrArg Json.NumberText.negative h)
    have hij : i.toInt = j.toInt := by omega
    rw [Int64.toInt_inj.mp hij]
  · cases ha
    cases hb
    rw [Json.float_of_numberText h]

theorem same_word (ha : numeral? a = none) (hb : numeral? b = none)
    (h : literalForm a = literalForm b) : a = b := by
  cases a with
  | int _ | float _ => cases ha
  | null =>
    cases b with
    | int _ | float _ => cases hb
    | null => rfl
    | bool y => cases y <;> exact absurd (Form.word.inj h) (by decide)
    | string _ => cases h
  | bool x =>
    cases b with
    | int _ | float _ => cases hb
    | null => cases x <;> exact absurd (Form.word.inj h) (by decide)
    | bool y => cases x <;> cases y <;> first | rfl | exact absurd (Form.word.inj h) (by decide)
    | string _ => cases h
  | string s =>
    cases b with
    | int _ | float _ => cases hb
    | null | bool _ => cases h
    | string t => rw [Form.string.inj h]

/-- Constants that are shown alike are equal. -/
theorem literal_form_injective (h : literalForm a = literalForm b) : a = b := by
  cases ha : numeral? a with
  | some n =>
    have hn := numeral_well ha
    rw [numeral_form ha] at h
    cases hb : numeral? b with
    | some m =>
      rw [numeral_form hb] at h
      obtain ⟨hsign, hmagnitude⟩ := numeral_form_eq h
      have hsame := numberText_of_magnitude hn (numeral_well hb) hmagnitude
      rw [← hsign] at hsame
      exact same_number ha hb hsame
    | none => exact absurd h (numeral_ne_form hn hb)
  | none =>
    cases hb : numeral? b with
    | some m =>
      rw [numeral_form hb] at h
      exact absurd h.symm (numeral_ne_form (numeral_well hb) ha)
    | none => exact same_word ha hb h

theorem int_neg {i : Int64} (h : 0 < i.toInt) : (-i).toInt = -i.toInt := by
  have hle := i.toInt_le
  have hmax : Int64.maxValue.toInt = 2 ^ 63 - 1 := rfl
  rw [Int64.toInt_neg]
  exact Int.bmod_eq_of_le_mul_two (by omega) (by omega)

/-- What differs in the sign only is a number and its negation. -/
theorem negated_number (hok : (literal a).isOk = true) (ha : numeral? a = some n)
    (hb : numeral? b = some m) (hn : n.negative = false) (hm : m.negative = true)
    (h : numberText { n with negative := true } = numberText m) : a.Negation b := by
  obtain ⟨i, j, rfl, rfl, habs⟩ | ⟨x, y, rfl, rfl⟩ := same_kind ha hb h
  · cases ha
    cases hb
    have hi : ¬i.toInt < 0 := of_decide_eq_false hn
    have hj : j.toInt < 0 := of_decide_eq_true hm
    have hpos : 0 < i.toInt := by omega
    have hij : -i = j := by
      rw [← Int64.toInt_inj, int_neg hpos]
      omega
    rw [← hij]
    exact .int hpos
  · cases ha
    cases hb
    obtain ⟨text, ht⟩ := exists_ok hok
    have hx : x.isFinite = true := by
      simp only [literal] at ht
      split at ht
      · assumption
      · cases ht
    have hs : x.toBits.toNat < 2 ^ 63 := Nat.not_le.mp (of_decide_eq_false hn)
    rw [← Decimal.float_numeral_neg .sql hx hs] at h
    rw [← Json.float_of_numberText h]
    exact .float hx hs

theorem numeral_form_word {cs : List Char} (h : numeralForm n = .word cs) :
    n.negative = false ∧ magnitude n = cs := by
  unfold numeralForm at h
  split at h
  · cases h
  · rename_i hn
    exact ⟨Bool.eq_false_iff.mpr hn, Form.word.inj h⟩

theorem numeral_form_minus {cs : List Char} (h : numeralForm n = .minus (.word cs)) :
    n.negative = true ∧ magnitude n = cs := by
  unfold numeralForm at h
  split at h
  · rename_i hn
    exact ⟨hn, Form.word.inj (Form.minus.inj h)⟩
  · cases h

/-- A number below zero is shown as the negation of a number. -/
theorem literal_negation {cs : List Char} (hok : (literal a).isOk = true)
    (ha : literalForm a = .word cs) (hb : literalForm b = .minus (.word cs)) : a.Negation b := by
  cases hm : numeral? b with
  | none =>
    obtain ⟨ks, -, he⟩ | ⟨s, rfl⟩ := no_numeral hm
    · rw [he] at hb
      cases hb
    · cases hb
  | some m =>
    rw [numeral_form hm] at hb
    obtain ⟨hneg, rfl⟩ := numeral_form_minus hb
    cases hn : numeral? a with
    | none => exact absurd ha (magnitude_ne_form (numeral_well hm) hn)
    | some n =>
      rw [numeral_form hn] at ha
      obtain ⟨hpos, hmagnitude⟩ := numeral_form_word ha
      have hsame := numberText_of_magnitude (numeral_well hn) (numeral_well hm) hmagnitude
      rw [hneg] at hsame
      exact negated_number hok hn hm hpos hneg hsame

/-- The numerals of a number and its negation. -/
theorem negation_numerals (h : a.Negation b) : ∃ n, numeral? a = some n ∧ n.negative = false ∧
    numeral? b = some { n with negative := true } := by
  cases h with
  | @int i hpos =>
    refine ⟨_, rfl, decide_eq_false (by omega), ?_⟩
    simp only [numeral?, Decimal.intNumeral, int_neg hpos, Int.natAbs_neg, Option.some.injEq,
      Numeral.mk.injEq, decide_eq_true_eq, and_true]
    omega
  | @float x hx hs =>
    refine ⟨_, rfl, decide_eq_false (Nat.not_le.mpr hs), ?_⟩
    rw [numeral?, Decimal.float_numeral_neg .sql hx hs]

theorem negation_ok (h : a.Negation b) : (literal a).isOk = true ∧ (literal b).isOk = true := by
  cases h with
  | int => exact ⟨rfl, rfl⟩
  | float hx => simp [literal, hx, Decimal.finite_neg hx, Except.isOk, Except.toBool]

/-- The text of a number that is negated is that of the number below zero. -/
theorem negation_text {text : String} (h : a.Negation b) (ha : literal a = .ok text) :
    literal b = .ok (negated text) := by
  obtain ⟨n, hn, hpos, hm⟩ := negation_numerals h
  obtain ⟨text', hb⟩ := exists_ok (negation_ok h).2
  have hsigned : ({ n with negative := true } : Numeral).chars false = '-' :: magnitude n := rfl
  have hplain : n.chars false = magnitude n := by
    change n.signText ++ magnitude n = _
    rw [Numeral.signText, hpos]
    rfl
  rw [hb, numeral_text hm hb, numeral_text hn ha, hsigned, hplain,
    negated_magnitude (numeral_well hn)]

end Sql
end LayeredSql
