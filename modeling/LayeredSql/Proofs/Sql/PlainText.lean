import LayeredSql.Proofs.Decimal.Numeral
import Mathlib.Data.List.Chain

namespace LayeredSql.Sql

def isMild (c : Char) : Bool :=
  c ∉ ['\x22', '\x27', '\x60', '(', ')', ';']

/-- Two characters in a row that do not open a comment. -/
def Quiet (a b : Char) : Prop :=
  ¬(a = '-' ∧ b = '-') ∧ ¬(a = '/' ∧ b = '*')

instance (a b : Char) : Decidable (Quiet a b) :=
  inferInstanceAs (Decidable (_ ∧ _))

structure PlainText (cs : List Char) : Prop where
  mild : ∀ c ∈ cs, isMild c = true
  quiet : cs.IsChain Quiet

instance (cs : List Char) : Decidable (PlainText cs) :=
  decidable_of_iff (cs.all isMild = true ∧ cs.IsChain Quiet)
    ⟨fun h => ⟨List.all_eq_true.mp h.1, h.2⟩, fun h => ⟨List.all_eq_true.mpr h.mild, h.quiet⟩⟩

def isNumeric (c : Char) : Bool :=
  c.isDigit || c == '.' || c == 'e'

theorem numeric_mild {c : Char} (h : isNumeric c = true) :
    isMild c = true ∧ c ≠ '-' ∧ c ≠ '/' := by
  have hne : ∀ x : Char, isNumeric x = false → c ≠ x := by
    rintro x hx rfl
    rw [h] at hx
    cases hx
  refine ⟨?_, hne _ (by decide), hne _ (by decide)⟩
  simp only [isMild, List.mem_cons, List.not_mem_nil, or_false, not_or, decide_eq_true_eq]
  exact ⟨hne _ (by decide), hne _ (by decide), hne _ (by decide), hne _ (by decide),
    hne _ (by decide), hne _ (by decide)⟩

/-- A number in front of plain text cannot join it to a comment. -/
theorem PlainText.after_numeric {ns cs : List Char} (hn : ∀ c ∈ ns, isNumeric c = true)
    (h : PlainText cs) : PlainText (ns ++ cs) := by
  induction ns with
  | nil => exact h
  | cons n ns ih =>
    obtain ⟨hm, hd, hs⟩ := numeric_mild (hn n List.mem_cons_self)
    have hrest := ih fun c hc => hn c (List.mem_cons_of_mem _ hc)
    refine ⟨List.forall_mem_cons.mpr ⟨hm, hrest.mild⟩, hrest.quiet.cons ?_⟩
    intro c _
    exact ⟨fun hc => hd hc.1, fun hc => hs hc.1⟩

theorem PlainText.nil : PlainText [] :=
  ⟨fun _ hc => absurd hc List.not_mem_nil, .nil⟩

theorem PlainText.numeric {ns : List Char} (hn : ∀ c ∈ ns, isNumeric c = true) : PlainText ns := by
  have h := PlainText.nil.after_numeric hn
  rwa [List.append_nil] at h

/-- A minus sign in front of anything but another one. -/
theorem PlainText.minus {cs : List Char} (h : PlainText cs) (hd : cs.head? ≠ some '-') :
    PlainText ('-' :: cs) := by
  refine ⟨List.forall_mem_cons.mpr ⟨by decide, h.mild⟩, h.quiet.cons ?_⟩
  intro c hc
  refine ⟨?_, fun hs => absurd hs.1 (by decide)⟩
  rintro ⟨_, rfl⟩
  exact hd hc

theorem numeric_head {ns cs : List Char} (hn : ∀ c ∈ ns, isNumeric c = true) (he : ns ≠ []) :
    (ns ++ cs).head? ≠ some '-' := by
  cases ns with
  | nil => exact absurd rfl he
  | cons n ns =>
    obtain ⟨_, hd, _⟩ := numeric_mild (hn n List.mem_cons_self)
    simpa using hd

theorem numeric_digits (n : Nat) : ∀ c ∈ Nat.toDigits 10 n, isNumeric c = true := by
  intro c hc
  have hd := Nat.isDigit_of_mem_toDigits (by decide) (by decide) hc
  simp [isNumeric, hd]

theorem digits_head (n : Nat) : (Nat.toDigits 10 n).head? ≠ some '-' := by
  have hh : (Nat.toDigits 10 n ++ []).head? ≠ some '-' :=
    numeric_head (numeric_digits n) Nat.toDigits_ne_nil
  rwa [List.append_nil] at hh

theorem plain_nat (n : Nat) : PlainText (toString n).toList := by
  rw [Nat.toString_eq_repr, Nat.toList_repr]
  exact .numeric (numeric_digits n)

/-- Without a plus sign an exponent is a number, possibly after a minus sign. -/
theorem plain_exponent (e : Int) : PlainText (Decimal.exponentText false e) := by
  have hdigits := PlainText.numeric (numeric_digits e.natAbs)
  unfold Decimal.exponentText
  split
  · exact hdigits.minus (digits_head _)
  · exact hdigits

theorem plain_numeral {n : Decimal.Numeral} (h : n.Well) : PlainText (n.chars false) := by
  have hdigits : ∀ ds : List Char, (∀ c ∈ ds, c.isDigit = true) →
      ∀ c ∈ ds, isNumeric c = true := by
    intro ds hd c hc
    simp [isNumeric, hd c hc]
  have hpower : PlainText (n.powerText false) := by
    unfold Decimal.Numeral.powerText
    split
    · exact .nil
    · exact PlainText.after_numeric (List.forall_mem_singleton.mpr rfl) (plain_exponent _)
  have hfraction : PlainText (n.fractionText ++ n.powerText false) := by
    refine hpower.after_numeric ?_
    unfold Decimal.Numeral.fractionText
    split
    · simp
    · exact List.forall_mem_cons.mpr ⟨by decide, hdigits _ h.fraction_digits⟩
  have hwhole := hdigits _ h.whole_digits
  have hplain := hfraction.after_numeric hwhole
  unfold Decimal.Numeral.chars Decimal.Numeral.signText
  split
  · exact hplain.minus (numeric_head hwhole h.whole_some)
  · exact hplain

theorem plain_int (n : Int) : PlainText (toString n).toList := by
  rw [Decimal.int_text n false]
  exact plain_numeral (Decimal.int_well n)

theorem plain_float (style : Decimal.Style) (hs : style.plusSign = false) (x : Float) :
    PlainText (style.text x).toList := by
  rw [Decimal.text_chars, hs]
  exact plain_numeral (Decimal.float_well style x)

end LayeredSql.Sql
