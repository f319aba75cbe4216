import LayeredSql.Proofs.Decimal.Finite
import LayeredSql.Proofs.Json.Text

namespace LayeredSql.Json

variable {toFloat : FloatReader}

def OnlyNumbers (toFloat : FloatReader) : Prop :=
  ∀ negative whole fraction e x, toFloat negative whole fraction e = some x → x.isFinite = true

theorem NumberText.value_fits (hf : OnlyNumbers toFloat) {t : NumberText} {v : Json}
    (h : t.value toFloat = some v) (levels : Nat) : v.Fits levels := by
  have hsize : UInt64.size = 2 ^ 64 := rfl
  unfold NumberText.value at h
  simp only at h
  split at h
  · rename_i hn
    cases h
    simp only [Bool.and_eq_true, decide_eq_true_eq] at hn
    change IntFits _
    unfold IntFits
    omega
  split at h
  · rename_i hn
    cases h
    simp only [Bool.and_eq_true, decide_eq_true_eq] at hn
    change IntFits _
    unfold IntFits
    omega
  · obtain ⟨x, hx, rfl⟩ := Option.map_eq_some_iff.mp h
    exact hf _ _ _ _ _ hx

theorem readNumber_fits (hf : OnlyNumbers toFloat) {cs rest : List Char} {v : Json}
    (h : readNumber toFloat cs = some (v, rest)) (levels : Nat) : v.Fits levels := by
  unfold readNumber at h
  obtain ⟨⟨t, rest'⟩, -, ht⟩ := Option.bind_eq_some_iff.mp h
  obtain ⟨w, hw, he⟩ := Option.bind_eq_some_iff.mp ht
  cases he
  exact t.value_fits hf hw levels

section Step
variable {fuel : Nat}
  (hvalue : ∀ {levels cs v rest}, readValue toFloat fuel levels cs = some (v, rest) → v.Fits levels)
include hvalue

theorem readItems_step
    (hitems : ∀ {levels cs vs rest}, readItems toFloat fuel levels cs = some (vs, rest) →
      ItemsFit levels vs)
    {levels : Nat} {cs rest : List Char} {vs : List Json}
    (h : readItems toFloat (fuel + 1) levels cs = some (vs, rest)) : ItemsFit levels vs := by
  unfold readItems at h
  split at h
  · cases h
  · rename_i v rest' hv
    split at h
    · obtain ⟨⟨ws, rest''⟩, hws, he⟩ := Option.map_eq_some_iff.mp h
      cases he
      exact ⟨hvalue hv, hitems hws⟩
    · cases h
      exact ⟨hvalue hv, trivial⟩
    · cases h

theorem readMembers_step
    (hmembers : ∀ {levels cs ms rest}, readMembers toFloat fuel levels cs = some (ms, rest) →
      MembersFit levels ms)
    {levels : Nat} {cs rest : List Char} {ms : List (String × Json)}
    (h : readMembers toFloat (fuel + 1) levels cs = some (ms, rest)) : MembersFit levels ms := by
  unfold readMembers at h
  split at h
  · split at h
    · cases h
    · split at h
      · split at h
        · cases h
        · rename_i v rest' hv
          split at h
          · obtain ⟨⟨ns, rest''⟩, hns, he⟩ := Option.map_eq_some_iff.mp h
            cases he
            exact ⟨hvalue hv, hmembers hns⟩
          · cases h
            exact ⟨hvalue hv, trivial⟩
          · cases h
      · cases h
  · cases h

end Step

theorem readValue_step (hf : OnlyNumbers toFloat) {fuel : Nat}
    (hitems : ∀ {levels cs vs rest}, readItems toFloat fuel levels cs = some (vs, rest) →
      ItemsFit levels vs)
    (hmembers : ∀ {levels cs ms rest}, readMembers toFloat fuel levels cs = some (ms, rest) →
      MembersFit levels ms)
    {levels : Nat} {cs rest : List Char} {v : Json}
    (h : readValue toFloat (fuel + 1) levels cs = some (v, rest)) : v.Fits levels := by
  unfold readValue at h
  split at h
  · cases h
    trivial
  · cases h
    trivial
  · cases h
    trivial
  · obtain ⟨⟨s, rest'⟩, -, he⟩ := Option.map_eq_some_iff.mp h
    cases he
    trivial
  · split at h
    · cases h
    · rename_i hl
      split at h
      · cases h
        exact ⟨Nat.pos_of_ne_zero hl, trivial⟩
      · obtain ⟨⟨vs, rest'⟩, hvs, he⟩ := Option.map_eq_some_iff.mp h
        cases he
        exact ⟨Nat.pos_of_ne_zero hl, hitems hvs⟩
  · split at h
    · cases h
    · rename_i hl
      split at h
      · cases h
        exact ⟨Nat.pos_of_ne_zero hl, trivial⟩
      · obtain ⟨⟨ms, rest'⟩, hms, he⟩ := Option.map_eq_some_iff.mp h
        cases he
        exact ⟨Nat.pos_of_ne_zero hl, hmembers hms⟩
  · exact readNumber_fits hf h levels

theorem readValue_fits (hf : OnlyNumbers toFloat) (fuel : Nat) :
    (∀ {levels cs v rest}, readValue toFloat fuel levels cs = some (v, rest) → v.Fits levels) ∧
    (∀ {levels cs vs rest}, readItems toFloat fuel levels cs = some (vs, rest) →
      ItemsFit levels vs) ∧
    (∀ {levels cs ms rest}, readMembers toFloat fuel levels cs = some (ms, rest) →
      MembersFit levels ms) := by
  induction fuel with
  | zero =>
    refine ⟨?_, ?_, ?_⟩ <;> · intro levels cs v rest h; cases h
  | succ fuel ih =>
    obtain ⟨hvalue, hitems, hmembers⟩ := ih
    exact ⟨readValue_step hf hitems hmembers, readItems_step hvalue hitems,
      readMembers_step hvalue hmembers⟩

/-- A text is read only as a value that fits. -/
theorem read_fits {levels : Nat} {text : String} {v : Json} (h : read? levels text = some v) :
    v.Fits levels := by
  unfold read? at h
  obtain ⟨⟨w, rest⟩, hw, he⟩ := Option.bind_eq_some_iff.mp h
  simp only at he
  split at he
  · cases he
    exact (readValue_fits (fun _ _ _ _ _ => Decimal.toFloat_finite) _).1 hw
  · cases he

end LayeredSql.Json
