import LayeredSql.Proofs.Json.Fits

namespace LayeredSql.Json

variable {toFloat : FloatReader}

section Step
variable {fuel : Nat}
  (hvalue : ∀ {levels cs r}, readValue toFloat fuel levels cs = some r →
    readValue toFloat fuel (levels + 1) cs = some r)
include hvalue

theorem readItems_one_more
    (hitems : ∀ {levels cs r}, readItems toFloat fuel levels cs = some r →
      readItems toFloat fuel (levels + 1) cs = some r)
    {levels : Nat} {cs : List Char} {r : List Json × List Char}
    (h : readItems toFloat (fuel + 1) levels cs = some r) :
    readItems toFloat (fuel + 1) (levels + 1) cs = some r := by
  unfold readItems at h ⊢
  split at h
  · cases h
  · rename_i v rest hv
    rw [hvalue hv]
    split at h
    · obtain ⟨r', hr, he⟩ := Option.map_eq_some_iff.mp h
      simp only [*, hitems hr, Option.map_some]
    · simp only [*]
    · cases h

theorem readMembers_one_more
    (hmembers : ∀ {levels cs r}, readMembers toFloat fuel levels cs = some r →
      readMembers toFloat fuel (levels + 1) cs = some r)
    {levels : Nat} {cs : List Char} {r : List (String × Json) × List Char}
    (h : readMembers toFloat (fuel + 1) levels cs = some r) :
    readMembers toFloat (fuel + 1) (levels + 1) cs = some r := by
  unfold readMembers at h ⊢
  split at h
  · split at h
    · cases h
    · split at h
      · split at h
        · cases h
        · rename_i hv
          have hv' := hvalue hv
          split at h
          · obtain ⟨r', hr, he⟩ := Option.map_eq_some_iff.mp h
            simp only [*, hmembers hr, Option.map_some]
          · simp only [*]
          · cases h
      · cases h
  · cases h

end Step

theorem readValue_one_more {fuel : Nat}
    (hitems : ∀ {levels cs r}, readItems toFloat fuel levels cs = some r →
      readItems toFloat fuel (levels + 1) cs = some r)
    (hmembers : ∀ {levels cs r}, readMembers toFloat fuel levels cs = some r →
      readMembers toFloat fuel (levels + 1) cs = some r)
    {levels : Nat} {cs : List Char} {r : Json × List Char}
    (h : readValue toFloat (fuel + 1) levels cs = some r) :
    readValue toFloat (fuel + 1) (levels + 1) cs = some r := by
  unfold readValue at h ⊢
  generalize skipBlank cs = ds at h ⊢
  split at h
  · exact h
  · exact h
  · exact h
  · exact h
  · cases levels with
    | zero => cases h
    | succ levels =>
      simp only [Nat.succ_ne_zero, if_false, Nat.add_sub_cancel] at h ⊢
      split at h
      · exact h
      · obtain ⟨r', hr, he⟩ := Option.map_eq_some_iff.mp h
        simp only [*, hitems hr, Option.map_some]
  · cases levels with
    | zero => cases h
    | succ levels =>
      simp only [Nat.succ_ne_zero, if_false, Nat.add_sub_cancel] at h ⊢
      split at h
      · exact h
      · obtain ⟨r', hr, he⟩ := Option.map_eq_some_iff.mp h
        simp only [*, hmembers hr, Option.map_some]
  · exact h

theorem one_more (fuel : Nat) :
    (∀ {levels cs r}, readValue toFloat fuel levels cs = some r →
      readValue toFloat fuel (levels + 1) cs = some r) ∧
    (∀ {levels cs r}, readItems toFloat fuel levels cs = some r →
      readItems toFloat fuel (levels + 1) cs = some r) ∧
    (∀ {levels cs r}, readMembers toFloat fuel levels cs = some r →
      readMembers toFloat fuel (levels + 1) cs = some r) := by
  induction fuel with
  | zero =>
    refine ⟨?_, ?_, ?_⟩ <;> · intro levels cs r h; cases h
  | succ fuel ih =>
    obtain ⟨hvalue, hitems, hmembers⟩ := ih
    exact ⟨readValue_one_more hitems hmembers, readItems_one_more hvalue hitems,
      readMembers_one_more hvalue hmembers⟩

theorem read_within_more {levels levels' : Nat} (hl : levels ≤ levels') {text : String} {v : Json}
    (h : read? levels text = some v) : read? levels' text = some v := by
  induction hl with
  | refl => exact h
  | step _ ih =>
    unfold read? at ih ⊢
    obtain ⟨r, hr, he⟩ := Option.bind_eq_some_iff.mp ih
    exact Option.bind_eq_some_iff.mpr ⟨r, (one_more _).1 hr, he⟩

mutual

theorem Fits.depth_le {levels : Nat} (v : Json) (h : v.Fits levels) : v.depth ≤ levels := by
  match v with
  | .null | .bool _ | .int _ | .float _ | .string _ => exact Nat.zero_le levels
  | .array items =>
    have hitems := ItemsFit.depth_le items h.2
    have hlevels := h.1
    simp only [depth]
    omega
  | .object members =>
    have hmembers := MembersFit.depth_le members h.2
    have hlevels := h.1
    simp only [depth]
    omega

theorem ItemsFit.depth_le {levels : Nat} (items : List Json) (h : ItemsFit levels items) :
    itemsDepth items ≤ levels := by
  match items with
  | [] => exact Nat.zero_le levels
  | v :: vs => exact Nat.max_le.mpr ⟨Fits.depth_le v h.1, ItemsFit.depth_le vs h.2⟩

theorem MembersFit.depth_le {levels : Nat} (members : List (String × Json))
    (h : MembersFit levels members) : membersDepth members ≤ levels := by
  match members with
  | [] => exact Nat.zero_le levels
  | (k, v) :: ms => exact Nat.max_le.mpr ⟨Fits.depth_le v h.1, MembersFit.depth_le ms h.2⟩

end

/-- A text that is read within the levels its value needs is read within those levels only. -/
theorem read_within {text : String} {v : Json} (h : read? v.depth text = some v) (levels : Nat) :
    read? levels text = if v.depth ≤ levels then some v else none := by
  split
  · rename_i hd
    exact read_within_more hd h
  · rename_i hd
    rw [Option.eq_none_iff_forall_ne_some]
    intro w hw
    have hsame := (read_within_more (Nat.le_of_not_le hd) hw).symm.trans h
    rw [Option.some.inj hsame] at hw
    exact hd (Fits.depth_le v (read_fits hw))

end LayeredSql.Json
