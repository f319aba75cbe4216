import LayeredSql.Proofs.Json.Text

namespace LayeredSql.Json

/-- No two floats are written alike, so some reader gets back all of them. -/
theorem exists_exact_reader : ∃ toFloat : FloatReader, ∀ x, ReadsFloat toFloat x := by
  refine ⟨fun negative whole fraction e =>
    Function.partialInv (seen .json) (negative, whole, fraction, e), ?_⟩
  intro x
  exact Function.partialInv_left (seen_injective .json) x

theorem compact_injective {levels : Nat} {v w : Json} (hv : v.Fits levels) (hw : w.Fits levels)
    (h : v.compact = w.compact) : v = w := by
  obtain ⟨toFloat, hreads⟩ := exists_exact_reader
  have hleft := recovered v (fun x _ => hreads x) _ _ _ hv ends_nil (Nat.le_refl _)
  have hright := recovered w (fun x _ => hreads x) _ _ _ hw ends_nil (Nat.le_refl _)
  rw [h] at hleft
  exact (Prod.mk.inj (Option.some.inj (hleft.symm.trans hright))).1

mutual

/-- A float that is no number becomes null. -/
def nulled : Json → Json
  | .float x => if x.isFinite then .float x else .null
  | .array items => .array (itemsNulled items)
  | .object members => .object (membersNulled members)
  | v => v

def itemsNulled : List Json → List Json
  | [] => []
  | v :: vs => v.nulled :: itemsNulled vs

def membersNulled : List (String × Json) → List (String × Json)
  | [] => []
  | (k, v) :: ms => (k, v.nulled) :: membersNulled ms

end

mutual

theorem compact_nulled (v : Json) : v.nulled.compact = v.compact := by
  match v with
  | .null | .bool _ | .int _ | .string _ => rfl
  | .float x =>
    simp only [nulled, compact, scalarText, floatText]
    split
    · rename_i hx
      simp [compact, scalarText, floatText, hx]
    · rfl
  | .array items => simp only [nulled, compact, items_nulled items]
  | .object members => simp only [nulled, compact, members_nulled members]

theorem items_nulled (items : List Json) :
    compactItems (itemsNulled items) = compactItems items := by
  match items with
  | [] => rfl
  | [v] => exact compact_nulled v
  | v :: w :: ws =>
    have hrest := items_nulled (w :: ws)
    simp only [itemsNulled] at hrest
    simp only [itemsNulled, compactItems, compact_nulled v, hrest]

theorem members_nulled (members : List (String × Json)) :
    compactMembers (membersNulled members) = compactMembers members := by
  match members with
  | [] => rfl
  | [(k, v)] => simp only [membersNulled, compactMembers, compact_nulled v]
  | (k, v) :: (k', w) :: ms =>
    have hrest := members_nulled ((k', w) :: ms)
    simp only [membersNulled] at hrest
    simp only [membersNulled, compactMembers, compact_nulled v, hrest]

end

mutual

def IntsFit : Json → Prop
  | .int n => IntFits n
  | .array items => ItemIntsFit items
  | .object members => MemberIntsFit members
  | _ => True

def ItemIntsFit : List Json → Prop
  | [] => True
  | v :: vs => v.IntsFit ∧ ItemIntsFit vs

def MemberIntsFit : List (String × Json) → Prop
  | [] => True
  | (_, v) :: ms => v.IntsFit ∧ MemberIntsFit ms

end

theorem itemIntsFit_iff (items : List Json) : ItemIntsFit items ↔ ∀ v ∈ items, v.IntsFit := by
  induction items with
  | nil => simp [ItemIntsFit]
  | cons v vs ih => simp [ItemIntsFit, ih]

theorem memberIntsFit_iff (members : List (String × Json)) :
    MemberIntsFit members ↔ ∀ m ∈ members, m.2.IntsFit := by
  induction members with
  | nil => simp [MemberIntsFit]
  | cons m ms ih => simp [MemberIntsFit, ih]

mutual

theorem nulled_fits (v : Json) (hi : v.IntsFit) {levels : Nat} (hd : v.depth ≤ levels) :
    v.nulled.Fits levels := by
  match v with
  | .null | .bool _ | .string _ => trivial
  | .int n => exact hi
  | .float x =>
    unfold nulled
    split
    · rename_i hx
      exact hx
    · trivial
  | .array items =>
    simp only [depth] at hd
    exact ⟨by omega, itemsNulled_fit items hi (by omega)⟩
  | .object members =>
    simp only [depth] at hd
    exact ⟨by omega, membersNulled_fit members hi (by omega)⟩

theorem itemsNulled_fit (items : List Json) (hi : ItemIntsFit items) {levels : Nat}
    (hd : itemsDepth items ≤ levels) : ItemsFit levels (itemsNulled items) := by
  match items with
  | [] => trivial
  | v :: vs =>
    simp only [itemsDepth] at hd
    exact ⟨nulled_fits v hi.1 (by omega), itemsNulled_fit vs hi.2 (by omega)⟩

theorem membersNulled_fit (members : List (String × Json)) (hi : MemberIntsFit members)
    {levels : Nat} (hd : membersDepth members ≤ levels) :
    MembersFit levels (membersNulled members) := by
  match members with
  | [] => trivial
  | (k, v) :: ms =>
    simp only [membersDepth] at hd
    exact ⟨nulled_fits v hi.1 (by omega), membersNulled_fit ms hi.2 (by omega)⟩

end

/-- Two values have one text exactly if they agree up to floats that are no numbers. -/
theorem compact_same_iff {v w : Json} (hv : v.IntsFit) (hw : w.IntsFit) :
    v.compact = w.compact ↔ v.nulled = w.nulled := by
  constructor
  · intro h
    rw [← compact_nulled v, ← compact_nulled w] at h
    have hleft := nulled_fits v hv (Nat.le_max_left v.depth w.depth)
    have hright := nulled_fits w hw (Nat.le_max_right v.depth w.depth)
    exact compact_injective hleft hright h
  · intro h
    rw [← compact_nulled v, h, compact_nulled]

mutual

theorem nulled_of_finite (v : Json) (h : ∀ x ∈ v.floats, x.isFinite = true) : v.nulled = v := by
  match v with
  | .null | .bool _ | .int _ | .string _ => rfl
  | .float x => simp [nulled, h x (List.mem_singleton.mpr rfl)]
  | .array items => rw [nulled, itemsNulled_of_finite items h]
  | .object members => rw [nulled, membersNulled_of_finite members h]

theorem itemsNulled_of_finite (items : List Json) (h : ∀ x ∈ itemFloats items, x.isFinite = true) :
    itemsNulled items = items := by
  match items with
  | [] => rfl
  | v :: vs =>
    rw [itemsNulled, nulled_of_finite v fun x hx => h x (List.mem_append_left _ hx),
      itemsNulled_of_finite vs fun x hx => h x (List.mem_append_right _ hx)]

theorem membersNulled_of_finite (members : List (String × Json))
    (h : ∀ x ∈ memberFloats members, x.isFinite = true) : membersNulled members = members := by
  match members with
  | [] => rfl
  | (k, v) :: ms =>
    rw [membersNulled, nulled_of_finite v fun x hx => h x (List.mem_append_left _ hx),
      membersNulled_of_finite ms fun x hx => h x (List.mem_append_right _ hx)]

end

def IsScalar : Json → Prop
  | .array _ | .object _ => False
  | _ => True

mutual

/-- The values that are written as null, in order. -/
def gaps : Json → List Json
  | .null => [.null]
  | .float x => if x.isFinite then [] else [.float x]
  | .array items => itemGaps items
  | .object members => memberGaps members
  | _ => []

def itemGaps : List Json → List Json
  | [] => []
  | v :: vs => v.gaps ++ itemGaps vs

def memberGaps : List (String × Json) → List Json
  | [] => []
  | (_, v) :: ms => v.gaps ++ memberGaps ms

end

/-- A scalar is either written as null or written as itself. -/
theorem scalar_gaps {v : Json} (h : v.IsScalar) :
    (v.nulled = .null ∧ v.gaps = [v]) ∨ (v.nulled = v ∧ v.gaps = []) := by
  cases v with
  | null => exact .inl ⟨rfl, rfl⟩
  | bool _ | int _ | string _ => exact .inr ⟨rfl, rfl⟩
  | float x =>
    by_cases hx : x.isFinite = true
    · exact .inr (by simp [nulled, gaps, hx])
    · exact .inl (by simp [nulled, gaps, hx])
  | array _ | object _ => exact h.elim

theorem nulled_scalar_iff (v : Json) : v.nulled.IsScalar ↔ v.IsScalar := by
  cases v with
  | float x =>
    unfold nulled
    split <;> rfl
  | _ => rfl

theorem scalar_iff {v w : Json} (h : v.nulled = w.nulled) : v.IsScalar ↔ w.IsScalar := by
  rw [← nulled_scalar_iff v, h, nulled_scalar_iff]

theorem scalar_eq {v w : Json} (hv : v.IsScalar) (hw : w.IsScalar) (hn : v.nulled = w.nulled)
    (hg : v.gaps = w.gaps) : v = w := by
  obtain ⟨hnv, hgv⟩ | ⟨hnv, hgv⟩ := scalar_gaps hv <;>
    obtain ⟨hnw, hgw⟩ | ⟨hnw, hgw⟩ := scalar_gaps hw <;>
    rw [hgv, hgw] at hg
  · exact (List.cons.inj hg).1
  · cases hg
  · cases hg
  · rw [← hnv, hn, hnw]

mutual

theorem nulled_gaps (v : Json) : v.nulled.gaps.length = v.gaps.length := by
  match v with
  | .null | .bool _ | .int _ | .string _ => rfl
  | .float x =>
    by_cases hx : x.isFinite = true
    · simp [nulled, hx]
    · simp [nulled, gaps, hx]
  | .array items => exact itemsNulled_gaps items
  | .object members => exact membersNulled_gaps members

theorem itemsNulled_gaps (items : List Json) :
    (itemGaps (itemsNulled items)).length = (itemGaps items).length := by
  match items with
  | [] => rfl
  | v :: vs =>
    simp only [itemsNulled, itemGaps, List.length_append, nulled_gaps v, itemsNulled_gaps vs]

theorem membersNulled_gaps (members : List (String × Json)) :
    (memberGaps (membersNulled members)).length = (memberGaps members).length := by
  match members with
  | [] => rfl
  | (k, v) :: ms =>
    simp only [membersNulled, memberGaps, List.length_append, nulled_gaps v, membersNulled_gaps ms]

end

theorem gaps_length {v w : Json} (h : v.nulled = w.nulled) : v.gaps.length = w.gaps.length := by
  rw [← nulled_gaps v, h, nulled_gaps]

mutual

/-- A value is known by its text and what is written there as null. -/
theorem eq_of_gaps (v w : Json) (hn : v.nulled = w.nulled) (hg : v.gaps = w.gaps) : v = w := by
  match v with
  | .null | .bool _ | .int _ | .float _ | .string _ =>
    exact scalar_eq trivial ((scalar_iff hn).mp trivial) hn hg
  | .array vs =>
    cases w with
    | array ws => rw [items_eq_of_gaps vs ws (Json.array.inj hn) hg]
    | object _ => cases hn
    | null | bool _ | int _ | float _ | string _ => exact ((scalar_iff hn).mpr trivial).elim
  | .object ms =>
    cases w with
    | object ns => rw [members_eq_of_gaps ms ns (Json.object.inj hn) hg]
    | array _ => cases hn
    | null | bool _ | int _ | float _ | string _ => exact ((scalar_iff hn).mpr trivial).elim

theorem items_eq_of_gaps (vs ws : List Json) (hn : itemsNulled vs = itemsNulled ws)
    (hg : itemGaps vs = itemGaps ws) : vs = ws := by
  match vs, ws with
  | [], [] => rfl
  | [], _ :: _ | _ :: _, [] => cases hn
  | v :: vs, w :: ws =>
    obtain ⟨hv, hvs⟩ := List.cons.inj hn
    obtain ⟨hgv, hgvs⟩ := List.append_inj hg (gaps_length hv)
    rw [eq_of_gaps v w hv hgv, items_eq_of_gaps vs ws hvs hgvs]

theorem members_eq_of_gaps (ms ns : List (String × Json)) (hn : membersNulled ms = membersNulled ns)
    (hg : memberGaps ms = memberGaps ns) : ms = ns := by
  match ms, ns with
  | [], [] => rfl
  | [], _ :: _ | _ :: _, [] => cases hn
  | (k, v) :: ms, (l, w) :: ns =>
    obtain ⟨hm, hms⟩ := List.cons.inj hn
    obtain ⟨rfl, hv⟩ := Prod.mk.inj hm
    obtain ⟨hgv, hgms⟩ := List.append_inj hg (gaps_length hv)
    rw [eq_of_gaps v w hv hgv, members_eq_of_gaps ms ns hms hgms]

end

end LayeredSql.Json
