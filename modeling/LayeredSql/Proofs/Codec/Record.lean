import LayeredSql.Json.Record
import LayeredSql.Proofs.Json.Fits
import LayeredSql.Proofs.Json.SameText

namespace LayeredSql.Json

variable {α : Type} {encode : α → Json} {decode : Json → Option α}

theorem itemsFit_iff {levels : Nat} (items : List Json) :
    ItemsFit levels items ↔ ∀ v ∈ items, v.Fits levels := by
  induction items with
  | nil => simp [ItemsFit]
  | cons v vs ih => simp [ItemsFit, ih]

theorem membersFit_iff {levels : Nat} (members : List (String × Json)) :
    MembersFit levels members ↔ ∀ m ∈ members, m.2.Fits levels := by
  induction members with
  | nil => simp [MembersFit]
  | cons m ms ih => simp [MembersFit, ih]

/-- What is decoded from a value that fits fits as well when it is encoded. -/
def Keeps (encode : α → Json) (decode : Json → Option α) : Prop :=
  ∀ levels j a, decode j = some a → j.Fits levels → (encode a).Fits levels

/-- A decoding that undoes an encoding. -/
structure Codec (encode : α → Json) (decode : Json → Option α) : Prop where
  undoes : ∀ a, decode (encode a) = some a
  keeps : Keeps encode decode
  ints : ∀ a, (encode a).IntsFit

theorem Codec.injective (h : Codec encode decode) : Function.Injective encode := by
  intro a b he
  have ha := h.undoes a
  rw [he, h.undoes b] at ha
  exact (Option.some.inj ha).symm

/-- An object is read within at least one level. -/
theorem levels_left {members : List (String × Json)} {n : Nat}
    (h : (Json.object members).depth ≤ n) : ∃ m, n = m + 1 := by
  apply Nat.exists_eq_succ_of_ne_zero
  rintro rfl
  simp [depth] at h

theorem string_codec : Codec Json.string string? where
  undoes _ := rfl
  keeps := by
    intro levels j a h hj
    trivial
  ints _ := trivial

theorem bool_codec : Codec Json.bool bool? where
  undoes _ := rfl
  keeps := by
    intro levels j a h hj
    trivial
  ints _ := trivial

theorem nat_fits {n : Nat} (h : n < 2 ^ 64) : IntFits n := by
  unfold IntFits
  omega

theorem natBelow_int {bound n : Nat} (h : n < bound) : natBelow? bound (.int n) = some n := by
  simp [natBelow?, h]

theorem uint8_codec : Codec (fun n : UInt8 => .int n.toNat) uint8? where
  undoes n := by
    rw [uint8?, natBelow_int n.toNat_lt, Option.map_some, UInt8.ofNat_toNat]
  keeps := by
    intro levels j n h hj
    exact nat_fits (n.toNat_lt.trans (by decide))
  ints n := nat_fits (n.toNat_lt.trans (by decide))

theorem uint32_codec : Codec (fun n : UInt32 => .int n.toNat) uint32? where
  undoes n := by
    rw [uint32?, natBelow_int n.toNat_lt, Option.map_some, UInt32.ofNat_toNat]
  keeps := by
    intro levels j n h hj
    exact nat_fits (n.toNat_lt.trans (by decide))
  ints n := nat_fits (n.toNat_lt.trans (by decide))

theorem uint64_codec : Codec (fun n : UInt64 => .int n.toNat) uint64? where
  undoes n := by
    rw [uint64?, natBelow_int n.toNat_lt, Option.map_some, UInt64.ofNat_toNat]
  keeps := by
    intro levels j n h hj
    exact nat_fits n.toNat_lt
  ints n := nat_fits n.toNat_lt

/-- Bare names, as long as every name is found. -/
theorem unit_codec {name : α → String} {ofName? : String → Option α}
    (h : ∀ a, ofName? (name a) = some a) :
    Codec (fun a => .string (name a)) (fun v => v.unitName?.bind ofName?) where
  undoes := h
  keeps := by
    intro levels j a hj hf
    trivial
  ints _ := trivial

theorem list_undoes {as : List α} (h : ∀ a ∈ as, decode (encode a) = some a) :
    list? decode (.array (as.map encode)) = some as := by
  change (as.map encode).mapM decode = some as
  induction as with
  | nil => rfl
  | cons a as ih =>
    obtain ⟨ha, has⟩ := List.forall_mem_cons.mp h
    simp [ha, ih has]

/-- Every decoded item comes from one that was there. -/
theorem list_item {j : Json} {as : List α} (h : list? decode j = some as) {a : α} (ha : a ∈ as) :
    ∃ items, j = .array items ∧ ∃ v ∈ items, decode v = some a := by
  cases j with
  | array items =>
    refine ⟨items, rfl, ?_⟩
    change items.mapM decode = some as at h
    induction items generalizing as with
    | nil =>
      cases h
      cases ha
    | cons v vs ih =>
      simp only [List.mapM_cons, Option.bind_eq_bind, Option.bind_eq_some_iff, Option.pure_def,
        Option.some.injEq] at h
      obtain ⟨b, hb, bs, hbs, rfl⟩ := h
      cases ha with
      | head => exact ⟨v, List.mem_cons_self, hb⟩
      | tail _ ha =>
        obtain ⟨w, hw, hd⟩ := ih ha hbs
        exact ⟨w, List.mem_cons_of_mem v hw, hd⟩
  | _ => cases h

theorem list_keeps (h : Keeps encode decode) :
    Keeps (fun as => .array (as.map encode)) (list? decode) := by
  intro levels j as hj hf
  have hlevels : 0 < levels := by
    cases j with
    | array items => exact hf.1
    | _ => cases hj
  refine ⟨hlevels, (itemsFit_iff _).mpr ?_⟩
  intro v hv
  obtain ⟨a, ha, rfl⟩ := List.mem_map.mp hv
  obtain ⟨items, rfl, w, hw, hd⟩ := list_item hj ha
  exact h _ w a hd ((itemsFit_iff items).mp hf.2 w hw)

theorem Codec.list (h : Codec encode decode) :
    Codec (fun as => .array (as.map encode)) (list? decode) where
  undoes as := list_undoes fun a _ => h.undoes a
  keeps := list_keeps h.keeps
  ints as := by
    apply (itemIntsFit_iff _).mpr
    intro v hv
    obtain ⟨a, -, rfl⟩ := List.mem_map.mp hv
    exact h.ints a

theorem strings_codec : Codec ofStrings strings? :=
  string_codec.list

def Record.Fits (levels : Nat) (r : Record) : Prop :=
  ∀ f ∈ r.fields, f.2.Fits levels

theorem record_fits {names : List String} {j : Json} {r : Record} {levels : Nat}
    (h : j.record? names = some r) (hj : j.Fits levels) : 0 < levels ∧ r.Fits (levels - 1) := by
  cases j with
  | object members =>
    simp only [record?] at h
    split at h
    · cases h
      refine ⟨hj.1, ?_⟩
      intro f hf
      exact (membersFit_iff members).mp hj.2 f (List.mem_of_mem_filter hf)
    · cases h
  | array items =>
    simp only [record?] at h
    split at h
    · cases h
      refine ⟨hj.1, ?_⟩
      intro f hf
      exact (itemsFit_iff items).mp hj.2 f.2 (List.of_mem_zip hf).2
    · cases h
  | _ => cases h

theorem tagged_object {key tag : String} {members : List (String × Json)}
    (h : key ∉ members.map (·.1)) :
    tagged? key (.object ((key, .string tag) :: members)) = some (tag, .object members) := by
  have hne : ∀ m ∈ members, m.1 ≠ key := by
    rintro m hm rfl
    exact h (List.mem_map_of_mem hm)
  have hnone : members.filter (·.1 == key) = [] := by
    apply List.filter_eq_nil_iff.mpr
    intro m hm
    simpa using hne m hm
  have hall : members.filter (·.1 != key) = members := by
    apply List.filter_eq_self.mpr
    intro m hm
    simpa using hne m hm
  simp [tagged?, hnone, hall]

theorem tagged_fits {key tag : String} {j body : Json} {levels : Nat}
    (h : j.tagged? key = some (tag, body)) (hj : j.Fits levels) : body.Fits levels := by
  cases j with
  | object members =>
    simp only [tagged?] at h
    split at h
    · cases h
      refine ⟨hj.1, (membersFit_iff _).mpr ?_⟩
      intro m hm
      exact (membersFit_iff members).mp hj.2 m (List.mem_of_mem_filter hm)
    · cases h
  | array items =>
    cases items with
    | nil => cases h
    | cons v vs =>
      cases v with
      | string s =>
        cases h
        exact ⟨hj.1, hj.2.2⟩
      | _ => cases h
  | _ => cases h

/-- An object whose members are fields, in the order of the fields, is a record of them. -/
theorem record_object {names : List String} {members : List (String × Json)}
    (h : (members.map (·.1)).Sublist names) (hn : names.Nodup) :
    record? names (.object members) = some ⟨false, members⟩ := by
  have hfields : members.filter (fun m => names.contains m.1) = members := by
    apply List.filter_eq_self.mpr
    intro m hm
    simpa using h.subset (List.mem_map_of_mem hm)
  have hnodup : (members.map (·.1)).Nodup := hn.sublist h
  simp only [record?, hfields, hnodup, if_true]

namespace Record
variable {positional : Bool}

@[simp] theorem get_cons (key name : String) (v : Json) (fields : List (String × Json)) :
    (⟨positional, (key, v) :: fields⟩ : Record).get? name =
      if key = name then some v else (⟨positional, fields⟩ : Record).get? name := by
  by_cases h : key = name <;> simp [get?, h]

@[simp] theorem get_append (fields more : List (String × Json)) (name : String) :
    (⟨positional, fields ++ more⟩ : Record).get? name =
      ((⟨positional, fields⟩ : Record).get? name).or ((⟨positional, more⟩ : Record).get? name) := by
  induction fields with
  | nil => rfl
  | cons f fs ih =>
    obtain ⟨key, v⟩ := f
    rw [List.cons_append, get_cons, get_cons, ih]
    split <;> rfl

@[simp] theorem get_nil (name : String) : (⟨positional, []⟩ : Record).get? name = none := rfl

@[simp] theorem get_memberIf (present : Bool) (key name : String) (v : Json) :
    (⟨positional, memberIf present key v⟩ : Record).get? name =
      if present = true ∧ key = name then some v else none := by
  cases present <;> simp [memberIf]

@[simp] theorem get_optionalMember (key name : String) (o : Option α) :
    (⟨positional, optionalMember key encode o⟩ : Record).get? name =
      if key = name then o.map encode else none := by
  cases o <;> simp [optionalMember]

/-- A list that is left out if it is empty. -/
theorem defaulting_list {r : Record} {key : String} {as : List α} {v : Json}
    {decode : Json → Option (List α)} (hv : decode v = some as)
    (h : r.get? key = if as = [] then none else some v) :
    r.defaulting key [] decode = some as := by
  unfold defaulting
  rw [h]
  cases as with
  | nil => rfl
  | cons a as => exact hv

/-- An option that is left out if there is none. -/
theorem optional_member {r : Record} {name : String} {o : Option α} (h : Codec encode decode)
    (hnull : ∀ a, encode a ≠ .null) (hget : r.get? name = o.map encode) :
    r.optional name decode = some o := by
  unfold optional
  rw [hget]
  cases o with
  | none => rfl
  | some a => simp [h.undoes a, hnull a]

/-- An option that is null if there is none. -/
theorem optional_null {r : Record} {name : String} {o : Option α} (h : Codec encode decode)
    (hnull : ∀ a, encode a ≠ .null) (hget : r.get? name = some (ofOption encode o)) :
    r.optional name decode = some o := by
  unfold optional
  rw [hget]
  cases o with
  | none => rfl
  | some a => simp [ofOption, h.undoes a, hnull a]

end Record

section Objects
variable {α β γ δ ε : Type} {k l m n : String} {v w x y : Json} {a : α} {b : β} {c : γ} {d : δ}
  {first : Json → Option α} {second : Json → Option β} {third : Json → Option γ}
  {fourth : Json → Option δ}

/-- A record of one field is read from its object. -/
theorem one_field (hv : first v = some a) (build : α → ε) :
    ((record? [k] (.object [(k, v)])).bind fun r =>
      (r.required k first).bind fun a => some (build a)) = some (build a) := by
  simp [record?, Record.required, Record.get?, hv]

theorem two_fields (hn : [k, l].Nodup) (hv : first v = some a) (hw : second w = some b)
    (build : α → β → ε) :
    ((record? [k, l] (.object [(k, v), (l, w)])).bind fun r =>
      (r.required k first).bind fun a => (r.required l second).bind fun b => some (build a b)) =
      some (build a b) := by
  have hrecord : record? [k, l] (.object [(k, v), (l, w)]) =
      some ⟨false, [(k, v), (l, w)]⟩ :=
    record_object (List.Sublist.refl _) hn
  simp only [List.nodup_cons, List.mem_singleton] at hn
  simp [hrecord, Record.required, hn, hv, hw]

theorem three_fields (hn : [k, l, m].Nodup) (hv : first v = some a) (hw : second w = some b)
    (hx : third x = some c) (build : α → β → γ → ε) :
    ((record? [k, l, m] (.object [(k, v), (l, w), (m, x)])).bind fun r =>
      (r.required k first).bind fun a => (r.required l second).bind fun b =>
        (r.required m third).bind fun c => some (build a b c)) = some (build a b c) := by
  have hrecord : record? [k, l, m] (.object [(k, v), (l, w), (m, x)]) =
      some ⟨false, [(k, v), (l, w), (m, x)]⟩ :=
    record_object (List.Sublist.refl _) hn
  simp only [List.nodup_cons, List.mem_cons, List.not_mem_nil, or_false, not_or] at hn
  simp [hrecord, Record.required, hn, hv, hw, hx]

theorem four_fields (hn : [k, l, m, n].Nodup) (hv : first v = some a) (hw : second w = some b)
    (hx : third x = some c) (hy : fourth y = some d) (build : α → β → γ → δ → ε) :
    ((record? [k, l, m, n] (.object [(k, v), (l, w), (m, x), (n, y)])).bind fun r =>
      (r.required k first).bind fun a => (r.required l second).bind fun b =>
        (r.required m third).bind fun c => (r.required n fourth).bind fun d =>
          some (build a b c d)) = some (build a b c d) := by
  have hrecord : record? [k, l, m, n] (.object [(k, v), (l, w), (m, x), (n, y)]) =
      some ⟨false, [(k, v), (l, w), (m, x), (n, y)]⟩ :=
    record_object (List.Sublist.refl _) hn
  simp only [List.nodup_cons, List.mem_cons, List.not_mem_nil, or_false, not_or] at hn
  simp [hrecord, Record.required, hn, hv, hw, hx, hy]

end Objects

section Fields
variable {r : Record} {name : String} {levels : Nat}

theorem Record.get_fits (hr : r.Fits levels) {v : Json} (h : r.get? name = some v) :
    v.Fits levels := by
  obtain ⟨f, hf, rfl⟩ := Option.map_eq_some_iff.mp h
  exact hr f (List.mem_of_find?_eq_some hf)

variable (hk : Keeps encode decode) (hr : r.Fits levels)
include hk hr

theorem required_fits {a : α} (h : r.required name decode = some a) : (encode a).Fits levels := by
  obtain ⟨v, hv, hd⟩ := Option.bind_eq_some_iff.mp h
  exact hk levels v a hd (Record.get_fits hr hv)

theorem defaulting_fits {fallback a : α} (h : r.defaulting name fallback decode = some a) :
    a = fallback ∨ (encode a).Fits levels := by
  unfold Record.defaulting at h
  split at h
  · cases h
    exact .inl rfl
  · rename_i v hv
    exact .inr (hk levels v a h (Record.get_fits hr hv))

theorem optional_fits {o : Option α} (h : r.optional name decode = some o) :
    ∀ a ∈ o, (encode a).Fits levels := by
  intro a ha
  unfold Record.optional at h
  split at h
  · cases h
    cases ha
  · cases h
    cases ha
  · rename_i v _ hv
    obtain ⟨b, hb, rfl⟩ := Option.map_eq_some_iff.mp h
    cases ha
    exact hk levels v a hb (Record.get_fits hr hv)

theorem nullable_fits {o : Option α} (h : r.nullable name decode = some o) :
    ∀ a ∈ o, (encode a).Fits levels := by
  unfold Record.nullable at h
  split at h
  · cases h
  · exact optional_fits hk hr h

end Fields

theorem membersFit_append {levels : Nat} {members more : List (String × Json)} :
    MembersFit levels (members ++ more) ↔ MembersFit levels members ∧ MembersFit levels more := by
  simp only [membersFit_iff, List.forall_mem_append]

theorem memberIf_fits (present : Bool) (key : String) {v : Json} {levels : Nat}
    (h : present = true → v.Fits levels) : MembersFit levels (memberIf present key v) := by
  cases present with
  | false => trivial
  | true => exact ⟨h rfl, trivial⟩

theorem optionalMember_fits (key : String) {o : Option α} {levels : Nat}
    (h : ∀ a ∈ o, (encode a).Fits levels) : MembersFit levels (optionalMember key encode o) := by
  cases o with
  | none => trivial
  | some a => exact ⟨h a rfl, trivial⟩

theorem ofOption_fits {o : Option α} {levels : Nat} (h : ∀ a ∈ o, (encode a).Fits levels) :
    (ofOption encode o).Fits levels := by
  cases o with
  | none => trivial
  | some a => exact h a rfl

section Pairs
variable {β γ : Type} {k l : String} {encodeSecond : β → Json} {decodeSecond : Json → Option β}

/-- A record of two fields, both of which are there. -/
theorem Codec.pair (build : α → β → γ) (first : γ → α) (second : γ → β)
    (hb : ∀ c, build (first c) (second c) = c) (hf : ∀ a b, first (build a b) = a)
    (hs : ∀ a b, second (build a b) = b) (hn : [k, l].Nodup) (ha : Codec encode decode)
    (hc : Codec encodeSecond decodeSecond) :
    Codec (fun c => .object [(k, encode (first c)), (l, encodeSecond (second c))])
      (fun j => (j.record? [k, l]).bind fun r => (r.required k decode).bind fun a =>
        (r.required l decodeSecond).bind fun b => some (build a b)) where
  undoes c := by
    rw [two_fields hn (ha.undoes (first c)) (hc.undoes (second c)) build, hb]
  keeps := by
    intro levels j c h hj
    simp only [Option.bind_eq_some_iff, Option.some.injEq] at h
    obtain ⟨r, hr, a, hfirst, b, hsecond, rfl⟩ := h
    obtain ⟨hl, hfits⟩ := record_fits hr hj
    simp only [hf, hs]
    exact ⟨hl, required_fits ha.keeps hfits hfirst, required_fits hc.keeps hfits hsecond, trivial⟩
  ints c := ⟨ha.ints (first c), hc.ints (second c), trivial⟩

/-- A record of two fields, the second of which is left out if there is nothing to say. -/
theorem Codec.labelled (build : α → Option β → γ) (first : γ → α) (second : γ → Option β)
    (hb : ∀ c, build (first c) (second c) = c) (hf : ∀ a b, first (build a b) = a)
    (hs : ∀ a b, second (build a b) = b) (hn : [k, l].Nodup) (ha : Codec encode decode)
    (hc : Codec encodeSecond decodeSecond) (hnull : ∀ b, encodeSecond b ≠ .null) :
    Codec (fun c => .object ((k, encode (first c)) :: optionalMember l encodeSecond (second c)))
      (fun j => (j.record? [k, l]).bind fun r => (r.required k decode).bind fun a =>
        (r.optional l decodeSecond).bind fun b => some (build a b)) where
  undoes c := by
    have hnames : (((k, encode (first c)) :: optionalMember l encodeSecond (second c)).map
        (·.1)).Sublist [k, l] := by
      cases second c <;> simp [optionalMember]
    have hkl : k ≠ l := by simpa using hn
    have hfirst : (⟨false, (k, encode (first c)) :: optionalMember l encodeSecond (second c)⟩ :
        Record).required k decode = some (first c) := by
      simp [Record.required, ha.undoes]
    have hsecond : (⟨false, (k, encode (first c)) :: optionalMember l encodeSecond (second c)⟩ :
        Record).optional l decodeSecond = some (second c) :=
      Record.optional_member hc hnull (by simp [hkl])
    rw [record_object hnames hn, Option.bind_some, hfirst, Option.bind_some, hsecond,
      Option.bind_some, hb]
  keeps := by
    intro levels j c h hj
    simp only [Option.bind_eq_some_iff, Option.some.injEq] at h
    obtain ⟨r, hr, a, hfirst, b, hsecond, rfl⟩ := h
    obtain ⟨hl, hfits⟩ := record_fits hr hj
    simp only [hf, hs]
    exact ⟨hl, required_fits ha.keeps hfits hfirst,
      optionalMember_fits l (optional_fits hc.keeps hfits hsecond)⟩
  ints c := by
    cases hc' : second c with
    | none => exact ⟨ha.ints (first c), trivial⟩
    | some b => exact ⟨ha.ints (first c), hc.ints b, trivial⟩

end Pairs

end LayeredSql.Json
