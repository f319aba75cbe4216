import LayeredSql.Proofs.Json.Number

namespace LayeredSql.Json
open Decimal (Numeral)

theorem hex_digit : ∀ n < 16, hexValue (Nat.digitChar n) = some n := by
  decide

theorem readString_plain {c : Char} (hq : c ≠ '\x22') (hb : c ≠ '\\') (hc : ¬c.toNat < 0x20)
    (acc cs : List Char) : readString acc (c :: cs) = readString (c :: acc) cs := by
  conv_lhs => unfold readString
  split <;> simp_all

theorem readString_escaped (c : Char) (acc cs : List Char) :
    readString acc (escaped c ++ cs) = readString (c :: acc) cs := by
  unfold escaped
  split
  · simp_all [readString, unescape]
  split
  · simp_all [readString, unescape]
  split
  · simp_all [readString, unescape]
  split
  · simp_all [readString, unescape]
  split
  · simp_all [readString, unescape]
  split
  · simp_all [readString, unescape]
  split
  · simp_all [readString, unescape]
  split
  · rename_i hc
    have hhex : hex4 '0' '0' (Nat.digitChar (c.toNat / 16)) (Nat.digitChar (c.toNat % 16)) =
        some c.toNat := by
      rw [hex4, hex_digit _ (by omega), hex_digit _ (by omega)]
      have hzero : hexValue '0' = some 0 := rfl
      rw [hzero]
      change some (((0 * 16 + 0) * 16 + c.toNat / 16) * 16 + c.toNat % 16) = _
      congr 1
      omega
    have hhigh : isHighSurrogate c.toNat = false := by
      simp [isHighSurrogate]
      omega
    have hlow : isLowSurrogate c.toNat = false := by
      simp [isLowSurrogate]
      omega
    simp only [List.cons_append, List.nil_append, readString, hhex, hhigh, hlow, Bool.false_eq_true,
      if_false, Char.ofNat_toNat]
  · rename_i hq hb _ _ _ _ _ hc
    exact readString_plain hq hb hc acc cs

theorem readString_text (cs acc rest : List Char) :
    readString acc (cs.flatMap escaped ++ '\x22' :: rest) =
      some (String.ofList (acc.reverse ++ cs), rest) := by
  induction cs generalizing acc with
  | nil => simp [readString]
  | cons c cs ih =>
    rw [List.flatMap_cons, List.append_assoc, readString_escaped, ih]
    simp

theorem string_chars (s : String) (rest : List Char) :
    (stringText s).toList ++ rest = '\x22' :: (s.toList.flatMap escaped ++ '\x22' :: rest) := by
  simp [stringText]

theorem readString_stringText (s : String) (rest : List Char) :
    readString [] (s.toList.flatMap escaped ++ '\x22' :: rest) = some (s, rest) := by
  rw [readString_text]
  simp

/-- A reader of floats that gets a float back from what is written for it. -/
def ReadsFloat (toFloat : FloatReader) (x : Float) : Prop :=
  let t := numberText (Decimal.Style.json.floatNumeral x)
  toFloat t.negative t.whole t.fraction (t.exponent.getD 0) = some x

def IntFits (n : Int) : Prop :=
  -2 ^ 63 ≤ n ∧ n < 2 ^ 64

variable {toFloat : FloatReader}

theorem int_value {n : Int} (h : IntFits n) :
    (numberText (Decimal.intNumeral n)).value toFloat = some (.int n) := by
  have hdigits : ofDigits ((Nat.toDigits 10 n.natAbs).map digitValue) = n.natAbs := by
    rw [ofDigits_values, Nat.ofDigitChars_ten_toDigits]
  obtain ⟨hlow, hhigh⟩ := h
  have hsize : UInt64.size = 2 ^ 64 := rfl
  unfold NumberText.value
  simp only [numberText, Decimal.intNumeral, List.map_nil, List.isEmpty_nil, Option.isNone_none,
    Bool.true_and, hdigits, hsize]
  rcases lt_or_ge n 0 with hn | hn
  · have habs : -(n.natAbs : Int) = n := by omega
    rw [if_neg (by simp [hn]), if_pos (by simp [hn]; omega), habs]
  · have habs : (n.natAbs : Int) = n := by omega
    rw [if_pos (by simp [Int.not_lt.mpr hn]; omega), habs]

/-- A float is read by the reader of floats, never as an integer. -/
theorem float_value (toFloat : FloatReader) (x : Float) :
    let t := numberText (Decimal.Style.json.floatNumeral x)
    t.value toFloat = (toFloat t.negative t.whole t.fraction (t.exponent.getD 0)).map .float := by
  have hmarked : ((numberText (Decimal.Style.json.floatNumeral x)).fraction.isEmpty &&
      (numberText (Decimal.Style.json.floatNumeral x)).exponent.isNone) = false := by
    rcases Decimal.float_marked .json x with hf | he
    · simp [numberText, hf]
    · simp [numberText, Option.ne_none_iff_isSome.mp he]
  simp only [NumberText.value, hmarked, Bool.false_and, Bool.false_eq_true, if_false]

theorem readNumber_chars {n : Numeral} (hn : n.Well) (plusSign : Bool) {rest : List Char}
    (hr : Ends rest) :
    readNumber toFloat (n.chars plusSign ++ rest) =
      ((numberText n).value toFloat).map fun v => (v, rest) := by
  unfold readNumber
  rw [readNumberText_chars hn plusSign hr]
  simp only [bind, Option.bind]
  cases (numberText n).value toFloat <;> rfl

mutual

/-- Nested within so many levels, with integers of 64 bits and finite floats. -/
def Fits : Nat → Json → Prop
  | _, .null => True
  | _, .bool _ => True
  | _, .int n => IntFits n
  | _, .float x => x.isFinite = true
  | _, .string _ => True
  | levels, .array items => 0 < levels ∧ ItemsFit (levels - 1) items
  | levels, .object members => 0 < levels ∧ MembersFit (levels - 1) members

def ItemsFit : Nat → List Json → Prop
  | _, [] => True
  | levels, v :: vs => v.Fits levels ∧ ItemsFit levels vs

def MembersFit : Nat → List (String × Json) → Prop
  | _, [] => True
  | levels, (_, v) :: ms => v.Fits levels ∧ MembersFit levels ms

end

mutual

def floats : Json → List Float
  | .float x => [x]
  | .array items => itemFloats items
  | .object members => memberFloats members
  | _ => []

def itemFloats : List Json → List Float
  | [] => []
  | v :: vs => v.floats ++ itemFloats vs

def memberFloats : List (String × Json) → List Float
  | [] => []
  | (_, v) :: ms => v.floats ++ memberFloats ms

end

def opens (c : Char) : Bool :=
  c ∉ [' ', '\n', '\r', '\t', ']']

theorem skipBlank_opens {c : Char} (h : opens c = true) (cs : List Char) :
    skipBlank (c :: cs) = c :: cs := by
  simp only [opens, List.mem_cons, List.not_mem_nil, or_false, not_or, decide_eq_true_eq] at h
  simp [skipBlank, isBlank, h]

theorem numeral_head {n : Numeral} (h : n.Well) (plusSign : Bool) :
    ∃ c cs, n.chars plusSign = c :: cs ∧ (c.isDigit = true ∨ c = '-') := by
  obtain ⟨c, cs, hc⟩ := List.exists_cons_of_ne_nil h.whole_some
  unfold Numeral.chars Numeral.signText
  split
  · exact ⟨'-', _, rfl, .inr rfl⟩
  · rw [hc]
    exact ⟨c, _, rfl, .inl (h.whole_digits c (hc ▸ List.mem_cons_self))⟩

theorem number_opens {c : Char} (h : c.isDigit = true ∨ c = '-') : opens c = true := by
  rcases h with h | rfl
  · simp [opens, Decimal.digit_ne h]
  · decide

theorem readValue_number {c : Char} (h : c.isDigit = true ∨ c = '-') (fuel levels : Nat)
    (cs : List Char) :
    readValue toFloat (fuel + 1) levels (c :: cs) = readNumber toFloat (c :: cs) := by
  have hne : ∀ x : Char, x.isDigit = false → x ≠ '-' → c ≠ x := by
    rintro x hx hm rfl
    rcases h with h | h
    · rw [h] at hx
      cases hx
    · exact hm h
  unfold readValue
  rw [skipBlank_opens (number_opens h)]
  split
  all_goals first
    | rfl
    | (rename_i he; exact absurd (List.cons.inj he).1 (hne _ (by decide) (by decide)))

theorem readValue_numeral {n : Numeral} (hn : n.Well) (plusSign : Bool) (fuel levels : Nat)
    {rest : List Char} (hr : Ends rest) :
    readValue toFloat (fuel + 1) levels (n.chars plusSign ++ rest) =
      ((numberText n).value toFloat).map fun v => (v, rest) := by
  obtain ⟨c, cs, hc, hd⟩ := numeral_head hn plusSign
  rw [← readNumber_chars hn plusSign hr, hc]
  exact readValue_number hd fuel levels _

theorem compact_opens {v : Json} {levels : Nat} (h : v.Fits levels) :
    ∃ c cs, v.compact.toList = c :: cs ∧ opens c = true := by
  have hnumeral : ∀ n : Numeral, n.Well → ∀ plusSign, ∀ text : String,
      text.toList = n.chars plusSign → ∃ c cs, text.toList = c :: cs ∧ opens c = true := by
    intro n hn plusSign text ht
    obtain ⟨c, cs, hc, hd⟩ := numeral_head hn plusSign
    exact ⟨c, cs, ht.trans hc, number_opens hd⟩
  cases v with
  | null => exact ⟨'n', _, rfl, by decide⟩
  | bool b =>
    cases b
    · exact ⟨'f', _, rfl, by decide⟩
    · exact ⟨'t', _, rfl, by decide⟩
  | int n => exact hnumeral _ (Decimal.int_well n) false _ (Decimal.int_text n false)
  | float x =>
    have hx : x.isFinite = true := h
    simp only [compact, scalarText, floatText, hx, if_true]
    exact hnumeral _ (Decimal.float_well .json x) _ _ (Decimal.text_chars .json x)
  | string s =>
    exact ⟨'\x22', s.toList.flatMap escaped ++ ['\x22'], by simp [compact, scalarText, stringText],
      by decide⟩
  | array items => exact ⟨'[', (compactItems items).toList ++ [']'], by simp [compact], by decide⟩
  | object members =>
    exact ⟨'\x7b', (compactMembers members).toList ++ ['\x7d'], by simp [compact], by decide⟩

theorem readValue_array {c : Char} (hc : opens c = true) {levels : Nat} (hl : 0 < levels)
    (fuel : Nat) (cs : List Char) :
    readValue toFloat (fuel + 1) levels ('[' :: c :: cs) =
      (readItems toFloat fuel (levels - 1) (c :: cs)).map fun (vs, rest) => (.array vs, rest) := by
  have hne : c ≠ ']' := by
    rintro rfl
    exact absurd hc (by decide)
  unfold readValue
  rw [skipBlank_opens (by decide)]
  simp only [if_neg (Nat.pos_iff_ne_zero.mp hl), skipBlank_opens hc]
  split
  · rename_i he
    exact absurd (List.cons.inj he).1 hne
  · rfl

theorem readValue_object {levels : Nat} (hl : 0 < levels) (fuel : Nat) (cs : List Char) :
    readValue toFloat (fuel + 1) levels ('\x7b' :: '\x22' :: cs) =
      (readMembers toFloat fuel (levels - 1) ('\x22' :: cs)).map fun (ms, rest) =>
        (.object ms, rest) := by
  unfold readValue
  rw [skipBlank_opens (by decide)]
  simp only [if_neg (Nat.pos_iff_ne_zero.mp hl),
    skipBlank_opens (show opens '\x22' = true by decide)]
  rfl

theorem array_chars (items : List Json) (rest : List Char) :
    (Json.array items).compact.toList ++ rest =
      '[' :: ((compactItems items).toList ++ ']' :: rest) := by
  simp [compact]

theorem object_chars (members : List (String × Json)) (rest : List Char) :
    (Json.object members).compact.toList ++ rest =
      '\x7b' :: ((compactMembers members).toList ++ '\x7d' :: rest) := by
  simp [compact]

theorem more_items_chars (v w : Json) (ws : List Json) (rest : List Char) :
    (compactItems (v :: w :: ws)).toList ++ rest =
      v.compact.toList ++ ',' :: ((compactItems (w :: ws)).toList ++ rest) := by
  simp [compactItems]

theorem one_member_chars (k : String) (v : Json) (rest : List Char) :
    (compactMembers [(k, v)]).toList ++ rest =
      '\x22' :: (k.toList.flatMap escaped ++ '\x22' :: ':' :: (v.compact.toList ++ rest)) := by
  simp [compactMembers, stringText]

theorem more_members_chars (k : String) (v : Json) (m : String × Json) (ms : List (String × Json))
    (rest : List Char) :
    (compactMembers ((k, v) :: m :: ms)).toList ++ rest =
      '\x22' :: (k.toList.flatMap escaped ++ '\x22' :: ':' ::
        (v.compact.toList ++ ',' :: ((compactMembers (m :: ms)).toList ++ rest))) := by
  simp [compactMembers, stringText]

theorem items_open {levels : Nat} {items : List Json} (hne : items ≠ [])
    (h : ItemsFit levels items) :
    ∃ c cs, (compactItems items).toList = c :: cs ∧ opens c = true := by
  match items with
  | [] => exact absurd rfl hne
  | [v] => exact compact_opens h.1
  | v :: w :: ws =>
    obtain ⟨c, cs, hc, ho⟩ := compact_opens h.1
    refine ⟨c, cs ++ ',' :: (compactItems (w :: ws)).toList, ?_, ho⟩
    have hmore := more_items_chars v w ws []
    rw [List.append_nil, List.append_nil, hc] at hmore
    exact hmore

theorem members_open (k : String) (v : Json) (ms : List (String × Json)) :
    ∃ cs, (compactMembers ((k, v) :: ms)).toList = '\x22' :: cs := by
  cases ms with
  | nil => exact ⟨_, by rw [← List.append_nil (compactMembers _).toList, one_member_chars]⟩
  | cons m ms => exact ⟨_, by rw [← List.append_nil (compactMembers _).toList, more_members_chars]⟩

theorem skipBlank_bracket (cs : List Char) : skipBlank (']' :: cs) = ']' :: cs := rfl

/-- A value whose compact form is read as the value. -/
def Recovered (toFloat : FloatReader) (v : Json) : Prop :=
  ∀ (fuel levels : Nat) (rest : List Char), v.Fits levels → Ends rest →
    2 * v.compact.toList.length ≤ fuel →
    readValue toFloat fuel levels (v.compact.toList ++ rest) = some (v, rest)

theorem fuel_left {fuel levels : Nat} {v : Json} (h : v.Fits levels)
    (hfuel : 2 * v.compact.toList.length ≤ fuel) : ∃ n, fuel = n + 1 := by
  obtain ⟨c, cs, hc, -⟩ := compact_opens h
  rw [hc, List.length_cons] at hfuel
  exact Nat.exists_eq_succ_of_ne_zero (by omega)

theorem Recovered.int (n : Int) : Recovered toFloat (.int n) := by
  intro fuel levels rest hfit hr hfuel
  obtain ⟨fuel, rfl⟩ := fuel_left hfit hfuel
  change readValue toFloat (fuel + 1) levels ((toString n).toList ++ rest) = _
  rw [Decimal.int_text n false, readValue_numeral (Decimal.int_well n) false fuel levels hr,
    int_value hfit]
  rfl

theorem Recovered.float {x : Float} (h : ReadsFloat toFloat x) : Recovered toFloat (.float x) := by
  intro fuel levels rest hfit hr hfuel
  obtain ⟨fuel, rfl⟩ := fuel_left hfit hfuel
  have hx : x.isFinite = true := hfit
  simp only [compact, scalarText, floatText, hx, if_true, Decimal.text_chars]
  rw [readValue_numeral (Decimal.float_well .json x) _ fuel levels hr, float_value]
  unfold ReadsFloat at h
  rw [h]
  rfl

theorem Recovered.string (s : String) : Recovered toFloat (.string s) := by
  intro fuel levels rest hfit hr hfuel
  obtain ⟨fuel, rfl⟩ := fuel_left hfit hfuel
  simp only [compact, scalarText, string_chars]
  unfold readValue
  rw [skipBlank_opens (by decide)]
  simp only [readString_stringText, Option.map_some]

/-- Items are read up to the closing bracket. -/
theorem readItems_compact {items : List Json} (h : ∀ v ∈ items, Recovered toFloat v)
    {fuel levels : Nat} (hfit : ItemsFit levels items) (hne : items ≠ []) (rest : List Char)
    (hfuel : 2 * (compactItems items).toList.length + 1 ≤ fuel) :
    readItems toFloat fuel levels ((compactItems items).toList ++ ']' :: rest) =
      some (items, rest) := by
  induction items generalizing fuel with
  | nil => exact absurd rfl hne
  | cons v vs ih =>
    obtain ⟨fuel, rfl⟩ : ∃ n, fuel = n + 1 := Nat.exists_eq_succ_of_ne_zero (by omega)
    obtain ⟨hv, hvs⟩ := List.forall_mem_cons.mp h
    cases vs with
    | nil =>
      have hlen : 2 * v.compact.toList.length + 1 ≤ fuel + 1 := hfuel
      have hread := hv _ _ _ hfit.1 (ends_bracket rest) (Nat.le_of_succ_le_succ hlen)
      change readItems toFloat (fuel + 1) levels (v.compact.toList ++ ']' :: rest) = _
      unfold readItems
      simp only [hread, skipBlank_bracket]
    | cons w ws =>
      have hlen := congrArg List.length (more_items_chars v w ws [])
      simp only [List.append_nil, List.length_cons, List.length_append] at hlen
      have hsize : 2 * v.compact.toList.length ≤ fuel ∧
          2 * (compactItems (w :: ws)).toList.length + 1 ≤ fuel := by
        omega
      have hread := hv _ _ _ hfit.1 (ends_comma ((compactItems (w :: ws)).toList ++ ']' :: rest))
        hsize.1
      have hmore := ih hvs hfit.2 (List.cons_ne_nil w ws) hsize.2
      rw [more_items_chars]
      unfold readItems
      simp only [hread, skipBlank_opens (show opens ',' = true by decide), hmore, Option.map_some]

/-- Members are read up to the closing brace. -/
theorem readMembers_compact {members : List (String × Json)}
    (h : ∀ m ∈ members, Recovered toFloat m.2) {fuel levels : Nat}
    (hfit : MembersFit levels members) (hne : members ≠ []) (rest : List Char)
    (hfuel : 2 * (compactMembers members).toList.length + 1 ≤ fuel) :
    readMembers toFloat fuel levels ((compactMembers members).toList ++ '\x7d' :: rest) =
      some (members, rest) := by
  induction members generalizing fuel with
  | nil => exact absurd rfl hne
  | cons m ms ih =>
    obtain ⟨fuel, rfl⟩ : ∃ n, fuel = n + 1 := Nat.exists_eq_succ_of_ne_zero (by omega)
    obtain ⟨k, v⟩ := m
    obtain ⟨hv, hms⟩ := List.forall_mem_cons.mp h
    cases ms with
    | nil =>
      have hlen := congrArg List.length (one_member_chars k v [])
      simp only [List.append_nil, List.length_cons, List.length_append] at hlen
      have hsize : 2 * v.compact.toList.length ≤ fuel := by omega
      have hread := hv _ _ _ hfit.1 (ends_brace rest) hsize
      rw [one_member_chars]
      unfold readMembers
      simp only [skipBlank_opens (show opens '\x22' = true by decide), readString_stringText,
        skipBlank_opens (show opens ':' = true by decide), hread,
        skipBlank_opens (show opens '\x7d' = true by decide)]
    | cons m ms =>
      have hlen := congrArg List.length (more_members_chars k v m ms [])
      simp only [List.append_nil, List.length_cons, List.length_append] at hlen
      have hsize : 2 * v.compact.toList.length ≤ fuel ∧
          2 * (compactMembers (m :: ms)).toList.length + 1 ≤ fuel := by
        omega
      have hread :=
        hv _ _ _ hfit.1 (ends_comma ((compactMembers (m :: ms)).toList ++ '\x7d' :: rest))
        hsize.1
      have hmore := ih hms hfit.2 (List.cons_ne_nil m ms) hsize.2
      rw [more_members_chars]
      unfold readMembers
      simp only [skipBlank_opens (show opens '\x22' = true by decide), readString_stringText,
        skipBlank_opens (show opens ':' = true by decide), hread,
        skipBlank_opens (show opens ',' = true by decide), hmore, Option.map_some]

theorem Recovered.array {items : List Json} (h : ∀ v ∈ items, Recovered toFloat v) :
    Recovered toFloat (.array items) := by
  intro fuel levels rest hfit hr hfuel
  obtain ⟨fuel, rfl⟩ := fuel_left hfit hfuel
  have hlen := congrArg List.length (array_chars items [])
  simp only [List.append_nil, List.length_cons, List.length_append, List.length_nil] at hlen
  rw [array_chars]
  cases items with
  | nil =>
    unfold readValue
    rw [skipBlank_opens (by decide)]
    simp only [if_neg (Nat.pos_iff_ne_zero.mp hfit.1)]
    rfl
  | cons v vs =>
    have hread := readItems_compact h hfit.2 (List.cons_ne_nil v vs) rest
      (show _ ≤ fuel by omega)
    obtain ⟨c, cs, hc, ho⟩ := items_open (List.cons_ne_nil v vs) hfit.2
    rw [hc, List.cons_append, readValue_array ho hfit.1, ← List.cons_append, ← hc, hread]
    rfl

theorem Recovered.object {members : List (String × Json)}
    (h : ∀ m ∈ members, Recovered toFloat m.2) : Recovered toFloat (.object members) := by
  intro fuel levels rest hfit hr hfuel
  obtain ⟨fuel, rfl⟩ := fuel_left hfit hfuel
  have hlen := congrArg List.length (object_chars members [])
  simp only [List.append_nil, List.length_cons, List.length_append, List.length_nil] at hlen
  rw [object_chars]
  cases members with
  | nil =>
    unfold readValue
    rw [skipBlank_opens (by decide)]
    simp only [if_neg (Nat.pos_iff_ne_zero.mp hfit.1)]
    rfl
  | cons m ms =>
    have hread := readMembers_compact h hfit.2 (List.cons_ne_nil m ms) rest
      (show _ ≤ fuel by omega)
    obtain ⟨cs, hc⟩ := members_open m.1 m.2 ms
    rw [hc, List.cons_append, readValue_object hfit.1, ← List.cons_append, ← hc, hread]
    rfl

mutual

theorem recovered (v : Json) (h : ∀ x ∈ v.floats, ReadsFloat toFloat x) : Recovered toFloat v := by
  match v with
  | .null =>
    intro fuel levels rest hfit _ hfuel
    obtain ⟨fuel, rfl⟩ := fuel_left hfit hfuel
    rfl
  | .bool b =>
    intro fuel levels rest hfit _ hfuel
    obtain ⟨fuel, rfl⟩ := fuel_left hfit hfuel
    cases b <;> rfl
  | .int n => exact .int n
  | .float x => exact .float (h x (List.mem_singleton.mpr rfl))
  | .string s => exact .string s
  | .array items => exact .array (items_recovered items h)
  | .object members => exact .object (members_recovered members h)

theorem items_recovered (items : List Json) (h : ∀ x ∈ itemFloats items, ReadsFloat toFloat x) :
    ∀ v ∈ items, Recovered toFloat v := by
  match items with
  | [] => simp
  | v :: vs =>
    exact List.forall_mem_cons.mpr ⟨recovered v fun x hx => h x (List.mem_append_left _ hx),
      items_recovered vs fun x hx => h x (List.mem_append_right _ hx)⟩

theorem members_recovered (members : List (String × Json))
    (h : ∀ x ∈ memberFloats members, ReadsFloat toFloat x) :
    ∀ m ∈ members, Recovered toFloat m.2 := by
  match members with
  | [] => simp
  | (k, v) :: ms =>
    exact List.forall_mem_cons.mpr ⟨recovered v fun x hx => h x (List.mem_append_left _ hx),
      members_recovered ms fun x hx => h x (List.mem_append_right _ hx)⟩

end

/-- A value is read back from the whole text that is written for it. -/
theorem read_compact {levels : Nat} {v : Json} (hfit : v.Fits levels)
    (hf : ∀ x ∈ v.floats, ReadsFloat Decimal.toFloat x) : read? levels v.compact = some v := by
  have hfuel : 2 * v.compact.toList.length ≤ 2 * v.compact.toList.length + 2 := Nat.le_add_right _ _
  have hread := recovered v hf _ _ _ hfit ends_nil hfuel
  rw [List.append_nil] at hread
  unfold read?
  simp only [bind, Option.bind, hread]
  rfl

/-- A float that is read from its own text is read back by the reader of floats. -/
theorem reads_of_text {levels : Nat} {x : Float} (hx : x.isFinite = true)
    (h : read? levels (floatText x) = some (.float x)) : ReadsFloat Decimal.toFloat x := by
  unfold read? at h
  simp only [floatText, hx, if_true, Decimal.text_chars] at h
  obtain ⟨⟨v, rest⟩, hv, he⟩ := Option.bind_eq_some_iff.mp h
  rw [← List.append_nil (Numeral.chars _ _), readValue_numeral (Decimal.float_well .json x) _ _ _
    ends_nil, float_value] at hv
  obtain ⟨w, hw, hpair⟩ := Option.map_eq_some_iff.mp hv
  obtain ⟨y, hy, rfl⟩ := Option.map_eq_some_iff.mp hw
  cases hpair
  cases he
  exact hy

end LayeredSql.Json
