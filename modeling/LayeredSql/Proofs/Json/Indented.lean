import LayeredSql.Proofs.Json.Fits
import LayeredSql.Proofs.Json.SameText

namespace LayeredSql.Json

variable {toFloat : FloatReader}

theorem skipBlank_indent (level : Nat) (cs : List Char) :
    skipBlank ((indent level).toList ++ cs) = skipBlank cs := by
  have hblanks : ∀ n, skipBlank (List.replicate n ' ' ++ cs) = skipBlank cs := by
    intro n
    induction n with
    | zero => rfl
    | succ n ih => exact ih
  simp only [indent, String.toList_append, String.toList_ofList]
  exact hblanks (2 * level)

theorem ends_indent (level : Nat) (cs : List Char) : Ends ((indent level).toList ++ cs) := by
  simp only [indent, String.toList_append, List.append_assoc]
  exact ends_line _

theorem readValue_indent (fuel levels level : Nat) (cs : List Char) :
    readValue toFloat fuel levels ((indent level).toList ++ cs) =
      readValue toFloat fuel levels cs := by
  cases fuel with
  | zero => rfl
  | succ fuel =>
    unfold readValue
    rw [skipBlank_indent]

theorem readItems_indent (fuel levels level : Nat) (cs : List Char) :
    readItems toFloat fuel levels ((indent level).toList ++ cs) =
      readItems toFloat fuel levels cs := by
  cases fuel with
  | zero => rfl
  | succ fuel =>
    unfold readItems
    rw [readValue_indent]

theorem readMembers_indent (fuel levels level : Nat) (cs : List Char) :
    readMembers toFloat fuel levels ((indent level).toList ++ cs) =
      readMembers toFloat fuel levels cs := by
  cases fuel with
  | zero => rfl
  | succ fuel =>
    unfold readMembers
    rw [skipBlank_indent]

theorem readValue_blank (fuel levels : Nat) (cs : List Char) :
    readValue toFloat fuel levels (' ' :: cs) = readValue toFloat fuel levels cs := by
  cases fuel <;> rfl

/-- What follows a bracket may stand on a line of its own. -/
theorem readValue_opened {c : Char} (hc : c = '[' ∨ c = '\x7b') (fuel levels level : Nat)
    (cs : List Char) :
    readValue toFloat fuel levels (c :: ((indent level).toList ++ cs)) =
      readValue toFloat fuel levels (c :: cs) := by
  cases fuel with
  | zero => rfl
  | succ fuel =>
    unfold readValue
    rcases hc with rfl | rfl
    · rw [skipBlank_opens (by decide), skipBlank_opens (by decide)]
      simp only [skipBlank_indent]
    · rw [skipBlank_opens (by decide), skipBlank_opens (by decide)]
      simp only [skipBlank_indent]

theorem items_chars (level : Nat) (v : Json) (vs : List Json) (rest : List Char) :
    ((Json.array (v :: vs)).indentedAt level).toList ++ rest =
      '[' :: ((indent (level + 1)).toList ++ ((v.indentedAt (level + 1)).toList ++
        ((indentedItems level vs).toList ++ ((indent level).toList ++ ']' :: rest)))) := by
  simp [indentedAt]

theorem next_item_chars (level : Nat) (v : Json) (vs : List Json) (rest : List Char) :
    (indentedItems level (v :: vs)).toList ++ rest =
      ',' :: ((indent (level + 1)).toList ++ ((v.indentedAt (level + 1)).toList ++
        ((indentedItems level vs).toList ++ rest))) := by
  simp [indentedItems]

def memberLine (level : Nat) (k : String) (v : Json) : List Char :=
  (stringText k ++ ": " ++ v.indentedAt (level + 1)).toList

theorem memberLine_chars (level : Nat) (k : String) (v : Json) (rest : List Char) :
    memberLine level k v ++ rest = '\x22' :: (k.toList.flatMap escaped ++ '\x22' :: ':' :: ' ' ::
      ((v.indentedAt (level + 1)).toList ++ rest)) := by
  simp [memberLine, stringText]

theorem memberLine_length (level : Nat) (k : String) (v : Json) :
    (v.indentedAt (level + 1)).toList.length < (memberLine level k v).length := by
  simp [memberLine]
  omega

theorem members_chars (level : Nat) (k : String) (v : Json) (ms : List (String × Json))
    (rest : List Char) :
    ((Json.object ((k, v) :: ms)).indentedAt level).toList ++ rest =
      '\x7b' :: ((indent (level + 1)).toList ++ (memberLine level k v ++
        ((indentedMembers level ms).toList ++ ((indent level).toList ++ '\x7d' :: rest)))) := by
  simp [indentedAt, memberLine, stringText]

theorem next_member_chars (level : Nat) (k : String) (v : Json) (ms : List (String × Json))
    (rest : List Char) :
    (indentedMembers level ((k, v) :: ms)).toList ++ rest =
      ',' :: ((indent (level + 1)).toList ++ (memberLine level k v ++
        ((indentedMembers level ms).toList ++ rest))) := by
  simp [indentedMembers, memberLine, stringText]

def Regained (toFloat : FloatReader) (v : Json) : Prop :=
  ∀ (level fuel levels : Nat) (rest : List Char), v.Fits levels → Ends rest →
    2 * (v.indentedAt level).toList.length ≤ fuel →
    readValue toFloat fuel levels ((v.indentedAt level).toList ++ rest) = some (v, rest)

/-- A value without anything inside is written alike in both forms. -/
theorem Recovered.regained {v : Json} (h : Recovered toFloat v)
    (hv : ∀ level, v.indentedAt level = v.compact) : Regained toFloat v := by
  intro level fuel levels rest hfit hr hfuel
  rw [hv] at hfuel ⊢
  exact h fuel levels rest hfit hr hfuel

theorem indentedAt_scalar {v : Json} (h : v.IsScalar) (level : Nat) :
    v.indentedAt level = v.compact := by
  cases v with
  | array _ | object _ => exact h.elim
  | _ => simp only [indentedAt, compact]

theorem indented_opens {v : Json} {levels : Nat} (h : v.Fits levels) (level : Nat) :
    ∃ c cs, (v.indentedAt level).toList = c :: cs ∧ opens c = true := by
  match v with
  | .array (w :: ws) =>
    have hchars := items_chars level w ws []
    rw [List.append_nil] at hchars
    exact ⟨'[', _, hchars, by decide⟩
  | .object ((k, w) :: ms) =>
    have hchars := members_chars level k w ms []
    rw [List.append_nil] at hchars
    exact ⟨'\x7b', _, hchars, by decide⟩
  | .array [] => exact ⟨'[', [']'], by simp [indentedAt, scalarText], by decide⟩
  | .object [] => exact ⟨'\x7b', ['\x7d'], by simp [indentedAt, scalarText], by decide⟩
  | .null | .bool _ | .int _ | .float _ | .string _ =>
    have hc := compact_opens h
    simp only [compact] at hc
    simp only [indentedAt]
    exact hc

/-- Items are read up to the closing bracket, each from a line of its own. -/
theorem readItems_indented (level : Nat) {v : Json} {vs : List Json}
    (h : ∀ w ∈ v :: vs, Regained toFloat w) (fuel : Nat) {levels : Nat}
    (hfit : ItemsFit levels (v :: vs)) (rest : List Char)
    (hfuel : 2 * ((v.indentedAt (level + 1)).toList.length +
      (indentedItems level vs).toList.length) + 1 ≤ fuel) :
    readItems toFloat fuel levels ((v.indentedAt (level + 1)).toList ++
      ((indentedItems level vs).toList ++ ((indent level).toList ++ ']' :: rest))) =
        some (v :: vs, rest) := by
  induction vs generalizing v fuel with
  | nil =>
    obtain ⟨fuel, rfl⟩ : ∃ n, fuel = n + 1 := Nat.exists_eq_succ_of_ne_zero (by omega)
    have hread := h v List.mem_cons_self (level + 1) fuel levels _ hfit.1
      (ends_indent level (']' :: rest)) (by omega)
    change readItems toFloat (fuel + 1) levels
      ((v.indentedAt (level + 1)).toList ++ ((indent level).toList ++ ']' :: rest)) = _
    unfold readItems
    simp only [hread, skipBlank_indent, skipBlank_bracket]
  | cons w ws ih =>
    obtain ⟨fuel, rfl⟩ : ∃ n, fuel = n + 1 := Nat.exists_eq_succ_of_ne_zero (by omega)
    obtain ⟨hv, hws⟩ := List.forall_mem_cons.mp h
    have hlen := congrArg List.length (next_item_chars level w ws [])
    simp only [List.append_nil, List.length_cons, List.length_append] at hlen
    have hmore := ih hws fuel hfit.2 (by omega)
    rw [next_item_chars]
    have hread := hv (level + 1) fuel levels _ hfit.1 (ends_comma ((indent (level + 1)).toList ++
      ((w.indentedAt (level + 1)).toList ++ ((indentedItems level ws).toList ++
        ((indent level).toList ++ ']' :: rest))))) (by omega)
    unfold readItems
    simp only [hread, skipBlank_opens (show opens ',' = true by decide), readItems_indent, hmore,
      Option.map_some]

theorem skipBlank_brace (cs : List Char) : skipBlank ('\x7d' :: cs) = '\x7d' :: cs := rfl

/-- Members are read up to the closing brace, each from a line of its own. -/
theorem readMembers_indented (level : Nat) {k : String} {v : Json} {ms : List (String × Json)}
    (h : ∀ m ∈ (k, v) :: ms, Regained toFloat m.2) (fuel : Nat) {levels : Nat}
    (hfit : MembersFit levels ((k, v) :: ms)) (rest : List Char)
    (hfuel : 2 * ((memberLine level k v).length +
      (indentedMembers level ms).toList.length) + 1 ≤ fuel) :
    readMembers toFloat fuel levels (memberLine level k v ++
      ((indentedMembers level ms).toList ++ ((indent level).toList ++ '\x7d' :: rest))) =
        some ((k, v) :: ms, rest) := by
  induction ms generalizing k v fuel with
  | nil =>
    obtain ⟨fuel, rfl⟩ : ∃ n, fuel = n + 1 := Nat.exists_eq_succ_of_ne_zero (by omega)
    have hv : Regained toFloat v := h _ List.mem_cons_self
    have hlen := memberLine_length level k v
    have hread := hv (level + 1) fuel levels _ hfit.1 (ends_indent level ('\x7d' :: rest)) (by omega)
    change readMembers toFloat (fuel + 1) levels
      (memberLine level k v ++ ((indent level).toList ++ '\x7d' :: rest)) = _
    rw [memberLine_chars]
    unfold readMembers
    simp only [skipBlank_opens (show opens '\x22' = true by decide), readString_stringText,
      skipBlank_opens (show opens ':' = true by decide), readValue_blank, hread, skipBlank_indent,
      skipBlank_brace]
  | cons m ms ih =>
    obtain ⟨fuel, rfl⟩ : ∃ n, fuel = n + 1 := Nat.exists_eq_succ_of_ne_zero (by omega)
    obtain ⟨l, w⟩ := m
    have hv : Regained toFloat v := h _ List.mem_cons_self
    have hms := (List.forall_mem_cons.mp h).2
    have hlen := memberLine_length level k v
    have hnext := congrArg List.length (next_member_chars level l w ms [])
    simp only [List.append_nil, List.length_cons, List.length_append] at hnext
    have hmore := ih hms fuel hfit.2 (by omega)
    rw [next_member_chars]
    have hread := hv (level + 1) fuel levels _ hfit.1 (ends_comma ((indent (level + 1)).toList ++
      (memberLine level l w ++ ((indentedMembers level ms).toList ++
        ((indent level).toList ++ '\x7d' :: rest))))) (by omega)
    rw [memberLine_chars level k v]
    unfold readMembers
    simp only [skipBlank_opens (show opens '\x22' = true by decide), readString_stringText,
      skipBlank_opens (show opens ':' = true by decide), readValue_blank, hread,
      skipBlank_opens (show opens ',' = true by decide), readMembers_indent, hmore,
      Option.map_some]

theorem Regained.array {items : List Json} (h : ∀ v ∈ items, Regained toFloat v) :
    Regained toFloat (.array items) := by
  cases items with
  | nil => exact Recovered.regained (.array (by simp)) fun level => rfl
  | cons v vs =>
    intro level fuel levels rest hfit hr hfuel
    have hlen := congrArg List.length (items_chars level v vs [])
    simp only [List.append_nil, List.length_cons, List.length_append] at hlen
    obtain ⟨fuel, rfl⟩ : ∃ n, fuel = n + 1 := Nat.exists_eq_succ_of_ne_zero (by omega)
    have hread := readItems_indented level h fuel hfit.2 rest (by omega)
    obtain ⟨c, cs, hc, ho⟩ := indented_opens hfit.2.1 (level + 1)
    rw [hc, List.cons_append] at hread
    rw [items_chars, readValue_opened (.inl rfl), hc, List.cons_append, readValue_array ho hfit.1,
      hread]
    rfl

theorem Regained.object {members : List (String × Json)}
    (h : ∀ m ∈ members, Regained toFloat m.2) : Regained toFloat (.object members) := by
  match members with
  | [] => exact Recovered.regained (.object (by simp)) fun level => rfl
  | (k, v) :: ms =>
    intro level fuel levels rest hfit hr hfuel
    have hlen := congrArg List.length (members_chars level k v ms [])
    simp only [List.append_nil, List.length_cons, List.length_append] at hlen
    obtain ⟨fuel, rfl⟩ : ∃ n, fuel = n + 1 := Nat.exists_eq_succ_of_ne_zero (by omega)
    have hread := readMembers_indented level h fuel hfit.2 rest (by omega)
    rw [memberLine_chars] at hread
    rw [members_chars, readValue_opened (.inr rfl), memberLine_chars, readValue_object hfit.1,
      hread]
    rfl

mutual

theorem regained (v : Json) (h : ∀ x ∈ v.floats, ReadsFloat toFloat x) : Regained toFloat v := by
  match v with
  | .array items => exact .array (items_regained items h)
  | .object members => exact .object (members_regained members h)
  | .null | .bool _ | .int _ | .float _ | .string _ =>
    exact (recovered _ h).regained (indentedAt_scalar trivial)

theorem items_regained (items : List Json) (h : ∀ x ∈ itemFloats items, ReadsFloat toFloat x) :
    ∀ v ∈ items, Regained toFloat v := by
  match items with
  | [] => simp
  | v :: vs =>
    exact List.forall_mem_cons.mpr ⟨regained v fun x hx => h x (List.mem_append_left _ hx),
      items_regained vs fun x hx => h x (List.mem_append_right _ hx)⟩

theorem members_regained (members : List (String × Json))
    (h : ∀ x ∈ memberFloats members, ReadsFloat toFloat x) :
    ∀ m ∈ members, Regained toFloat m.2 := by
  match members with
  | [] => simp
  | (k, v) :: ms =>
    exact List.forall_mem_cons.mpr ⟨regained v fun x hx => h x (List.mem_append_left _ hx),
      members_regained ms fun x hx => h x (List.mem_append_right _ hx)⟩

end

/-- A value is read back from its indented form, with the line end after it. -/
theorem read_indented {levels : Nat} {v : Json} (hfit : v.Fits levels)
    (hf : ∀ x ∈ v.floats, ReadsFloat Decimal.toFloat x) :
    read? levels (v.indented ++ "\n") = some v := by
  have htext : (v.indented ++ "\n").toList = (v.indentedAt 0).toList ++ ['\n'] := by
    simp [indented]
  have hfuel : 2 * (v.indentedAt 0).toList.length ≤ 2 * (v.indented ++ "\n").toList.length + 2 := by
    rw [htext, List.length_append]
    omega
  have hread := regained v hf 0 _ levels ['\n'] hfit (ends_line []) hfuel
  rw [← htext] at hread
  unfold read?
  simp only [bind, Option.bind, hread]
  rfl

end LayeredSql.Json
