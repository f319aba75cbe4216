import LayeredSql.Json.Printer

namespace LayeredSql.Json

def margin (level : Nat) : String :=
  String.ofList (List.replicate (2 * level) ' ')

/-- What stands between two brackets: parts on lines of their own, a level deeper than the brackets,
with a comma after each but the last. -/
def block (level : Nat) (parts : List String) : String :=
  "\n" ++ ",\n".intercalate (parts.map (margin (level + 1) ++ ·)) ++ "\n" ++ margin level

def HasParts : Json → Prop
  | .array items => items ≠ []
  | .object members => members ≠ []
  | _ => False

/-- The text is the value laid out for a reader, in a line so many levels deep. What has no parts
stays as it is; a member of an object follows its name and a colon. -/
inductive Pretty : Nat → Json → String → Prop where
  | plain {level : Nat} {v : Json} (h : ¬ v.HasParts) : Pretty level v v.compact
  | array {level : Nat} {items : List Json} {texts : List String} (hparts : items ≠ [])
      (hlen : texts.length = items.length)
      (h : ∀ (i : Nat) (v : Json) (text : String), items[i]? = some v → texts[i]? = some text →
        Pretty (level + 1) v text) :
      Pretty level (.array items) ("[" ++ block level texts ++ "]")
  | object {level : Nat} {members : List (String × Json)} {texts : List String}
      (hparts : members ≠ []) (hlen : texts.length = members.length)
      (h : ∀ (i : Nat) (key : String) (v : Json) (text : String), members[i]? = some (key, v) →
        texts[i]? = some text → Pretty (level + 1) v text) :
      Pretty level (.object members)
        ("\x7b" ++ block level
          (List.zipWith (fun m text => stringText m.1 ++ ": " ++ text) members texts) ++ "\x7d")

/-- A list of parts grows by a comma, a line end and a part at a time. -/
theorem intercalate_parts (part : String) (parts : List String) :
    ",\n".intercalate (part :: parts) = part ++ String.join (parts.map (",\n" ++ ·)) := by
  induction parts generalizing part with
  | nil => simp
  | cons next parts ih =>
    rw [String.intercalate_cons_cons, ih, List.map_cons, String.join_cons]
    simp only [String.append_assoc]

theorem block_cons (level : Nat) (part : String) (parts : List String) :
    block level (part :: parts) = indent (level + 1) ++ part ++
      String.join (parts.map fun part => "," ++ indent (level + 1) ++ part) ++ indent level := by
  have hparts : (parts.map (margin (level + 1) ++ ·)).map (",\n" ++ ·) =
      parts.map fun part => "," ++ indent (level + 1) ++ part := by
    rw [List.map_map]
    refine List.map_congr_left fun part _ => ?_
    simp [indent, margin, ← String.toList_inj]
  rw [block, List.map_cons, intercalate_parts, hparts]
  simp only [indent, margin, String.append_assoc]

theorem indented_items_join (level : Nat) (items : List Json) :
    indentedItems level items =
      String.join ((items.map (·.indentedAt (level + 1))).map fun part =>
        "," ++ indent (level + 1) ++ part) := by
  induction items with
  | nil => rfl
  | cons v items ih =>
    rw [indentedItems, ih, List.map_cons, List.map_cons, String.join_cons]

def memberText (level : Nat) (m : String × Json) : String :=
  stringText m.1 ++ ": " ++ m.2.indentedAt (level + 1)

theorem indented_members_join (level : Nat) (members : List (String × Json)) :
    indentedMembers level members =
      String.join ((members.map (memberText level)).map fun part =>
        "," ++ indent (level + 1) ++ part) := by
  induction members with
  | nil => rfl
  | cons m members ih =>
    obtain ⟨key, v⟩ := m
    rw [indentedMembers, ih, List.map_cons, List.map_cons, String.join_cons, memberText]
    simp only [String.append_assoc]

theorem indented_array (level : Nat) {items : List Json} (h : items ≠ []) :
    (Json.array items).indentedAt level =
      "[" ++ block level (items.map (·.indentedAt (level + 1))) ++ "]" := by
  cases items with
  | nil => exact absurd rfl h
  | cons v items =>
    rw [indentedAt, indented_items_join, List.map_cons, block_cons]
    simp only [String.append_assoc]

theorem indented_object (level : Nat) {members : List (String × Json)} (h : members ≠ []) :
    (Json.object members).indentedAt level =
      "\x7b" ++ block level (members.map (memberText level)) ++ "\x7d" := by
  cases members with
  | nil => exact absurd rfl h
  | cons m members =>
    obtain ⟨key, v⟩ := m
    rw [indentedAt, indented_members_join, List.map_cons, block_cons, memberText]
    simp only [String.append_assoc]

theorem member_texts (level : Nat) (members : List (String × Json)) :
    List.zipWith (fun m text => stringText m.1 ++ ": " ++ text) members
      (members.map fun m => m.2.indentedAt (level + 1)) = members.map (memberText level) := by
  rw [List.zipWith_map_right, List.zipWith_self]
  rfl

theorem indented_plain (level : Nat) {v : Json} (h : ¬ v.HasParts) :
    v.indentedAt level = v.compact := by
  match v with
  | .array [] | .object [] => rfl
  | .array (item :: items) => exact absurd (List.cons_ne_nil item items) h
  | .object (m :: members) => exact absurd (List.cons_ne_nil m members) h
  | .null | .bool _ | .int _ | .float _ | .string _ => simp only [indentedAt, compact]

mutual

theorem indented_pretty (v : Json) (level : Nat) : Pretty level v (v.indentedAt level) := by
  match v with
  | .array (item :: items) =>
    rw [indented_array level (List.cons_ne_nil item items)]
    refine .array (List.cons_ne_nil _ _) (List.length_map _) fun i v text hv ht => ?_
    rw [List.getElem?_map, hv] at ht
    rw [← Option.some.inj ht]
    exact items_pretty (item :: items) (level + 1) v (List.mem_of_getElem? hv)
  | .object (m :: members) =>
    rw [indented_object level (List.cons_ne_nil m members), ← member_texts]
    refine .object (List.cons_ne_nil _ _) (List.length_map _) fun i key v text hv ht => ?_
    rw [List.getElem?_map, hv] at ht
    rw [← Option.some.inj ht]
    exact members_pretty (m :: members) (level + 1) (key, v) (List.mem_of_getElem? hv)
  | .array [] | .object [] | .null | .bool _ | .int _ | .float _ | .string _ =>
    rw [indented_plain level (by simp [HasParts])]
    exact .plain (by simp [HasParts])

theorem items_pretty (items : List Json) (level : Nat) :
    ∀ v ∈ items, Pretty level v (v.indentedAt level) := by
  match items with
  | [] => exact fun _ h => absurd h List.not_mem_nil
  | v :: items =>
    exact List.forall_mem_cons.mpr ⟨indented_pretty v level, items_pretty items level⟩

theorem members_pretty (members : List (String × Json)) (level : Nat) :
    ∀ m ∈ members, Pretty level m.2 (m.2.indentedAt level) := by
  match members with
  | [] => exact fun _ h => absurd h List.not_mem_nil
  | (_, v) :: members =>
    exact List.forall_mem_cons.mpr ⟨indented_pretty v level, members_pretty members level⟩

end

end LayeredSql.Json
