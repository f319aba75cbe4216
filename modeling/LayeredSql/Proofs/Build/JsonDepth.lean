import LayeredSql.Codec.Query
import LayeredSql.Proofs.Build.Shape
import LayeredSql.Proofs.Json.SameText

namespace LayeredSql

namespace Json

theorem membersDepth_append (ms ns : List (String × Json)) :
    membersDepth (ms ++ ns) = max (membersDepth ms) (membersDepth ns) := by
  induction ms with
  | nil => simp [membersDepth]
  | cons m ms ih => simp only [List.cons_append, membersDepth, ih, Nat.max_assoc]

theorem itemsDepth_map_le {α : Type} {encode : α → Json} {n : Nat}
    (h : ∀ a, (encode a).depth ≤ n) (as : List α) : itemsDepth (as.map encode) ≤ n := by
  induction as with
  | nil => exact Nat.zero_le n
  | cons a as ih => exact Nat.max_le.mpr ⟨h a, ih⟩

theorem memberIf_depth_le (present : Bool) (key : String) {v : Json} {n : Nat} (h : v.depth ≤ n) :
    membersDepth (memberIf present key v) ≤ n := by
  cases present with
  | false => exact Nat.zero_le n
  | true => exact Nat.max_le.mpr ⟨h, Nat.zero_le n⟩

theorem optionalMember_depth_le {α : Type} (key : String) {encode : α → Json} {n : Nat}
    (h : ∀ a, (encode a).depth ≤ n) (a : Option α) :
    membersDepth (optionalMember key encode a) ≤ n := by
  cases a with
  | none => exact Nat.zero_le n
  | some a => exact Nat.max_le.mpr ⟨h a, Nat.zero_le n⟩

theorem ofStrings_depth_le (names : List String) : (ofStrings names).depth ≤ 1 := by
  have hnames : itemsDepth (names.map Json.string) ≤ 0 :=
    itemsDepth_map_le (fun _ => Nat.le_refl 0) names
  exact Nat.succ_le_succ hnames

end Json
open Json

theorem SelectItem.depth_le (item : SelectItem) : item.toJson.depth ≤ 1 := by
  obtain ⟨sql, label⟩ := item
  cases label <;> simp [toJson, optionalMember, depth, membersDepth]

theorem KeyPair.depth_le (keys : List KeyPair) : (Json.array (keys.map (·.toJson))).depth ≤ 2 := by
  have hkeys : itemsDepth (keys.map (·.toJson)) ≤ 1 :=
    itemsDepth_map_le (fun _ => Nat.le_refl 1) keys
  exact Nat.succ_le_succ hkeys

theorem Layer.members_depth_le (layer : Layer) : membersDepth layer.members ≤ 2 := by
  have hitems : (Json.array (layer.items.map (·.toJson))).depth ≤ 2 :=
    Nat.succ_le_succ (itemsDepth_map_le SelectItem.depth_le layer.items)
  have hstrings : ∀ names, (ofStrings names).depth ≤ 2 := fun names =>
    (ofStrings_depth_le names).trans (by decide)
  simp only [members, membersDepth_append, Nat.max_le]
  refine ⟨⟨⟨⟨⟨?_, ?_⟩, ?_⟩, ?_⟩, ?_⟩, ?_⟩
  · exact memberIf_depth_le _ _ hitems
  · exact memberIf_depth_le _ _ (hstrings layer.conditions)
  · exact memberIf_depth_le _ _ (hstrings layer.groupBy)
  · exact memberIf_depth_le _ _ (hstrings layer.orderBy)
  · exact Nat.zero_le 2
  · exact optionalMember_depth_le _ (fun _ => Nat.zero_le 2) layer.limit

namespace Query
variable {q q' : Query} {n : Nat}

theorem select_depth_le (q : Query) (layer : Layer) :
    (select q layer).toJson.depth ≤ max q.toJson.depth 2 + 1 := by
  have hlayer := layer.members_depth_le
  simp only [toJson, List.cons_append, List.nil_append, depth, membersDepth]
  omega

theorem Under.json_depth (h : q.Under n q') : q'.toJson.depth ≤ max q.toJson.depth 2 + n := by
  induction h with
  | self => exact Nat.le_max_left _ _
  | @layer _ below layer _ ih =>
    have hlayer := select_depth_le below layer
    omega

theorem table_depth (t : TableRef) : (table t).toJson.depth = 1 := by
  obtain ⟨schema, name⟩ := t
  cases schema <;> rfl

end Query

namespace Pipeline
variable {t : Target} {p : Pipeline}

/-- Levels that a query may have beyond one for each operation. -/
def extraLevels (fs : FunctionTable) : Pipeline → Nat
  | .remote _ _ | .inMemory _ => 0
  | .select input _ | .rename input _ | .arrange input _ | .summarise input _ | .mutate input _
  | .groupBy input _ | .ungroup input | .distinct input _ _ | .take input _ => input.extraLevels fs
  | .filter input predicates =>
    input.extraLevels fs + if predicates.any (·.callsWindow fs) then 1 else 0
  | .join left right _ _ _ | .setOp left right _ =>
    max (left.extraLevels fs) (right.extraLevels fs) + 1
  | .semiJoin left right _ _ => max (left.extraLevels fs) (right.extraLevels fs)

theorem two_le_depth (p : Pipeline) : 2 ≤ p.toJson.depth := by
  induction p with
  | remote | inMemory =>
    simp only [toJson, ofStrings, depth, membersDepth]
    omega
  | distinct | join =>
    simp only [toJson, List.cons_append, depth, membersDepth]
    omega
  | _ =>
    simp only [toJson, depth, membersDepth]
    omega

/-- A query nests no deeper than its pipeline does, but for the extra levels. -/
theorem build_json_depth {q : Query} (h : p.build t = .ok q) :
    q.toJson.depth ≤ p.toJson.depth + p.extraLevels t.dialect.functions := by
  have hs := shaped_of_build h
  induction p generalizing q with
  | remote | inMemory =>
    rw [hs, Query.table_depth]
    exact (Nat.le_of_succ_le (two_le_depth _)).trans (Nat.le_add_right _ _)
  | groupBy input _ ih | ungroup input ih =>
    have hinput := ih hs (shaped_of_build hs)
    simp only [toJson, depth, membersDepth, extraLevels]
    omega
  | select input _ ih | rename input _ ih | arrange input _ ih | summarise input _ ih
  | mutate input _ ih | take input _ ih =>
    obtain ⟨q₀, hq, hu⟩ := hs
    have hinput := ih hq (shaped_of_build hq)
    have hlayers := hu.json_depth
    have htwo := two_le_depth input
    simp only [toJson, depth, membersDepth, extraLevels]
    omega
  | distinct input _ _ ih =>
    obtain ⟨q₀, hq, hu⟩ := hs
    have hinput := ih hq (shaped_of_build hq)
    have hlayers := hu.json_depth
    have htwo := two_le_depth input
    simp only [toJson, List.cons_append, depth, membersDepth, extraLevels]
    omega
  | filter input predicates ih =>
    obtain ⟨q₀, hq, hu⟩ := hs
    have hinput := ih hq (shaped_of_build hq)
    have hlayers := hu.json_depth
    have htwo := two_le_depth input
    simp only [toJson, depth, membersDepth, extraLevels]
    split at hlayers
    · rename_i hw
      rw [if_pos hw]
      omega
    · rename_i hw
      rw [if_neg hw]
      omega
  | join left right kind keys suffixes ihl ihr =>
    obtain ⟨l, r, l', r', on, hl, hr, rfl, ⟨n, hn, hul⟩, m, hm, hur⟩ := hs
    have hleft := ihl hl (shaped_of_build hl)
    have hright := ihr hr (shaped_of_build hr)
    have hsides := And.intro hul.json_depth hur.json_depth
    have htwo := And.intro (two_le_depth left) (two_le_depth right)
    have hon := KeyPair.depth_le on
    simp only [toJson, Query.toJson, List.cons_append, depth, membersDepth, extraLevels] at hon ⊢
    omega
  | semiJoin left right anti keys ihl ihr =>
    obtain ⟨l, r, hl, hr, rfl⟩ := hs
    have hleft := ihl hl (shaped_of_build hl)
    have hright := ihr hr (shaped_of_build hr)
    have htwo := And.intro (two_le_depth left) (two_le_depth right)
    have hon := KeyPair.depth_le keys
    simp only [toJson, Query.toJson, depth, membersDepth, extraLevels] at hon ⊢
    omega
  | setOp left right kind ihl ihr =>
    obtain ⟨l, r, l', r', hl, hr, rfl, ⟨n, hn, hul⟩, m, hm, hur⟩ := hs
    have hleft := ihl hl (shaped_of_build hl)
    have hright := ihr hr (shaped_of_build hr)
    have hsides := And.intro hul.json_depth hur.json_depth
    have htwo := And.intro (two_le_depth left) (two_le_depth right)
    simp only [toJson, Query.toJson, depth, membersDepth, extraLevels]
    omega

end Pipeline
end LayeredSql
