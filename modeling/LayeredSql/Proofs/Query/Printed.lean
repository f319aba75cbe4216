import LayeredSql.Command.Run
import LayeredSql.Proofs.Codec.Canonical
import LayeredSql.Proofs.Json.Indented
import LayeredSql.Proofs.Json.Levels
import LayeredSql.Proofs.Json.Pretty
import LayeredSql.Proofs.Query.Tree

namespace LayeredSql

namespace Json

theorem memberFloats_append (ms ns : List (String × Json)) :
    memberFloats (ms ++ ns) = memberFloats ms ++ memberFloats ns := by
  induction ms with
  | nil => rfl
  | cons m ms ih => simp only [List.cons_append, memberFloats, ih, List.append_assoc]

theorem itemFloats_map {α : Type} {encode : α → Json} (h : ∀ a, (encode a).floats = [])
    (as : List α) : itemFloats (as.map encode) = [] := by
  induction as with
  | nil => rfl
  | cons a as ih => simp only [List.map_cons, itemFloats, h a, ih, List.append_nil]

theorem memberIf_floats (present : Bool) (key : String) {v : Json} (h : v.floats = []) :
    memberFloats (memberIf present key v) = [] := by
  cases present with
  | false => rfl
  | true => exact List.append_eq_nil_iff.mpr ⟨h, rfl⟩

theorem ofStrings_floats (names : List String) : (ofStrings names).floats = [] :=
  itemFloats_map (fun _ => rfl) names

end Json
open Json

theorem SelectItem.floats (item : SelectItem) : item.toJson.floats = [] := by
  obtain ⟨sql, label⟩ := item
  cases label <;> rfl

theorem KeyPair.floats (keys : List KeyPair) : (Json.array (keys.map (·.toJson))).floats = [] :=
  itemFloats_map (fun _ => rfl) keys

theorem Layer.floats (layer : Layer) : memberFloats layer.members = [] := by
  have hitems : (Json.array (layer.items.map (·.toJson))).floats = [] :=
    itemFloats_map SelectItem.floats layer.items
  have hlimit : memberFloats (optionalMember "limit" (fun n => .int n.toNat) layer.limit) = [] := by
    cases layer.limit <;> rfl
  simp only [members, memberFloats_append, memberIf_floats _ _ hitems,
    memberIf_floats _ _ (ofStrings_floats _), hlimit, memberFloats, Json.floats, List.append_nil]

theorem Query.floats (q : Query) : q.toJson.floats = [] := by
  induction q with
  | table t =>
    obtain ⟨schema, name⟩ := t
    cases schema <;> rfl
  | select source layer ih =>
    simp only [toJson, List.cons_append, List.nil_append, Json.floats, memberFloats, ih,
      layer.floats]
  | join left right kind keys ihl ihr =>
    simp only [toJson, Json.floats, memberFloats, ihl, ihr, List.nil_append, List.append_nil]
    exact KeyPair.floats keys
  | semiJoin left right anti keys ihl ihr =>
    simp only [toJson, Json.floats, memberFloats, ihl, ihr, List.nil_append, List.append_nil]
    exact KeyPair.floats keys
  | setOp left right kind ihl ihr =>
    simp only [toJson, Json.floats, memberFloats, ihl, ihr, List.nil_append]

/-- The output is the query in JSON, laid out for a reader and closed by a line end. Within as many
levels as it takes it is read as the query. -/
structure Query.PrettyPrinted (q : Query) (output : String) : Prop where
  layout : ∃ text, Json.Pretty 0 q.toJson text ∧ output = text ++ "\n"
  regained : ∀ levels, q.toJson.depth ≤ levels →
    (Json.read? levels output).bind Query.ofJson? = some q

theorem Query.read_json (q : Query) (levels : Nat) :
    Json.read? levels (q.printed false) =
      if q.toJson.depth ≤ levels then some q.toJson else none := by
  have hfinite : ∀ x ∈ q.toJson.floats, x.isFinite = true := by
    rw [q.floats]
    exact List.forall_mem_nil _
  have hfits := nulled_fits q.toJson (codec.ints q) (Nat.le_refl _)
  rw [nulled_of_finite _ hfinite] at hfits
  have hread := read_indented hfits (by
    rw [q.floats]
    exact List.forall_mem_nil _)
  unfold Query.printed
  rw [if_neg Bool.false_ne_true, read_within hread]

/-- What is printed for a query is read as the query, unless it nests too deeply. -/
theorem Query.read_printed (q : Query) :
    Query.read? (q.printed false) =
      if q.toJson.depth ≤ nestingLimit then some q else none := by
  rw [Query.read?, q.read_json]
  split
  · exact codec.undoes q
  · rfl

end LayeredSql
