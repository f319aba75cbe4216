import LayeredSql.Proofs.Query.Exposed
import LayeredSql.Proofs.Relation.WellFormed

namespace LayeredSql
open Names Sql

/-- The name that a layer gives to a column of its source: that of the first item quoting it. -/
def Layer.nameOf? (d : Dialect) (layer : Layer) (column : String) : Option String :=
  (layer.items.find? (·.sql == d.quote column)).bind (·.name? d)

theorem quote_injective {d : Dialect} (hd : d.Supported) {a b : String}
    (h : d.quote a = d.quote b) : a = b := by
  have hq := quoted_name hd a
  rw [h, quoted_name hd b] at hq
  exact (Option.some.inj hq).symm

namespace Relation
variable {verb : Verb} {d : Dialect} {l r r' : Relation} {mapping renames : List ColumnRename}

/-- The grouping of `r` under a query over it: every variable in its place, under the name that its
column has there. -/
structure Carried (d : Dialect) (r : Relation) (name : String → String) (query : Query)
    (groups : List String) : Prop where
  groups : groups = r.groups.map name
  named : (query = r.query ∧ ∀ g ∈ r.groups, name g = g) ∨
    ∃ layer, query = .select r.query layer ∧ ∀ g ∈ r.groups, layer.nameOf? d g = some (name g)

/-- A layer of renamed columns names them as its mapping says. -/
theorem name_of_rename_items (hd : d.Supported) (mapping : List ColumnRename) (column : String) :
    Layer.nameOf? d { items := mapping.map (renameItem d) } column =
      targetOf? mapping column := by
  have hitem : ((fun item : SelectItem => item.sql == d.quote column) ∘ renameItem d) =
      fun m => m.source == column := by
    funext m
    rw [Bool.eq_iff_iff]
    simp only [Function.comp_apply, renameItem, beq_iff_eq]
    constructor
    · exact quote_injective hd
    · rintro rfl
      rfl
  unfold Layer.nameOf? targetOf?
  rw [List.find?_map, hitem, Option.bind_map]
  cases mapping.find? (·.source == column) with
  | none => rfl
  | some m => exact rename_item_name hd m

theorem Carried.of_project (hd : d.Supported) {name : String → String}
    (hn : ∀ g ∈ r.groups, targetOf? mapping g = some (name g)) :
    Carried d r name (r.project d mapping).query (r.project d mapping).groups where
  groups := by
    change r.groups.filterMap (targetOf? mapping) = r.groups.map name
    rw [← List.filterMap_eq_map]
    exact List.filterMap_congr hn
  named := by
    refine .inr ⟨_, rfl, fun g hg => ?_⟩
    rw [name_of_rename_items hd]
    exact hn g hg

theorem target_of_append (first second : List ColumnRename) (name : String) :
    targetOf? (first ++ second) name = (targetOf? first name).or (targetOf? second name) := by
  unfold targetOf?
  rw [List.find?_append, Option.map_or]

/-- Renames built from one function on names lead where it does. -/
theorem target_of_map (names : List String) (f : String → String) (name : String) :
    targetOf? (names.map fun v => ⟨v, f v⟩) name =
      if name ∈ names then some (f name) else none := by
  unfold targetOf?
  induction names with
  | nil => rfl
  | cons v names ih =>
    rw [List.map_cons, List.find?_cons]
    by_cases hv : v = name
    · simp [hv]
    · have hb : (v == name) = false := by simpa using hv
      simp only [hb]
      rw [ih]
      simp [Ne.symm hv]

/-- The name under which a selection passes a column on: what the first item that asks for it calls
it, and its own if none does. -/
def selectedName (columns : List Projection) (column : String) : String :=
  ((columns.find? (·.expr.asColumn? == some column)).map (·.label.getD column)).getD column

theorem requested_ok {item : Projection} {c : ColumnRename} :
    requested item = .ok c ↔
      item.expr.asColumn? = some c.source ∧ c.target = item.label.getD c.source := by
  unfold requested
  cases item.expr.asColumn? with
  | none => simp
  | some name =>
    cases c
    simp only [Except.ok.injEq, ColumnRename.mk.injEq, Option.some.injEq]
    constructor
    · rintro ⟨rfl, rfl⟩
      exact ⟨rfl, rfl⟩
    · rintro ⟨rfl, rfl⟩
      exact ⟨rfl, rfl⟩

theorem target_of_requested {columns : List Projection} {wanted : List ColumnRename}
    (h : columns.mapM requested = .ok wanted) (name : String) :
    targetOf? wanted name =
      (columns.find? (·.expr.asColumn? == some name)).map (·.label.getD name) := by
  have hall := mapM_ok.mp h
  clear h
  unfold targetOf?
  induction hall with
  | nil => rfl
  | @cons item c columns wanted hi _ ih =>
    obtain ⟨hs, ht⟩ := requested_ok.mp hi
    rw [List.find?_cons, List.find?_cons, hs]
    by_cases hc : c.source = name
    · simp [hc, ht]
    · have hb : (c.source == name) = false := by simpa using hc
      have hb' : (some c.source == some name) = false := by simpa using hc
      simp only [hb, hb']
      exact ih

/-- A grouping variable that nobody asks for is passed on as it is. -/
theorem target_of_with_groups {columns : List Projection} {wanted : List ColumnRename}
    (h : columns.mapM requested = .ok wanted) {groups : List String} :
    ∀ g ∈ groups, targetOf? (withGroups wanted groups) g = some (selectedName columns g) := by
  intro g hg
  have hkept : targetOf? ((groups.filter fun g => !wanted.any (·.source == g)).map .keep) g =
      if (targetOf? wanted g).isSome then none else some g := by
    refine (target_of_map (groups.filter fun g => !wanted.any (·.source == g)) id g).trans ?_
    rw [← any_source]
    cases hw : wanted.any (·.source == g) <;> simp [hg, hw]
  rw [withGroups, target_of_append, hkept, target_of_requested h, selectedName]
  cases columns.find? (·.expr.asColumn? == some g) <;> rfl

/-- In place, every column has its new name. -/
theorem target_of_in_place {vars : List String} {name : String} (h : name ∈ vars) :
    targetOf? (inPlace vars renames) name = some (renamed renames name) :=
  (target_of_map vars (renamed renames) name).trans (if_pos h)

variable (hd : d.Supported)
include hd

theorem select_carried {columns : List Projection} (h : r.select d columns = .ok r') :
    r.Carried d (selectedName columns) r'.query r'.groups := by
  obtain ⟨wanted, hw, _, _, rfl⟩ := select_ok.mp h
  exact .of_project hd (target_of_with_groups hw)

theorem rename_carried (hr : r.WellFormed) (h : r.rename verb d renames = .ok r') :
    r.Carried d (renamed renames) r'.query r'.groups := by
  obtain ⟨_, _, _, rfl⟩ := rename_ok.mp h
  exact .of_project hd fun g hg => target_of_in_place (hr.groups_found g hg)

/-- A side without renames keeps its names. -/
theorem rename_side_carried (hr : r.WellFormed) (h : r.renameSide verb d renames = .ok r') :
    r.Carried d (renamed renames) r'.query r'.groups := by
  rcases rename_side_ok.mp h with ⟨rfl, rfl⟩ | ⟨_, h⟩
  · refine ⟨?_, .inl ⟨rfl, fun g _ => renamed_nil g⟩⟩
    exact (List.map_id r'.groups).symm
  · exact rename_carried hd hr h

/-- A join is grouped as its left side, by the names that its suffixes give. -/
theorem join_carried (hl : l.WellFormed) {kind : JoinKind} {keys : List KeyPair}
    {suffixes : Suffixes} (h : l.join r d kind keys suffixes = .ok r') :
    ∃ left right on, r'.query = .join left right kind on ∧
      l.Carried d (suffixedName l.vars r.vars keys suffixes.left) left r'.groups := by
  obtain ⟨_, _, _, left, right, hleft, _, rfl⟩ := join_ok.mp h
  refine ⟨left.query, right.query, _, rfl, ?_⟩
  have hc := rename_side_carried hd hl hleft
  rwa [suffixPlan, renamed_collisions] at hc

end Relation

namespace Pipeline
variable {t : Target}

/-- The columns and grouping variables of a pipeline that builds are well formed, at every
operation, and the operations that rename columns take the grouping along: a selection by the names
it gives, a rename by its renames, and a join by the suffixes of its left side. -/
theorem grouping_carried (hd : t.dialect.Supported) :
    (∀ p r, relation t p = .ok r →
      ∀ part ∈ p.parts, ∃ r', part.relation t = .ok r' ∧ r'.WellFormed) ∧
    (∀ input columns r', (select input columns).relation t = .ok r' →
      ∃ r, input.relation t = .ok r ∧
        r.Carried t.dialect (Relation.selectedName columns) r'.query r'.groups) ∧
    (∀ input renames r', (rename input renames).relation t = .ok r' →
      ∃ r, input.relation t = .ok r ∧
        r.Carried t.dialect (renamed renames) r'.query r'.groups) ∧
    ∀ left right kind keys suffixes r', (join left right kind keys suffixes).relation t = .ok r' →
      ∃ l r leftQuery rightQuery on, left.relation t = .ok l ∧ right.relation t = .ok r ∧
        r'.query = .join leftQuery rightQuery kind on ∧
        l.Carried t.dialect
          (suffixedName l.vars r.vars keys (suffixes.getD t.suffixes).left) leftQuery
          r'.groups := by
  refine ⟨?_, ?_, ?_, ?_⟩
  · intro p r h part hm
    obtain ⟨r', hp⟩ := (builds_of_ok h).parts_build part hm
    exact ⟨r', relation_ok.mpr hp, hp.well_formed⟩
  · intro input columns r' h
    cases builds_of_ok h with
    | select hr hs => exact ⟨_, relation_ok.mpr hr, Relation.select_carried hd hs⟩
  · intro input renames r' h
    cases builds_of_ok h with
    | rename hr hs => exact ⟨_, relation_ok.mpr hr, Relation.rename_carried hd hr.well_formed hs⟩
  · intro left right kind keys suffixes r' h
    cases builds_of_ok h with
    | join hl hr hs =>
      obtain ⟨leftQuery, rightQuery, on, hq, hc⟩ := Relation.join_carried hd hl.well_formed hs
      exact ⟨_, _, _, _, _, relation_ok.mpr hl, relation_ok.mpr hr, hq, hc⟩

def groupedOrders : Pipeline :=
  .select (.groupBy (.remote ⟨none, "orders"⟩ ["day", "customer", "sum"]) ["day", "customer"])
    [⟨.column "sum", none⟩, ⟨.column "customer", some "id"⟩, ⟨.column "customer", some "buyer"⟩]

theorem orders_grouping_carried :
    ∃ orders joined, groupedOrders.relation ⟨.ansi, .standard⟩ = .ok orders ∧
      (join groupedOrders (.remote ⟨none, "calendar"⟩ ["id", "day"]) .left [] none).relation
        ⟨.ansi, .standard⟩ = .ok joined ∧
      orders.groups = ["day", "id"] ∧ joined.groups = ["day_x", "id_x"] ∧ joined.WellFormed := by
  obtain ⟨hall, hselect, _, hjoin⟩ := grouping_carried (t := ⟨.ansi, .standard⟩) .ansi
  obtain ⟨orders, ho⟩ : ∃ orders, groupedOrders.relation ⟨.ansi, .standard⟩ = .ok orders :=
    ⟨_, rfl⟩
  obtain ⟨joined, hj⟩ : ∃ joined,
      (join groupedOrders (.remote ⟨none, "calendar"⟩ ["id", "day"]) .left [] none).relation
        ⟨.ansi, .standard⟩ = .ok joined := ⟨_, rfl⟩
  refine ⟨orders, joined, ho, hj, ?_, ?_, ?_⟩
  · obtain ⟨_, hi, hc⟩ := hselect _ _ _ ho
    obtain rfl := Except.ok.inj hi
    exact hc.groups.trans (by decide)
  · obtain ⟨_, _, _, _, _, hl, hr, _, hc⟩ := hjoin _ _ _ _ _ _ hj
    obtain rfl := Except.ok.inj hl
    obtain rfl := Except.ok.inj hr
    exact hc.groups.trans (by decide)
  · obtain ⟨_, hr, hw⟩ := hall _ _ hj _ (self_mem_parts _)
    obtain rfl := Except.ok.inj (hj.symm.trans hr)
    exact hw

end Pipeline
end LayeredSql
