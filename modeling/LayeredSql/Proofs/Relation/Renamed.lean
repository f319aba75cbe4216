import LayeredSql.Proofs.Build.Grouping
import LayeredSql.Proofs.Build.OrderText
import LayeredSql.Proofs.Names.Applicable
import LayeredSql.Proofs.Relation.ProjectedOrder

namespace LayeredSql

def SortKey.renamed (renames : List ColumnRename) (key : SortKey) : SortKey :=
  ⟨key.expr.substitute fun c => some (.column (Names.renamed renames c)), key.descending⟩

namespace Relation
open Names Sql
variable {verb : Verb} {d : Dialect} {r r' : Relation} {renames : List ColumnRename} {keys : List SortKey}

theorem rename_ok_iff :
    r.rename verb d renames = .ok r' ↔
      Applicable r.vars renames ∧ r' = r.project d (inPlace r.vars renames) := by
  rw [rename_ok]
  constructor
  · rintro ⟨hs, hd, hn, he⟩
    exact ⟨⟨hs, hd, hn⟩, he⟩
  · rintro ⟨⟨hs, hd, hn⟩, he⟩
    exact ⟨hs, hd, hn, he⟩

theorem renamed_vars (r : Relation) (d : Dialect) (renames : List ColumnRename) :
    (r.project d (inPlace r.vars renames)).vars = r.vars.map (renamed renames) :=
  in_place_targets r.vars renames

/-- No grouping variable is lost. -/
theorem renamed_groups (hg : r.groups ⊆ r.vars) :
    (r.project d (inPlace r.vars renames)).groups = r.groups.map (renamed renames) := by
  change r.groups.filterMap (targetOf? (inPlace r.vars renames)) = _
  rw [← List.filterMap_eq_map]
  exact List.filterMap_congr fun g hm => target_of_in_place (hg hm)

theorem retarget_in_place {vars : List String} {key : SortKey} (h : key.expr.columns ⊆ vars) :
    retarget (inPlace vars renames) key = key.renamed renames := by
  unfold retarget SortKey.renamed
  congr 1
  apply Expr.substitute_congr
  intro c hc
  rw [target_of_in_place (h hc), Option.map_some]

/-- No key is lost either, if its columns are there. -/
theorem renamed_order (hk : ∀ key ∈ r.order, key.expr.columns ⊆ r.vars) :
    (r.project d (inPlace r.vars renames)).order = r.order.map (SortKey.renamed renames) := by
  rw [project_order, List.filter_eq_self.mpr fun key hm => survives_in_place renames (hk key hm)]
  exact List.map_congr_left fun key hm => retarget_in_place (hk key hm)

theorem rename_back (hw : r.WellFormed) (h : r.rename verb d renames = .ok r') :
    ∃ back, r'.rename verb d (reversed renames) = .ok back ∧ back.vars = r.vars ∧
      back.groups = r.groups := by
  have hw' := hw.rename h
  obtain ⟨ha, rfl⟩ := rename_ok_iff.mp h
  have hback := ha.reverse
  rw [← renamed_vars r d] at hback
  refine ⟨_, rename_ok_iff.mpr ⟨hback, rfl⟩, ?_, ?_⟩
  · rw [renamed_vars, renamed_vars]
    exact ha.columns_back (List.Subset.refl r.vars)
  · rw [renamed_groups hw'.groups_found, renamed_groups hw.groups_found]
    exact ha.columns_back hw.groups_found

/-- What is arranged and then renamed has the columns, the grouping and the ordering of what is
renamed and then arranged by the keys under their new names. -/
theorem arrange_renamed (hk : ∀ key ∈ keys, key.expr.columns ⊆ r.vars) {arranged : Relation}
    (ha : r.arrange d keys = .ok arranged) (hr : arranged.rename verb d renames = .ok r') :
    ∃ first second, r.rename verb d renames = .ok first ∧
      first.arrange d (keys.map (SortKey.renamed renames)) = .ok second ∧
      second.vars = r'.vars ∧ second.groups = r'.groups ∧ second.order = r'.order := by
  have hwritten := (OrderWritten.arrange ha).project (inPlace arranged.vars renames)
  obtain ⟨texts, -, rfl⟩ := arrange_ok.mp ha
  obtain ⟨happ, rfl⟩ := rename_ok_iff.mp hr
  let sorted : Relation := { r with query := .select r.query { orderBy := texts }, order := keys }
  have horder : (sorted.project d (inPlace r.vars renames)).order =
      keys.map (SortKey.renamed renames) := renamed_order hk
  unfold OrderWritten at hwritten
  rw [horder] at hwritten
  obtain ⟨second, hs, hv, hg, ho⟩ :=
    arrange_succeeds (r := r.project d (inPlace r.vars renames)) hwritten
  exact ⟨_, second, rename_ok_iff.mpr ⟨happ, rfl⟩, hs, hv, hg, ho.trans horder.symm⟩

end Relation
end LayeredSql
