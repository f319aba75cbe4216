import LayeredSql.Proofs.Keyed
import LayeredSql.Proofs.Names.Renames

namespace LayeredSql

def ColumnRename.reversed (r : ColumnRename) : ColumnRename :=
  ⟨r.target, r.source⟩

namespace Names

def reversed (renames : List ColumnRename) : List ColumnRename :=
  renames.map .reversed

theorem reversed_sources (renames : List ColumnRename) :
    (reversed renames).map (·.source) = renames.map (·.target) := by
  simp [reversed, ColumnRename.reversed, Function.comp_def]

/-- The renames can be made to a table of the columns `vars`. -/
structure Applicable (vars : List String) (renames : List ColumnRename) : Prop where
  sources_found : ∀ r ∈ renames, r.source ∈ vars
  sources_distinct : (renames.map (·.source)).Nodup
  names_distinct : (vars.map (renamed renames)).Nodup

section
variable {vars : List String} {renames : List ColumnRename}

theorem renamed_of_mem (hd : (renames.map (·.source)).Nodup) {r : ColumnRename} (hr : r ∈ renames) :
    renamed renames r.source = r.target := by
  rw [renamed, found_by_name hd hr]
  rfl

theorem renamed_of_not_source {name : String} (h : name ∉ renames.map (·.source)) :
    renamed renames name = name := by
  rw [renamed, none_under.mpr h]
  rfl

/-- With one rename for each name, their order does not matter. -/
theorem renamed_perm {renames' : List ColumnRename} (hp : renames.Perm renames')
    (hd : (renames.map (·.source)).Nodup) : renamed renames' = renamed renames := by
  have hd' : (renames'.map (·.source)).Nodup := (hp.map _).nodup_iff.mp hd
  funext name
  by_cases hm : name ∈ renames.map (·.source)
  · obtain ⟨r, hr, rfl⟩ := List.mem_map.mp hm
    rw [renamed_of_mem hd hr, renamed_of_mem hd' (hp.mem_iff.mp hr)]
  · have hm' : name ∉ renames'.map (·.source) := fun h => hm ((hp.map _).mem_iff.mpr h)
    rw [renamed_of_not_source hm, renamed_of_not_source hm']

namespace Applicable

theorem perm {renames' : List ColumnRename} (h : Applicable vars renames)
    (hp : renames.Perm renames') : Applicable vars renames' where
  sources_found r hr := h.sources_found r (hp.mem_iff.mpr hr)
  sources_distinct := (hp.map _).nodup_iff.mp h.sources_distinct
  names_distinct := by
    rw [renamed_perm hp h.sources_distinct]
    exact h.names_distinct

theorem injective (h : Applicable vars renames) {a b : String} (ha : a ∈ vars) (hb : b ∈ vars)
    (he : renamed renames a = renamed renames b) : a = b :=
  List.inj_on_of_nodup_map h.names_distinct ha hb he

theorem targets_distinct (h : Applicable vars renames) : (renames.map (·.target)).Nodup := by
  refine List.Nodup.map_on ?_ h.sources_distinct.of_map
  intro a ha b hb he
  have hsource : a.source = b.source := by
    apply h.injective (h.sources_found a ha) (h.sources_found b hb)
    rw [renamed_of_mem h.sources_distinct ha, renamed_of_mem h.sources_distinct hb, he]
  exact List.inj_on_of_nodup_map h.sources_distinct ha hb hsource

/-- A column that was not renamed is no target, for then it would share its name. -/
theorem renamed_back (h : Applicable vars renames) {v : String} (hv : v ∈ vars) :
    renamed (reversed renames) (renamed renames v) = v := by
  have hd : ((reversed renames).map (·.source)).Nodup := by
    rw [reversed_sources]
    exact h.targets_distinct
  by_cases hm : v ∈ renames.map (·.source)
  · obtain ⟨r, hr, rfl⟩ := List.mem_map.mp hm
    rw [renamed_of_mem h.sources_distinct hr]
    exact renamed_of_mem hd (List.mem_map_of_mem hr)
  · rw [renamed_of_not_source hm]
    apply renamed_of_not_source
    rw [reversed_sources]
    intro ht
    obtain ⟨r, hr, rfl⟩ := List.mem_map.mp ht
    have hsame : renamed renames r.source = renamed renames r.target := by
      rw [renamed_of_mem h.sources_distinct hr, renamed_of_not_source hm]
    rw [← h.injective (h.sources_found r hr) hv hsame] at hm
    exact hm (List.mem_map_of_mem hr)

theorem columns_back (h : Applicable vars renames) {names : List String} (hn : names ⊆ vars) :
    (names.map (renamed renames)).map (renamed (reversed renames)) = names := by
  rw [List.map_map]
  calc names.map (renamed (reversed renames) ∘ renamed renames)
    _ = names.map id := List.map_congr_left fun v hv => h.renamed_back (hn hv)
    _ = names := List.map_id names

theorem reverse (h : Applicable vars renames) :
    Applicable (vars.map (renamed renames)) (reversed renames) where
  sources_found := by
    intro back hb
    obtain ⟨r, hr, rfl⟩ := List.mem_map.mp hb
    exact List.mem_map.mpr ⟨r.source, h.sources_found r hr, renamed_of_mem h.sources_distinct hr⟩
  sources_distinct := by
    rw [reversed_sources]
    exact h.targets_distinct
  names_distinct := by
    rw [h.columns_back (List.Subset.refl vars)]
    exact h.names_distinct.of_map

end Applicable
end

end Names
end LayeredSql
