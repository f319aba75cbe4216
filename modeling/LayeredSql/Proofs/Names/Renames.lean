import LayeredSql.Proofs.Names.Distinct

namespace LayeredSql.Names

theorem renamed_nil (name : String) : renamed [] name = name := rfl

theorem renamed_cons (r : ColumnRename) (renames : List ColumnRename) (name : String) :
    renamed (r :: renames) name = if r.source = name then r.target else renamed renames name := by
  unfold renamed
  by_cases h : r.source = name
  · simp [h]
  · simp [h]

/-- Renames built from one function on names act as that function. -/
theorem renamed_map (names : List String) (f : String → String) (name : String) :
    renamed (names.map fun v => ⟨v, f v⟩) name = if name ∈ names then f name else name := by
  induction names with
  | nil => simp [renamed_nil]
  | cons v names ih =>
    rw [List.map_cons, renamed_cons, ih]
    by_cases h : v = name
    · simp [h]
    · simp [h, Ne.symm h]

def inPlace (vars : List String) (renames : List ColumnRename) : List ColumnRename :=
  vars.map fun v => ⟨v, renamed renames v⟩

theorem in_place_sources (vars : List String) (renames : List ColumnRename) :
    (inPlace vars renames).map (·.source) = vars := by
  simp [inPlace, Function.comp_def]

theorem in_place_targets (vars : List String) (renames : List ColumnRename) :
    (inPlace vars renames).map (·.target) = vars.map (renamed renames) := by
  simp [inPlace, Function.comp_def]

theorem resolve_rename_ok {vars : List String} {renames mapping : List ColumnRename} :
    resolveRename vars renames = .ok mapping ↔
      (∀ r ∈ renames, r.source ∈ vars) ∧ (renames.map (·.source)).Nodup ∧
        (vars.map (renamed renames)).Nodup ∧ mapping = inPlace vars renames := by
  have ht := in_place_targets vars renames
  unfold inPlace at ht
  simp only [resolveRename, bind_ok, require_all_ok, require_distinct_ok, pure_ok, ht, inPlace,
    List.forall_mem_map]
  constructor
  · rintro ⟨_, hs, _, hd, _, hn, rfl⟩
    exact ⟨hs, hd, hn, rfl⟩
  · rintro ⟨hs, hd, hn, rfl⟩
    exact ⟨(), hs, (), hd, (), hn, rfl⟩

def withGroups (requested : List ColumnRename) (groups : List String) : List ColumnRename :=
  (groups.filter fun g => !requested.any (·.source == g)).map .keep ++ requested

theorem resolve_select_ok {vars groups : List String} {requested mapping : List ColumnRename} :
    resolveSelect vars requested groups = .ok mapping ↔
      (∀ r ∈ requested, r.source ∈ vars) ∧
        ((withGroups requested groups).map (·.target)).Nodup ∧
        mapping = withGroups requested groups := by
  simp only [resolveSelect, bind_ok, require_all_ok, require_distinct_ok, pure_ok, withGroups,
    List.forall_mem_map]
  constructor
  · rintro ⟨_, hs, _, hn, rfl⟩
    exact ⟨hs, hn, rfl⟩
  · rintro ⟨hs, hn, rfl⟩
    exact ⟨(), hs, (), hn, rfl⟩

theorem source_mem_of_with_groups {vars groups : List String} {requested : List ColumnRename}
    (hg : ∀ g ∈ groups, g ∈ vars) (hr : ∀ r ∈ requested, r.source ∈ vars) :
    ∀ m ∈ withGroups requested groups, m.source ∈ vars := by
  intro m hm
  rcases List.mem_append.mp hm with hk | hm
  · obtain ⟨g, hf, rfl⟩ := List.mem_map.mp hk
    exact hg g (List.mem_filter.mp hf).1
  · exact hr m hm

end LayeredSql.Names
