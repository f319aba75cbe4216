import LayeredSql.Proofs.Relation.WellFormed

namespace LayeredSql

namespace Names
variable {left right : List String} {keys : List KeyPair} {suffixes : Suffixes}

theorem disambiguate_error (h : ¬(suffixedColumns left right keys suffixes).Nodup) :
    disambiguate left right keys suffixes =
      .error (.duplicate (repeated (suffixedColumns left right keys suffixes))) := by
  rw [disambiguate_eq, if_neg h]

structure Suffixed (left right : List String) (keys : List KeyPair) (vars : List String)
    (renames mapping : List ColumnRename) : Prop where
  resolved : resolveRename vars renames = .ok mapping
  sources : mapping.map (·.source) = vars
  others_kept : ∀ m ∈ mapping, ¬Collides left right keys m.source → m.target = m.source

theorem suffixed_side {vars : List String} {suffix : String}
    (hs : ∀ v ∈ collisions left right keys, v ∈ vars) (hl : left.Nodup)
    (hn : (vars.map (suffixedName left right keys suffix)).Nodup) :
    Suffixed left right keys vars (suffixed (collisions left right keys) suffix)
      (inPlace vars (suffixed (collisions left right keys) suffix)) := by
  refine ⟨resolve_suffixed hs hl hn, in_place_sources _ _, ?_⟩
  intro m hm hc
  obtain ⟨v, _, rfl⟩ := List.mem_map.mp hm
  simp only [renamed_collisions, suffixedName, if_neg hc]

/-- A plan that is found separates the sides. -/
theorem disambiguate_sound (hl : left.Nodup) (hr : right.Nodup) (hk : KeysFound left right keys)
    {plan : Disambiguation} (h : disambiguate left right keys suffixes = .ok plan) :
    ∃ leftMapping rightMapping,
      Suffixed left right keys left plan.left leftMapping ∧
      Suffixed left right keys right plan.right rightMapping ∧
      Separated left right keys plan (leftMapping.map (·.target))
        (rightMapping.map (·.target)) := by
  obtain ⟨hn, rfl⟩ := disambiguate_ok.mp h
  have hsep := suffixed_separated hr hk hn
  have hleft : ∀ v ∈ collisions left right keys, v ∈ left :=
    fun v hv => (mem_collisions.mp hv).1
  have hright : ∀ v ∈ collisions left right keys, v ∈ right :=
    fun v hv => (mem_collisions.mp hv).2.1
  refine ⟨_, _, suffixed_side hleft hl hsep.left_distinct,
    suffixed_side hright hl hsep.right_distinct, ?_⟩
  rw [suffixed_targets, suffixed_targets]
  exact hsep

/-- Without collisions there is nothing to rename, and nothing to refuse. -/
theorem disambiguate_noop (hl : left.Nodup) (hr : right.Nodup)
    (h : ∀ v ∈ left, v ∈ right → (⟨v, v⟩ : KeyPair) ∈ keys) :
    ∃ plan, disambiguate left right keys suffixes = .ok plan ∧ plan.isNoop = true := by
  have hc : ∀ v, ¬Collides left right keys v := fun v hv => hv.2.2 (h v hv.1 hv.2.1)
  have hnone : collisions left right keys = [] := by
    rw [List.eq_nil_iff_forall_not_mem]
    exact fun v hv => hc v (mem_collisions.mp hv)
  have hsame : ∀ suffix, suffixedName left right keys suffix = id := by
    intro suffix
    funext v
    rw [suffixedName, if_neg (hc v)]
    rfl
  refine ⟨suffixPlan left right keys suffixes, disambiguate_ok.mpr ⟨?_, rfl⟩, ?_⟩
  · rw [suffixedColumns, hsame, hsame, List.map_id, List.map_id]
    refine List.nodup_append.mpr ⟨hl, hr.filter _, ?_⟩
    rintro v hv _ hw rfl
    obtain ⟨hw, hs⟩ := List.mem_filter.mp hw
    exact absurd (h v hv hw) (by simpa using hs)
  · simp [suffixPlan, hnone, suffixed, Disambiguation.isNoop]

end Names

namespace Relation
open Names
variable {verb : Verb} {d : Dialect} {l r : Relation}

theorem rename_side_resolved {renames mapping : List ColumnRename}
    (h : resolveRename r.vars renames = .ok mapping) :
    ∃ r', r.renameSide verb d renames = .ok r' := by
  by_cases he : renames = []
  · exact ⟨r, rename_side_ok.mpr (.inl ⟨he, rfl⟩)⟩
  · obtain ⟨hs, hd, hn, _⟩ := resolve_rename_ok.mp h
    exact ⟨_, rename_side_ok.mpr (.inr ⟨he, rename_ok.mpr ⟨hs, hd, hn, rfl⟩⟩)⟩

/-- With its keys found and its kind supported, a join is built or refused for repeated names. -/
theorem join_result (hl : l.WellFormed) (hr : r.WellFormed) {kind : JoinKind}
    {keys : List KeyPair} (suffixes : Suffixes) (hk : KeysFound l.vars r.vars keys)
    (hc : kind = .full → d.supports .fullJoin = true) :
    if (suffixedColumns l.vars r.vars keys suffixes).Nodup then
      ∃ r', l.join r d kind keys suffixes = .ok r'
    else l.join r d kind keys suffixes =
      .error ⟨.join, .collision (repeated (suffixedColumns l.vars r.vars keys suffixes))⟩ := by
  split
  · rename_i hn
    obtain ⟨_, _, hleft, hright, _⟩ :=
      disambiguate_sound hl.vars_distinct hr.vars_distinct hk (disambiguate_ok.mpr ⟨hn, rfl⟩)
    obtain ⟨left, hlr⟩ := rename_side_resolved hleft.resolved
    obtain ⟨right, hrr⟩ := rename_side_resolved hright.resolved
    exact ⟨_, join_ok.mpr ⟨hk, hc, hn, left, right, hlr, hrr, rfl⟩⟩
  · rename_i hn
    have hkeys : checkKeys .join l r keys = .ok () := check_keys_ok.mpr hk
    have hplan : namesChecked .join (disambiguate l.vars r.vars keys suffixes) =
        .error ⟨.join, .collision (repeated (suffixedColumns l.vars r.vars keys suffixes))⟩ := by
      rw [disambiguate_error hn]
      rfl
    by_cases hf : kind = .full
    · have hreq : sqlChecked .join (d.require .fullJoin) = .ok () :=
        sql_checked_ok.mpr (require_ok.mpr (hc hf))
      simp only [join, hkeys, hf, if_true, hreq, hplan]
      rfl
    · simp only [join, hkeys, hf, if_false, hplan]
      rfl

end Relation

namespace Pipeline
open Names

/-- Disambiguation is sound and complete: a plan separates the sides, none is needed where nothing
collides, and there is none exactly when a suffixed name is repeated. So a join whose keys are found
and whose kind is supported is built, or refused for the names repeated. -/
theorem join_names_told_apart (t : Target) :
    (∀ left right keys suffixes, left.Nodup → right.Nodup → KeysFound left right keys →
      (∀ plan, disambiguate left right keys suffixes = .ok plan →
        ∃ leftMapping rightMapping,
          Suffixed left right keys left plan.left leftMapping ∧
          Suffixed left right keys right plan.right rightMapping ∧
          Separated left right keys plan (leftMapping.map (·.target))
            (rightMapping.map (·.target))) ∧
      ((∀ v ∈ left, v ∈ right → (⟨v, v⟩ : KeyPair) ∈ keys) →
        ∃ plan, disambiguate left right keys suffixes = .ok plan ∧ plan.isNoop = true) ∧
      ((∃ e, disambiguate left right keys suffixes = .error e) ↔
        ¬(suffixedColumns left right keys suffixes).Nodup)) ∧
    ∀ left right kind keys suffixes l r, left.relation t = .ok l → right.relation t = .ok r →
      KeysFound l.vars r.vars keys → (kind = .full → t.dialect.supports .fullJoin = true) →
      let columns := suffixedColumns l.vars r.vars keys (suffixes.getD t.suffixes)
      if columns.Nodup then ∃ q, (join left right kind keys suffixes).build t = .ok q
      else (join left right kind keys suffixes).build t =
        .error ⟨.join, .collision (repeated columns)⟩ := by
  constructor
  · intro left right keys suffixes hl hr hk
    refine ⟨fun plan h => disambiguate_sound hl hr hk h, disambiguate_noop hl hr, ?_⟩
    rw [disambiguate_eq]
    split
    · rename_i hn
      simp [hn]
    · rename_i hn
      simp [hn]
  · intro left right kind keys suffixes l r hl hr hk hc
    have hresult := Relation.join_result (d := t.dialect) (builds_of_ok hl).well_formed
      (builds_of_ok hr).well_formed (suffixes.getD t.suffixes) hk hc
    have hbuild : (join left right kind keys suffixes).build t =
        (l.join r t.dialect kind keys (suffixes.getD t.suffixes)).map (·.query) := by
      simp only [build, relation, hl, hr]
      rfl
    simp only
    rw [hbuild]
    split
    · rename_i hn
      rw [if_pos hn] at hresult
      obtain ⟨r', hj⟩ := hresult
      rw [hj]
      exact ⟨r'.query, rfl⟩
    · rename_i hn
      rw [if_neg hn] at hresult
      rw [hresult]
      rfl

/-- A suffixed name can meet a column that was there before, unless another suffix is chosen. -/
theorem orders_join_told_apart :
    (∃ plan, Names.disambiguate ["id", "x", "x_y"] ["id", "x"] [⟨"id", "id"⟩] ⟨"_l", "_r"⟩ =
        .ok plan ∧
      ∃ leftMapping rightMapping : List ColumnRename,
        Separated ["id", "x", "x_y"] ["id", "x"] [⟨"id", "id"⟩] plan (leftMapping.map (·.target))
          (rightMapping.map (·.target))) ∧
    (join (.inMemory ["id", "x", "x_y"]) (.inMemory ["id", "x"]) .inner [⟨"id", "id"⟩] none).build
      ⟨.ansi, .standard⟩ = .error ⟨.join, .collision ["x_y"]⟩ := by
  have hall := join_names_told_apart ⟨.ansi, .standard⟩
  constructor
  · have hp : Names.disambiguate ["id", "x", "x_y"] ["id", "x"] [⟨"id", "id"⟩] ⟨"_l", "_r"⟩ =
        .ok ⟨[⟨"x", "x_l"⟩], [⟨"x", "x_r"⟩]⟩ := by
      decide
    obtain ⟨lm, rm, _, _, hs⟩ := (hall.1 _ _ _ _ (by decide) (by decide) (by decide)).1 _ hp
    exact ⟨_, hp, lm, rm, hs⟩
  · have hj := hall.2 (.inMemory ["id", "x", "x_y"]) (.inMemory ["id", "x"]) .inner [⟨"id", "id"⟩]
      none ⟨.table .inMemory, ["id", "x", "x_y"], [], []⟩ ⟨.table .inMemory, ["id", "x"], [], []⟩
      rfl rfl (by decide) (by decide)
    simp only at hj
    rw [if_neg (by decide)] at hj
    exact hj

end Pipeline
end LayeredSql
