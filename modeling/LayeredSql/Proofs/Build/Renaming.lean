import LayeredSql.Proofs.Relation.Overlay
import LayeredSql.Proofs.Relation.Renamed

namespace LayeredSql.Pipeline
open Names
variable {t : Target} {p : Pipeline} {r r' : Relation} {renames : List ColumnRename}

/-- A rename that builds can be taken back by its pairs the other way round: that builds as well,
and has the columns and the grouping variables that there were, each in its place. -/
theorem rename_reversible (h : p.relation t = .ok r)
    (hr : (rename p renames).relation t = .ok r') :
    ∃ back, (rename (rename p renames) (reversed renames)).relation t = .ok back ∧
      back.vars = r.vars ∧ back.groups = r.groups := by
  have hrenamed : r.rename .rename t.dialect renames = .ok r' := by
    rw [relation, h] at hr
    exact hr
  obtain ⟨back, hb, hv, hg⟩ := Relation.rename_back (builds_of_ok h).well_formed hrenamed
  exact ⟨back, relation_ok.mpr (.rename (builds_of_ok hr) hb), hv, hg⟩

/-- Three names go round, two change places, one stays, one is new, and one is not spoken of. -/
def shuffle : List ColumnRename :=
  [⟨"first", "second"⟩, ⟨"second", "third"⟩, ⟨"third", "first"⟩, ⟨"left", "right"⟩,
    ⟨"right", "left"⟩, ⟨"same", "same"⟩, ⟨"old", "new"⟩]

theorem shuffle_reversible :
    let t : Target := ⟨.ansi, .standard⟩
    let vars := ["other", "left", "third", "old", "first", "right", "same", "second"]
    let p := groupBy (remote ⟨none, "t"⟩ vars) ["third", "left", "other"]
    (∃ r', (rename p shuffle).relation t = .ok r' ∧
      r'.vars = ["other", "right", "first", "new", "second", "left", "same", "third"] ∧
      r'.groups = ["first", "right", "other"]) ∧
    ∃ back, (rename (rename p shuffle) (reversed shuffle)).relation t = .ok back ∧
      back.vars = vars ∧ back.groups = ["third", "left", "other"] := by
  intro t vars p
  obtain ⟨r, h⟩ : ∃ r, p.relation t = .ok r := ⟨_, rfl⟩
  obtain ⟨r', hr⟩ : ∃ r', (rename p shuffle).relation t = .ok r' := ⟨_, rfl⟩
  have hback := rename_reversible h hr
  cases h
  cases hr
  exact ⟨⟨_, rfl, by decide, by decide⟩, hback⟩

theorem mutate_build (h : p.relation t = .ok r) (derived : List NamedExpr) :
    (mutate p derived).build t = (r.mutate .mutate t.dialect derived).map (·.query) := by
  simp only [build, relation, h]
  rfl

theorem filter_build (h : p.relation t = .ok r) (predicates : List Expr) :
    (filter p predicates).build t = (r.filter t.dialect predicates).map (·.query) := by
  simp only [build, relation, h]
  rfl

/-- Rows arranged before a rename are arranged as after it, by the keys under the new names: where
the first builds the second does, with the same columns, grouping and ordering. So what is derived
or filtered next is written with the same text over both, every window with its partition and
order. -/
theorem arrange_rename_commute {keys : List SortKey} (h : p.relation t = .ok r)
    (hk : ∀ key ∈ keys, ∀ c ∈ key.expr.columns, c ∈ r.vars)
    (hr : (rename (arrange p keys) renames).relation t = .ok r') :
    let arrangedFirst := rename (arrange p keys) renames
    let renamedFirst := arrange (rename p renames) (keys.map (SortKey.renamed renames))
    ∃ r'', renamedFirst.relation t = .ok r'' ∧
      r''.vars = r'.vars ∧ r''.groups = r'.groups ∧ r''.order = r'.order ∧
      (∀ derived, LaidAlike r'.query r''.query
        ((mutate arrangedFirst derived).build t) ((mutate renamedFirst derived).build t)) ∧
      ∀ predicates, LaidAlike r'.query r''.query
        ((filter arrangedFirst predicates).build t) ((filter renamedFirst predicates).build t) := by
  intro arrangedFirst renamedFirst
  obtain ⟨arranged, ha, hrenamed⟩ := bind_ok.mp hr
  rw [relation, h] at ha
  obtain ⟨first, second, hf, hs, hv, hg, ho⟩ :=
    Relation.arrange_renamed hk ha hrenamed
  have hsecond : renamedFirst.relation t = .ok second :=
    relation_ok.mpr (.arrange (.rename (builds_of_ok h) hf) hs)
  have halike : r'.Alike second := ⟨hv, hg, ho⟩
  refine ⟨second, hsecond, hv, hg, ho, fun derived => ?_, fun predicates => ?_⟩
  · rw [mutate_build hr, mutate_build hsecond]
    exact (Relation.mutate_alike halike .mutate t.dialect derived).queries
  · rw [filter_build hr, filter_build hsecond]
    exact (Relation.filter_alike halike t.dialect predicates).queries

/-- Keys that follow their columns through a swap of names still come in order in the windows. -/
theorem swap_within_keys_commutes :
    let t : Target := ⟨.ansi, .standard⟩
    let keys : List SortKey :=
      [⟨.column "day", true⟩, ⟨.binary .sub (.column "visitor") (.column "day"), false⟩]
    let renames : List ColumnRename :=
      [⟨"day", "visitor"⟩, ⟨"visitor", "day"⟩, ⟨"page", "path"⟩]
    let p := groupBy (remote ⟨none, "visits"⟩ ["day", "visitor", "page"]) ["page"]
    let numbered : List NamedExpr := [⟨"turn", .call "row_number" []⟩]
    let arrangedFirst := rename (arrange p keys) renames
    let renamedFirst := arrange (rename p renames) (keys.map (SortKey.renamed renames))
    ∃ r' r'', arrangedFirst.relation t = .ok r' ∧ renamedFirst.relation t = .ok r'' ∧
      r''.vars = ["visitor", "day", "path"] ∧ r''.groups = ["path"] ∧
      (mutate arrangedFirst numbered).build t = .ok (r'.query.beneath [{ items :=
        [⟨"\x22visitor\x22", none⟩, ⟨"\x22day\x22", none⟩, ⟨"\x22path\x22", none⟩,
          ⟨"ROW_NUMBER() OVER (PARTITION BY \x22path\x22 " ++
            "ORDER BY \x22visitor\x22 DESC, \x22day\x22 - \x22visitor\x22)", some "turn"⟩] }]) ∧
      LaidAlike r'.query r''.query
        ((mutate arrangedFirst numbered).build t) ((mutate renamedFirst numbered).build t) := by
  intro t keys renames p numbered arrangedFirst renamedFirst
  obtain ⟨r, h⟩ : ∃ r, p.relation t = .ok r := ⟨_, rfl⟩
  obtain ⟨r', hr⟩ : ∃ r', arrangedFirst.relation t = .ok r' := ⟨_, rfl⟩
  have hk : ∀ key ∈ keys, ∀ c ∈ key.expr.columns, c ∈ r.vars := by
    cases h
    decide
  obtain ⟨r'', hr'', hv, hg, -, hmutate, -⟩ := arrange_rename_commute h hk hr
  refine ⟨r', r'', hr, hr'', ?_, ?_, ?_, hmutate numbered⟩
  · cases hr
    exact hv
  · cases hr
    exact hg
  · cases hr
    cbv

end LayeredSql.Pipeline
