import LayeredSql.Proofs.Build.Steps

namespace LayeredSql

def Layer.texts (layer : Layer) : List String :=
  layer.items.map (·.sql) ++ layer.conditions

def Query.layers : Query → List Layer
  | .table _ => []
  | .select source layer => source.layers ++ [layer]
  | .join left right _ _ => left.layers ++ right.layers
  | .semiJoin left right _ _ => left.layers ++ right.layers
  | .setOp left right _ => left.layers ++ right.layers

theorem Query.select_layers (q : Query) (layer : Layer) :
    q.layers <:+: (Query.select q layer).layers :=
  (List.prefix_append _ _).isInfix

def Query.Writes (q : Query) (text : String) : Prop :=
  ∃ layer ∈ q.layers, text ∈ layer.texts

theorem Query.select_writes (q : Query) {layer : Layer} {text : String} (h : text ∈ layer.texts) :
    (Query.select q layer).Writes text :=
  ⟨layer, List.mem_append_right _ (List.mem_singleton_self layer), h⟩

theorem Query.writes_select {q : Query} {layer : Layer} {text : String} :
    (Query.select q layer).Writes text ↔ q.Writes text ∨ text ∈ layer.texts := by
  simp only [Writes, layers, List.mem_append, List.mem_singleton, or_and_right, exists_or,
    exists_eq_left]

theorem Query.Writes.mono {q q' : Query} {text : String} (ht : q.Writes text)
    (h : q.layers <:+: q'.layers) : q'.Writes text := by
  obtain ⟨layer, hl, ht⟩ := ht
  exact ⟨layer, h.subset hl, ht⟩

namespace Relation
variable {verb : Verb} {d : Dialect} {l r r' : Relation}

def Below (r r' : Relation) : Prop :=
  r.query.layers <:+: r'.query.layers

theorem Below.refl (r : Relation) : r.Below r := List.infix_rfl

theorem filter_below {predicates : List Expr} (h : r.filter d predicates = .ok r') :
    r.Below r' := by
  unfold Relation.filter at h
  split at h
  · obtain ⟨_, inner, _, _, hm, _, rfl⟩ := filter_windows_ok.mp h
    obtain ⟨_, _, _, _, rfl⟩ := mutate_ok.mp hm
    exact (Query.select_layers r.query _).trans (Query.select_layers _ _)
  · obtain ⟨_, _, rfl⟩ := filter_rows_ok.mp h
    exact Query.select_layers _ _

theorem rename_side_below {renames : List ColumnRename}
    (h : r.renameSide verb d renames = .ok r') : r.Below r' := by
  rcases rename_side_ok.mp h with ⟨_, rfl⟩ | ⟨_, h⟩
  · exact .refl r'
  · obtain ⟨_, _, _, rfl⟩ := rename_ok.mp h
    exact Query.select_layers _ _

theorem align_layers (r : Relation) (d : Dialect) (vars : List String) :
    r.query.layers <:+: (r.aligned d vars).query.layers := by
  unfold aligned
  split
  · exact List.infix_rfl
  · exact Query.select_layers _ _

theorem join_below {kind : JoinKind} {keys : List KeyPair} {suffixes : Suffixes}
    (h : l.join r d kind keys suffixes = .ok r') : l.Below r' ∧ r.Below r' := by
  obtain ⟨_, _, _, left, right, hl, hr, rfl⟩ := join_ok.mp h
  exact ⟨(rename_side_below hl).trans (List.prefix_append _ _).isInfix,
    (rename_side_below hr).trans (List.suffix_append _ _).isInfix⟩

theorem semi_join_below {anti : Bool} {keys : List KeyPair}
    (h : l.semiJoin r anti keys = .ok r') : l.Below r' ∧ r.Below r' := by
  obtain ⟨_, rfl⟩ := semi_join_ok.mp h
  exact ⟨(List.prefix_append _ _).isInfix, (List.suffix_append _ _).isInfix⟩

theorem set_op_below {kind : SetKind} (h : l.setOp r d kind = .ok r') :
    l.Below r' ∧ r.Below r' := by
  obtain ⟨_, rfl⟩ := set_op_ok.mp h
  exact ⟨(align_layers l d _).trans (List.prefix_append _ _).isInfix,
    (align_layers r d _).trans (List.suffix_append _ _).isInfix⟩

end Relation

namespace Pipeline
variable {t : Target} {p input left right : Pipeline} {r l r₀ : Relation}

/-- One more operation keeps the layers that there are. -/
theorem parts_below_step (hp : p.parts = p :: input.parts) (hb : p.Builds t r)
    (ih : ∀ part ∈ input.parts, ∀ r', part.Builds t r' → r'.Below r₀) (hr : r₀.Below r) :
    ∀ part ∈ p.parts, ∀ r', part.Builds t r' → r'.Below r := by
  rw [hp, List.forall_mem_cons]
  refine ⟨fun r' h => ?_, fun part hm r' h => (ih part hm r' h).trans hr⟩
  rw [hb.unique h]
  exact .refl r'

theorem parts_below_step_two (hp : p.parts = p :: (left.parts ++ right.parts))
    (hb : p.Builds t r) (ihl : ∀ part ∈ left.parts, ∀ r', part.Builds t r' → r'.Below l)
    (ihr : ∀ part ∈ right.parts, ∀ r', part.Builds t r' → r'.Below r₀)
    (h : l.Below r ∧ r₀.Below r) : ∀ part ∈ p.parts, ∀ r', part.Builds t r' → r'.Below r := by
  rw [hp, List.forall_mem_cons, List.forall_mem_append]
  refine ⟨fun r' h => ?_, fun part hm r' hr => (ihl part hm r' hr).trans h.1,
    fun part hm r' hr => (ihr part hm r' hr).trans h.2⟩
  rw [hb.unique h]
  exact .refl r'

/-- The layers of everything that a pipeline reads from are layers of its query. -/
theorem Builds.parts_below (h : p.Builds t r) :
    ∀ part ∈ p.parts, ∀ r', part.Builds t r' → r'.Below r := by
  induction h with
  | remote h =>
    rw [parts, List.forall_mem_singleton]
    intro r' h'
    rw [(Builds.remote h).unique h']
    exact .refl r'
  | inMemory h =>
    rw [parts, List.forall_mem_singleton]
    intro r' h'
    rw [(Builds.inMemory h).unique h']
    exact .refl r'
  | select hr h ih =>
    refine parts_below_step rfl (.select hr h) ih ?_
    obtain ⟨_, _, _, _, rfl⟩ := Relation.select_ok.mp h
    exact Query.select_layers _ _
  | rename hr h ih =>
    refine parts_below_step rfl (.rename hr h) ih ?_
    obtain ⟨_, _, _, rfl⟩ := Relation.rename_ok.mp h
    exact Query.select_layers _ _
  | arrange hr h ih =>
    refine parts_below_step rfl (.arrange hr h) ih ?_
    obtain ⟨_, _, rfl⟩ := Relation.arrange_ok.mp h
    exact Query.select_layers _ _
  | summarise hr h ih =>
    refine parts_below_step rfl (.summarise hr h) ih ?_
    obtain ⟨_, _, _, rfl⟩ := Relation.summarise_ok.mp h
    exact Query.select_layers _ _
  | mutate hr h ih =>
    refine parts_below_step rfl (.mutate hr h) ih ?_
    obtain ⟨_, _, _, _, rfl⟩ := Relation.mutate_ok.mp h
    exact Query.select_layers _ _
  | groupBy hr h ih =>
    refine parts_below_step rfl (.groupBy hr h) ih ?_
    obtain ⟨_, _, rfl⟩ := Relation.group_by_ok.mp h
    exact .refl _
  | ungroup hr ih => exact parts_below_step rfl (.ungroup hr) ih (.refl _)
  | filter hr h ih => exact parts_below_step rfl (.filter hr h) ih (Relation.filter_below h)
  | distinct hr h ih =>
    refine parts_below_step rfl (.distinct hr h) ih ?_
    obtain ⟨_, _, rfl⟩ := Relation.distinct_ok.mp h
    exact Query.select_layers _ _
  | take hr ih => exact parts_below_step rfl (.take hr) ih (Query.select_layers _ _)
  | join hl hr h ihl ihr =>
    exact parts_below_step_two rfl (.join hl hr h) ihl ihr (Relation.join_below h)
  | semiJoin hl hr h ihl ihr =>
    exact parts_below_step_two rfl (.semiJoin hl hr h) ihl ihr (Relation.semi_join_below h)
  | setOp hl hr h ihl ihr =>
    exact parts_below_step_two rfl (.setOp hl hr h) ihl ihr (Relation.set_op_below h)

end Pipeline
end LayeredSql
