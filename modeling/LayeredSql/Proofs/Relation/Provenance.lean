import LayeredSql.Build.Pipeline
import LayeredSql.Proofs.Outcome

namespace LayeredSql

/-- Whatever error the computation ends in bears the name of the operation. -/
def Bears (verb : Verb) (x : Except BuildError α) : Prop :=
  ∀ e, x = .error e → e.verb = verb

namespace Bears
variable {verb : Verb}

theorem ok (a : α) : Bears verb (.ok a) :=
  nofun

theorem own (cause : BuildCause) : Bears verb (.error ⟨verb, cause⟩ : Except BuildError α) := by
  intro e h
  cases h
  rfl

theorem bind {x : Except BuildError α} {f : α → Except BuildError β} (h : Bears verb x)
    (hf : ∀ a, Bears verb (f a)) : Bears verb (x >>= f) := by
  intro e he
  rcases bind_error.mp he with he | ⟨a, -, he⟩
  · exact h e he
  · exact hf a e he

theorem mapM {f : α → Except BuildError β} (h : ∀ a, Bears verb (f a)) (as : List α) :
    Bears verb (as.mapM f) := by
  intro e he
  obtain ⟨a, -, ha⟩ := mapM_error he
  exact h a e ha

theorem foldlM {f : β → α → Except BuildError β} (h : ∀ b a, Bears verb (f b a)) (start : β)
    (as : List α) : Bears verb (as.foldlM f start) := by
  intro e he
  obtain ⟨b, a, -, ha⟩ := foldlM_error he
  exact h b a e ha

/-- Errors over names are converted under the name of the operation that asks. -/
theorem names (x : Except NameError α) : Bears verb (Relation.namesChecked verb x) := by
  intro e h
  obtain ⟨cause, -, rfl⟩ := map_error_error.mp h
  cases cause with
  | unknownColumn => rfl
  | duplicate => rfl

/-- So are the errors of the translation into SQL. -/
theorem sql (x : Except SqlError α) : Bears verb (Relation.sqlChecked verb x) := by
  intro e h
  obtain ⟨cause, -, rfl⟩ := map_error_error.mp h
  cases cause with
  | expr => rfl
  | missing => rfl

end Bears

namespace Relation
variable (verb : Verb) (l r : Relation) (d : Dialect)

theorem of_table_bears (table : TableRef) (vars : List String) :
    Bears verb (ofTable verb table vars) :=
  (Bears.names _).bind fun _ => .ok _

theorem requested_bears (item : Projection) : Bears .select (requested item) := by
  unfold requested
  split
  · exact .ok _
  · exact .own _

theorem select_bears (columns : List Projection) : Bears .select (r.select d columns) :=
  (Bears.mapM requested_bears columns).bind fun _ => (Bears.names _).bind fun _ => .ok _

theorem rename_bears (renames : List ColumnRename) : Bears verb (r.rename verb d renames) :=
  (Bears.names _).bind fun _ => .ok _

theorem arrange_bears (keys : List SortKey) : Bears .arrange (r.arrange d keys) :=
  (Bears.sql _).bind fun _ => .ok _

theorem summarise_bears (aggregates : List NamedExpr) :
    Bears .summarise (r.summarise d aggregates) :=
  (Bears.sql _).bind fun _ => (Bears.names _).bind fun _ => .ok _

theorem group_by_bears (vars : List String) : Bears .groupBy (r.groupBy vars) :=
  (Bears.names _).bind fun _ => (Bears.names _).bind fun _ => .ok _

theorem distinct_bears (columns : List String) (keepAll : Bool) :
    Bears .distinct (r.distinct columns keepAll) := by
  have hlater : Bears .distinct (do
      namesChecked .distinct (Names.requireAll r.vars columns)
      return { r with query := .select r.query { distinct := true } }) :=
    (Bears.names _).bind fun _ => .ok _
  unfold distinct
  split
  · exact (Bears.own _).bind fun _ => hlater
  · exact hlater

theorem resolve_item_bears (t : FunctionTable) (defs : List NamedExpr) (item : NamedExpr) :
    Bears verb (resolveItem verb t defs item) := by
  unfold resolveItem
  split
  · exact .own _
  · exact .ok _

theorem mutate_bears (derived : List NamedExpr) : Bears verb (r.mutate verb d derived) := by
  have hresolved : Bears verb (resolveDerived verb d.functions derived) :=
    .foldlM (resolve_item_bears verb d.functions) [] derived
  exact hresolved.bind fun _ => (Bears.sql _).bind fun _ => .ok _

/-- The derivation in a filter on windows goes under the name of the filter. -/
theorem filter_bears (predicates : List Expr) : Bears .filter (r.filter d predicates) := by
  unfold Relation.filter
  split
  · exact (Bears.sql _).bind fun hoisting =>
      (r.mutate_bears .filter d hoisting.windows).bind fun _ => (Bears.sql _).bind fun _ => .ok _
  · exact (Bears.sql _).bind fun _ => .ok _

theorem check_keys_bears (keys : List KeyPair) : Bears verb (checkKeys verb l r keys) := by
  induction keys with
  | nil => exact .ok ()
  | cons key keys ih => exact (Bears.names _).bind fun _ => (Bears.names _).bind fun _ => ih

theorem rename_side_bears (renames : List ColumnRename) :
    Bears verb (r.renameSide verb d renames) := by
  unfold renameSide
  split
  · exact .ok r
  · exact r.rename_bears verb d renames

/-- The renames of the sides of a join go under the name of the join. -/
theorem join_bears (kind : JoinKind) (keys : List KeyPair) (suffixes : Suffixes) :
    Bears .join (l.join r d kind keys suffixes) := by
  have hsides : ∀ plan : Disambiguation, Bears .join (do
      let left ← l.renameSide .join d plan.left
      let right ← r.renameSide .join d plan.right
      let on := plan.remapKeys keys
      return ⟨.join left.query right.query kind on, Names.joinColumns left.vars right.vars on,
        left.groups, []⟩ : Except BuildError Relation) := fun plan =>
    (l.rename_side_bears .join d plan.left).bind fun _ =>
      (r.rename_side_bears .join d plan.right).bind fun _ => .ok _
  refine (check_keys_bears .join l r keys).bind fun _ => ?_
  split
  · exact (Bears.sql _).bind fun _ => (Bears.names _).bind hsides
  · exact (Bears.names _).bind hsides

theorem semi_join_bears (anti : Bool) (keys : List KeyPair) :
    Bears .semiJoin (l.semiJoin r anti keys) :=
  (check_keys_bears .semiJoin l r keys).bind fun _ => .ok _

theorem align_bears (vars : List String) : Bears verb (r.align verb d vars) := by
  unfold align
  split
  · exact .ok r
  · exact (Bears.sql _).bind fun _ => .ok _

theorem set_op_bears (kind : SetKind) : Bears .setOp (l.setOp r d kind) :=
  (Bears.sql _).bind fun _ => (l.align_bears .setOp d _).bind fun _ =>
    (r.align_bears .setOp d _).bind fun _ => .ok _

end Relation
end LayeredSql
