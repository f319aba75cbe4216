import LayeredSql.Proofs.Relation.WellFormed
import LayeredSql.Proofs.Sql.Substituted

namespace LayeredSql

namespace Sql
variable {s s' : Scope} {keys keys' : Except SqlError (List String)} {e : Expr}

/-- More columns in scope do no harm. -/
theorem HasText.widen (hw : s.Widens s')
    (hk : s.clause = .derivation → ∀ order, keys = .ok order → ∃ order', keys' = .ok order')
    (h : HasText keys s e) : HasText keys' s' e := by
  rw [← Expr.substitute_nothing e] at h ⊢
  refine text_substituted hw.alike hk e (fun c _ hin => ?_) (fun _ _ => rfl) h
  exact has_text_column.mpr (hw.vars (hin.resolve_left (by simp)))

theorem Scope.order_text_succeeds :
    (∃ order, s.orderText = .ok order) ↔ ∀ key ∈ s.order, HasText (.ok []) s.forKeys key.expr := by
  simp only [Scope.orderText, mapM_succeeds, bind_succeeds_iff, pure_succeeds, and_true, HasText]

end Sql

namespace Relation
open Sql
variable {verb : Verb} {d : Dialect} {r r' : Relation}

def keyScope (d : Dialect) (r : Relation) : Scope :=
  ⟨d, r.vars, .ordering, [], []⟩

def OrderWritten (d : Dialect) (r : Relation) : Prop :=
  ∀ key ∈ r.order, HasText (.ok []) (r.keyScope d) key.expr

theorem OrderWritten.order_text (h : r.OrderWritten d) (clause : Clause) :
    ∃ order, (r.scope d clause).orderText = .ok order :=
  Scope.order_text_succeeds.mpr h

theorem OrderWritten.of_unordered (h : r.order = []) : r.OrderWritten d := by
  intro key hk
  rw [h] at hk
  cases hk

/-- Same keys, and at least the columns there were. -/
theorem OrderWritten.mono (h : r.OrderWritten d) (ho : r'.order = r.order)
    (hv : r.vars ⊆ r'.vars) : r'.OrderWritten d := by
  intro key hk
  rw [ho] at hk
  have hwidens : (r.keyScope d).Widens (r'.keyScope d) := ⟨rfl, rfl, hv⟩
  exact (h key hk).widen hwidens nofun

/-- Keys that survive a projection are about columns that do, under their new names. -/
theorem OrderWritten.project (h : r.OrderWritten d) (mapping : List ColumnRename) :
    (r.project d mapping).OrderWritten d := by
  intro key hk
  obtain ⟨old, hold, rfl⟩ := List.mem_map.mp hk
  obtain ⟨hold, hkept⟩ := List.mem_filter.mp hold
  have hwritten := h old hold
  rw [← Expr.substitute_nothing old.expr] at hwritten
  have halike : (r.keyScope d).Alike ((r.project d mapping).keyScope d) := ⟨rfl, rfl⟩
  refine text_substituted halike (fun hclause => nomatch hclause) old.expr (fun c hc _ => ?_)
    (fun c _ => ?_) hwritten
  · obtain ⟨target, ht⟩ := Option.isSome_iff_exists.mp (List.all_eq_true.mp hkept c hc)
    rw [ht, Option.map_some, Option.getD_some]
    exact has_text_column.mpr (target_mem ht)
  · cases targetOf? mapping c <;> rfl

/-- Among sorting keys no window is written, so grouping and ordering do not count. -/
theorem key_fragment (r : Relation) (d : Dialect) (e : Expr) :
    fragment (.ok []) (r.keyScope d) false e =
      fragment (r.scope d .ordering).orderText (r.scope d .ordering) false e :=
  fragment_unwindowed (s := r.scope d .ordering) [] [] e (.inr ⟨rfl, nofun⟩)

/-- What rows are arranged by is written over the columns there are. -/
theorem OrderWritten.arrange {keys : List SortKey} (hs : r.arrange d keys = .ok r') :
    r'.OrderWritten d := by
  obtain ⟨texts, ht, rfl⟩ := arrange_ok.mp hs
  intro key hk
  obtain ⟨text, -, h⟩ := mapM_ok_result ht hk
  obtain ⟨sql, h, -⟩ := bind_ok.mp h
  exact ⟨sql, (key_fragment r d key.expr).trans h⟩

/-- Rows can be arranged by any keys that can be written over the columns. -/
theorem arrange_succeeds {keys : List SortKey}
    (h : ∀ key ∈ keys, HasText (.ok []) (r.keyScope d) key.expr) :
    ∃ r', r.arrange d keys = .ok r' ∧ r'.vars = r.vars ∧ r'.groups = r.groups ∧
      r'.order = keys := by
  obtain ⟨texts, ht⟩ : ∃ texts, (r.scope d .ordering).renderKeys keys = .ok texts := by
    refine mapM_succeeds.mpr fun key hk => ?_
    obtain ⟨sql, hsql⟩ := h key hk
    exact bind_succeeds ((key_fragment r d key.expr).symm.trans hsql) pure_succeeds
  exact ⟨_, arrange_ok.mpr ⟨texts, ht, rfl⟩, rfl, rfl, rfl⟩

theorem OrderWritten.mutate (h : r.OrderWritten d) {derived : List NamedExpr}
    (hs : r.mutate verb d derived = .ok r') : r'.OrderWritten d := by
  obtain ⟨defs, _, _, _, rfl⟩ := mutate_ok.mp hs
  refine h.mono rfl fun v hv => ?_
  by_cases hm : v ∈ defs.map (·.name)
  · exact List.mem_append_right _ hm
  · exact List.mem_append_left _ (mem_untouched.mpr ⟨hv, hm⟩)

theorem OrderWritten.filter (h : r.OrderWritten d) {predicates : List Expr}
    (hs : r.filter d predicates = .ok r') : r'.OrderWritten d := by
  unfold Relation.filter at hs
  split at hs
  · obtain ⟨_, _, _, _, hm, _, rfl⟩ := filter_windows_ok.mp hs
    obtain ⟨_, _, _, _, rfl⟩ := mutate_ok.mp hm
    exact h
  · obtain ⟨_, _, rfl⟩ := filter_rows_ok.mp hs
    exact h

end Relation

/-- Every relation that is built has an ordering that can be written. -/
theorem Pipeline.Builds.order_written {t : Target} {p : Pipeline} {r : Relation}
    (h : p.Builds t r) : r.OrderWritten t.dialect := by
  induction h with
  | remote h | inMemory h =>
    obtain ⟨_, rfl⟩ := Relation.of_table_ok.mp h
    exact .of_unordered rfl
  | select _ h ih =>
    obtain ⟨_, _, _, _, rfl⟩ := Relation.select_ok.mp h
    exact ih.project _
  | rename _ h ih =>
    obtain ⟨_, _, _, rfl⟩ := Relation.rename_ok.mp h
    exact ih.project _
  | arrange _ h _ => exact .arrange h
  | summarise _ h _ =>
    obtain ⟨_, _, _, rfl⟩ := Relation.summarise_ok.mp h
    exact .of_unordered rfl
  | mutate _ h ih => exact ih.mutate h
  | groupBy _ h ih =>
    obtain ⟨_, _, rfl⟩ := Relation.group_by_ok.mp h
    exact ih
  | filter _ h ih => exact ih.filter h
  | distinct _ h ih =>
    obtain ⟨_, _, rfl⟩ := Relation.distinct_ok.mp h
    exact ih
  | ungroup _ ih | take _ ih => exact ih
  | join _ _ h _ _ =>
    obtain ⟨_, _, _, _, _, _, _, rfl⟩ := Relation.join_ok.mp h
    exact .of_unordered rfl
  | semiJoin _ _ h _ _ =>
    obtain ⟨_, rfl⟩ := Relation.semi_join_ok.mp h
    exact .of_unordered rfl
  | setOp _ _ h _ _ =>
    obtain ⟨_, rfl⟩ := Relation.set_op_ok.mp h
    exact .of_unordered rfl

end LayeredSql
