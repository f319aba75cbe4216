import LayeredSql.Proofs.Relation.Outcome

namespace LayeredSql

def Query.beneath (q : Query) (layers : List Layer) : Query :=
  layers.foldl .select q

/-- Two results that are the same layers over the one and the other query, or the same error. -/
def LaidAlike (q q' : Query) (x y : Except ε Query) : Prop :=
  ∃ laid : Except ε (List Layer), x = laid.map q.beneath ∧ y = laid.map q'.beneath

namespace Relation
variable {d : Dialect} {r r' : Relation}

def beneath (r : Relation) (laid : List Layer × List String) : Relation :=
  { r with query := r.query.beneath laid.1, vars := laid.2 }

structure Alike (r r' : Relation) : Prop where
  vars : r'.vars = r.vars
  groups : r'.groups = r.groups
  order : r'.order = r.order

theorem Alike.scope (h : r.Alike r') (d : Dialect) (clause : Clause) :
    r'.scope d clause = r.scope d clause := by
  simp only [Relation.scope, h.vars, h.groups, h.order]

theorem Alike.beneath (h : r.Alike r') (laid : List Layer × List String) :
    (r.beneath laid).Alike (r'.beneath laid) :=
  ⟨rfl, h.groups, h.order⟩

/-- What an operation does to two relations: it lays the same layers over both, or fails alike. -/
def LaysAlike (r r' : Relation) (x y : Except BuildError Relation) : Prop :=
  ∃ laid : Except BuildError (List Layer × List String),
    x = laid.map r.beneath ∧ y = laid.map r'.beneath

namespace LaysAlike
variable {x y : Except BuildError Relation}

theorem pure (laid : List Layer × List String) :
    LaysAlike r r' (Pure.pure (r.beneath laid)) (Pure.pure (r'.beneath laid)) :=
  ⟨.ok laid, rfl, rfl⟩

/-- A check that does not depend on the relation comes first. -/
theorem after (z : Except BuildError α) {f g : α → Except BuildError Relation}
    (h : ∀ a, LaysAlike r r' (f a) (g a)) : LaysAlike r r' (z >>= f) (z >>= g) := by
  cases z with
  | error e => exact ⟨.error e, rfl, rfl⟩
  | ok a => exact h a

theorem bind (h : LaysAlike r r' x y) {f g : Relation → Except BuildError Relation}
    (hf : ∀ laid, LaysAlike r r' (f (r.beneath laid)) (g (r'.beneath laid))) :
    LaysAlike r r' (x >>= f) (y >>= g) := by
  obtain ⟨laid, rfl, rfl⟩ := h
  cases laid with
  | error e => exact ⟨.error e, rfl, rfl⟩
  | ok laid => exact hf laid

theorem queries (h : LaysAlike r r' x y) :
    LaidAlike r.query r'.query (x.map (·.query)) (y.map (·.query)) := by
  obtain ⟨laid, rfl, rfl⟩ := h
  refine ⟨laid.map (·.1), ?_, ?_⟩
  · cases laid <;> rfl
  · cases laid <;> rfl

end LaysAlike

theorem mutate_alike (h : r.Alike r') (verb : Verb) (d : Dialect) (derived : List NamedExpr) :
    LaysAlike r r' (r.mutate verb d derived) (r'.mutate verb d derived) := by
  unfold mutate
  rw [h.scope]
  refine .after _ fun defs => .after _ fun texts => ?_
  simp only [h.vars]
  exact .pure ([{ items := (untouched r.vars defs).map (columnItem d) ++ labelled texts }],
    untouched r.vars defs ++ defs.map (·.name))

/-- One layer more, over the layers that there are. -/
theorem beneath_select (r : Relation) (laid : List Layer × List String) (layer : Layer)
    (vars : List String) :
    { r.beneath laid with query := .select (r.beneath laid).query layer, vars } =
      r.beneath (laid.1 ++ [layer], vars) := by
  simp [Relation.beneath, Query.beneath, List.foldl_append]

theorem filter_alike (h : r.Alike r') (d : Dialect) (predicates : List Expr) :
    LaysAlike r r' (r.filter d predicates) (r'.filter d predicates) := by
  unfold Relation.filter
  split
  · unfold filterWindows
    rw [h.vars]
    refine .after _ fun hoisting => (mutate_alike h .filter d hoisting.windows).bind fun laid => ?_
    rw [(h.beneath laid).scope]
    refine .after _ fun texts => ?_
    simp only [beneath_select]
    exact .pure _
  · unfold filterRows
    rw [h.scope]
    refine .after _ fun texts => ?_
    have hkept : ∀ s : Relation, { s with query := .select s.query { conditions := texts } } =
        s.beneath ([{ conditions := texts }], s.vars) := fun s => rfl
    rw [hkept, hkept, h.vars]
    exact .pure _

end Relation
end LayeredSql
