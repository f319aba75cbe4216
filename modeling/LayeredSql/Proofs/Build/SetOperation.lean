import LayeredSql.Proofs.Relation.WellFormed

namespace LayeredSql

namespace Relation
variable {d : Dialect} {r : Relation} {vars : List String}

/-- A query that gives the columns `vars` of a relation, one after another: the query as it is if
these are its columns, and else one layer over it, with NULL for the columns it lacks. -/
structure AlignedTo (d : Dialect) (r : Relation) (vars : List String) (q : Query) : Prop where
  kept : r.vars = vars → q = r.query
  laid : r.vars ≠ vars → ∃ items : List SelectItem,
    q = .select r.query { items } ∧ items.length = vars.length ∧
      ∀ i (hi : i < vars.length),
        (vars[i] ∈ r.vars → items[i]? = some ⟨d.quote vars[i], none⟩) ∧
        (vars[i] ∉ r.vars → items[i]? = some ⟨"NULL", some vars[i]⟩)

theorem aligned_to (d : Dialect) (r : Relation) (vars : List String) :
    r.AlignedTo d vars (r.aligned d vars).query where
  kept hv := congrArg query (if_pos hv)
  laid hv := by
    refine ⟨_, congrArg query (if_neg hv), List.length_map _, fun i hi => ?_⟩
    rw [List.getElem?_map, List.getElem?_eq_getElem hi, Option.map_some]
    exact ⟨fun hm => congrArg some (if_pos hm), fun hm => congrArg some (if_neg hm)⟩

theorem merged_eq (l r : Relation) : merged l r = l.vars ++ r.vars.filter fun v => v ∉ l.vars := by
  unfold merged
  congr 1
  refine List.filter_congr fun v _ => ?_
  simp

/-- Without the capability nothing else is looked at. -/
theorem set_op_missing {l : Relation} {kind : SetKind} (h : d.supports (.setOp kind) = false) :
    l.setOp r d kind = .error ⟨.setOp, .missing d.name (.setOp kind)⟩ := by
  simp only [setOp, Dialect.require, h, Bool.false_eq_true, if_false]
  rfl

end Relation

namespace Pipeline
variable {t : Target} {left right : Pipeline} {l r : Relation}

/-- A set operation over two pipelines that build has the columns of the left, then those only the
right has, no name twice. With the capability it builds, ungrouped and unordered, each side aligned
to these columns on its own; without it the missing capability is the error. -/
theorem set_op_pairs_by_name (hl : left.relation t = .ok l) (hr : right.relation t = .ok r)
    (kind : SetKind) :
    let vars := l.vars ++ r.vars.filter fun v => v ∉ l.vars
    vars.Nodup ∧
    (t.dialect.supports (.setOp kind) = true → ∃ ql qr,
      (setOp left right kind).relation t = .ok ⟨.setOp ql qr kind, vars, [], []⟩ ∧
        l.AlignedTo t.dialect vars ql ∧ r.AlignedTo t.dialect vars qr) ∧
    (t.dialect.supports (.setOp kind) = false →
      (setOp left right kind).relation t =
        .error ⟨.setOp, .missing t.dialect.name (.setOp kind)⟩) := by
  intro vars
  have hmerged : Relation.merged l r = vars := Relation.merged_eq l r
  refine ⟨?_, fun hs => ?_, fun hs => ?_⟩
  · rw [← hmerged]
    exact Relation.merged_nodup (builds_of_ok hl).well_formed (builds_of_ok hr).well_formed
  · refine ⟨(l.aligned t.dialect vars).query, (r.aligned t.dialect vars).query, ?_,
      Relation.aligned_to .., Relation.aligned_to ..⟩
    have hset : l.setOp r t.dialect kind =
        .ok ⟨.setOp (l.aligned t.dialect vars).query (r.aligned t.dialect vars).query kind,
          vars, [], []⟩ :=
      Relation.set_op_ok.mpr ⟨hs, by rw [hmerged]⟩
    exact relation_ok.mpr (.setOp (builds_of_ok hl) (builds_of_ok hr) hset)
  · rw [relation, hl, hr]
    exact Relation.set_op_missing hs

def stacked (kind : SetKind) : Pipeline :=
  .setOp (.remote ⟨none, "x"⟩ ["a", "b", "c"]) (.remote ⟨none, "y"⟩ ["c", "b"]) kind

theorem stacked_pairs_by_name :
    let t : Target := ⟨.mysql, .standard⟩
    (∃ items,
      (stacked .unionAll).relation t =
        .ok ⟨.setOp (.table ⟨none, "x"⟩) (.select (.table ⟨none, "y"⟩) { items }) .unionAll,
          ["a", "b", "c"], [], []⟩ ∧
      items.length = 3 ∧ items[0]? = some ⟨"NULL", some "a"⟩ ∧
      items[1]? = some ⟨"\x60b\x60", none⟩ ∧ items[2]? = some ⟨"\x60c\x60", none⟩) ∧
    (stacked .except).relation t = .error ⟨.setOp, .missing "mysql" (.setOp .except)⟩ := by
  intro t
  have hl : (remote ⟨none, "x"⟩ ["a", "b", "c"]).relation t =
      .ok ⟨.table ⟨none, "x"⟩, ["a", "b", "c"], [], []⟩ := rfl
  have hr : (remote ⟨none, "y"⟩ ["c", "b"]).relation t =
      .ok ⟨.table ⟨none, "y"⟩, ["c", "b"], [], []⟩ := rfl
  have hall := set_op_pairs_by_name hl hr
  have hvars : (["a", "b", "c"] ++ ["c", "b"].filter fun v => v ∉ ["a", "b", "c"]) =
      ["a", "b", "c"] := by decide
  simp only [hvars] at hall
  obtain ⟨-, hbuilds, -⟩ := hall .unionAll
  obtain ⟨ql, qr, hrel, hql, hqr⟩ := hbuilds rfl
  obtain rfl := hql.kept rfl
  obtain ⟨items, rfl, hlen, hitems⟩ := hqr.laid (by decide)
  refine ⟨⟨items, hrel, hlen, ?_, ?_, ?_⟩, (hall .except).2.2 rfl⟩
  · exact (hitems 0 (by decide)).2 (by decide)
  · rw [(hitems 1 (by decide)).1 (by decide)]
    decide +kernel
  · rw [(hitems 2 (by decide)).1 (by decide)]
    decide +kernel

end Pipeline
end LayeredSql
