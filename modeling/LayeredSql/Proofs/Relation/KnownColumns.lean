import LayeredSql.Proofs.Relation.Outcome
import LayeredSql.Proofs.Sql.KnownColumns
import LayeredSql.Relation.Derive

namespace LayeredSql.Relation
variable {d : Dialect} {r r' : Relation} {predicates : List Expr}

theorem filter_rows_found (hd : d.Supported) (h : r.filterRows d predicates = .ok r')
    (hu : ∀ p ∈ predicates, p.unread ⊆ r.vars) : ∀ p ∈ predicates, p.columns ⊆ r.vars := by
  obtain ⟨texts, ht, -⟩ := filter_rows_ok.mp h
  intro p hp
  obtain ⟨text, -, hr⟩ := mapM_ok_result ht hp
  have hscope := Sql.Scope.render_found (s := r.scope d .condition) hd (fun _ h => hu p hp h) hr
  exact fun c hc => hscope c hc

/-- Predicates with windows are folded first, and folding looks at every column. -/
theorem filter_windows_found (h : r.filterWindows d predicates = .ok r') :
    ∀ p ∈ predicates, p.columns ⊆ r.vars := by
  obtain ⟨hoisting, inner, texts, hh, -, -, -⟩ := filter_windows_ok.mp h
  obtain ⟨folded, hf, -⟩ := bind_ok.mp hh
  have hfound := (Expr.fold_all_from (t := d.functions) predicates hf).found
  rw [Expr.columnsOfAll_eq_flatMap] at hfound
  exact fun p hp c hc => hfound c (List.mem_flatMap.mpr ⟨p, hp, hc⟩)

/-- What is accepted is in scope, but for columns before a test for membership of nothing: an
expression that is written as SQL has all its columns in scope, and folds, exactly when these are
in scope. An expression refused for an unknown column is refused by folding as well. A filter that
is built, with windows or without, has all the columns of its predicates in scope, again exactly
when these are; with windows they always are. -/
theorem accepted_in_scope_iff (hd : d.Supported) :
    (∀ (s : Sql.Scope) (e : Expr), s.dialect = d →
      (∀ text, s.render e = .ok text →
        (e.columns ⊆ s.vars ↔ e.unread ⊆ s.vars) ∧
        ((∃ e', e.fold s.vars = .ok e') ↔ e.unread ⊆ s.vars)) ∧
      ((∀ key ∈ s.order, key.expr.columns ⊆ s.vars) → ∀ c available,
        s.render e = .error (.expr (.unknownColumn c available)) →
        c ∈ e.columns ∧ c ∉ s.vars ∧
          ∃ c', e.fold s.vars = .error (.unknownColumn c' s.vars))) ∧
    ∀ (r r' : Relation) (predicates : List Expr),
      (r.filterRows d predicates = .ok r' →
        ((∀ p ∈ predicates, p.columns ⊆ r.vars) ↔ ∀ p ∈ predicates, p.unread ⊆ r.vars)) ∧
      (r.filterWindows d predicates = .ok r' → ∀ p ∈ predicates, p.columns ⊆ r.vars) := by
  refine ⟨?_, ?_⟩
  · rintro s e rfl
    refine ⟨fun text h => ?_, fun ho c available h => ?_⟩
    · have hiff : e.columns ⊆ s.vars ↔ e.unread ⊆ s.vars :=
        ⟨fun hc _ hu => hc (Expr.unread_columns e hu),
          fun hu => Sql.Scope.render_found hd (fun _ h => hu h) h⟩
      exact ⟨hiff, Expr.fold_ok_iff.trans hiff⟩
    · obtain ⟨hc, hv⟩ := Sql.Scope.render_unknown (fun key hk _ h => ho key hk h) h
      refine ⟨hc, hv, ?_⟩
      rcases Expr.fold_outcome s.vars e with hok | ⟨c', -, -, herror⟩
      · exact absurd (Expr.fold_ok_iff.mp hok c hc) hv
      · exact ⟨c', herror⟩
  · intro r r' predicates
    refine ⟨fun h => ⟨fun hc p hp _ hu => ?_, filter_rows_found hd h⟩, filter_windows_found⟩
    exact hc p hp (Expr.unread_columns p hu)

def rankOrNothing : Expr :=
  .binary .or
    (.binary .gt (.call "min_rank" [.call "desc" [.column "x"]]) (.literal (.int 1)))
    (.inSet (.column "g") [])

theorem rank_or_nothing_in_scope :
    let s : Sql.Scope := ⟨.mysql, ["g", "x"], .derivation, ["g"], [⟨.column "x", false⟩]⟩
    Dialect.mysql.Supported ∧
      s.render rankOrNothing =
        .ok "(RANK() OVER (PARTITION BY \x60g\x60 ORDER BY \x60x\x60 DESC) > 1) OR FALSE" ∧
      rankOrNothing.unread = ["g"] ∧ rankOrNothing.columns ⊆ s.vars ∧
      ∃ e', rankOrNothing.fold s.vars = .ok e' := by
  intro s
  have hrender : s.render rankOrNothing =
      .ok "(RANK() OVER (PARTITION BY \x60g\x60 ORDER BY \x60x\x60 DESC) > 1) OR FALSE" := by
    cbv
  have hunread : rankOrNothing.unread ⊆ s.vars := by
    decide
  obtain ⟨hcolumns, hfolds⟩ := ((accepted_in_scope_iff .mysql).1 s _ rfl).1 _ hrender
  exact ⟨.mysql, hrender, rfl, hcolumns.mpr hunread, hfolds.mpr hunread⟩

/-- A misspelt column before a test for membership of nothing is written as SQL, and filtered on.
Folding refuses it, and the filter too once another predicate has a window. -/
theorem membership_of_nothing_unread :
    let s : Sql.Scope := ⟨.ansi, ["a"], .condition, [], []⟩
    let r : Relation := ⟨.table .inMemory, ["a"], [], []⟩
    let e : Expr := .inSet (.column "zz") []
    Dialect.ansi.Supported ∧ s.render e = .ok "FALSE" ∧ e.columns = ["zz"] ∧ "zz" ∉ s.vars ∧
      e.fold s.vars = .error (.unknownColumn "zz" ["a"]) ∧
      (∃ r', r.filter .ansi [e] = .ok r') ∧
      r.filter .ansi [e, .call "n" []] = .error ⟨.filter, .expr (.unknownColumn "zz" ["a"])⟩ :=
  ⟨.ansi, rfl, rfl, by decide, rfl, ⟨_, rfl⟩, rfl⟩

end LayeredSql.Relation
