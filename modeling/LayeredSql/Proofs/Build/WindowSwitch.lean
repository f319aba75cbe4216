import LayeredSql.Proofs.Build.Steps
import LayeredSql.Proofs.Sql.WindowSwitch

namespace LayeredSql
open Sql

def BuildError.WindowsMissing (d : Dialect) (e : BuildError) : Prop :=
  e.cause = .missing d.name .windowFunctions

theorem sql_checked_cut_short {d : Dialect} (verb : Verb) {x y : Except SqlError α}
    (h : CutShort (Sql.WindowsMissing d) x y) :
    CutShort (BuildError.WindowsMissing d) (Relation.sqlChecked verb x)
      (Relation.sqlChecked verb y) := by
  refine h.mapError ?_
  rintro _ rfl
  rfl

namespace Relation
variable (r : Relation) (d : Dialect)

/-- Each operation on one relation that writes expressions, with and without windows. -/
theorem arrange_cut_short (keys : List SortKey) :
    CutShort (BuildError.WindowsMissing d) (r.arrange d keys)
      (r.arrange (d.withWindowFunctions false) keys) :=
  (sql_checked_cut_short .arrange ((r.scope d .ordering).render_keys_cut_short keys)).bind fun _ => .refl _

theorem summarise_cut_short (aggregates : List NamedExpr) :
    CutShort (BuildError.WindowsMissing d) (r.summarise d aggregates)
      (r.summarise (d.withWindowFunctions false) aggregates) :=
  (sql_checked_cut_short .summarise ((r.scope d .summary).render_named_cut_short aggregates)).bind
    fun _ => .refl _

theorem mutate_cut_short (verb : Verb) (derived : List NamedExpr) :
    CutShort (BuildError.WindowsMissing d) (r.mutate verb d derived)
      (r.mutate verb (d.withWindowFunctions false) derived) :=
  (CutShort.refl (resolveDerived verb d.functions derived)).bind fun defs =>
    (sql_checked_cut_short verb ((r.scope d .derivation).render_named_cut_short defs)).bind
      fun _ => .refl _

theorem filter_rows_cut_short (predicates : List Expr) :
    CutShort (BuildError.WindowsMissing d) (r.filterRows d predicates)
      (r.filterRows (d.withWindowFunctions false) predicates) :=
  (sql_checked_cut_short .filter ((r.scope d .condition).render_all_cut_short predicates)).bind
    fun _ => .refl _

theorem filter_windows_cut_short (predicates : List Expr) :
    CutShort (BuildError.WindowsMissing d) (r.filterWindows d predicates)
      (r.filterWindows (d.withWindowFunctions false) predicates) :=
  (CutShort.refl (sqlChecked .filter
    ((Expr.hoistPredicates d.functions r.vars predicates).mapError .expr))).bind fun hoisting =>
      (r.mutate_cut_short d .filter hoisting.windows).bind fun inner =>
        (sql_checked_cut_short .filter
          ((inner.scope d .condition).render_all_cut_short hoisting.predicates)).bind
            fun _ => .refl _

theorem filter_cut_short (predicates : List Expr) :
    CutShort (BuildError.WindowsMissing d) (r.filter d predicates)
      (r.filter (d.withWindowFunctions false) predicates) := by
  have hfs : (d.withWindowFunctions false).functions = d.functions := rfl
  unfold Relation.filter
  rw [hfs]
  split
  · exact r.filter_windows_cut_short d predicates
  · exact r.filter_rows_cut_short d predicates

/-- Set operations are supported or not whatever the switch says. -/
theorem set_op_windows_off (l : Relation) (kind : SetKind) :
    l.setOp r (d.withWindowFunctions false) kind = l.setOp r d kind := by
  cases kind <;> rfl

end Relation

def Target.windowsOff (t : Target) : Target :=
  { t with dialect := t.dialect.withWindowFunctions false }

namespace Pipeline

/-- Both builds take the same steps, until the one without windows misses them. -/
theorem relation_cut_short (t : Target) (p : Pipeline) :
    CutShort (BuildError.WindowsMissing t.dialect) (p.relation t) (p.relation t.windowsOff) := by
  induction p with
  | remote | inMemory => exact .refl _
  | arrange input keys ih =>
    exact ih.bind fun r => r.arrange_cut_short t.dialect keys
  | summarise input aggregates ih =>
    exact ih.bind fun r => r.summarise_cut_short t.dialect aggregates
  | mutate input derived ih =>
    exact ih.bind fun r => r.mutate_cut_short t.dialect .mutate derived
  | filter input predicates ih =>
    exact ih.bind fun r => r.filter_cut_short t.dialect predicates
  | join left right kind keys suffixes ihl ihr =>
    exact ihl.bind fun l => ihr.bind fun r => .refl _
  | semiJoin left right anti keys ihl ihr =>
    exact ihl.bind fun l => ihr.bind fun r => .refl _
  | setOp left right kind ihl ihr =>
    refine ihl.bind fun l => ihr.bind fun r => ?_
    rw [Target.windowsOff, r.set_op_windows_off]
    exact .refl _
  | _ =>
    rename_i ih
    exact ih.bind fun r => .refl _

/-- Switching window functions off only removes successes. What builds without them builds with them
to the same query and columns, and what builds only with them fails for want of them. -/
theorem windows_off_removes_only (d : Dialect) (suffixes : Suffixes) (p : Pipeline) :
    (∀ q, p.build ⟨d.withWindowFunctions false, suffixes⟩ = .ok q →
      p.build ⟨d, suffixes⟩ = .ok q ∧
        p.outputVars ⟨d, suffixes⟩ = p.outputVars ⟨d.withWindowFunctions false, suffixes⟩) ∧
    ∀ q e, p.build ⟨d, suffixes⟩ = .ok q →
      p.build ⟨d.withWindowFunctions false, suffixes⟩ = .error e →
      e.cause = .missing d.name .windowFunctions := by
  have hcut := relation_cut_short ⟨d, suffixes⟩ p
  constructor
  · intro q h
    obtain ⟨r, hr, rfl⟩ := build_ok.mp h
    have hon : p.relation ⟨d, suffixes⟩ = .ok r := hcut.ok hr
    refine ⟨build_ok.mpr ⟨r, hon, rfl⟩, ?_⟩
    rw [outputVars, outputVars, hon]
    exact congrArg (fun x => x >>= _) hr.symm
  · intro q e h he
    exact (hcut.bind fun r => .refl (pure r.query)).error h he

def shares : Pipeline :=
  .mutate (.groupBy (.remote ⟨none, "sales"⟩ ["shop", "amount"]) ["shop"])
    [⟨"share", .binary .div (.column "amount") (.call "sum" [.column "amount"])⟩]

def totals : Pipeline :=
  .summarise (.groupBy (.remote ⟨none, "sales"⟩ ["shop", "amount"]) ["shop"])
    [⟨"total", .call "sum" [.column "amount"]⟩]

theorem shares_need_windows :
    (∃ q, totals.build ⟨Dialect.ansi.withWindowFunctions false, .standard⟩ = .ok q ∧
      totals.build ⟨.ansi, .standard⟩ = .ok q) ∧
    ∃ q e, shares.build ⟨.ansi, .standard⟩ = .ok q ∧
      shares.build ⟨Dialect.ansi.withWindowFunctions false, .standard⟩ = .error e ∧
      e.cause = .missing "ansi" .windowFunctions := by
  constructor
  · have hb : (totals.build ⟨Dialect.ansi.withWindowFunctions false, .standard⟩).isOk = true := by
      decide +kernel
    obtain ⟨q, h⟩ := exists_ok hb
    exact ⟨q, h, ((windows_off_removes_only .ansi .standard totals).1 q h).1⟩
  · have hb : (shares.build ⟨.ansi, .standard⟩).isOk = true := by decide +kernel
    obtain ⟨q, h⟩ := exists_ok hb
    have he : shares.build ⟨Dialect.ansi.withWindowFunctions false, .standard⟩ =
      .error ⟨.mutate, _⟩ := rfl
    exact ⟨q, _, h, he, (windows_off_removes_only .ansi .standard shares).2 q _ h he⟩

end Pipeline
end LayeredSql
