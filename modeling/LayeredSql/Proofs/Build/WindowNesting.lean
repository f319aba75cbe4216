import LayeredSql.Proofs.Build.Emission
import LayeredSql.Proofs.Build.WindowFilter
import LayeredSql.Proofs.Relation.Liveness
import LayeredSql.Proofs.Sql.Windowless

namespace LayeredSql.Pipeline
variable {t : Target} {p : Pipeline} {r : Relation}

/-- A window in the arguments of another, in an expression as it is given: in an item of a
derivation that its result is made of, in an aggregate or in a predicate. -/
def NestsWindows (fs : FunctionTable) : Pipeline → Bool
  | .mutate _ derived => (Relation.liveItems derived).any (·.expr.nestsWindow fs)
  | .summarise _ aggregates => aggregates.any (·.expr.nestsWindow fs)
  | .filter _ predicates => predicates.any (·.nestsWindow fs)
  | _ => false

/-- What nests windows among the emitted expressions was given so. -/
theorem Emits.nests_given (hd : t.dialect.Supported) {s : Sql.Scope} {e : Expr}
    (he : p.Emits t s e) (hn : e.nestsWindow t.dialect.functions = true) :
    p.NestsWindows t.dialect.functions = true := by
  cases he with
  | derived _ hdefs hm =>
    rw [NestsWindows, List.any_eq_true]
    exact (Relation.resolve_derived_nests hdefs).mp ⟨_, hm, hn⟩
  | aggregate _ hm => exact List.any_eq_true.mpr ⟨_, hm, hn⟩
  | hoisted hr _ hh hdefs hm =>
    have hv := (builds_of_ok hr).well_formed.vars_distinct
    obtain rfl := Except.ok.inj ((Relation.resolve_hoisted hd.one_per_name hv hh).symm.trans hdefs)
    rw [NestsWindows, ← Expr.hoist_predicates_nests hd.one_per_name hv hh]
    exact List.any_eq_true.mpr ⟨_, hm, hn⟩
  | condition _ hw hm =>
    exact absurd (Expr.calls_of_nests hn) (List.any_eq_false.mp hw _ hm)
  | rest hr _ hh _ hm =>
    have hv := (builds_of_ok hr).well_formed.vars_distinct
    have hclean := (Expr.hoist_predicates_lossless hd.one_per_name hv hh).clean _ hm
    rw [Expr.nests_of_windowless hclean] at hn
    cases hn

/-- Windows that nest when given nest when emitted. -/
theorem Builds.nests_emitted (hd : t.dialect.Supported) (h : p.Builds t r)
    (hn : p.NestsWindows t.dialect.functions = true) :
    ∃ s e, p.Emits t s e ∧ e.nestsWindow t.dialect.functions = true := by
  cases h with
  | mutate hr h =>
    obtain ⟨defs, _, hdefs, _, _⟩ := Relation.mutate_ok.mp h
    rw [NestsWindows, List.any_eq_true] at hn
    obtain ⟨item, hm, hi⟩ := (Relation.resolve_derived_nests hdefs).mpr hn
    exact ⟨_, _, .derived (relation_ok.mpr hr) hdefs hm, hi⟩
  | summarise hr h =>
    obtain ⟨item, hm, hi⟩ := List.any_eq_true.mp hn
    exact ⟨_, _, .aggregate (relation_ok.mpr hr) hm, hi⟩
  | @filter input predicates r₀ r hr h =>
    have hw : predicates.any (·.callsWindow t.dialect.functions) = true := by
      obtain ⟨e, hm, he⟩ := List.any_eq_true.mp hn
      exact List.any_eq_true.mpr ⟨e, hm, Expr.calls_of_nests he⟩
    rw [Relation.filter, if_pos hw] at h
    obtain ⟨hoisting, _, _, hh, hm, _, _⟩ := Relation.filter_windows_ok.mp h
    have hv := hr.well_formed.vars_distinct
    rw [NestsWindows, ← Expr.hoist_predicates_nests hd.one_per_name hv hh] at hn
    obtain ⟨item, hm, hi⟩ := List.any_eq_true.mp hn
    have hself := Relation.resolve_hoisted hd.one_per_name hv hh
    exact ⟨_, _, .hoisted (relation_ok.mpr hr) hw hh hself hm, hi⟩
  | _ => cases hn

/-- What the layers of a query select and filter by are bare columns and emitted expressions. Among
these some nest windows exactly where the pipeline was given such expressions, so inlining and
hoisting add no nesting. In an emitted expression that nests none, what is passed to windows is
written as a WHERE clause would have it, without a window or an aggregate. -/
theorem nesting_given (hd : t.dialect.Supported) {q : Query} (h : p.build t = .ok q) :
    p.AccountsFor t q ∧ ∀ part ∈ p.parts,
      ((∃ s e, part.Emits t s e ∧ e.nestsWindow t.dialect.functions = true) ↔
        part.NestsWindows t.dialect.functions = true) ∧
      ∀ s e, part.Emits t s e →
        (∃ text, s.render e = .ok text ∧ q.Writes text) ∧
        (e.nestsWindow t.dialect.functions = false →
          ∀ operand ∈ e.windowOperands t.dialect.functions, ∀ keys nested,
            Sql.fragment keys s nested operand =
              Sql.fragment keys { s with clause := .condition } nested operand) := by
  obtain ⟨r, hr, rfl⟩ := build_ok.mp h
  have hbuilds := builds_of_ok hr
  refine ⟨hbuilds.accounted, fun part hpart => ?_⟩
  obtain ⟨r', hr'⟩ := hbuilds.parts_build part hpart
  refine ⟨⟨?_, hr'.nests_emitted hd⟩, fun s e he => ⟨?_, ?_⟩⟩
  · rintro ⟨s, e, he, hn⟩
    exact he.nests_given hd hn
  · obtain ⟨text, hrender, hwrites⟩ := hr'.emitted_written he
    exact ⟨text, hrender, hwrites.mono (hbuilds.parts_below part hpart r' hr')⟩
  · intro hn operand ho keys nested
    have hclean : operand.callsWindow s.dialect.functions = false := by
      rw [he.dialect]
      exact Bool.not_eq_true _ ▸ List.any_eq_false.mp hn operand ho
    exact (Sql.fragment_windowless .condition operand hclean).symm

def jumps : Pipeline :=
  .summarise
    (.filter
      (.mutate (.remote ⟨none, "t"⟩ ["x"])
        [⟨"before", .call "lag" [.column "x"]⟩,
          ⟨"jump", .binary .sub (.column "x") (.column "before")⟩])
      [.binary .gt (.column "jump") (.call "mean" [.column "jump"])])
    [⟨"total", .call "sum" [.column "jump"]⟩]

theorem jumps_nest_nothing :
    ∃ q, jumps.build ⟨.ansi, .standard⟩ = .ok q ∧
      ∀ part ∈ jumps.parts, ∀ s e, part.Emits ⟨.ansi, .standard⟩ s e →
        e.nestsWindow FunctionTable.builtin = false ∧
          ∃ text, s.render e = .ok text ∧ q.Writes text := by
  have hb : (jumps.build ⟨.ansi, .standard⟩).isOk = true := by decide +kernel
  obtain ⟨q, h⟩ := exists_ok hb
  have hgiven : ∀ part ∈ jumps.parts, part.NestsWindows FunctionTable.builtin = false := by
    decide +kernel
  refine ⟨q, h, fun part hpart s e he => ?_⟩
  obtain ⟨hiff, hall⟩ := (nesting_given .ansi h).2 part hpart
  refine ⟨?_, (hall s e he).1⟩
  by_contra hn
  have hnests := hiff.mp ⟨s, e, he, Bool.not_eq_false _ ▸ hn⟩
  exact absurd hnests (Bool.not_eq_true _ ▸ hgiven part hpart)

def sumOfLag : Pipeline :=
  .mutate (.remote ⟨none, "t"⟩ ["x"]) [⟨"y", .call "sum" [.call "lag" [.column "x"]]⟩]

/-- It is built as it is given, a window in the argument of a window. -/
theorem sum_of_lag_nests :
    ∃ q s e, sumOfLag.build ⟨.ansi, .standard⟩ = .ok q ∧
      sumOfLag.Emits ⟨.ansi, .standard⟩ s e ∧ e.nestsWindow FunctionTable.builtin = true ∧
      s.render e = .ok "SUM(LAG(\x22x\x22) OVER ()) OVER ()" ∧
      q.Writes "SUM(LAG(\x22x\x22) OVER ()) OVER ()" := by
  refine ⟨_, _, _, rfl, .derived rfl rfl List.mem_cons_self, by decide +kernel, rfl, ?_⟩
  exact Query.select_writes _ (by decide +kernel)

end LayeredSql.Pipeline
