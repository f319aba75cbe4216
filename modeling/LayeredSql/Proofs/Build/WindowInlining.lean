import LayeredSql.Proofs.Build.FirstFailure
import LayeredSql.Proofs.Expr.NormalForm
import LayeredSql.Proofs.Relation.Inlined
import LayeredSql.Proofs.Relation.Liveness

namespace LayeredSql

namespace Expr
variable {t : FunctionTable}

def windowCalls (t : FunctionTable) (e : Expr) : Nat :=
  e.calls.countP fun call => t.isWindow call.1

/-- What the replacements of columns bring in. -/
def broughtIn (t : FunctionTable) (σ : String → Option Expr) (columns : List String) : Nat :=
  (columns.map fun c => (σ c).elim 0 (windowCalls t)).sum

theorem brought_in_append (σ : String → Option Expr) (cs ds : List String) :
    broughtIn t σ (cs ++ ds) = broughtIn t σ cs + broughtIn t σ ds := by
  rw [broughtIn, List.map_append, List.sum_append, broughtIn, broughtIn]

mutual

theorem calls_window_eq_any (e : Expr) :
    e.callsWindow t = e.calls.any fun call => t.isWindow call.1 := by
  match e with
  | .literal value => rfl
  | .column name => rfl
  | .binary op left right =>
    rw [callsWindow, calls_window_eq_any left, calls_window_eq_any right, calls, List.any_append]
  | .unary op operand => exact calls_window_eq_any operand
  | .call func args => rw [callsWindow, any_calls_window_eq_any_call args, calls, List.any_cons]
  | .inSet operand set =>
    rw [callsWindow, calls_window_eq_any operand, any_calls_window_eq_any_call set, calls,
      List.any_append]
  | .cast operand target => exact calls_window_eq_any operand

theorem any_calls_window_eq_any_call (es : List Expr) :
    anyCallsWindow t es = (callsOfAll es).any fun call => t.isWindow call.1 := by
  match es with
  | [] => rfl
  | e :: es =>
    rw [anyCallsWindow, calls_window_eq_any e, any_calls_window_eq_any_call es, callsOfAll,
      List.any_append]

end

theorem calls_window_iff {e : Expr} : e.callsWindow t = true ↔ 0 < e.windowCalls t := by
  rw [calls_window_eq_any, windowCalls, List.countP_pos_iff, List.any_eq_true]

mutual

theorem window_calls_substitute (σ : String → Option Expr) (e : Expr) :
    (e.substitute σ).windowCalls t = e.windowCalls t + broughtIn t σ e.columns := by
  match e with
  | .literal value => rfl
  | .column name =>
    cases hσ : σ name <;> simp [substitute, hσ, windowCalls, calls, broughtIn, columns]
  | .binary op left right =>
    have hl := window_calls_substitute σ left
    have hr := window_calls_substitute σ right
    simp only [windowCalls] at hl hr
    simp only [substitute, windowCalls, calls, List.countP_append, hl, hr, columns,
      brought_in_append]
    ac_rfl
  | .unary op operand => exact window_calls_substitute σ operand
  | .call func args =>
    simp only [substitute, windowCalls, calls, List.countP_cons, window_calls_substitute_all σ args,
      columns]
    ac_rfl
  | .inSet operand set =>
    have ho := window_calls_substitute σ operand
    simp only [windowCalls] at ho
    simp only [substitute, windowCalls, calls, List.countP_append, ho,
      window_calls_substitute_all σ set, columns, brought_in_append]
    ac_rfl
  | .cast operand target => exact window_calls_substitute σ operand

theorem window_calls_substitute_all (σ : String → Option Expr) (es : List Expr) :
    ((callsOfAll (substituteAll σ es)).countP fun call => t.isWindow call.1) =
      ((callsOfAll es).countP fun call => t.isWindow call.1) + broughtIn t σ (columnsOfAll es) := by
  match es with
  | [] => rfl
  | e :: es =>
    have he := window_calls_substitute σ e
    simp only [windowCalls] at he
    simp only [substituteAll, callsOfAll, List.countP_append, he, window_calls_substitute_all σ es,
      columnsOfAll, brought_in_append]
    ac_rfl

end

/-- A substitution adds window calls exactly where a replaced column comes to have some. -/
theorem window_calls_grow {σ : String → Option Expr} {e : Expr} :
    e.windowCalls t < (e.substitute σ).windowCalls t ↔
      ∃ c ∈ e.columns, (σ c).any (·.callsWindow t) = true := by
  rw [window_calls_substitute, Nat.lt_add_right_iff_pos, broughtIn, Nat.pos_iff_ne_zero, Ne,
    List.sum_eq_zero_iff]
  simp only [List.forall_mem_map, not_forall]
  refine exists_congr fun c => ?_
  cases σ c <;> simp [calls_window_iff, Nat.pos_iff_ne_zero]

mutual

/-- The columns inside window arguments are those of the operands of windows. -/
theorem window_arguments_iff (e : Expr) {c : String} :
    c ∈ e.windowArguments t false ↔ ∃ operand ∈ e.windowOperands t, c ∈ operand.columns := by
  match e with
  | .literal value => simp [windowArguments, windowOperands]
  | .column name => simp [windowArguments, windowOperands]
  | .binary op left right =>
    simp only [windowArguments, windowOperands, List.mem_append, window_arguments_iff left,
      window_arguments_iff right, or_and_right, exists_or]
  | .unary op operand => exact window_arguments_iff operand
  | .call func args =>
    have hargs : ∀ c, c ∈ columnsOfAll args ↔ ∃ operand ∈ args, c ∈ operand.columns := by
      simp [columnsOfAll_eq_flatMap]
    rw [windowArguments, windowOperands, Bool.false_or]
    cases hw : t.isWindow func with
    | true =>
      have hinner : (∃ operand ∈ windowOperandsOfAll t args, c ∈ operand.columns) →
          ∃ operand ∈ args, c ∈ operand.columns := fun h =>
        (hargs c).mp (window_arguments_columns_all args ((window_arguments_all_iff args).mpr h))
      rw [window_arguments_inside_all, hargs]
      simp only [if_true, List.mem_append, or_and_right, exists_or]
      exact ⟨.inl, Or.rec id hinner⟩
    | false => simpa using window_arguments_all_iff args
  | .inSet operand set =>
    simp only [windowArguments, windowOperands, List.mem_append, window_arguments_iff operand,
      window_arguments_all_iff set, or_and_right, exists_or]
  | .cast operand target => exact window_arguments_iff operand

theorem window_arguments_all_iff (es : List Expr) {c : String} :
    c ∈ windowArgumentsOfAll t false es ↔
      ∃ operand ∈ windowOperandsOfAll t es, c ∈ operand.columns := by
  match es with
  | [] => simp [windowArgumentsOfAll, windowOperandsOfAll]
  | e :: es =>
    simp only [windowArgumentsOfAll, windowOperandsOfAll, List.mem_append, window_arguments_iff e,
      window_arguments_all_iff es, or_and_right, exists_or]

end

end Expr

/-- The causes that are told as an operation without support. -/
def BuildCause.isUnsupported : BuildCause → Bool
  | .windowOverWindow .. | .distinctOn .. => true
  | .collision .. | .expr .. | .missing .. => false

theorem BuildError.of_sql_supported (verb : Verb) (e : SqlError) :
    (ofSql verb e).cause.isUnsupported = false := by
  cases e <;> rfl

namespace Relation
variable {t : FunctionTable} {d : Dialect} {r : Relation} {before defs derived : List NamedExpr}
variable {verb : Verb} {item : NamedExpr}

/-- Written out, the item has more window calls in something passed to a window. -/
def NestsMore (t : FunctionTable) (before : List NamedExpr) (item : NamedExpr) : Prop :=
  ∃ operand ∈ item.expr.windowOperands t,
    operand.windowCalls t < (operand.substitute (definition? (inlinedAll before))).windowCalls t

theorem nests_more_iff : NestsMore t before item ↔
    ∃ c ∈ item.expr.windowArguments t false, isWindowed t (inlinedAll before) c = true := by
  simp only [NestsMore, Expr.window_calls_grow, Expr.window_arguments_iff,
    windowed_iff (inlined_all_nodup before)]
  constructor
  · rintro ⟨operand, ho, c, hc, hw⟩
    exact ⟨c, ⟨operand, ho, hc⟩, hw⟩
  · rintro ⟨c, ⟨operand, ho, hc⟩, hw⟩
    exact ⟨operand, ho, c, hc, hw⟩

theorem none_nests_iff : NoneNests t derived ↔
    ∀ before item after, derived = before ++ item :: after → ¬ NestsMore t before item := by
  simp [NoneNests, nests_more_iff]

/-- Inlining is refused where it would put a window into a window, and nowhere else. -/
theorem inlining_refused_iff (verb : Verb) :
    (∃ e, resolveDerived verb t derived = .error e) ↔ ¬ NoneNests t derived := by
  cases h : resolveDerived verb t derived with
  | error e =>
    refine iff_of_true ⟨e, rfl⟩ fun hnone => ?_
    rw [resolve_derived_ok.mpr ⟨hnone, rfl⟩] at h
    cases h
  | ok defs => exact iff_of_false nofun (not_not.mpr (resolve_derived_ok.mp h).1)

theorem resolve_derived_error {e : BuildError} (h : resolveDerived verb t derived = .error e) :
    e.cause.isUnsupported = true := by
  obtain ⟨defs, item, -, he⟩ := foldlM_error h
  unfold resolveItem at he
  split at he
  · cases he
    rfl
  · cases he

/-- The one support a derivation can lack is for inlining. -/
theorem mutate_unsupported_iff :
    (∃ e, r.mutate verb d derived = .error e ∧ e.cause.isUnsupported = true) ↔
      ∃ e, resolveDerived verb d.functions derived = .error e := by
  unfold mutate
  constructor
  · intro ⟨e, h, hu⟩
    rcases bind_error.mp h with h | ⟨defs, -, h⟩
    · exact ⟨e, h⟩
    · rcases bind_error.mp h with h | ⟨texts, -, h⟩
      · obtain ⟨cause, -, rfl⟩ := map_error_error.mp h
        rw [BuildError.of_sql_supported] at hu
        cases hu
      · cases h
  · intro ⟨e, h⟩
    exact ⟨e, bind_error.mpr (.inl h), resolve_derived_error h⟩

/-- Items that nest no windows come to definitions that nest none, if nothing nests more. -/
theorem inlined_nests_none (hgiven : ∀ item ∈ derived, item.expr.nestsWindow t = false)
    (hfree : NoneNests t derived) :
    (∀ before item after, derived = before ++ item :: after →
      (inlined before item).nestsWindow t = false) ∧
    ∀ known ∈ inlinedAll derived, known.expr.nestsWindow t = false := by
  induction derived using List.reverseRecOn with
  | nil => exact ⟨by simp, by simp [inlinedAll]⟩
  | append_singleton before item ih =>
    rw [List.forall_mem_append] at hgiven
    obtain ⟨hbefore, hitem⟩ := none_nests_snoc.mp hfree
    obtain ⟨hcuts, hknown⟩ := ih hgiven.1 hbefore
    have hlast : (inlined before item).nestsWindow t = false := by
      rw [inlined, Expr.nests_substitute _ fun c hc => definition_windowless (hitem c hc),
        hgiven.2 item List.mem_cons_self, Bool.false_or, ← Bool.not_eq_true,
        Expr.definitions_bring_in (inlined_all_nodup before)]
      rintro ⟨known, hm, -, hn⟩
      rw [hknown known hm] at hn
      cases hn
    refine ⟨forall_cuts_snoc.mpr ⟨hcuts, hlast⟩, fun known hm => ?_⟩
    rw [inlined_all_snoc] at hm
    rcases mem_define.mp hm with rfl | ⟨hm, -⟩
    · exact hlast
    · exact hknown known hm

end Relation

namespace Pipeline
variable {t : Target} {input : Pipeline} {r : Relation}

/-- Over an input that builds, a derivation is refused as unsupported exactly when an item, with
the names before it written out, would have another window call in something that it passes to a
window. If it is not, and no item as given has a window in a window, none has one written out. -/
theorem mutate_refuses_nesting (hr : input.relation t = .ok r) (derived : List NamedExpr) :
    let fs := t.dialect.functions
    ((∃ e, (mutate input derived).build t = .error e ∧ e.cause.isUnsupported = true) ↔
      ∃ before item after, derived = before ++ item :: after ∧
        Relation.NestsMore fs before item) ∧
    ((∀ e, (mutate input derived).build t = .error e → e.cause.isUnsupported = false) →
      (∀ item ∈ derived, item.expr.nestsWindow fs = false) →
      (∀ before item after, derived = before ++ item :: after →
        (Relation.inlined before item).nestsWindow fs = false) ∧
      (∀ known ∈ Relation.inlinedAll derived, known.expr.nestsWindow fs = false) ∧
      Relation.resolveDerived .mutate fs derived = .ok (Relation.inlinedAll derived)) := by
  intro fs
  have hrel : (mutate input derived).relation t = r.mutate .mutate t.dialect derived := by
    rw [relation, hr]
    rfl
  have hrefused : (∃ e, (mutate input derived).build t = .error e ∧ e.cause.isUnsupported = true) ↔
      ¬ Relation.NoneNests fs derived := by
    rw [← Relation.inlining_refused_iff .mutate,
      ← Relation.mutate_unsupported_iff (r := r)]
    simp only [build_error, hrel]
  refine ⟨?_, fun hsupported hgiven => ?_⟩
  · rw [hrefused, Relation.none_nests_iff]
    push Not
    rfl
  · have hnone : Relation.NoneNests fs derived := by
      by_contra hnests
      obtain ⟨e, he, hu⟩ := hrefused.mpr hnests
      rw [hsupported e he] at hu
      cases hu
    obtain ⟨hcuts, hknown⟩ := Relation.inlined_nests_none hgiven hnone
    exact ⟨hcuts, hknown, Relation.resolve_derived_ok.mpr ⟨hnone, rfl⟩⟩

def sumRedefined : List NamedExpr :=
  [⟨"a", .call "cumsum" [.column "x"]⟩,
    ⟨"b", .binary .sub (.column "a") (.column "x")⟩,
    ⟨"a", .binary .add (.column "x") (.literal (.int 1))⟩,
    ⟨"c", .binary .add (.call "sum" [.column "a"]) (.column "b")⟩]

theorem sum_redefined_nests_nothing :
    let t : Target := ⟨.ansi, .standard⟩
    let input : Pipeline := .remote ⟨none, "t"⟩ ["x"]
    (∃ q, (mutate input sumRedefined).build t = .ok q) ∧
    (∀ known ∈ Relation.inlinedAll sumRedefined,
      known.expr.nestsWindow t.dialect.functions = false) ∧
    ∃ e, (mutate input (sumRedefined ++ [⟨"d", .call "lag" [.column "b"]⟩])).build t = .error e ∧
      e.cause.isUnsupported = true := by
  intro t input
  have hr : input.relation t = .ok ⟨.table ⟨none, "t"⟩, ["x"], [], []⟩ := rfl
  have hb : ((mutate input sumRedefined).build t).isOk = true := by decide +kernel
  obtain ⟨q, hq⟩ := exists_ok hb
  refine ⟨⟨q, hq⟩, ?_, ?_⟩
  · refine ((mutate_refuses_nesting hr sumRedefined).2 ?_ ?_).2.1
    · rw [hq]
      exact nofun
    · decide +kernel
  · refine (mutate_refuses_nesting hr _).1.mpr
      ⟨sumRedefined, _, [], rfl, .column "b", ?_, ?_⟩
    · exact List.mem_cons_self
    · decide +kernel

end Pipeline
end LayeredSql
