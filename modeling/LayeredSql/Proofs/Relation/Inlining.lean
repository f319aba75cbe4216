import LayeredSql.Proofs.Expr.Evaluation
import LayeredSql.Proofs.Relation.WellFormed
import Mathlib.Logic.Function.Basic

namespace LayeredSql.Relation
universe u
variable {V : Type u} {I : Interpretation V} {t : FunctionTable} {d : Dialect} {verb : Verb}
variable {derived defs defs' : List NamedExpr}

def computed (I : Interpretation V) (env : String → V) (item : NamedExpr) : String → V :=
  Function.update env item.name (item.expr.eval I env)

def computedAll (I : Interpretation V) (env : String → V) (derived : List NamedExpr) :
    String → V :=
  derived.foldl (computed I) env

/-- Evaluated over the input columns, the definitions so far give the values so far. -/
def Tracks (I : Interpretation V) (env : String → V) (defs : List NamedExpr) (now : String → V) :
    Prop :=
  Expr.replacedValue I env (definition? defs) = now

theorem Tracks.start (I : Interpretation V) (env : String → V) : Tracks I env [] env := rfl

/-- A new definition is the item with the columns at their present values, so it is computed from
the input columns alone. -/
theorem Tracks.define {env now : String → V} (h : Tracks I env defs now) (item : NamedExpr) :
    Tracks I env (define defs item.name (item.expr.substitute (definition? defs)))
      (computed I now item) := by
  have hvalue : (item.expr.substitute (definition? defs)).eval I env = item.expr.eval I now := by
    rw [Expr.eval_substitute, h]
  funext c
  unfold Expr.replacedValue computed
  rw [definition_define]
  by_cases hc : c = item.name
  · subst hc
    rw [if_pos rfl, Function.update_self]
    exact hvalue
  · rw [if_neg hc, Function.update_of_ne hc, ← h]
    rfl

theorem resolve_derived_tracks (I : Interpretation V) (env : String → V)
    (h : resolveDerived verb t derived = .ok defs) : Tracks I env defs (computedAll I env derived) := by
  refine foldlM_ok_tracks ?_ (Tracks.start I env) h
  intro before now item _ next hb hn
  obtain ⟨_, rfl⟩ := resolve_item_ok.mp hn
  exact hb.define item

/-- Each name stands once, where it was first defined. -/
theorem resolve_derived_names (h : resolveDerived verb t derived = .ok defs) :
    defs.map (·.name) = (derived.map (·.name)).eraseDups := by
  have htracks : defs.map (·.name) =
      (derived.foldl (fun names item => names ++ [item.name]) []).eraseDups := by
    refine foldlM_ok_tracks (R := fun defs (names : List String) =>
      defs.map (·.name) = names.eraseDups) (c := []) ?_ rfl h
    intro before names item _ next hb hn
    obtain ⟨_, rfl⟩ := resolve_item_ok.mp hn
    rw [define_names, hb, List.eraseDups_append]
    by_cases hm : item.name ∈ names
    · have hnone : [item.name].removeAll names = [] := by simp [List.removeAll, hm]
      rw [if_pos (List.mem_eraseDups.mpr hm), hnone, List.eraseDups_nil, List.append_nil]
    · have hnew : [item.name].removeAll names = [item.name] := by simp [List.removeAll, hm]
      rw [if_neg fun h => hm (List.mem_eraseDups.mp h), hnew, List.eraseDups_cons]
      rfl
  rw [htracks, List.foldl_append_eq_append, List.nil_append, ← List.flatMap_def,
    ← List.map_eq_flatMap]

/-- Being defined and being derived are the same. -/
theorem untouched_eq_filter (h : resolveDerived verb t derived = .ok defs) (vars : List String) :
    untouched vars defs = vars.filter fun v => v ∉ derived.map (·.name) := by
  apply List.filter_congr
  intro v _
  rw [Bool.eq_iff_iff, Bool.not_eq_true', ← Bool.not_eq_true, any_name, resolve_derived_names h,
    List.mem_eraseDups, decide_eq_true_eq]

/-- One layer for a whole derivation. Its definitions, one for each derived name, are written over
the input columns and give the values that the items have when computed one after another; the
columns are those of the input that are not derived, then the derived ones. -/
theorem mutate_sequential (h : resolveDerived verb d.functions derived = .ok defs) :
    defs.map (·.name) = (derived.map (·.name)).eraseDups ∧ (defs.map (·.name)).Nodup ∧
    (∀ {V : Type u} (I : Interpretation V) (env : String → V), ∀ item ∈ defs,
      item.expr.eval I env = computedAll I env derived item.name) ∧
    ∀ r r' : Relation, r.mutate verb d derived = .ok r' →
      let kept := r.vars.filter fun v => v ∉ derived.map (·.name)
      r'.vars = kept ++ (derived.map (·.name)).eraseDups ∧
        ∃ texts, (r.scope d .derivation).renderNamed defs = .ok texts ∧
          r'.query = .select r.query { items := kept.map (columnItem d) ++ labelled texts } := by
  have hnames := resolve_derived_names h
  have hn := resolve_derived_nodup h
  refine ⟨hnames, hn, ?_, ?_⟩
  · intro V I env item hm
    rw [← resolve_derived_tracks I env h, Expr.replacedValue, definition_of_mem hn hm]
    rfl
  · intro r r' hr
    obtain ⟨defs', texts, hd, ht, rfl⟩ := mutate_ok.mp hr
    obtain rfl := Except.ok.inj (h.symm.trans hd)
    simp only [untouched_eq_filter h, hnames]
    exact ⟨trivial, texts, ht, rfl⟩

def arithmetic : Interpretation Int where
  literal
    | .int n => n.toInt
    | _ => 0
  binary
    | .add, a, b => a + b
    | .mul, a, b => a * b
    | _, _, _ => 0
  unary _ _ := 0
  call _ _ := 0
  inSet _ _ := 0
  cast a _ := a

def compounding : List NamedExpr :=
  [⟨"x", .binary .add (.column "x") (.literal (.int 1))⟩,
    ⟨"y", .binary .mul (.column "x") (.column "x")⟩,
    ⟨"x", .binary .add (.column "y") (.column "x")⟩]

theorem compounding_sequential :
    ∃ defs, resolveDerived .mutate Dialect.ansi.functions compounding = .ok defs ∧
      defs.map (·.name) = ["x", "y"] ∧
      (∀ item ∈ defs, item.expr.eval arithmetic (fun _ => 2) =
        computedAll arithmetic (fun _ => 2) compounding item.name) ∧
      computedAll arithmetic (fun _ => 2) compounding "x" = 12 ∧
      ∀ r', Relation.mutate ⟨.table .inMemory, ["x", "z"], [], []⟩ .mutate .ansi compounding =
          .ok r' →
        r'.vars = ["z", "x", "y"] := by
  have hb : (resolveDerived .mutate Dialect.ansi.functions compounding).isOk = true := by
    decide +kernel
  obtain ⟨defs, h⟩ := exists_ok hb
  obtain ⟨hnames, _, hvalues, hvars⟩ := mutate_sequential h
  refine ⟨defs, h, hnames.trans (by decide), hvalues arithmetic _, by decide, ?_⟩
  intro r' hr
  exact (hvars _ r' hr).1.trans (by decide)

end LayeredSql.Relation
