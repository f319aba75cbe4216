import LayeredSql.Proofs.Relation.Derivation
import Mathlib.Data.List.Induction

namespace LayeredSql.Relation
variable {verb : Verb} {t : FunctionTable} {before defs derived : List NamedExpr} {item : NamedExpr}

/-- The definitions that items come to, whether or not windows get into windows. -/
def inlinedAll (derived : List NamedExpr) : List NamedExpr :=
  derived.foldl (fun defs item =>
    define defs item.name (item.expr.substitute (definition? defs))) []

/-- An item after others, written out over the columns of the input. -/
def inlined (before : List NamedExpr) (item : NamedExpr) : Expr :=
  item.expr.substitute (definition? (inlinedAll before))

theorem inlined_all_snoc (before : List NamedExpr) (item : NamedExpr) :
    inlinedAll (before ++ [item]) = define (inlinedAll before) item.name (inlined before item) :=
  List.foldl_append

/-- A list with one more item is cut at that item, or where the list is. -/
theorem forall_cuts_snoc {P : List α → α → Prop} {xs : List α} {x : α} :
    (∀ before y after, xs ++ [x] = before ++ y :: after → P before y) ↔
      (∀ before y after, xs = before ++ y :: after → P before y) ∧ P xs x := by
  constructor
  · intro h
    refine ⟨?_, h xs x [] rfl⟩
    rintro before y after rfl
    exact h before y (after ++ [x]) (by simp)
  · rintro ⟨hcuts, hlast⟩ before y after hcut
    rcases List.eq_nil_or_concat after with rfl | ⟨rest, z, rfl⟩
    · obtain ⟨rfl, rfl⟩ := List.append_singleton_inj.mp hcut
      exact hlast
    · have hassoc : before ++ y :: rest.concat z = before ++ y :: rest ++ [z] := by simp
      rw [hassoc, List.append_singleton_inj] at hcut
      exact hcuts before y rest hcut.1

theorem inlined_all_nodup (derived : List NamedExpr) :
    ((inlinedAll derived).map (·.name)).Nodup := by
  induction derived using List.reverseRecOn with
  | nil => exact List.nodup_nil
  | append_singleton before item ih =>
    rw [inlined_all_snoc]
    exact define_names_nodup ih

/-- No item has a name inside the arguments of a window that is a window itself. -/
def NoneNests (t : FunctionTable) (derived : List NamedExpr) : Prop :=
  ∀ before item after, derived = before ++ item :: after →
    ∀ c ∈ item.expr.windowArguments t false, isWindowed t (inlinedAll before) c = false

theorem NoneNests.of_append {after : List NamedExpr} (h : NoneNests t (before ++ after)) :
    NoneNests t before := by
  rintro first item rest rfl
  exact h first item (rest ++ after) (by simp)

theorem none_nests_snoc : NoneNests t (before ++ [item]) ↔ NoneNests t before ∧
    ∀ c ∈ item.expr.windowArguments t false, isWindowed t (inlinedAll before) c = false :=
  forall_cuts_snoc

/-- What is not refused comes to the definitions that the items come to anyway. -/
theorem resolve_derived_ok : resolveDerived verb t derived = .ok defs ↔
    NoneNests t derived ∧ defs = inlinedAll derived := by
  unfold resolveDerived
  induction derived using List.reverseRecOn generalizing defs with
  | nil =>
    rw [List.foldlM_nil, pure_ok]
    simp [inlinedAll, NoneNests]
  | append_singleton before item ih =>
    simp only [List.foldlM_append, List.foldlM_cons, List.foldlM_nil, bind_ok, pure_ok, ih,
      resolve_item_ok, none_nests_snoc, inlined_all_snoc]
    constructor
    · rintro ⟨_, ⟨hbefore, rfl⟩, _, ⟨hitem, rfl⟩, rfl⟩
      exact ⟨⟨hbefore, hitem⟩, rfl⟩
    · rintro ⟨⟨hbefore, hitem⟩, rfl⟩
      exact ⟨_, ⟨hbefore, rfl⟩, _, ⟨hitem, rfl⟩, rfl⟩

/-- The name is defined, and what defines it has a window. -/
theorem windowed_iff (hn : (defs.map (·.name)).Nodup) {c : String} :
    isWindowed t defs c = (definition? defs c).any (·.callsWindow t) := by
  rw [Bool.eq_iff_iff, isWindowed, List.any_eq_true, Option.any_eq_true]
  constructor
  · rintro ⟨i, hm, hi⟩
    obtain ⟨hname, hcalls⟩ := Bool.and_eq_true_iff.mp hi
    rw [← beq_iff_eq.mp hname]
    exact ⟨i.expr, definition_of_mem hn hm, hcalls⟩
  · rintro ⟨_, hdef, hcalls⟩
    obtain ⟨i, hm, rfl, rfl⟩ := definition_some hdef
    exact ⟨i, hm, Bool.and_eq_true_iff.mpr ⟨beq_self_eq_true _, hcalls⟩⟩

end LayeredSql.Relation
