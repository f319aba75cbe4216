import LayeredSql.Proofs.Build.OrderText
import LayeredSql.Proofs.Relation.Inlined
import LayeredSql.Proofs.Relation.Liveness

namespace LayeredSql

namespace Relation
open Sql
variable {d : Dialect} {r : Relation} {before after derived : List NamedExpr}
variable {item : NamedExpr}

theorem mem_inlined_names {c : String} :
    c ∈ (inlinedAll derived).map (·.name) ↔ c ∈ derived.map (·.name) := by
  induction derived using List.reverseRecOn with
  | nil => rfl
  | append_singleton before item ih =>
    rw [inlined_all_snoc, define_names, List.map_append, List.mem_append, ← ih, List.map_singleton,
      List.mem_singleton]
    split
    · rename_i hm
      exact ⟨.inl, Or.rec id fun hc => hc ▸ hm⟩
    · rw [List.mem_append, List.mem_singleton]

/-- A definition stays until its name is derived again. -/
theorem definition_kept (before : List NamedExpr) (h : item.name ∉ after.map (·.name)) :
    definition? (inlinedAll (before ++ item :: after)) item.name = some (inlined before item) := by
  induction after using List.reverseRecOn with
  | nil => rw [inlined_all_snoc, definition_define, if_pos rfl]
  | append_singleton after other ih =>
    rw [List.map_append, List.mem_append, not_or] at h
    have hne : item.name ≠ other.name := fun he => h.2 (he ▸ List.mem_singleton_self _)
    rw [← List.cons_append, ← List.append_assoc, inlined_all_snoc, definition_define, if_neg hne]
    exact ih h.1

/-- What is in scope for an item: the columns, and the names that are derived before it. -/
def scopeAfter (r : Relation) (d : Dialect) (before : List NamedExpr) : Scope :=
  { r.scope d .derivation with vars := r.vars ++ before.map (·.name) }

def DefinitionsWritten (d : Dialect) (r : Relation) (derived : List NamedExpr) : Prop :=
  ∀ known ∈ inlinedAll derived, ∃ text, (r.scope d .derivation).render known.expr = .ok text

theorem mutate_succeeds (verb : Verb) : (∃ r', r.mutate verb d derived = .ok r') ↔
    NoneNests d.functions derived ∧ r.DefinitionsWritten d derived := by
  have hnamed : ∀ defs, (∃ texts, (r.scope d .derivation).renderNamed defs = .ok texts) ↔
      ∀ known ∈ defs, ∃ text, (r.scope d .derivation).render known.expr = .ok text := by
    intro defs
    simp only [Scope.renderNamed, mapM_succeeds, bind_succeeds_iff, pure_succeeds, and_true]
  simp only [mutate_ok, resolve_derived_ok, DefinitionsWritten, ← hnamed]
  constructor
  · rintro ⟨_, _, texts, ⟨hfree, rfl⟩, htexts, -⟩
    exact ⟨hfree, texts, htexts⟩
  · rintro ⟨hfree, texts, htexts⟩
    exact ⟨_, _, texts, ⟨hfree, rfl⟩, htexts, rfl⟩

/-- Over definitions that can be written, an item can be written with them in place of their names
exactly when it can be as it is given, with their names in scope. -/
theorem inlined_written_iff (ho : r.OrderWritten d) (hknown : r.DefinitionsWritten d before)
    (hfree : ∀ c ∈ item.expr.windowArguments d.functions false,
      isWindowed d.functions (inlinedAll before) c = false) :
    (∃ text, (r.scope d .derivation).render (inlined before item) = .ok text) ↔
      ∃ text, (r.scopeAfter d before).render item.expr = .ok text := by
  have horder : ∃ order, (r.scope d .derivation).orderText = .ok order := ho.order_text _
  have hwider : ({ r with vars := r.vars ++ before.map (·.name) } : Relation).OrderWritten d :=
    ho.mono rfl (List.subset_append_left _ _)
  have horder' : ∃ order, (r.scopeAfter d before).orderText = .ok order := hwider.order_text _
  constructor
  · intro h
    rw [← Expr.substitute_nothing item.expr]
    have halike : (r.scope d .derivation).Alike (r.scopeAfter d before) := ⟨rfl, rfl⟩
    refine text_substituted halike (fun _ _ _ => horder') item.expr (fun c _ hin => ?_)
      (fun _ _ => rfl) h
    refine has_text_column.mpr (List.mem_append.mpr ?_)
    rcases hin with hdefined | hc
    · obtain ⟨e, he⟩ := Option.isSome_iff_exists.mp hdefined
      obtain ⟨known, hm, rfl, -⟩ := definition_some he
      exact .inr (mem_inlined_names.mp (List.mem_map_of_mem hm))
    · exact .inl hc
  · intro h
    rw [← Expr.substitute_nothing item.expr] at h
    have halike : (r.scopeAfter d before).Alike (r.scope d .derivation) := ⟨rfl, rfl⟩
    refine text_substituted halike (fun _ _ _ => horder) item.expr (fun c _ hin => ?_)
      (fun c hc => definition_windowless (hfree c hc)) h
    cases hdef : definition? (inlinedAll before) c with
    | some e =>
      obtain ⟨known, hm, -, rfl⟩ := definition_some hdef
      exact hknown known hm
    | none =>
      have hnot : c ∉ before.map (·.name) := by
        intro hm
        obtain ⟨known, hk, rfl⟩ := List.mem_map.mp (mem_inlined_names.mpr hm)
        rw [definition_of_mem (inlined_all_nodup before) hk] at hdef
        cases hdef
      have hc : c ∈ r.vars ++ before.map (·.name) := hin.resolve_left (by simp)
      exact has_text_column.mpr ((List.mem_append.mp hc).resolve_right hnot)

/-- Of items whose definitions can all be written at the end, the definitions can be written after
each item exactly when every item that is derived anew later can be written as it is given. -/
theorem prefixes_written_iff (ho : r.OrderWritten d) (hfree : NoneNests d.functions derived)
    (hlast : r.DefinitionsWritten d derived) :
    (∀ before, before <+: derived → r.DefinitionsWritten d before) ↔
      ∀ before item after, derived = before ++ item :: after → item.name ∈ after.map (·.name) →
        ∃ text, (r.scopeAfter d before).render item.expr = .ok text := by
  constructor
  · rintro hall before item after rfl -
    have hbefore := hall before (List.prefix_append _ _)
    have hitem := hall (before ++ [item]) ⟨after, by simp⟩
    rw [← inlined_written_iff ho hbefore (hfree before item after rfl)]
    refine hitem ⟨item.name, inlined before item⟩ ?_
    rw [inlined_all_snoc]
    exact mem_define.mpr (.inl rfl)
  · rintro hgiven before ⟨after, rfl⟩
    induction before using List.reverseRecOn generalizing after with
    | nil => exact fun _ hm => nomatch hm
    | append_singleton before item ih =>
      have hcut : before ++ [item] ++ after = before ++ item :: after := by simp
      rw [hcut] at hfree hlast hgiven
      have hbefore := ih (item :: after) hfree hlast hgiven
      intro known hm
      rw [inlined_all_snoc] at hm
      rcases mem_define.mp hm with rfl | ⟨hm, -⟩
      · by_cases hagain : item.name ∈ after.map (·.name)
        · exact (inlined_written_iff ho hbefore (hfree before item after rfl)).mpr
            (hgiven before item after rfl hagain)
        · obtain ⟨known, hm, -, he⟩ := definition_some (definition_kept before hagain)
          rw [← he]
          exact hlast known hm
      · exact hbefore known hm

end Relation

namespace Pipeline
variable {t : Target} {input : Pipeline} {derived : List NamedExpr} {q : Query}

/-- Where a derivation builds, its first items build by themselves, however many of them, exactly
when every item that is derived anew later can be written as it is given, over the columns of the
input and the names derived before it. -/
theorem prefixes_build_iff (h : (mutate input derived).build t = .ok q) :
    ∃ r, input.relation t = .ok r ∧
      ((∀ before, before <+: derived → ∃ q', (mutate input before).build t = .ok q') ↔
        ∀ before item after, derived = before ++ item :: after → item.name ∈ after.map (·.name) →
          ∃ text, (r.scopeAfter t.dialect before).render item.expr = .ok text) := by
  obtain ⟨r', hr', rfl⟩ := build_ok.mp h
  obtain ⟨r, hr, hmutate⟩ := bind_ok.mp hr'
  have hbuilds : ∀ derived, (∃ q', (mutate input derived).build t = .ok q') ↔
      Relation.NoneNests t.dialect.functions derived ∧ r.DefinitionsWritten t.dialect derived := by
    intro derived
    rw [← Relation.mutate_succeeds .mutate]
    simp only [build, relation, bind_succeeds_iff, pure_succeeds, and_true, hr, Except.ok.injEq,
      exists_eq_left']
  obtain ⟨hfree, hlast⟩ := (hbuilds derived).mp ⟨_, h⟩
  refine ⟨r, hr, ?_⟩
  rw [← Relation.prefixes_written_iff (builds_of_ok hr).order_written hfree hlast]
  refine forall_congr' fun before => forall_congr' fun hb => ?_
  rw [hbuilds]
  obtain ⟨after, rfl⟩ := hb
  exact and_iff_right hfree.of_append

def sumReused : List NamedExpr :=
  [⟨"y", .binary .add (.column "x") (.literal (.int 1))⟩,
    ⟨"z", .call "cumsum" [.column "y"]⟩,
    ⟨"y", .binary .sub (.column "z") (.column "y")⟩]

theorem sum_reused_prefixes_build :
    let t : Target := ⟨.ansi, .standard⟩
    let input : Pipeline := .arrange (.remote ⟨none, "t"⟩ ["x"]) [⟨.column "x", true⟩]
    ∀ before, before <+: sumReused → ∃ q, (mutate input before).build t = .ok q := by
  intro t input
  have hb : ((mutate input sumReused).build t).isOk = true := by decide +kernel
  obtain ⟨q, h⟩ := exists_ok hb
  obtain ⟨r, hr, hiff⟩ := prefixes_build_iff h
  obtain rfl := Except.ok.inj hr
  refine hiff.mpr fun before item after hcut hagain => ?_
  -- Only the first item is derived again.
  match before with
  | [] =>
    obtain ⟨rfl, rfl⟩ := List.cons.inj hcut
    exact exists_ok (by decide +kernel)
  | [_] =>
    obtain ⟨-, hcut⟩ := List.cons.inj hcut
    obtain ⟨rfl, rfl⟩ := List.cons.inj hcut
    exact absurd hagain (by decide)
  | [_, _] =>
    obtain ⟨-, hcut⟩ := List.cons.inj hcut
    obtain ⟨-, hcut⟩ := List.cons.inj hcut
    obtain ⟨rfl, rfl⟩ := List.cons.inj hcut
    exact absurd hagain (by decide)
  | _ :: _ :: _ :: _ => simp [sumReused] at hcut

/-- An unknown column goes unnoticed in an item that is derived anew, and is refused in the same
item by itself. -/
theorem overwritten_item_unchecked :
    let t : Target := ⟨.ansi, .standard⟩
    let input : Pipeline := .remote ⟨none, "t"⟩ ["x"]
    let unknown : NamedExpr := ⟨"x", .column "zz"⟩
    (mutate input [unknown, ⟨"x", .literal (.int 1)⟩]).build t =
      .ok (.select (.table ⟨none, "t"⟩) { items := [⟨"1", some "x"⟩] }) ∧
    (mutate input [unknown]).build t =
      .error ⟨.mutate, .expr (.unknownColumn "zz" ["x"])⟩ :=
  ⟨rfl, rfl⟩

end Pipeline
end LayeredSql
