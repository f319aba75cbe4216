import LayeredSql.Proofs.Build.Steps
import LayeredSql.Proofs.Relation.Provenance
import Mathlib.Data.List.Infix

namespace LayeredSql

namespace Pipeline
variable {t : Target} {p : Pipeline} {e : BuildError}

def inputs : Pipeline → List Pipeline
  | .remote _ _ | .inMemory _ => []
  | .select input _ | .rename input _ | .arrange input _ | .summarise input _ | .mutate input _
  | .groupBy input _ | .ungroup input | .filter input _ | .distinct input _ _
  | .take input _ => [input]
  | .join left right _ _ _ | .semiJoin left right _ _ | .setOp left right _ => [left, right]

/-- The way from the root of a pipeline to one of its parts: which input to follow each time. -/
abbrev Place := List Nat

def part? : Pipeline → Place → Option Pipeline
  | p, [] => some p
  | p, i :: place => p.inputs[i]?.bind (·.part? place)

/-- Evaluation comes to one place before the other: inputs before what reads them, and the left
input before the right. -/
inductive Place.Before : Place → Place → Prop where
  | input {i : Nat} {place : Place} : Before (i :: place) []
  | left {i j : Nat} {place other : Place} : i < j → Before (i :: place) (j :: other)
  | within {i : Nat} {place other : Place} : Before place other → Before (i :: place) (i :: other)

theorem Place.before_total : ∀ place other : Place,
    place = other ∨ place.Before other ∨ other.Before place
  | [], [] => .inl rfl
  | [], _ :: _ => .inr (.inr .input)
  | _ :: _, [] => .inr (.inl .input)
  | i :: place, j :: other => by
    rcases Nat.lt_trichotomy i j with hlt | rfl | hgt
    · exact .inr (.inl (.left hlt))
    · rcases before_total place other with rfl | hb | hb
      · exact .inl rfl
      · exact .inr (.inl (.within hb))
      · exact .inr (.inr (.within hb))
    · exact .inr (.inr (.left hgt))

/-- The part at the place fails, and all that is evaluated before it builds. -/
structure FailsFirst (t : Target) (p : Pipeline) (place : Place) : Prop where
  fails : ∃ part e, p.part? place = some part ∧ part.build t = .error e
  before : ∀ earlier, Place.Before earlier place → ∀ part, p.part? earlier = some part →
    ∃ q, part.build t = .ok q

/-- Of two places, evaluation comes to one first. -/
theorem FailsFirst.unique {place other : Place} (h : p.FailsFirst t place)
    (h' : p.FailsFirst t other) : other = place := by
  have hnot : ∀ {a b : Place}, p.FailsFirst t a → p.FailsFirst t b → ¬ a.Before b := by
    intro a b ha hb hab
    obtain ⟨part, e, hp, he⟩ := ha.fails
    obtain ⟨q, hq⟩ := hb.before a hab part hp
    rw [he] at hq
    cases hq
  rcases Place.before_total other place with he | hb | hb
  · exact he
  · exact absurd hb (hnot h' h)
  · exact absurd hb (hnot h h')

/-- The error `e` of `p` comes from the part at the place: it bears the name of that operation,
whose own inputs are fine, and on the way up nothing changes it. -/
structure Blames (t : Target) (p : Pipeline) (e : BuildError) (place : Place) (part : Pipeline) :
    Prop where
  found : p.part? place = some part
  fails : part.build t = .error e
  verb : e.verb = part.verb
  inputs : ∀ input ∈ part.inputs, ∃ q, input.build t = .ok q
  before : ∀ earlier, Place.Before earlier place → ∀ other, p.part? earlier = some other →
    ∃ q, other.build t = .ok q
  passed_on : ∀ above, above <+: place → ∃ node, p.part? above = some node ∧
    node.build t = .error e

theorem Blames.fails_first {place : Place} {part : Pipeline} (h : p.Blames t e place part) :
    p.FailsFirst t place :=
  ⟨⟨part, e, h.found, h.fails⟩, h.before⟩

theorem build_error : p.build t = .error e ↔ p.relation t = .error e := by
  unfold build
  cases p.relation t <;> simp [bind, Except.bind, pure, Except.pure]

theorem output_vars_error : p.outputVars t = .error e ↔ p.relation t = .error e := by
  unfold outputVars
  cases p.relation t <;> simp [bind, Except.bind, pure, Except.pure]

/-- An operation fails with the error of its first input that fails, or else by itself and under
its own name. -/
inductive Stops (t : Target) (p : Pipeline) (e : BuildError) : Prop where
  | input {i : Nat} {input : Pipeline} : p.inputs[i]? = some input → input.build t = .error e →
    (∀ j < i, ∀ other, p.inputs[j]? = some other → ∃ q, other.build t = .ok q) → Stops t p e
  | own : (∀ input ∈ p.inputs, ∃ q, input.build t = .ok q) → e.verb = p.verb → Stops t p e

theorem Stops.first {input : Pipeline} {rest : List Pipeline} (hi : p.inputs = input :: rest)
    (h : input.relation t = .error e) : p.Stops t e := by
  refine .input (i := 0) (by rw [hi]; rfl) (build_error.mpr h) ?_
  exact fun j hj => absurd hj (Nat.not_lt_zero j)

theorem Stops.of_one {input : Pipeline} {f : Relation → Except BuildError Relation}
    (hi : p.inputs = [input]) (hf : ∀ r, Bears p.verb (f r))
    (h : (input.relation t >>= f) = .error e) : p.Stops t e := by
  cases hr : input.relation t with
  | error e' =>
    rw [hr] at h
    obtain rfl := Except.error.inj h
    exact .first hi hr
  | ok r =>
    rw [hr] at h
    refine .own ?_ (hf r e h)
    rw [hi, List.forall_mem_singleton]
    exact ⟨_, build_ok.mpr ⟨r, hr, rfl⟩⟩

theorem Stops.of_two {left right : Pipeline} {f : Relation → Relation → Except BuildError Relation}
    (hi : p.inputs = [left, right]) (hf : ∀ l r, Bears p.verb (f l r))
    (h : (left.relation t >>= fun l => right.relation t >>= f l) = .error e) : p.Stops t e := by
  cases hl : left.relation t with
  | error e' =>
    rw [hl] at h
    obtain rfl := Except.error.inj h
    exact .first hi hl
  | ok l =>
    have hleft : ∃ q, left.build t = .ok q := ⟨_, build_ok.mpr ⟨l, hl, rfl⟩⟩
    rw [hl] at h
    cases hr : right.relation t with
    | error e' =>
      have he : e' = e := by
        rw [hr] at h
        exact Except.error.inj h
      refine .input (i := 1) (by rw [hi]; rfl) (build_error.mpr (he ▸ hr)) ?_
      intro j hj other ho
      obtain rfl := Nat.lt_one_iff.mp hj
      rw [hi] at ho
      obtain rfl := Option.some.inj ho
      exact hleft
    | ok r =>
      have hown : f l r = .error e := by
        rw [hr] at h
        exact h
      refine .own ?_ (hf l r e hown)
      rw [hi, List.forall_mem_cons, List.forall_mem_singleton]
      exact ⟨hleft, _, build_ok.mpr ⟨r, hr, rfl⟩⟩

theorem stops_of_error (h : p.build t = .error e) : p.Stops t e := by
  have h := build_error.mp h
  have hleaf : ∀ input ∈ ([] : List Pipeline), ∃ q, input.build t = .ok q :=
    fun _ hm => absurd hm List.not_mem_nil
  cases p with
  | remote table vars => exact .own hleaf (Relation.of_table_bears .remote table vars e h)
  | inMemory vars => exact .own hleaf (Relation.of_table_bears .inMemory .inMemory vars e h)
  | select _ columns => exact .of_one rfl (fun r => r.select_bears t.dialect columns) h
  | rename _ renames => exact .of_one rfl (fun r => r.rename_bears .rename t.dialect renames) h
  | arrange _ keys => exact .of_one rfl (fun r => r.arrange_bears t.dialect keys) h
  | summarise _ aggregates => exact .of_one rfl (fun r => r.summarise_bears t.dialect aggregates) h
  | mutate _ derived => exact .of_one rfl (fun r => r.mutate_bears .mutate t.dialect derived) h
  | groupBy _ vars => exact .of_one rfl (fun r => r.group_by_bears vars) h
  | ungroup => exact .of_one rfl (fun r => .ok r.ungroup) h
  | filter _ predicates => exact .of_one rfl (fun r => r.filter_bears t.dialect predicates) h
  | distinct _ columns keepAll => exact .of_one rfl (fun r => r.distinct_bears columns keepAll) h
  | take _ limit => exact .of_one rfl (fun r => .ok (r.take limit)) h
  | join _ _ kind keys suffixes =>
    exact .of_two rfl
      (fun l r => l.join_bears r t.dialect kind keys (suffixes.getD t.suffixes)) h
  | semiJoin _ _ anti keys => exact .of_two rfl (fun l r => l.semi_join_bears r anti keys) h
  | setOp _ _ kind => exact .of_two rfl (fun l r => l.set_op_bears r t.dialect kind) h

theorem input_mem_parts {input : Pipeline} (h : input ∈ p.inputs) : input ∈ p.parts := by
  cases p with
  | remote | inMemory => cases h
  | join | semiJoin | setOp =>
    rcases List.mem_cons.mp h with rfl | h
    · exact List.mem_cons_of_mem _ (List.mem_append_left _ (self_mem_parts _))
    · obtain rfl := List.mem_singleton.mp h
      exact List.mem_cons_of_mem _ (List.mem_append_right _ (self_mem_parts _))
  | _ =>
    obtain rfl := List.mem_singleton.mp h
    exact List.mem_cons_of_mem _ (self_mem_parts _)

/-- All that can be found in a pipeline that builds builds. -/
theorem part_builds {place : Place} {part : Pipeline} (hp : p.part? place = some part)
    (h : ∃ q, p.build t = .ok q) : ∃ q, part.build t = .ok q := by
  induction place generalizing p with
  | nil =>
    obtain rfl := Option.some.inj hp
    exact h
  | cons i place ih =>
    obtain ⟨input, hi, hp⟩ := Option.bind_eq_some_iff.mp hp
    refine ih hp ?_
    obtain ⟨_, h⟩ := h
    obtain ⟨r, hr, _⟩ := build_ok.mp h
    obtain ⟨r', hb⟩ := (builds_of_ok hr).parts_build input
      (input_mem_parts (List.mem_of_getElem? hi))
    exact ⟨_, hb.build⟩

/-- What holds of a pipeline whenever it holds of its inputs holds of every pipeline. -/
theorem inputs_induction {P : Pipeline → Prop} (h : ∀ p, (∀ input ∈ p.inputs, P input) → P p)
    (p : Pipeline) : P p := by
  induction p with
  | remote | inMemory => exact h _ fun _ hm => absurd hm List.not_mem_nil
  | join _ _ _ _ _ ihl ihr | semiJoin _ _ _ _ ihl ihr | setOp _ _ _ ihl ihr =>
    refine h _ ?_
    rw [inputs, List.forall_mem_cons, List.forall_mem_singleton]
    exact ⟨ihl, ihr⟩
  | _ =>
    rename_i ih
    exact h _ (List.forall_mem_singleton.mpr ih)

/-- An error that an operation makes itself is its own. -/
theorem Blames.own (h : p.build t = .error e) (hi : ∀ input ∈ p.inputs, ∃ q, input.build t = .ok q)
    (hv : e.verb = p.verb) : p.Blames t e [] p where
  found := rfl
  fails := h
  verb := hv
  inputs := hi
  before := by
    intro earlier hb other ho
    cases hb with
    | input =>
      obtain ⟨input, hin, ho⟩ := Option.bind_eq_some_iff.mp ho
      exact part_builds ho (hi input (List.mem_of_getElem? hin))
  passed_on := by
    intro above ha
    obtain rfl := List.prefix_nil.mp ha
    exact ⟨p, rfl, h⟩

/-- An error that comes from an input is passed on, when the inputs before it are fine. -/
theorem Blames.of_input {i : Nat} {input part : Pipeline} {place : Place}
    (h : p.build t = .error e) (hi : p.inputs[i]? = some input) (hb : input.Blames t e place part)
    (hl : ∀ j < i, ∀ other, p.inputs[j]? = some other → ∃ q, other.build t = .ok q) :
    p.Blames t e (i :: place) part where
  found := Option.bind_eq_some_iff.mpr ⟨input, hi, hb.found⟩
  fails := hb.fails
  verb := hb.verb
  inputs := hb.inputs
  before := by
    intro earlier he other ho
    cases he with
    | left hlt =>
      obtain ⟨sibling, hs, ho⟩ := Option.bind_eq_some_iff.mp ho
      exact part_builds ho (hl _ hlt sibling hs)
    | within he =>
      obtain ⟨input', hi', ho⟩ := Option.bind_eq_some_iff.mp ho
      obtain rfl := Option.some.inj (hi.symm.trans hi')
      exact hb.before _ he other ho
  passed_on := by
    intro above ha
    rcases List.prefix_cons_iff.mp ha with rfl | ⟨rest, rfl, hr⟩
    · exact ⟨p, rfl, h⟩
    · obtain ⟨node, hn, he⟩ := hb.passed_on rest hr
      exact ⟨node, Option.bind_eq_some_iff.mpr ⟨input, hi, hn⟩, he⟩

/-- Every error comes from some part. -/
theorem exists_blamed (h : p.build t = .error e) : ∃ place part, p.Blames t e place part := by
  induction p using inputs_induction with
  | h p ih =>
    cases stops_of_error h with
    | own hi hv => exact ⟨[], p, .own h hi hv⟩
    | input hi he hl =>
      obtain ⟨place, part, hb⟩ := ih _ (List.mem_of_getElem? hi) he
      exact ⟨_, part, .of_input h hi hb hl⟩

/-- Errors blame the right operation. A pipeline that fails has one part that fails first, all
evaluated before it being built, and the error is that part's own, named after its operation and
handed on by everything above. The columns cannot be told either, for the same reason. -/
theorem failure_blames_first (t : Target) (p : Pipeline) :
    (∀ e, p.outputVars t = .error e ↔ p.build t = .error e) ∧
      ∀ e, p.build t = .error e → ∃ place part, p.Blames t e place part ∧
        ∀ other, p.FailsFirst t other ↔ other = place := by
  refine ⟨fun e => output_vars_error.trans build_error.symm, fun e h => ?_⟩
  obtain ⟨place, part, hb⟩ := exists_blamed h
  refine ⟨place, part, hb, fun other => ⟨hb.fails_first.unique, ?_⟩⟩
  rintro rfl
  exact hb.fails_first

/-- A filter on a column that its selection drops, to the right of a join, and a rename over them
that would fail as well. -/
def droppedColumn : Pipeline :=
  .rename
    (.join (.inMemory ["a"])
      (.filter (.select (.inMemory ["b", "c"]) [⟨.column "b", none⟩]) [.column "c"]) .inner [] none)
    [⟨"missing", "a"⟩]

theorem dropped_column_blamed :
    ∃ e place part, droppedColumn.build ⟨.ansi, .standard⟩ = .error e ∧
      droppedColumn.outputVars ⟨.ansi, .standard⟩ = .error e ∧
      droppedColumn.Blames ⟨.ansi, .standard⟩ e place part ∧ part.verb = .filter := by
  obtain ⟨hvars, hall⟩ := failure_blames_first ⟨.ansi, .standard⟩ droppedColumn
  have h : droppedColumn.build ⟨.ansi, .standard⟩ =
      .error ⟨.filter, .expr (.unknownColumn "c" ["b"])⟩ := rfl
  obtain ⟨place, part, hb, _⟩ := hall _ h
  exact ⟨_, place, part, h, (hvars _).mpr h, hb, hb.verb.symm⟩

end Pipeline
end LayeredSql
