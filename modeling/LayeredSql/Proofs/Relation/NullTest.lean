import LayeredSql.Proofs.Relation.Inlined
import LayeredSql.Proofs.Relation.Liveness
import LayeredSql.Proofs.Relation.Outcome

namespace LayeredSql

structure Operation where
  op : BinaryOp
  left : Expr
  right : Expr

namespace Operation

def expr (o : Operation) : Expr :=
  .binary o.op o.left o.right

def substitute (σ : String → Option Expr) (o : Operation) : Operation :=
  ⟨o.op, o.left.substitute σ, o.right.substitute σ⟩

end Operation

namespace Expr
variable {σ : String → Option Expr} {o : Operation}

mutual

def operations : Expr → List Operation
  | .literal _ => []
  | .column _ => []
  | .binary op left right => ⟨op, left, right⟩ :: (left.operations ++ right.operations)
  | .unary _ operand => operand.operations
  | .call _ args => operationsOfAll args
  | .inSet operand set => operand.operations ++ operationsOfAll set
  | .cast operand _ => operand.operations

def operationsOfAll : List Expr → List Operation
  | [] => []
  | e :: es => e.operations ++ operationsOfAll es

end

/-- An operation of a substituted expression: one of its own with its operands substituted, or one
of a replacement. -/
def Arises (σ : String → Option Expr) (os : List Operation) (columns : List String)
    (o : Operation) : Prop :=
  (∃ given ∈ os, given.substitute σ = o) ∨ ∃ c ∈ columns, ∃ e, σ c = some e ∧ o ∈ e.operations

theorem arises_append {os ps : List Operation} {cs ds : List String} :
    Arises σ (os ++ ps) (cs ++ ds) o ↔ Arises σ os cs o ∨ Arises σ ps ds o := by
  simp only [Arises, List.mem_append, or_and_right, exists_or]
  exact or_or_or_comm

mutual

theorem mem_operations_substitute (e : Expr) :
    o ∈ (e.substitute σ).operations ↔ Arises σ e.operations e.columns o := by
  match e with
  | .literal value => simp [substitute, operations, columns, Arises]
  | .column name => cases hσ : σ name <;> simp [substitute, hσ, operations, columns, Arises]
  | .binary op left right =>
    have hself : o = ⟨op, left.substitute σ, right.substitute σ⟩ ↔
        Arises σ [⟨op, left, right⟩] [] o := by
      simp [Arises, Operation.substitute, eq_comm]
    rw [substitute, operations, List.mem_cons, List.mem_append, hself,
      mem_operations_substitute left, mem_operations_substitute right, ← arises_append,
      ← arises_append]
    rfl
  | .unary op operand => exact mem_operations_substitute operand
  | .call func args => exact mem_operations_substitute_all args
  | .inSet operand set =>
    rw [substitute, operations, List.mem_append, mem_operations_substitute operand,
      mem_operations_substitute_all set, ← arises_append]
    rfl
  | .cast operand target => exact mem_operations_substitute operand

theorem mem_operations_substitute_all (es : List Expr) :
    o ∈ operationsOfAll (substituteAll σ es) ↔
      Arises σ (operationsOfAll es) (columnsOfAll es) o := by
  match es with
  | [] => simp [substituteAll, operationsOfAll, columnsOfAll, Arises]
  | e :: es =>
    rw [substituteAll, operationsOfAll, List.mem_append, mem_operations_substitute e,
      mem_operations_substitute_all es, ← arises_append]
    rfl

end

end Expr

namespace Sql
variable {keys : Except SqlError (List String)} {s : Scope} {nested : Bool} {o : Operation}

def TestsNull (keys : Except SqlError (List String)) (s : Scope) (nested : Bool) (o : Operation)
    (text : String) : Prop :=
  ∃ lhs, fragment keys s true o.left = .ok lhs ∧
    (text = parenthesised nested (lhs ++ " IS NULL") ∨
      text = parenthesised nested (lhs ++ " IS NOT NULL"))

def Compares (keys : Except SqlError (List String)) (s : Scope) (nested : Bool) (o : Operation)
    (text : String) : Prop :=
  ∃ lhs rhs, fragment keys s true o.left = .ok lhs ∧ fragment keys s true o.right = .ok rhs ∧
    text = parenthesised nested (lhs ++ " " ++ operatorText o.op ++ " " ++ rhs)

theorem parenthesised_injective {a b : String}
    (h : parenthesised nested a = parenthesised nested b) : a = b := by
  cases nested with
  | false => exact h
  | true =>
    have hchars := congrArg String.toList h
    simpa [parenthesised, String.toList_inj] using hchars

/-- After the left operand a test and a comparison go on differently. -/
theorem TestsNull.not_compares {text : String} (ho : o.op = .eq ∨ o.op = .ne)
    (h : TestsNull keys s nested o text) : ¬ Compares keys s nested o text := by
  obtain ⟨lhs, hl, h⟩ := h
  rintro ⟨_, rhs, hl', -, rfl⟩
  obtain rfl := Except.ok.inj (hl.symm.trans hl')
  rcases h with h | h
  all_goals
    have hchars := congrArg String.toList (parenthesised_injective h)
    rcases ho with ho | ho
    all_goals simp [ho, operatorText] at hchars

/-- A comparison is written as a test for NULL if its right operand is the constant NULL, and with
its operator otherwise. -/
theorem comparison_written {text : String} (ho : o.op = .eq ∨ o.op = .ne)
    (h : fragment keys s nested o.expr = .ok text) :
    (TestsNull keys s nested o text ↔ o.right = .literal .null) ∧
      (Compares keys s nested o text ↔ o.right ≠ .literal .null) := by
  have hcases : (o.right = .literal .null ∧ TestsNull keys s nested o text) ∨
      (o.right ≠ .literal .null ∧ Compares keys s nested o text) := by
    obtain ⟨op, left, right⟩ := o
    simp only [Operation.expr, fragment, bind_ok] at h
    obtain ⟨lhs, hl, h⟩ := h
    by_cases hr : right = .literal .null
    · refine .inl ⟨hr, lhs, hl, ?_⟩
      subst hr
      rcases ho with rfl | rfl
      · exact .inl (pure_ok.mp h)
      · exact .inr (pure_ok.mp h)
    · have hplain : nullTest? op right = none := by
        unfold nullTest?
        split
        · exact absurd rfl hr
        · exact absurd rfl hr
        · rfl
      rw [hplain] at h
      obtain ⟨rhs, hrhs, h⟩ := bind_ok.mp h
      have hop : ¬ (op = .ilike ∧ ¬ s.dialect.supports .ilike = true) := by
        rcases ho with rfl | rfl <;> simp
      rw [operation, if_neg hop] at h
      exact .inr ⟨hr, lhs, rhs, hl, hrhs, pure_ok.mp h⟩
  rcases hcases with ⟨hr, ht⟩ | ⟨hr, hc⟩
  · exact ⟨iff_of_true ht hr, iff_of_false (ht.not_compares ho) (not_not.mpr hr)⟩
  · exact ⟨iff_of_false (fun ht => ht.not_compares ho hc) hr, iff_of_true hc hr⟩

end Sql

namespace Relation
variable {verb : Verb} {d : Dialect} {r r' : Relation} {before derived : List NamedExpr} {o : Operation}

/-- A name that the items define as NULL, by the constant itself or by another such name. -/
inductive NullNamed : List NamedExpr → String → Prop where
  | constant {before : List NamedExpr} {name : String} :
    NullNamed (before ++ [⟨name, .literal .null⟩]) name
  | copied {before : List NamedExpr} {name other : String} : NullNamed before other →
    NullNamed (before ++ [⟨name, .column other⟩]) name
  | kept {before : List NamedExpr} {item : NamedExpr} {name : String} : NullNamed before name →
    item.name ≠ name → NullNamed (before ++ [item]) name

/-- Only the constant, or a column that is replaced by it, becomes the constant NULL. -/
theorem substitute_eq_null {σ : String → Option Expr} {e : Expr} :
    e.substitute σ = .literal .null ↔
      e = .literal .null ∨ ∃ c, e = .column c ∧ σ c = some (.literal .null) := by
  cases e with
  | literal value => simp [Expr.substitute]
  | column name => cases hσ : σ name <;> simp [Expr.substitute, hσ]
  | _ => simp [Expr.substitute]

theorem null_named_iff {c : String} :
    definition? (inlinedAll derived) c = some (.literal .null) ↔ NullNamed derived c := by
  induction derived using List.reverseRecOn generalizing c with
  | nil =>
    refine ⟨nofun, fun h => ?_⟩
    generalize hnil : ([] : List NamedExpr) = items at h
    cases h <;> simp at hnil
  | append_singleton before item ih =>
    rw [inlined_all_snoc, definition_define]
    constructor
    · intro h
      split at h
      · rename_i hc
        subst hc
        rcases substitute_eq_null.mp (Option.some.inj h) with he | ⟨other, he, hother⟩
        · obtain ⟨name, _⟩ := item
          obtain rfl := he
          exact .constant
        · obtain ⟨name, _⟩ := item
          obtain rfl := he
          exact .copied (ih.mp hother)
      · rename_i hc
        exact .kept (ih.mp h) (Ne.symm hc)
    · generalize hitems : before ++ [item] = items
      intro h
      cases h with
      | constant =>
        obtain ⟨-, rfl⟩ := List.append_singleton_inj.mp hitems
        exact if_pos rfl
      | copied hother =>
        obtain ⟨rfl, rfl⟩ := List.append_singleton_inj.mp hitems
        rw [if_pos rfl]
        exact congrArg some (substitute_eq_null.mpr (.inr ⟨_, rfl, ih.mpr hother⟩))
      | kept hname hne =>
        obtain ⟨rfl, rfl⟩ := List.append_singleton_inj.mp hitems
        rw [if_neg (Ne.symm hne)]
        exact ih.mpr hname

/-- The operations in definitions are those of the items, each with the names before it written
out. -/
theorem operation_given {known : NamedExpr} (hk : known ∈ inlinedAll derived)
    (ho : o ∈ known.expr.operations) : ∃ before item after, derived = before ++ item :: after ∧
      ∃ given ∈ item.expr.operations, given.substitute (definition? (inlinedAll before)) = o := by
  induction derived using List.reverseRecOn generalizing known with
  | nil => cases hk
  | append_singleton before item ih =>
    have hearlier : ∀ known ∈ inlinedAll before, o ∈ known.expr.operations →
        ∃ b i a, before ++ [item] = b ++ i :: a ∧
          ∃ given ∈ i.expr.operations, given.substitute (definition? (inlinedAll b)) = o := by
      intro known hk ho
      obtain ⟨b, i, a, rfl, hgiven⟩ := ih hk ho
      exact ⟨b, i, a ++ [item], by simp, hgiven⟩
    rw [inlined_all_snoc] at hk
    rcases mem_define.mp hk with rfl | ⟨hk, -⟩
    · rcases (Expr.mem_operations_substitute item.expr).mp ho with hgiven | ⟨c, -, e, hc, ho⟩
      · exact ⟨before, item, [], rfl, hgiven⟩
      · obtain ⟨known, hk, -, rfl⟩ := definition_some hc
        exact hearlier known hk ho
    · exact hearlier known hk ho

/-- A derivation writes its definitions, in which every operation is one of an item with the names
before it written out. A comparison of an item is then written as a test for NULL exactly when its
right operand is the constant NULL, or a name that the items before define as NULL; written as it is
given, which is how it is written in a derivation of its own, only for the constant. So both are
written with the same kind of operator exactly when the right operand is no such name. -/
theorem comparison_kept_iff (h : r.mutate verb d derived = .ok r') :
    (∃ texts, (r.scope d .derivation).renderNamed (inlinedAll derived) = .ok texts ∧
      r'.query = .select r.query
        { items := (untouched r.vars (inlinedAll derived)).map (columnItem d) ++ labelled texts }) ∧
    (∀ known ∈ inlinedAll derived, ∀ o ∈ known.expr.operations, ∃ before item after,
      derived = before ++ item :: after ∧
        ∃ given ∈ item.expr.operations, given.substitute (definition? (inlinedAll before)) = o) ∧
    ∀ before item after, derived = before ++ item :: after → ∀ given ∈ item.expr.operations,
      given.op = .eq ∨ given.op = .ne →
      let written := given.substitute (definition? (inlinedAll before))
      let null := ∃ c, given.right = .column c ∧ NullNamed before c
      ∀ keys s nested text, Sql.fragment keys s nested written.expr = .ok text →
        (Sql.TestsNull keys s nested written text ↔ given.right = .literal .null ∨ null) ∧
        ∀ keys' s' nested' text', Sql.fragment keys' s' nested' given.expr = .ok text' →
          (Sql.TestsNull keys' s' nested' given text' ↔ given.right = .literal .null) ∧
          ((Sql.TestsNull keys s nested written text ↔
            Sql.TestsNull keys' s' nested' given text') ↔ ¬ null) := by
  obtain ⟨defs, texts, hdefs, htexts, rfl⟩ := mutate_ok.mp h
  obtain ⟨-, rfl⟩ := resolve_derived_ok.mp hdefs
  refine ⟨⟨texts, htexts, rfl⟩, fun known hk o ho => operation_given hk ho, ?_⟩
  intro before item after _ given _ hop written null keys s nested text htext
  have htest : Sql.TestsNull keys s nested written text ↔
      given.right = .literal .null ∨ null := by
    rw [(Sql.comparison_written (o := written) hop htext).1]
    simp only [written, Operation.substitute, substitute_eq_null, null_named_iff, null]
  refine ⟨htest, fun keys' s' nested' text' htext' => ?_⟩
  have htest' := (Sql.comparison_written hop htext').1
  refine ⟨htest', ?_⟩
  have hexclusive : given.right = .literal .null → ¬ null := by
    rintro hr ⟨c, hc, -⟩
    rw [hr] at hc
    cases hc
  rw [htest, htest']
  by_cases hn : null
  · have hr : given.right ≠ .literal .null := fun hr => hexclusive hr hn
    simp [hn, hr]
  · simp [hn]

def copyCompared : List NamedExpr :=
  [⟨"y", .column "x"⟩, ⟨"same", .binary .eq (.column "x") (.column "y")⟩,
    ⟨"known", .binary .ne (.column "y") (.literal .null)⟩]

theorem copied_comparison_kept :
    let r : Relation := ⟨.table .inMemory, ["x"], [], []⟩
    let s := r.scope .ansi .derivation
    (∃ r', r.mutate .mutate .ansi copyCompared = .ok r') ∧
      ¬ Sql.TestsNull (.ok []) s false ⟨.eq, .column "x", .column "x"⟩ "\x22x\x22 = \x22x\x22" ∧
      Sql.TestsNull (.ok []) s false ⟨.ne, .column "x", .literal .null⟩
        "\x22x\x22 IS NOT NULL" := by
  intro r s
  have hb : (r.mutate .mutate .ansi copyCompared).isOk = true := by decide +kernel
  obtain ⟨r', h⟩ := exists_ok hb
  obtain ⟨-, -, hall⟩ := comparison_kept_iff h
  have hcolumn : ¬ NullNamed [⟨"y", .column "x"⟩] "y" := by
    rw [← null_named_iff]
    simp [inlinedAll, define, definition?, Expr.substitute]
  have hsame := (hall [⟨"y", .column "x"⟩] ⟨"same", .binary .eq (.column "x") (.column "y")⟩ _ rfl
    ⟨.eq, .column "x", .column "y"⟩ List.mem_cons_self (.inl rfl) (.ok []) s false _ rfl).1
  have hknown := (hall
    [⟨"y", .column "x"⟩, ⟨"same", .binary .eq (.column "x") (.column "y")⟩]
    ⟨"known", .binary .ne (.column "y") (.literal .null)⟩ _ rfl
    ⟨.ne, .column "y", .literal .null⟩ List.mem_cons_self (.inr rfl) (.ok []) s false _ rfl).1
  refine ⟨⟨r', h⟩, fun htest => ?_, hknown.mpr (.inl rfl)⟩
  rcases hsame.mp htest with hr | ⟨c, hc, hnull⟩
  · cases hr
  · cases hc
    exact hcolumn hnull

end Relation

namespace Pipeline

/-- A name for NULL makes a test of a comparison in one derivation, and none in two. -/
theorem null_name_tested :
    let t : Target := ⟨.ansi, .standard⟩
    let input : Pipeline := .remote ⟨none, "t"⟩ ["x"]
    let null : NamedExpr := ⟨"n", .literal .null⟩
    let same : NamedExpr := ⟨"b", .binary .eq (.column "x") (.column "n")⟩
    (mutate input [null, same]).build t =
      .ok (.select (.table ⟨none, "t"⟩)
        { items := [⟨"\x22x\x22", none⟩, ⟨"NULL", some "n"⟩,
            ⟨"\x22x\x22 IS NULL", some "b"⟩] }) ∧
    (mutate (mutate input [null]) [same]).build t =
      .ok (.select (.select (.table ⟨none, "t"⟩)
          { items := [⟨"\x22x\x22", none⟩, ⟨"NULL", some "n"⟩] })
        { items := [⟨"\x22x\x22", none⟩, ⟨"\x22n\x22", none⟩,
            ⟨"\x22x\x22 = \x22n\x22", some "b"⟩] }) :=
  ⟨rfl, rfl⟩

end Pipeline
end LayeredSql
