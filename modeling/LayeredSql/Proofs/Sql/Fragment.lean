import LayeredSql.Proofs.Sql.Call
import LayeredSql.Proofs.Sql.Phrase

namespace LayeredSql

namespace Expr

mutual

def strings : Expr → List String
  | .literal (.string s) => [s]
  | .literal _ => []
  | .column _ => []
  | .binary _ left right => left.strings ++ right.strings
  | .unary _ operand => operand.strings
  | .call _ args => stringsOfAll args
  | .inSet operand set => operand.strings ++ stringsOfAll set
  | .cast operand _ => operand.strings

def stringsOfAll : List Expr → List String
  | [] => []
  | e :: es => e.strings ++ stringsOfAll es

end

theorem sort_operand_strings (e : Expr) : e.sortOperand.strings = e.strings := by
  unfold sortOperand
  split
  · rw [strings, stringsOfAll, stringsOfAll, List.append_nil]
  · rfl

end Expr

namespace Sql
variable {d : Dialect} {s : Scope} {N S : String → Prop} {a b : String}

namespace Reads

theorem literal {value : Literal} (hs : ∀ t ∈ (Expr.literal value).strings, S t)
    (h : literal value = .ok a) : Reads d N S a := by
  cases value with
  | null =>
    cases h
    exact word (by decide)
  | bool x =>
    cases h
    exact word (by cases x <;> decide)
  | int n =>
    cases h
    exact word (plain_int _)
  | float x =>
    simp only [Sql.literal] at h
    split at h
    · cases h
      exact word (plain_float _ rfl x)
    · cases h
  | string t =>
    cases h
    exact string (hs t List.mem_cons_self)

theorem plain_operator (op : BinaryOp) : PlainText (operatorText op).toList := by
  cases op <;> decide

/-- A word in front. -/
theorem prefixed (ha : Reads d N S a) {w : String} (hw : PlainText w.toList) :
    Reads d N S (w ++ " " ++ a) :=
  (word hw).spaced ha

/-- A word behind. -/
theorem suffixed (ha : Reads d N S a) {w : String} (hw : PlainText w.toList) :
    Reads d N S (a ++ " " ++ w) :=
  ha.spaced (word hw)

theorem followed (ha : Reads d N S a) {w tail : String} (hw : PlainText w.toList)
    (ht : tail = " " ++ w) : Reads d N S (a ++ tail) := by
  subst ht
  rw [← String.append_assoc]
  exact ha.suffixed hw

theorem operation (op : BinaryOp) (ha : Reads d N S a) (hb : Reads d N S b) :
    Reads d N S (operation d op a b) := by
  unfold Sql.operation
  split
  · have hl : Reads d N S ("LOWER" ++ "(" ++ a ++ ")") := ha.enclosed (by decide)
    have hr : Reads d N S ("LOWER" ++ "(" ++ b ++ ")") := hb.enclosed (by decide)
    have h := (hl.suffixed (w := "LIKE") (by decide)).spaced hr
    have he : "LOWER(" ++ a ++ ") LIKE LOWER(" ++ b ++ ")" =
        "LOWER" ++ "(" ++ a ++ ")" ++ " " ++ "LIKE" ++ " " ++ ("LOWER" ++ "(" ++ b ++ ")") := by
      simp [← String.toList_inj]
    rwa [he]
  · exact (ha.suffixed (plain_operator op)).spaced hb

theorem null_test {op : BinaryOp} {e : Expr} {test : String} (ht : nullTest? op e = some test)
    (ha : Reads d N S a) : Reads d N S (a ++ test) := by
  unfold nullTest? at ht
  split at ht
  · cases ht
    exact ha.followed (w := "IS NULL") (by decide) (by decide)
  · cases ht
    exact ha.followed (w := "IS NOT NULL") (by decide) (by decide)
  · cases ht

theorem is_null (ha : Reads d N S a) : Reads d N S (a ++ " IS NULL") := by
  have h : nullTest? .eq (.literal .null) = some " IS NULL" := rfl
  exact ha.null_test h

theorem call_text {sig : Signature} {args : List String} (hw : PlainText sig.sqlName.toList)
    (ha : ∀ t ∈ args, Reads d N S t) : Reads d N S (callText sig args) := by
  have hargs := comma_list ha
  unfold callText
  split
  · exact (word (a := "*") (by decide)).enclosed (b := "COUNT") (by decide)
  · split
    · have h := (hargs.prefixed (w := "DISTINCT") (by decide)).enclosed (b := "COUNT") (by decide)
      have he : "COUNT(DISTINCT " ++ ", ".intercalate args ++ ")" =
          "COUNT" ++ "(" ++ ("DISTINCT" ++ " " ++ ", ".intercalate args) ++ ")" := by
        simp [← String.toList_inj]
      rwa [he]
    · exact hargs.enclosed hw

theorem plain_text {sig : Signature} {nested : Bool} {args : List String}
    (hw : PlainText sig.sqlName.toList) (ha : ∀ t ∈ args, Reads d N S t) :
    Reads d N S (plainText sig nested args) := by
  have hcall := call_text (d := d) hw ha
  unfold plainText
  split
  · split
    · split
      · exact (ha _ List.mem_cons_self).is_null.parenthesised nested
      · exact hcall
    · split
      · split
        · rename_i condition yes no
          simp only [List.forall_mem_cons] at ha
          obtain ⟨hc, hy, hn, _⟩ := ha
          have h := ((((hc.prefixed (w := "CASE WHEN") (by decide)).suffixed
            (w := "THEN") (by decide)).spaced hy).suffixed (w := "ELSE") (by decide)).spaced hn
          have he : "CASE WHEN " ++ condition ++ " THEN " ++ yes ++ " ELSE " ++ no ++ " END" =
              "CASE WHEN" ++ " " ++ condition ++ " " ++ "THEN" ++ " " ++ yes ++ " " ++ "ELSE" ++
                " " ++ no ++ " " ++ "END" := by
            simp [← String.toList_inj]
          rw [he]
          exact h.suffixed (by decide)
        · exact hcall
      · exact hcall
  · exact hcall

theorem with_window (ha : Reads d N S a) (hb : Reads d N S b) :
    Reads d N S (a ++ " OVER (" ++ b ++ ")") := by
  have h := ha.spaced (hb.enclosed (b := "OVER ") (by decide))
  have he : a ++ " OVER (" ++ b ++ ")" = a ++ " " ++ ("OVER " ++ "(" ++ b ++ ")") := by
    simp [← String.toList_inj]
  rwa [he]

theorem window_text {sig : Signature} {groups args keys : List String}
    (hw : PlainText sig.sqlName.toList) (hg : ∀ g ∈ groups, N g) (ha : ∀ t ∈ args, Reads d N S t)
    (hk : ∀ k ∈ keys, Reads d N S k) : Reads d N S (windowText d sig groups args keys) := by
  unfold windowText
  simp only
  have hgroups : Reads d N S (", ".intercalate (groups.map d.quote)) := by
    refine comma_list ?_
    rw [List.forall_mem_map]
    exact fun g hm => name (hg g hm)
  have hpartition : ∀ t ∈ (if groups.isEmpty then []
      else ["PARTITION BY " ++ ", ".intercalate (groups.map d.quote)]), Reads d N S t := by
    split
    · simp
    · rw [List.forall_mem_singleton]
      exact hgroups.prefixed (w := "PARTITION BY") (by decide)
  have horder : ∀ t ∈ (if sig.kind = .aggregate || keys.isEmpty then []
      else ["ORDER BY " ++ ", ".intercalate keys]), Reads d N S t := by
    split
    · simp
    · rw [List.forall_mem_singleton]
      exact (comma_list hk).prefixed (w := "ORDER BY") (by decide)
  have hframe : ∀ t ∈ (if sig.kind = .cumulative then
      ["ROWS BETWEEN UNBOUNDED PRECEDING AND CURRENT ROW"] else []), Reads d N S t := by
    split
    · rw [List.forall_mem_singleton]
      exact word (by decide)
    · simp
  have hinside := space_list (List.forall_mem_append.mpr
    ⟨List.forall_mem_append.mpr ⟨hpartition, horder⟩, hframe⟩)
  exact (call_text hw ha).with_window hinside

theorem key (descending : Bool) (ha : Reads d N S a) : Reads d N S (keyText descending a) := by
  unfold keyText
  split
  · exact ha.followed (w := "DESC") (by decide) (by decide)
  · exact ha

/-- Types are plain words, but for those with arguments. -/
theorem type_name (hd : d.Supported) (t : SqlType) : Reads d N S (d.typeName t) := by
  have hnumber : ∀ n : Nat, Reads d N S (toString n) := fun n => word (plain_nat n)
  have hstandard : Reads d N S t.standardName := by
    cases t with
    | decimal precision scale =>
      have h := ((hnumber precision.toNat).listed (hnumber scale.toNat)).enclosed
        (b := "DECIMAL") (by decide)
      have he : SqlType.standardName (.decimal precision scale) = "DECIMAL" ++ "(" ++
          (toString precision.toNat ++ ", " ++ toString scale.toNat) ++ ")" := by
        simp [SqlType.standardName, String.join, ← String.toList_inj]
      rwa [he]
    | varchar length =>
      cases length with
      | none => exact word (by decide)
      | some length =>
        have h := (hnumber length.toNat).enclosed (b := "VARCHAR") (by decide)
        have he : SqlType.standardName (.varchar (some length)) =
            "VARCHAR" ++ "(" ++ toString length.toNat ++ ")" := by
          simp [SqlType.standardName, String.join]
        rwa [he]
    | _ => exact word (by decide)
  unfold Dialect.typeName
  cases hf : d.typeNames.find? (·.1 == t) with
  | none => exact hstandard
  | some spelling => exact word (hd.plain_types spelling (List.mem_of_find?_eq_some hf))

theorem cast (hd : d.Supported) (t : SqlType) (ha : Reads d N S a) :
    Reads d N S ("CAST(" ++ a ++ " AS " ++ d.typeName t ++ ")") := by
  have h := ((ha.suffixed (w := "AS") (by decide)).spaced (type_name hd t)).enclosed
    (b := "CAST") (by decide)
  have he : "CAST(" ++ a ++ " AS " ++ d.typeName t ++ ")" =
      "CAST" ++ "(" ++ (a ++ " " ++ "AS" ++ " " ++ d.typeName t) ++ ")" := by
    simp [← String.toList_inj]
  rwa [he]

theorem in_set {items : List String} (ha : Reads d N S a) (hi : ∀ t ∈ items, Reads d N S t) :
    Reads d N S (a ++ " IN (" ++ ", ".intercalate items ++ ")") := by
  have h := ha.spaced ((comma_list hi).enclosed (b := "IN ") (by decide))
  have he : a ++ " IN (" ++ ", ".intercalate items ++ ")" =
      a ++ " " ++ ("IN " ++ "(" ++ ", ".intercalate items ++ ")") := by
    simp [← String.toList_inj]
  rwa [he]

end Reads

/-- A function that is found is written as a plain word. -/
theorem Scope.signature_plain (hd : s.dialect.Supported) {func : String} {arity : Nat}
    {sig : Signature} (h : s.signature func arity = .ok sig) : PlainText sig.sqlName.toList :=
  hd.plain_functions sig (Scope.signature_mem h)

/-- What a scope puts into a fragment on its own account: grouping variables and the text of the
ordering. -/
structure Scope.Contributes (s : Scope) (keys : Except SqlError (List String))
    (N S : String → Prop) : Prop where
  dialect : s.dialect.Supported
  groups : ∀ g ∈ s.groups, N g
  keys : ∀ ks, keys = .ok ks → ∀ k ∈ ks, Reads s.dialect N S k

/-- Keys bring neither groups nor an ordering. -/
theorem Scope.for_keys_contributes (hd : s.dialect.Supported) :
    s.forKeys.Contributes (.ok []) N S where
  dialect := hd
  groups := by simp [Scope.forKeys]
  keys := by
    rintro ks ⟨⟩
    simp

mutual

/-- The text of an expression is a phrase over its columns and strings, the grouping variables
and the ordering. -/
theorem fragment_reads {keys : Except SqlError (List String)} {s : Scope}
    (hs : s.Contributes keys N S) {nested : Bool} {text : String} (e : Expr)
    (hc : ∀ c ∈ e.columns, c ∈ s.vars → N c) (ht : ∀ t ∈ e.strings, S t)
    (h : fragment keys s nested e = .ok text) : Reads s.dialect N S text := by
  match e with
  | .literal value => exact .literal ht h
  | .column name =>
    simp only [fragment] at h
    split at h
    · rename_i hm
      cases h
      exact .name (hc name List.mem_cons_self hm)
    · cases h
  | .binary op left right =>
    simp only [Expr.columns, Expr.strings, List.forall_mem_append] at hc ht
    simp only [fragment, bind_ok] at h
    obtain ⟨lhs, hl, h⟩ := h
    have hlhs := fragment_reads hs left hc.1 ht.1 hl
    split at h
    · rename_i test hn
      rw [pure_ok] at h
      subst h
      exact (hlhs.null_test hn).parenthesised nested
    · simp only [bind_ok, pure_ok] at h
      obtain ⟨rhs, hr, rfl⟩ := h
      have hrhs := fragment_reads hs right hc.2 ht.2 hr
      exact (hlhs.operation op hrhs).parenthesised nested
  | .unary op operand =>
    simp only [fragment, bind_ok] at h
    obtain ⟨sql, ho, h⟩ := h
    have hsql := fragment_reads hs operand hc ht ho
    cases op with
    | not =>
      rw [pure_ok] at h
      subst h
      exact (hsql.prefixed (w := "NOT") (by decide)).parenthesised nested
    | neg =>
      rw [pure_ok] at h
      subst h
      exact hsql.negated
  | .call func args =>
    simp only [fragment, bind_ok] at h
    obtain ⟨sig, hsig, needs, -, h⟩ := h
    have hw := Scope.signature_plain hs.dialect hsig
    split at h
    · simp only [bind_ok, pure_ok] at h
      obtain ⟨texts, hargs, order, horder, rfl⟩ := h
      have htexts : ∀ t ∈ texts, Reads s.dialect N S t := by
        split at hargs
        · exact later_fragments_read hs args hc ht hargs
        · exact fragments_read hs args hc ht hargs
      have hkeys : ∀ k ∈ order, Reads s.dialect N S k := by
        split at horder
        · cases horder
          simp
        · split at horder
          · exact leading_key_reads hs args hc ht horder
          · exact hs.keys order horder
      exact .window_text hw hs.groups htexts hkeys
    · simp only [bind_ok, pure_ok] at h
      obtain ⟨texts, hargs, rfl⟩ := h
      exact .plain_text hw (fragments_read hs args hc ht hargs)
  | .inSet operand set =>
    simp only [Expr.columns, Expr.strings, List.forall_mem_append] at hc ht
    simp only [fragment] at h
    split at h
    · cases h
      exact .word (by decide)
    · simp only [bind_ok, pure_ok] at h
      obtain ⟨lhs, hl, items, hi, rfl⟩ := h
      have hlhs := fragment_reads hs operand hc.1 ht.1 hl
      exact (hlhs.in_set (fragments_read hs set hc.2 ht.2 hi)).parenthesised nested
  | .cast operand target =>
    simp only [fragment, bind_ok, pure_ok] at h
    obtain ⟨sql, ho, rfl⟩ := h
    exact (fragment_reads hs operand hc ht ho).cast hs.dialect target
termination_by sizeOf e

theorem fragments_read {keys : Except SqlError (List String)} {s : Scope}
    (hs : s.Contributes keys N S) {nested : Bool} {texts : List String} (es : List Expr)
    (hc : ∀ c ∈ Expr.columnsOfAll es, c ∈ s.vars → N c) (ht : ∀ t ∈ Expr.stringsOfAll es, S t)
    (h : fragments keys s nested es = .ok texts) : ∀ t ∈ texts, Reads s.dialect N S t := by
  match es with
  | [] =>
    cases h
    simp
  | e :: es =>
    simp only [Expr.columnsOfAll, Expr.stringsOfAll, List.forall_mem_append] at hc ht
    simp only [fragments, bind_ok, pure_ok] at h
    obtain ⟨sql, he, rest, hes, rfl⟩ := h
    exact List.forall_mem_cons.mpr
      ⟨fragment_reads hs e hc.1 ht.1 he, fragments_read hs es hc.2 ht.2 hes⟩
termination_by sizeOf es

theorem later_fragments_read {keys : Except SqlError (List String)} {s : Scope}
    (hs : s.Contributes keys N S) {texts : List String} (es : List Expr)
    (hc : ∀ c ∈ Expr.columnsOfAll es, c ∈ s.vars → N c) (ht : ∀ t ∈ Expr.stringsOfAll es, S t)
    (h : laterFragments keys s es = .ok texts) : ∀ t ∈ texts, Reads s.dialect N S t := by
  match es with
  | [] =>
    cases h
    simp
  | e :: es =>
    simp only [Expr.columnsOfAll, Expr.stringsOfAll, List.forall_mem_append] at hc ht
    exact fragments_read hs es hc.2 ht.2 h
termination_by sizeOf es

/-- The leading argument is written where it orders the window, without its `desc`. -/
theorem leading_key_reads {keys : Except SqlError (List String)} {s : Scope}
    (hs : s.Contributes keys N S) {texts : List String} (es : List Expr)
    (hc : ∀ c ∈ Expr.columnsOfAll es, c ∈ s.vars → N c) (ht : ∀ t ∈ Expr.stringsOfAll es, S t)
    (h : leadingKey s es = .ok texts) : ∀ t ∈ texts, Reads s.dialect N S t := by
  match es with
  | [] =>
    cases h
    simp
  | e :: es =>
    simp only [Expr.columnsOfAll, Expr.stringsOfAll, List.forall_mem_append] at hc ht
    simp only [leading_key_cons, bind_ok, pure_ok] at h
    obtain ⟨sql, hsql, rfl⟩ := h
    rw [← e.sort_operand_columns] at hc
    rw [← e.sort_operand_strings] at ht
    have hsize := e.sort_operand_lt es
    have hkey := fragment_reads (s.for_keys_contributes hs.dialect) e.sortOperand hc.1 ht.1 hsql
    rw [List.forall_mem_singleton]
    exact hkey.key e.sortsDescending
termination_by sizeOf es

end

namespace Scope

/-- What a scope brings along is acceptable: the grouping variables, and the columns and strings of
the ordering. -/
structure Admits (s : Scope) (N S : String → Prop) : Prop where
  dialect : s.dialect.Supported
  groups : ∀ g ∈ s.groups, N g
  order_columns : ∀ key ∈ s.order, ∀ c ∈ key.expr.columns, c ∈ s.vars → N c
  order_strings : ∀ key ∈ s.order, ∀ t ∈ key.expr.strings, S t

/-- The ordering is written by fragments that see the columns alone. -/
theorem Admits.contributes (h : s.Admits N S) : s.Contributes s.orderText N S := by
  refine ⟨h.dialect, h.groups, fun ks hks k hk => ?_⟩
  obtain ⟨key, hkey, hf⟩ := mapM_ok_mem hks hk
  simp only [bind_ok, pure_ok] at hf
  obtain ⟨sql, hsql, rfl⟩ := hf
  have hread := fragment_reads (s.for_keys_contributes h.dialect) key.expr
    (h.order_columns key hkey) (h.order_strings key hkey) hsql
  exact hread.key key.descending

theorem Admits.render_reads (h : s.Admits N S) {e : Expr} {text : String}
    (hc : ∀ c ∈ e.columns, c ∈ s.vars → N c) (ht : ∀ t ∈ e.strings, S t)
    (hr : s.render e = .ok text) : Reads s.dialect N S text :=
  fragment_reads h.contributes e hc ht hr

/-- Whatever an expression is, the names in its text are columns of the scope. -/
theorem render_vars (hd : s.dialect.Supported) (hg : ∀ g ∈ s.groups, g ∈ s.vars) {e : Expr}
    {text : String} (h : s.render e = .ok text) :
    Reads s.dialect (· ∈ s.vars) (fun _ => True) text := by
  have ha : s.Admits (· ∈ s.vars) fun _ => True :=
    ⟨hd, hg, fun _ _ _ _ hv => hv, fun _ _ _ _ => trivial⟩
  exact ha.render_reads (fun _ _ hv => hv) (fun _ _ => trivial) h

theorem render_within (hd : s.dialect.Supported) (hg : ∀ g ∈ s.groups, g ∈ s.vars) {e : Expr}
    {text : String} (h : s.render e = .ok text) : NamesWithin s.dialect s.vars text :=
  (render_vars hd hg h).names_within hd

theorem render_all_within (hd : s.dialect.Supported) (hg : ∀ g ∈ s.groups, g ∈ s.vars)
    {es : List Expr} {texts : List String} (h : s.renderAll es = .ok texts) :
    ∀ text ∈ texts, NamesWithin s.dialect s.vars text := by
  intro text ht
  obtain ⟨_, _, hr⟩ := mapM_ok_mem h ht
  exact render_within hd hg hr

theorem render_named_within (hd : s.dialect.Supported) (hg : ∀ g ∈ s.groups, g ∈ s.vars)
    {items : List NamedExpr} {texts : List (String × String)}
    (h : s.renderNamed items = .ok texts) :
    ∀ text ∈ texts, NamesWithin s.dialect s.vars text.2 := by
  intro text ht
  obtain ⟨item, _, hi⟩ := mapM_ok_mem h ht
  simp only [bind_ok, pure_ok] at hi
  obtain ⟨sql, hsql, rfl⟩ := hi
  exact render_within hd hg hsql

theorem render_named_names {items : List NamedExpr} {texts : List (String × String)}
    (h : s.renderNamed items = .ok texts) : texts.map (·.1) = items.map (·.name) := by
  have hall := mapM_ok.mp h
  clear h
  induction hall with
  | nil => rfl
  | cons hi _ ih =>
    simp only [bind_ok, pure_ok] at hi
    obtain ⟨_, _, rfl⟩ := hi
    rw [List.map_cons, List.map_cons, ih]

theorem render_keys_within (hd : s.dialect.Supported) (hg : ∀ g ∈ s.groups, g ∈ s.vars)
    {keys : List SortKey} {texts : List String} (h : s.renderKeys keys = .ok texts) :
    ∀ text ∈ texts, NamesWithin s.dialect s.vars text := by
  intro text ht
  obtain ⟨key, _, hk⟩ := mapM_ok_mem h ht
  simp only [bind_ok, pure_ok] at hk
  obtain ⟨sql, hsql, rfl⟩ := hk
  exact ((render_vars hd hg hsql).key key.descending).names_within hd

end Scope
end Sql
end LayeredSql
