import LayeredSql.Codec.Expr
import LayeredSql.Proofs.Codec.Record

namespace LayeredSql
open Json

theorem BinaryOp.of_title (op : BinaryOp) : BinaryOp.ofTitle? op.title = some op := by
  cases op <;> rfl

theorem UnaryOp.of_title (op : UnaryOp) : UnaryOp.ofTitle? op.title = some op := by
  cases op <;> rfl

namespace SqlType

/-- Types with a title are written as their titles. -/
theorem titled_fits {title : String} {t : SqlType} (h : ofTitle? title = some t) (levels : Nat) :
    t.toJson.Fits levels := by
  unfold ofTitle? at h
  split at h <;> cases h <;> trivial

theorem keeps : Keeps toJson ofJson? := by
  intro levels j t h hj
  unfold ofJson? at h
  split at h
  · cases h
    exact ⟨hj.1, trivial, trivial⟩
  · obtain ⟨n, -, rfl⟩ := Option.map_eq_some_iff.mp h
    exact ⟨hj.1,
      uint32_codec.keeps _ (.int n.toNat) n (uint32_codec.undoes n) (uint32_codec.ints n),
      trivial⟩
  · simp only [Option.bind_eq_bind, Option.bind_eq_some_iff, Option.pure_def,
      Option.some.injEq] at h
    obtain ⟨r, hr, precision, hp, scale, hs, rfl⟩ := h
    obtain ⟨hl, hf⟩ := record_fits hr hj.2.1
    have hprecision := required_fits uint8_codec.keeps hf hp
    have hscale := required_fits uint8_codec.keeps hf hs
    exact ⟨hj.1, ⟨hl, hprecision, hscale, trivial⟩, trivial⟩
  · obtain ⟨title, -, ht⟩ := Option.bind_eq_some_iff.mp h
    exact titled_fits ht levels

theorem codec : Codec toJson ofJson? where
  undoes t := by
    cases t with
    | decimal precision scale =>
      simp [toJson, ofJson?, record?, Record.required, Record.get?, uint8_codec.undoes]
    | varchar length =>
      cases length with
      | none => rfl
      | some n => simp [toJson, ofJson?, ofOption, uint32_codec.undoes]
    | _ => rfl
  keeps := keeps
  ints t := by
    cases t with
    | decimal precision scale =>
      exact ⟨⟨uint8_codec.ints precision, uint8_codec.ints scale, trivial⟩, trivial⟩
    | varchar length =>
      cases length with
      | none => exact ⟨trivial, trivial⟩
      | some n => exact ⟨uint32_codec.ints n, trivial⟩
    | _ => trivial

end SqlType

namespace Literal

theorem int64_fits (n : Int64) : IntFits n.toInt := by
  have hlow := n.le_toInt
  have hhigh := n.toInt_lt
  unfold IntFits
  omega

/-- An integer beyond the signed ones becomes a number. -/
theorem ofInt_finite {n : Int} (h : IntFits n) (hn : ¬n ≤ Int64.maxValue.toInt) :
    (Float.ofInt n).isFinite = true := by
  obtain ⟨k, rfl⟩ : ∃ k : Nat, n = k := by
    apply Int.eq_ofNat_of_zero_le
    change ¬n ≤ 9223372036854775807 at hn
    omega
  have hk : k < UInt64.size := by
    have hlt := h.2
    change k < 2 ^ 64
    omega
  exact (Decimal.ofNat_within hk).finite

theorem codec : Codec toJson ofJson? where
  undoes l := by
    cases l with
    | int n =>
      have hle : n.toInt ≤ Int64.maxValue.toInt := by
        have hlt := n.toInt_lt
        change n.toInt ≤ 9223372036854775807
        omega
      simp [toJson, ofJson?, hle]
    | _ => rfl
  keeps := by
    intro levels j l h hj
    cases j with
    | int n =>
      cases h
      split
      · exact int64_fits _
      · rename_i hn
        exact ofInt_finite hj hn
    | array items => cases h
    | object members => cases h
    | float x =>
      cases h
      exact hj
    | null | bool b | string s =>
      cases h
      trivial
  ints l := by
    cases l with
    | int n => exact int64_fits n
    | _ => trivial

end Literal

namespace Expr

theorem toJsonAll_eq_map (es : List Expr) : toJsonAll es = es.map toJson := by
  induction es with
  | nil => rfl
  | cons e es ih => simp [toJsonAll, ih]

/-- The constructor as an expression's object names it. -/
def tag : Expr → String
  | .literal _ => "Literal"
  | .column _ => "Column"
  | .binary .. => "BinaryOp"
  | .unary .. => "UnaryOp"
  | .call .. => "FuncCall"
  | .inSet .. => "InSet"
  | .cast .. => "Cast"

theorem read_tagged {n : Nat} {v : Json} {e : Expr} (h : ofJsonWithin? (n + 1) v = some e) :
    ∃ body, v.tagged? "type" = some (e.tag, body) := by
  unfold ofJsonWithin? at h
  simp only [Option.bind_eq_bind, Option.bind_eq_some_iff, Prod.exists] at h
  obtain ⟨tag, body, ht, h⟩ := h
  refine ⟨body, ?_⟩
  split at h
  all_goals
    simp only [Option.bind_eq_some_iff, Option.pure_def, Option.some.injEq, reduceCtorEq] at h
  all_goals grind [Expr.tag]

theorem keeps (n : Nat) : Keeps toJson (ofJsonWithin? n) := by
  induction n with
  | zero =>
    intro levels j e h hj
    cases h
  | succ n ih =>
    intro levels j e h hj
    obtain ⟨body, ht⟩ := read_tagged h
    have hbody := tagged_fits ht hj
    rw [ofJsonWithin?, ht, Option.bind_eq_bind, Option.bind_some] at h
    cases e
    all_goals
      simp only [tag, Option.bind_eq_bind, Option.bind_eq_some_iff, Option.pure_def,
        Option.some.injEq] at h
      obtain ⟨r, hr, h⟩ := h
      obtain ⟨hl, hf⟩ := record_fits hr hbody
    case literal value =>
      obtain ⟨_, hv, ⟨⟩⟩ := h
      exact ⟨hl, trivial, required_fits Literal.codec.keeps hf hv, trivial⟩
    case column name => exact ⟨hl, trivial, trivial, trivial⟩
    case binary op left right =>
      obtain ⟨_, ho, _, hleft, _, hright, ⟨⟩⟩ := h
      exact ⟨hl, trivial, trivial, required_fits ih hf hleft, required_fits ih hf hright, trivial⟩
    case unary op operand =>
      obtain ⟨_, ho, _, hoperand, ⟨⟩⟩ := h
      exact ⟨hl, trivial, trivial, required_fits ih hf hoperand, trivial⟩
    case call func args =>
      obtain ⟨_, hfunc, _, hargs, ⟨⟩⟩ := h
      have hitems := required_fits (list_keeps ih) hf hargs
      rw [← toJsonAll_eq_map] at hitems
      exact ⟨hl, trivial, trivial, hitems, trivial⟩
    case inSet operand set =>
      obtain ⟨_, hoperand, _, hset, ⟨⟩⟩ := h
      have hitems := required_fits (list_keeps ih) hf hset
      rw [← toJsonAll_eq_map] at hitems
      exact ⟨hl, trivial, required_fits ih hf hoperand, hitems, trivial⟩
    case cast operand target =>
      obtain ⟨_, hoperand, _, htarget, ⟨⟩⟩ := h
      exact ⟨hl, trivial, required_fits ih hf hoperand, required_fits SqlType.keeps hf htarget,
        trivial⟩

mutual

theorem undoes (e : Expr) {n : Nat} (h : e.toJson.depth ≤ n) :
    ofJsonWithin? n e.toJson = some e := by
  obtain ⟨n, rfl⟩ : ∃ m, n = m + 1 := by
    cases e <;> exact levels_left h
  match e with
  | .literal value =>
    rw [toJson, ofJsonWithin?, tagged_object (by simp)]
    simp only [Option.bind_eq_bind, Option.bind_some]
    exact one_field (Literal.codec.undoes value) literal
  | .column name =>
    rw [toJson, ofJsonWithin?, tagged_object (by simp)]
    simp only [Option.bind_eq_bind, Option.bind_some]
    exact one_field (string_codec.undoes name) column
  | .binary op left right =>
    simp only [toJson, depth, membersDepth] at h
    have hleft := undoes left (show left.toJson.depth ≤ n by omega)
    have hright := undoes right (show right.toJson.depth ≤ n by omega)
    rw [toJson, ofJsonWithin?, tagged_object (by simp)]
    simp only [Option.bind_eq_bind, Option.bind_some]
    exact three_fields (by decide) (BinaryOp.of_title op) hleft hright
      binary
  | .unary op operand =>
    simp only [toJson, depth, membersDepth] at h
    have hoperand := undoes operand (show operand.toJson.depth ≤ n by omega)
    rw [toJson, ofJsonWithin?, tagged_object (by simp)]
    simp only [Option.bind_eq_bind, Option.bind_some]
    exact two_fields (by decide) (UnaryOp.of_title op) hoperand unary
  | .call func args =>
    simp only [toJson, depth, membersDepth] at h
    have hargs := undoes_all args (show itemsDepth (toJsonAll args) ≤ n by omega)
    rw [toJson, ofJsonWithin?, tagged_object (by simp)]
    simp only [Option.bind_eq_bind, Option.bind_some]
    exact two_fields (by decide) (string_codec.undoes func) hargs call
  | .inSet operand set =>
    simp only [toJson, depth, membersDepth] at h
    have hoperand := undoes operand (show operand.toJson.depth ≤ n by omega)
    have hset := undoes_all set (show itemsDepth (toJsonAll set) ≤ n by omega)
    rw [toJson, ofJsonWithin?, tagged_object (by simp)]
    simp only [Option.bind_eq_bind, Option.bind_some]
    exact two_fields (by decide) hoperand hset inSet
  | .cast operand target =>
    simp only [toJson, depth, membersDepth] at h
    have hoperand := undoes operand (show operand.toJson.depth ≤ n by omega)
    rw [toJson, ofJsonWithin?, tagged_object (by simp)]
    simp only [Option.bind_eq_bind, Option.bind_some]
    exact two_fields (by decide) hoperand (SqlType.codec.undoes target) cast

theorem undoes_all (es : List Expr) {n : Nat} (h : itemsDepth (toJsonAll es) ≤ n) :
    list? (ofJsonWithin? n) (.array (toJsonAll es)) = some es := by
  match es with
  | [] => rfl
  | e :: es =>
    simp only [toJsonAll, itemsDepth] at h
    have he := undoes e (show e.toJson.depth ≤ n by omega)
    have hes := undoes_all es (show itemsDepth (toJsonAll es) ≤ n by omega)
    simp only [list?] at hes
    simp [toJsonAll, list?, he, hes]

end

mutual

theorem ints (e : Expr) : e.toJson.IntsFit := by
  match e with
  | .literal value => exact ⟨trivial, Literal.codec.ints value, trivial⟩
  | .column name => exact ⟨trivial, trivial, trivial⟩
  | .binary op left right => exact ⟨trivial, trivial, ints left, ints right, trivial⟩
  | .unary op operand => exact ⟨trivial, trivial, ints operand, trivial⟩
  | .call func args => exact ⟨trivial, trivial, ints_all args, trivial⟩
  | .inSet operand set => exact ⟨trivial, ints operand, ints_all set, trivial⟩
  | .cast operand target => exact ⟨trivial, ints operand, SqlType.codec.ints target, trivial⟩

theorem ints_all (es : List Expr) : ItemIntsFit (toJsonAll es) := by
  match es with
  | [] => trivial
  | e :: es => exact ⟨ints e, ints_all es⟩

end

theorem codec : Codec toJson ofJson? where
  undoes e := undoes e (Nat.le_refl _)
  keeps levels j e h hj := keeps j.depth levels j e h hj
  ints := ints

end Expr

theorem NamedExpr.codec : Codec NamedExpr.toJson NamedExpr.ofJson? :=
  .pair NamedExpr.mk NamedExpr.name NamedExpr.expr (fun _ => rfl) (fun _ _ => rfl)
    (fun _ _ => rfl) (by decide) string_codec Expr.codec

theorem SortKey.codec : Codec SortKey.toJson SortKey.ofJson? where
  undoes key := by
    simp [toJson, ofJson?, record?, Record.required, Record.defaulting, Record.get?, bool?,
      Expr.codec.undoes]
  keeps := by
    intro levels j key h hj
    unfold ofJson? at h
    simp only [Option.bind_eq_bind, Option.bind_eq_some_iff, Option.pure_def,
      Option.some.injEq] at h
    obtain ⟨r, hr, expr, he, descending, hd, rfl⟩ := h
    obtain ⟨hl, hf⟩ := record_fits hr hj
    exact ⟨hl, required_fits Expr.codec.keeps hf he, trivial, trivial⟩
  ints key := ⟨Expr.ints key.expr, trivial, trivial⟩

end LayeredSql
