import LayeredSql.Proofs.Sql.Call

namespace LayeredSql.Sql

def Scope.windowsOff (s : Scope) : Scope :=
  { s with dialect := s.dialect.withWindowFunctions false }

def WindowsMissing (d : Dialect) (e : SqlError) : Prop :=
  e = .missing d.name .windowFunctions

theorem needs_window_cut_short (s : Scope) (sig : Signature) (func : String) :
    CutShort (WindowsMissing s.dialect) (s.needsWindow sig func)
      (s.windowsOff.needsWindow sig func) := by
  have hc : s.windowsOff.clause = s.clause := rfl
  unfold Scope.needsWindow
  rw [hc]
  split
  · exact .refl _
  · split
    · exact .refl _
    · split
      · exact .refl _
      · exact .inr ⟨_, rfl, rfl⟩

mutual

/-- Without window functions an expression is written as with them, or they are missed. -/
theorem fragment_cut_short {keys keys' : Except SqlError (List String)} {s : Scope}
    (hk : CutShort (WindowsMissing s.dialect) keys keys') (nested : Bool) (e : Expr) :
    CutShort (WindowsMissing s.dialect) (fragment keys s nested e)
      (fragment keys' s.windowsOff nested e) := by
  match e with
  | .literal value => exact .refl _
  | .column name => exact .refl _
  | .binary op left right =>
    rw [fragment, fragment]
    refine (fragment_cut_short hk true left).bind fun lhs => ?_
    split
    · exact .refl _
    · exact (fragment_cut_short hk true right).bind fun _ => .refl _
  | .unary op operand =>
    rw [fragment, fragment]
    exact (fragment_cut_short hk true operand).bind fun _ => .refl _
  | .call func args =>
    rw [fragment, fragment]
    refine (CutShort.refl (s.signature func args.length)).bind fun sig => ?_
    refine (needs_window_cut_short s sig func).bind fun windowed => ?_
    cases windowed with
    | false =>
      exact (fragments_cut_short hk _ args).bind fun _ => .refl _
    | true =>
      refine CutShort.bind ?_ fun texts => CutShort.bind ?_ fun order => .refl _
      · split
        · exact later_fragments_cut_short hk args
        · exact fragments_cut_short hk false args
      · split
        · exact .refl _
        · split
          · exact leading_key_cut_short s args
          · exact hk
  | .inSet operand set =>
    rw [fragment, fragment]
    split
    · exact .refl _
    · exact (fragment_cut_short hk true operand).bind fun _ =>
        (fragments_cut_short hk false set).bind fun _ => .refl _
  | .cast operand target =>
    rw [fragment, fragment]
    exact (fragment_cut_short hk false operand).bind fun _ => .refl _
termination_by sizeOf e

theorem fragments_cut_short {keys keys' : Except SqlError (List String)} {s : Scope}
    (hk : CutShort (WindowsMissing s.dialect) keys keys') (nested : Bool) (es : List Expr) :
    CutShort (WindowsMissing s.dialect) (fragments keys s nested es)
      (fragments keys' s.windowsOff nested es) := by
  match es with
  | [] => exact .refl _
  | e :: es =>
    rw [fragments, fragments]
    exact (fragment_cut_short hk nested e).bind fun _ =>
      (fragments_cut_short hk nested es).bind fun _ => .refl _
termination_by sizeOf es

theorem later_fragments_cut_short {keys keys' : Except SqlError (List String)} {s : Scope}
    (hk : CutShort (WindowsMissing s.dialect) keys keys') (es : List Expr) :
    CutShort (WindowsMissing s.dialect) (laterFragments keys s es)
      (laterFragments keys' s.windowsOff es) := by
  match es with
  | [] => exact .refl _
  | e :: es =>
    rw [laterFragments, laterFragments]
    exact fragments_cut_short hk false es
termination_by sizeOf es

theorem leading_key_cut_short (s : Scope) (es : List Expr) :
    CutShort (WindowsMissing s.dialect) (leadingKey s es) (leadingKey s.windowsOff es) := by
  match es with
  | [] => exact .refl _
  | e :: es =>
    rw [leading_key_cons, leading_key_cons]
    have hsize := e.sort_operand_lt es
    exact (fragment_cut_short (s := s.forKeys) (.refl _) false e.sortOperand).bind fun _ => .refl _
termination_by sizeOf es

end

namespace Scope
variable (s : Scope)

theorem order_text_cut_short :
    CutShort (WindowsMissing s.dialect) s.orderText s.windowsOff.orderText := by
  refine CutShort.mapM (fun key => ?_) s.order
  exact (fragment_cut_short (s := s.forKeys) (.refl _) false key.expr).bind fun _ => .refl _

theorem render_cut_short (e : Expr) :
    CutShort (WindowsMissing s.dialect) (s.render e) (s.windowsOff.render e) :=
  fragment_cut_short s.order_text_cut_short false e

theorem render_all_cut_short (es : List Expr) :
    CutShort (WindowsMissing s.dialect) (s.renderAll es) (s.windowsOff.renderAll es) :=
  .mapM s.render_cut_short es

theorem render_named_cut_short (items : List NamedExpr) :
    CutShort (WindowsMissing s.dialect) (s.renderNamed items)
      (s.windowsOff.renderNamed items) := by
  refine CutShort.mapM (fun item => ?_) items
  exact (s.render_cut_short item.expr).bind fun _ => .refl _

theorem render_keys_cut_short (keys : List SortKey) :
    CutShort (WindowsMissing s.dialect) (s.renderKeys keys) (s.windowsOff.renderKeys keys) := by
  refine CutShort.mapM (fun key => ?_) keys
  exact (s.render_cut_short key.expr).bind fun _ => .refl _

end Scope
end LayeredSql.Sql
