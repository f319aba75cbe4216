import LayeredSql.Proofs.Expr.SignOfZero
import LayeredSql.Proofs.Relation.Derivation

namespace LayeredSql.Expr
variable {t : FunctionTable}

mutual

def windowOperands (t : FunctionTable) : Expr → List Expr
  | .literal _ => []
  | .column _ => []
  | .binary _ left right => left.windowOperands t ++ right.windowOperands t
  | .unary _ operand => operand.windowOperands t
  | .call func args => (if t.isWindow func then args else []) ++ windowOperandsOfAll t args
  | .inSet operand set => operand.windowOperands t ++ windowOperandsOfAll t set
  | .cast operand _ => operand.windowOperands t

def windowOperandsOfAll (t : FunctionTable) : List Expr → List Expr
  | [] => []
  | e :: es => e.windowOperands t ++ windowOperandsOfAll t es

end

/-- Calls a window function inside the arguments of another. -/
def nestsWindow (t : FunctionTable) (e : Expr) : Bool :=
  (e.windowOperands t).any (·.callsWindow t)

def anyNestsWindow (t : FunctionTable) (es : List Expr) : Bool :=
  (windowOperandsOfAll t es).any (·.callsWindow t)

theorem any_calls_window_eq_any (es : List Expr) :
    anyCallsWindow t es = es.any (·.callsWindow t) := by
  induction es with
  | nil => rfl
  | cons e es ih => rw [anyCallsWindow, ih, List.any_cons]

theorem nests_column (name : String) : (column name).nestsWindow t = false := rfl

theorem nests_binary (op : BinaryOp) (l r : Expr) :
    (binary op l r).nestsWindow t = (l.nestsWindow t || r.nestsWindow t) :=
  List.any_append

theorem nests_call (func : String) (args : List Expr) :
    (call func args).nestsWindow t =
      (t.isWindow func && anyCallsWindow t args || anyNestsWindow t args) := by
  rw [nestsWindow, windowOperands, List.any_append, any_calls_window_eq_any]
  cases t.isWindow func <;> rfl

theorem nests_in_set (e : Expr) (set : List Expr) :
    (inSet e set).nestsWindow t = (e.nestsWindow t || anyNestsWindow t set) :=
  List.any_append

theorem any_nests_cons (e : Expr) (es : List Expr) :
    anyNestsWindow t (e :: es) = (e.nestsWindow t || anyNestsWindow t es) :=
  List.any_append

theorem any_nests_window_eq_any (es : List Expr) :
    anyNestsWindow t es = es.any (·.nestsWindow t) := by
  induction es with
  | nil => rfl
  | cons e es ih => rw [any_nests_cons, ih, List.any_cons]

/-- A rewriting that calls windows, and nests them, where there were some before. -/
structure SameWindows (t : FunctionTable) (e e' : Expr) : Prop where
  calls : e'.callsWindow t = e.callsWindow t
  nests : e'.nestsWindow t = e.nestsWindow t

structure SameWindowsAll (t : FunctionTable) (es es' : List Expr) : Prop where
  calls : anyCallsWindow t es' = anyCallsWindow t es
  nests : anyNestsWindow t es' = anyNestsWindow t es

namespace SameWindows
variable {e e' e'' l l' r r' : Expr} {es es' : List Expr}

theorem trans (h : SameWindows t e e') (h' : SameWindows t e' e'') : SameWindows t e e'' :=
  ⟨h'.calls.trans h.calls, h'.nests.trans h.nests⟩

theorem binary (op : BinaryOp) (hl : SameWindows t l l') (hr : SameWindows t r r') :
    SameWindows t (.binary op l r) (.binary op l' r') where
  calls := by rw [callsWindow, callsWindow, hl.calls, hr.calls]
  nests := by rw [nests_binary, nests_binary, hl.nests, hr.nests]

theorem unary (op : UnaryOp) (he : SameWindows t e e') :
    SameWindows t (.unary op e) (.unary op e') :=
  ⟨he.calls, he.nests⟩

theorem cast (target : SqlType) (he : SameWindows t e e') :
    SameWindows t (.cast e target) (.cast e' target) :=
  ⟨he.calls, he.nests⟩

theorem call (func : String) (hes : SameWindowsAll t es es') :
    SameWindows t (.call func es) (.call func es') where
  calls := by rw [callsWindow, callsWindow, hes.calls]
  nests := by rw [nests_call, nests_call, hes.calls, hes.nests]

theorem in_set (he : SameWindows t e e') (hes : SameWindowsAll t es es') :
    SameWindows t (.inSet e es) (.inSet e' es') where
  calls := by rw [callsWindow, callsWindow, he.calls, hes.calls]
  nests := by rw [nests_in_set, nests_in_set, he.nests, hes.nests]

end SameWindows

theorem SameWindowsAll.cons {e e' : Expr} {es es' : List Expr} (he : SameWindows t e e')
    (hes : SameWindowsAll t es es') : SameWindowsAll t (e :: es) (e' :: es') where
  calls := by rw [anyCallsWindow, anyCallsWindow, he.calls, hes.calls]
  nests := by rw [any_nests_cons, any_nests_cons, he.nests, hes.nests]

mutual

theorem signless_windows (e : Expr) : SameWindows t e e.signless := by
  match e with
  | .literal value => exact ⟨rfl, rfl⟩
  | .column name => exact ⟨rfl, rfl⟩
  | .binary op left right => exact .binary op (signless_windows left) (signless_windows right)
  | .unary op operand => exact .unary op (signless_windows operand)
  | .call func args => exact .call func (signless_windows_all args)
  | .inSet operand set => exact .in_set (signless_windows operand) (signless_windows_all set)
  | .cast operand target => exact .cast target (signless_windows operand)

theorem signless_windows_all (es : List Expr) : SameWindowsAll t es (signlessAll es) := by
  match es with
  | [] => exact ⟨rfl, rfl⟩
  | e :: es => exact .cons (signless_windows e) (signless_windows_all es)

end

mutual

/-- Where no window is called nothing is passed to one. -/
theorem windowless (e : Expr) (h : e.callsWindow t = false) :
    e.windowOperands t = [] ∧ e.windowArguments t false = [] := by
  match e with
  | .literal value => exact ⟨rfl, rfl⟩
  | .column name => exact ⟨rfl, rfl⟩
  | .binary op left right =>
    obtain ⟨hl, hr⟩ := Bool.or_eq_false_iff.mp h
    simp only [windowOperands, windowArguments, windowless left hl, windowless right hr,
      List.append_nil, and_self]
  | .unary op operand => exact windowless operand h
  | .call func args =>
    obtain ⟨hw, ha⟩ := Bool.or_eq_false_iff.mp h
    simp [windowOperands, windowArguments, hw, windowless_all args ha]
  | .inSet operand set =>
    obtain ⟨ho, hs⟩ := Bool.or_eq_false_iff.mp h
    simp only [windowOperands, windowArguments, windowless operand ho, windowless_all set hs,
      List.append_nil, and_self]
  | .cast operand target => exact windowless operand h

theorem windowless_all (es : List Expr) (h : anyCallsWindow t es = false) :
    windowOperandsOfAll t es = [] ∧ windowArgumentsOfAll t false es = [] := by
  match es with
  | [] => exact ⟨rfl, rfl⟩
  | e :: es =>
    obtain ⟨he, hes⟩ := Bool.or_eq_false_iff.mp h
    simp only [windowOperandsOfAll, windowArgumentsOfAll, windowless e he, windowless_all es hes,
      List.append_nil, and_self]

end

theorem nests_of_windowless {e : Expr} (h : e.callsWindow t = false) :
    e.nestsWindow t = false := by
  rw [nestsWindow, (windowless e h).1, List.any_nil]

theorem calls_of_nests {e : Expr} (h : e.nestsWindow t = true) : e.callsWindow t = true := by
  by_contra hc
  rw [nests_of_windowless (Bool.not_eq_true _ ▸ hc)] at h
  cases h

def bringsIn (σ : String → Option Expr) (p : Expr → Bool) (columns : List String) : Bool :=
  columns.any fun c => (σ c).any p

theorem brings_in_append (σ : String → Option Expr) (p : Expr → Bool) (cs ds : List String) :
    bringsIn σ p (cs ++ ds) = (bringsIn σ p cs || bringsIn σ p ds) :=
  List.any_append

theorem brings_in_eq_false {σ : String → Option Expr} {p : Expr → Bool} {columns : List String} :
    bringsIn σ p columns = false ↔ ∀ c ∈ columns, (σ c).any p = false := by
  simp [bringsIn, List.any_eq_false]

/-- Definitions bring in what the columns they define need. -/
theorem definitions_bring_in {defs : List NamedExpr} (hn : (defs.map (·.name)).Nodup)
    {p : Expr → Bool} {columns : List String} :
    bringsIn (Relation.definition? defs) p columns = true ↔
      ∃ item ∈ defs, item.name ∈ columns ∧ p item.expr = true := by
  unfold bringsIn
  rw [List.any_eq_true]
  constructor
  · rintro ⟨c, hc, hp⟩
    obtain ⟨e, he, hp⟩ := (Option.any_eq_true _ _).mp hp
    obtain ⟨item, hm, rfl, rfl⟩ := Relation.definition_some he
    exact ⟨item, hm, hc, hp⟩
  · rintro ⟨item, hm, hc, hp⟩
    refine ⟨item.name, hc, ?_⟩
    rw [Relation.definition_of_mem hn hm]
    exact hp

mutual

/-- After a substitution an expression has its own windows and those that are brought in. -/
theorem calls_substitute (σ : String → Option Expr) (e : Expr) :
    (e.substitute σ).callsWindow t =
      (e.callsWindow t || bringsIn σ (·.callsWindow t) e.columns) := by
  match e with
  | .literal value => rfl
  | .column name => cases hσ : σ name <;> simp [substitute, hσ, callsWindow, bringsIn, columns]
  | .binary op left right =>
    rw [substitute, callsWindow, calls_substitute σ left, calls_substitute σ right, callsWindow,
      columns, brings_in_append]
    ac_rfl
  | .unary op operand => exact calls_substitute σ operand
  | .call func args =>
    rw [substitute, callsWindow, calls_substitute_all σ args, callsWindow, columns, Bool.or_assoc]
  | .inSet operand set =>
    rw [substitute, callsWindow, calls_substitute σ operand, calls_substitute_all σ set,
      callsWindow, columns, brings_in_append]
    ac_rfl
  | .cast operand target => exact calls_substitute σ operand

theorem calls_substitute_all (σ : String → Option Expr) (es : List Expr) :
    anyCallsWindow t (substituteAll σ es) =
      (anyCallsWindow t es || bringsIn σ (·.callsWindow t) (columnsOfAll es)) := by
  match es with
  | [] => rfl
  | e :: es =>
    rw [substituteAll, anyCallsWindow, calls_substitute σ e, calls_substitute_all σ es,
      anyCallsWindow, columnsOfAll, brings_in_append]
    ac_rfl

end

mutual

/-- Inside the arguments of a window every column is an argument. -/
theorem window_arguments_inside (e : Expr) : e.windowArguments t true = e.columns := by
  match e with
  | .literal value => rfl
  | .column name => rfl
  | .binary op left right =>
    rw [windowArguments, window_arguments_inside left, window_arguments_inside right, columns]
  | .unary op operand => exact window_arguments_inside operand
  | .call func args =>
    rw [windowArguments, Bool.true_or, window_arguments_inside_all args, columns]
  | .inSet operand set =>
    rw [windowArguments, window_arguments_inside operand, window_arguments_inside_all set, columns]
  | .cast operand target => exact window_arguments_inside operand

theorem window_arguments_inside_all (es : List Expr) :
    windowArgumentsOfAll t true es = columnsOfAll es := by
  match es with
  | [] => rfl
  | e :: es =>
    rw [windowArgumentsOfAll, window_arguments_inside e, window_arguments_inside_all es,
      columnsOfAll]

end

mutual

/-- A substitution that brings no window into the arguments of another brings in nested windows
only where they are nested already. -/
theorem nests_substitute {σ : String → Option Expr} (e : Expr)
    (h : ∀ c ∈ e.windowArguments t false, (σ c).any (·.callsWindow t) = false) :
    (e.substitute σ).nestsWindow t =
      (e.nestsWindow t || bringsIn σ (·.nestsWindow t) e.columns) := by
  match e with
  | .literal value => rfl
  | .column name =>
    cases hσ : σ name <;> simp [substitute, hσ, nests_column, bringsIn, columns]
  | .binary op left right =>
    rw [windowArguments, List.forall_mem_append] at h
    rw [substitute, nests_binary, nests_substitute left h.1, nests_substitute right h.2,
      nests_binary, columns, brings_in_append]
    ac_rfl
  | .unary op operand => exact nests_substitute operand h
  | .call func args =>
    rw [windowArguments, Bool.false_or] at h
    rw [substitute, nests_call, nests_call, columns]
    cases hw : t.isWindow func with
    | true =>
      rw [hw, window_arguments_inside_all] at h
      have hargs := nests_substitute_all args fun c hc => h c (window_arguments_columns_all args hc)
      rw [calls_substitute_all, brings_in_eq_false.mpr h, hargs, Bool.or_false, Bool.or_assoc]
    | false =>
      rw [hw] at h
      rw [nests_substitute_all args h, Bool.false_and, Bool.false_and, Bool.false_or, Bool.false_or]
  | .inSet operand set =>
    rw [windowArguments, List.forall_mem_append] at h
    rw [substitute, nests_in_set, nests_substitute operand h.1, nests_substitute_all set h.2,
      nests_in_set, columns, brings_in_append]
    ac_rfl
  | .cast operand target => exact nests_substitute operand h

theorem nests_substitute_all {σ : String → Option Expr} (es : List Expr)
    (h : ∀ c ∈ windowArgumentsOfAll t false es, (σ c).any (·.callsWindow t) = false) :
    anyNestsWindow t (substituteAll σ es) =
      (anyNestsWindow t es || bringsIn σ (·.nestsWindow t) (columnsOfAll es)) := by
  match es with
  | [] => rfl
  | e :: es =>
    rw [windowArgumentsOfAll, List.forall_mem_append] at h
    rw [substituteAll, any_nests_cons, nests_substitute e h.1, nests_substitute_all es h.2,
      any_nests_cons, columnsOfAll, brings_in_append]
    ac_rfl

end

end LayeredSql.Expr
