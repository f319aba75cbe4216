import LayeredSql.Proofs.Expr.Folding
import LayeredSql.Proofs.Expr.SignOfZero
import LayeredSql.Proofs.Expr.Substitution
import LayeredSql.Proofs.FunctionTable
import LayeredSql.Proofs.Relation.Derivation
import LayeredSql.Proofs.Sql.FreeName

namespace LayeredSql.Expr
open LayeredSql.Relation
variable {t : FunctionTable} {vars : List String} {h h' : Hoisted}

/-- The windows taken out so far: calls over the columns, under names all different and unlike the
columns. -/
structure Hoisted.Valid (t : FunctionTable) (vars : List String) (h : Hoisted) : Prop where
  taken : h.taken = vars ++ h.windows.map (·.name)
  distinct : h.taken.Nodup
  calls : ∀ w ∈ h.windows, ∃ func args, w.expr = .call func args ∧ t.isWindow func = true
  columns : ∀ w ∈ h.windows, ∀ c ∈ w.expr.columns, c ∈ vars

namespace Hoisted.Valid

theorem names_distinct (hv : h.Valid t vars) : (h.windows.map (·.name)).Nodup := by
  have hd := hv.distinct
  rw [hv.taken] at hd
  exact (List.nodup_append.mp hd).2.1

theorem names_fresh (hv : h.Valid t vars) {c : String} (hc : c ∈ vars) :
    c ∉ h.windows.map (·.name) := by
  have hd := hv.distinct
  rw [hv.taken] at hd
  exact fun hm => (List.nodup_append.mp hd).2.2 c hc c hm rfl

/-- A column of the input stands for no window. -/
theorem definition_of_var (hv : h.Valid t vars) {c : String} (hc : c ∈ vars) :
    definition? h.windows c = none :=
  definition_of_not_mem (hv.names_fresh hc)

theorem start (hn : vars.Nodup) : Hoisted.Valid t vars ⟨[], vars⟩ where
  taken := by simp
  distinct := hn
  calls := by simp
  columns := by simp

theorem added (hv : h.Valid t vars) {func : String} {args : List Expr}
    (hw : t.isWindow func = true) (hc : ∀ c ∈ (Expr.call func args).columns, c ∈ vars) :
    Hoisted.Valid t vars ⟨h.windows ++ [⟨freeName h.taken, .call func args⟩],
      h.taken ++ [freeName h.taken]⟩ where
  taken := by simp [hv.taken]
  distinct := by
    change (h.taken ++ [freeName h.taken]).Nodup
    rw [← List.concat_eq_append]
    exact hv.distinct.concat (free_name_not_taken h.taken)
  calls := by
    rw [List.forall_mem_append]
    exact ⟨hv.calls, by simpa using hw⟩
  columns := by
    rw [List.forall_mem_append, List.forall_mem_singleton]
    exact ⟨hv.columns, hc⟩

end Hoisted.Valid

/-- From one state to a later one; `calls` says whether there was a window to take out. -/
structure Grows (t : FunctionTable) (vars : List String) (h h' : Hoisted) (calls : Bool) :
    Prop where
  valid : h'.Valid t vars
  keeps : h.windows <+: h'.windows
  found : calls = true → h'.windows ≠ []
  idle : calls = false → h' = h

theorem Grows.refl (hv : h.Valid t vars) : Grows t vars h h false :=
  ⟨hv, List.prefix_rfl, fun hc => (by cases hc), fun _ => rfl⟩

theorem Grows.trans {h'' : Hoisted} {a b : Bool} (ha : Grows t vars h h' a)
    (hb : Grows t vars h' h'' b) : Grows t vars h h'' (a || b) := by
  refine ⟨hb.valid, ha.keeps.trans hb.keeps, ?_, ?_⟩
  · intro hc
    rcases Bool.or_eq_true_iff.mp hc with hc | hc
    · exact fun he => ha.found hc (List.prefix_nil.mp (he ▸ hb.keeps))
    · exact hb.found hc
  · intro hc
    obtain ⟨hca, hcb⟩ := Bool.or_eq_false_iff.mp hc
    exact (hb.idle hcb).trans (ha.idle hca)

def Uses (h h' : Hoisted) (columns : List String) : Prop :=
  ∀ w ∈ h'.windows, w ∈ h.windows ∨ w.name ∈ columns

theorem Uses.refl (h : Hoisted) (columns : List String) : Uses h h columns :=
  fun _ hm => .inl hm

theorem Uses.append {h'' : Hoisted} {cs ds : List String} (hc : Uses h h' cs)
    (hd : Uses h' h'' ds) : Uses h h'' (cs ++ ds) := by
  intro w hm
  rcases hd w hm with hm | hm
  · exact (hc w hm).imp_right fun hm => List.mem_append_left _ hm
  · exact .inr (List.mem_append_right _ hm)

/-- What becomes of an expression `e` when its windows are taken out: `e'` has none, and is `e`
once they are written back. -/
structure Hoists (t : FunctionTable) (vars : List String) (h h' : Hoisted) (e e' : Expr) :
    Prop where
  grows : Grows t vars h h' (e.callsWindow t)
  uses : Uses h h' e'.columns
  clean : e'.callsWindow t = false
  restored : ∀ last : Hoisted, last.Valid t vars → h'.windows <+: last.windows →
    (e'.substitute (definition? last.windows)).signless = e.signless

structure HoistsAll (t : FunctionTable) (vars : List String) (h h' : Hoisted)
    (es es' : List Expr) : Prop where
  grows : Grows t vars h h' (anyCallsWindow t es)
  uses : Uses h h' (columnsOfAll es')
  clean : anyCallsWindow t es' = false
  restored : ∀ last : Hoisted, last.Valid t vars → h'.windows <+: last.windows →
    signlessAll (substituteAll (definition? last.windows) es') = signlessAll es

/-- A call shares the column of an equal one, or gets one of its own. -/
theorem share_hoists (hv : h.Valid t vars) {func : String} {args : List Expr}
    (hw : t.isWindow func = true) (hc : ∀ c ∈ (Expr.call func args).columns, c ∈ vars) :
    Hoists t vars h (h.share (.call func args)).2 (.call func args)
      (h.share (.call func args)).1 := by
  have hcalls : (Expr.call func args).callsWindow t = true := by simp [callsWindow, hw]
  unfold Hoisted.share
  split
  · rename_i known hf
    have hm := List.mem_of_find?_eq_some hf
    have hs : known.expr.same (.call func args) = true := by simpa using List.find?_some hf
    refine ⟨⟨hv, List.prefix_rfl, fun _ => List.ne_nil_of_mem hm, ?_⟩, .refl h _, rfl, ?_⟩
    · simp [hcalls]
    · intro last hl hp
      rw [substitute, definition_of_mem hl.names_distinct (hp.subset hm)]
      exact signless_of_same _ _ hs
  · refine ⟨⟨hv.added hw hc, List.prefix_append _ _, fun _ => by simp, ?_⟩, ?_, rfl, ?_⟩
    · simp [hcalls]
    · intro w hm
      refine (List.mem_append.mp hm).imp_right fun hm => ?_
      rw [List.mem_singleton.mp hm, columns]
      exact List.mem_singleton_self _
    · intro last hl hp
      have hm : (⟨freeName h.taken, .call func args⟩ : NamedExpr) ∈ last.windows :=
        hp.subset (List.mem_append_right _ List.mem_cons_self)
      have hd := definition_of_mem hl.names_distinct hm
      rw [substitute, hd]
      rfl

mutual

theorem hoist_spec (hn : t.OnePerName) {h : Hoisted} (hv : h.Valid t vars) (e : Expr)
    (hc : ∀ c ∈ e.columns, c ∈ vars) :
    Hoists t vars h (e.hoist t.windowNames h).2 e (e.hoist t.windowNames h).1 := by
  match e with
  | .literal value => exact ⟨.refl hv, .refl h _, rfl, fun _ _ _ => rfl⟩
  | .column name =>
    refine ⟨.refl hv, .refl h _, rfl, fun last hl _ => ?_⟩
    change ((definition? last.windows name).getD (.column name)).signless = _
    rw [hl.definition_of_var (hc name List.mem_cons_self)]
    rfl
  | .binary op left right =>
    simp only [columns, List.forall_mem_append] at hc
    have hl := hoist_spec hn hv left hc.1
    have hr := hoist_spec hn hl.grows.valid right hc.2
    refine ⟨hl.grows.trans hr.grows, hl.uses.append hr.uses,
      Bool.or_eq_false_iff.mpr ⟨hl.clean, hr.clean⟩, ?_⟩
    intro last hv' hp
    change Expr.signless (.binary op _ _) = _
    rw [signless, signless, hl.restored last hv' (hr.grows.keeps.trans hp),
      hr.restored last hv' hp]
  | .unary op operand =>
    have ho := hoist_spec hn hv operand hc
    refine ⟨ho.grows, ho.uses, ho.clean, fun last hv' hp => ?_⟩
    change Expr.signless (.unary op _) = _
    rw [signless, signless, ho.restored last hv' hp]
  | .call func args =>
    by_cases hf : func ∈ t.windowNames
    · have hw := (hn.window_names_iff func).mp hf
      rw [hoist, if_pos hf]
      exact share_hoists hv hw hc
    · have hw := (hn.not_window_name_iff func).mp hf
      have ha := hoist_all_spec hn hv args hc
      have hcalls : ∀ es, (Expr.call func es).callsWindow t = anyCallsWindow t es := by
        intro es
        rw [callsWindow, hw, Bool.false_or]
      rw [hoist, if_neg hf]
      refine ⟨?_, ha.uses, (hcalls _).trans ha.clean, fun last hv' hp => ?_⟩
      · rw [hcalls]
        exact ha.grows
      · rw [substitute, signless, signless, ha.restored last hv' hp]
  | .inSet operand set =>
    simp only [columns, List.forall_mem_append] at hc
    have ho := hoist_spec hn hv operand hc.1
    have hs := hoist_all_spec hn ho.grows.valid set hc.2
    refine ⟨ho.grows.trans hs.grows, ho.uses.append hs.uses,
      Bool.or_eq_false_iff.mpr ⟨ho.clean, hs.clean⟩, ?_⟩
    intro last hv' hp
    change Expr.signless (.inSet _ _) = _
    rw [signless, signless, ho.restored last hv' (hs.grows.keeps.trans hp),
      hs.restored last hv' hp]
  | .cast operand target =>
    have ho := hoist_spec hn hv operand hc
    refine ⟨ho.grows, ho.uses, ho.clean, fun last hv' hp => ?_⟩
    change Expr.signless (.cast _ target) = _
    rw [signless, signless, ho.restored last hv' hp]

theorem hoist_all_spec (hn : t.OnePerName) {h : Hoisted} (hv : h.Valid t vars) (es : List Expr)
    (hc : ∀ c ∈ columnsOfAll es, c ∈ vars) :
    HoistsAll t vars h (hoistAll t.windowNames h es).2 es (hoistAll t.windowNames h es).1 := by
  match es with
  | [] => exact ⟨.refl hv, .refl h _, rfl, fun _ _ _ => rfl⟩
  | e :: es =>
    simp only [columnsOfAll, List.forall_mem_append] at hc
    have ho := hoist_spec hn hv e hc.1
    have hs := hoist_all_spec hn ho.grows.valid es hc.2
    refine ⟨ho.grows.trans hs.grows, ho.uses.append hs.uses,
      Bool.or_eq_false_iff.mpr ⟨ho.clean, hs.clean⟩, ?_⟩
    intro last hv' hp
    change signlessAll (_ :: _) = _
    rw [signlessAll, signlessAll, ho.restored last hv' (hs.grows.keeps.trans hp),
      hs.restored last hv' hp]

end

mutual

/-- Where there is no window, there is nothing to take out. -/
theorem hoist_windowless (hn : t.OnePerName) (h : Hoisted) (e : Expr)
    (hw : e.callsWindow t = false) : e.hoist t.windowNames h = (e, h) := by
  match e with
  | .literal value => rfl
  | .column name => rfl
  | .binary op left right =>
    obtain ⟨hl, hr⟩ := Bool.or_eq_false_iff.mp hw
    simp only [hoist, hoist_windowless hn h left hl, hoist_windowless hn h right hr]
  | .unary op operand => rw [hoist, hoist_windowless hn h operand hw]
  | .call func args =>
    obtain ⟨hf, ha⟩ := Bool.or_eq_false_iff.mp hw
    rw [hoist, if_neg ((hn.not_window_name_iff func).mpr hf), hoist_all_windowless hn h args ha]
  | .inSet operand set =>
    obtain ⟨ho, hs⟩ := Bool.or_eq_false_iff.mp hw
    simp only [hoist, hoist_windowless hn h operand ho, hoist_all_windowless hn h set hs]
  | .cast operand target => rw [hoist, hoist_windowless hn h operand hw]

theorem hoist_all_windowless (hn : t.OnePerName) (h : Hoisted) (es : List Expr)
    (hw : anyCallsWindow t es = false) : hoistAll t.windowNames h es = (es, h) := by
  match es with
  | [] => rfl
  | e :: es =>
    obtain ⟨he, hes⟩ := Bool.or_eq_false_iff.mp hw
    simp only [hoistAll, hoist_windowless hn h e he, hoist_all_windowless hn h es hes]

end

/-- From one state to a later one, `calls` saying whether there was a window to take out and `left`
whether there still is: none is left, and nothing is taken out only if there was none. -/
structure Takes (h h' : Hoisted) (calls left : Bool) : Prop where
  clean : left = false
  found : h'.windows = [] ↔ h.windows = [] ∧ calls = false

theorem Takes.trans {h'' : Hoisted} {a a' b b' : Bool} (ha : Takes h h' a a')
    (hb : Takes h' h'' b b') : Takes h h'' (a || b) (a' || b') where
  clean := Bool.or_eq_false_iff.mpr ⟨ha.clean, hb.clean⟩
  found := by rw [hb.found, ha.found, Bool.or_eq_false_iff, and_assoc]

theorem Takes.none (h : Hoisted) : Takes h h false false :=
  ⟨rfl, by simp⟩

theorem share_takes (t : FunctionTable) (h : Hoisted) (call : Expr) :
    Takes h (h.share call).2 true ((h.share call).1.callsWindow t) := by
  unfold Hoisted.share
  split
  · rename_i known hf
    have hne : h.windows ≠ [] := List.ne_nil_of_mem (List.mem_of_find?_eq_some hf)
    exact ⟨rfl, by simp [hne]⟩
  · exact ⟨rfl, by simp⟩

mutual

/-- The windows that are looked for by name are those that calls are known by. -/
theorem hoist_takes (hn : t.OnePerName) (h : Hoisted) (e : Expr) :
    Takes h (e.hoist t.windowNames h).2 (e.callsWindow t)
      ((e.hoist t.windowNames h).1.callsWindow t) := by
  match e with
  | .literal value => exact .none h
  | .column name => exact .none h
  | .binary op left right => exact (hoist_takes hn h left).trans (hoist_takes hn _ right)
  | .unary op operand => exact hoist_takes hn h operand
  | .call func args =>
    by_cases hf : func ∈ t.windowNames
    · rw [hoist, if_pos hf, callsWindow, (hn.window_names_iff func).mp hf, Bool.true_or]
      exact share_takes t h (.call func args)
    · have hw := (hn.not_window_name_iff func).mp hf
      rw [hoist, if_neg hf]
      simp only [callsWindow, hw, Bool.false_or]
      exact hoist_all_takes hn h args
  | .inSet operand set => exact (hoist_takes hn h operand).trans (hoist_all_takes hn _ set)
  | .cast operand target => exact hoist_takes hn h operand

theorem hoist_all_takes (hn : t.OnePerName) (h : Hoisted) (es : List Expr) :
    Takes h (hoistAll t.windowNames h es).2 (anyCallsWindow t es)
      (anyCallsWindow t (hoistAll t.windowNames h es).1) := by
  match es with
  | [] => exact .none h
  | e :: es => exact (hoist_takes hn h e).trans (hoist_all_takes hn _ es)

end

/-- Expressions without windows stay as they are, and do not count for the others. -/
theorem hoist_all_apart (hn : t.OnePerName) (h : Hoisted) (es : List Expr) :
    (hoistAll t.windowNames h es).2 =
        (hoistAll t.windowNames h (es.filter (·.callsWindow t))).2 ∧
      ∀ e, e ∈ (hoistAll t.windowNames h es).1 ↔
        (e ∈ es ∧ e.callsWindow t = false) ∨
          e ∈ (hoistAll t.windowNames h (es.filter (·.callsWindow t))).1 := by
  induction es generalizing h with
  | nil => simp [hoistAll]
  | cons x es ih =>
    cases hx : x.callsWindow t with
    | false =>
      obtain ⟨hlast, hmem⟩ := ih h
      rw [List.filter_cons_of_neg (by simp [hx])]
      simp only [hoistAll, hoist_windowless hn h x hx]
      refine ⟨hlast, fun e => ?_⟩
      simp only [List.mem_cons, hmem e]
      constructor
      · rintro (rfl | hm | hm)
        · exact .inl ⟨.inl rfl, hx⟩
        · exact .inl ⟨.inr hm.1, hm.2⟩
        · exact .inr hm
      · rintro (⟨rfl | hm, hc⟩ | hm)
        · exact .inl rfl
        · exact .inr (.inl ⟨hm, hc⟩)
        · exact .inr (.inr hm)
    | true =>
      obtain ⟨hlast, hmem⟩ := ih (x.hoist t.windowNames h).2
      rw [List.filter_cons_of_pos hx]
      refine ⟨hlast, fun e => ?_⟩
      simp only [hoistAll, List.mem_cons, hmem e]
      constructor
      · rintro (rfl | hm | hm)
        · exact .inr (.inl rfl)
        · exact .inl ⟨.inr hm.1, hm.2⟩
        · exact .inr (.inr hm)
      · rintro (⟨rfl | hm, hc⟩ | rfl | hm)
        · rw [hx] at hc
          cases hc
        · exact .inr (.inl ⟨hm, hc⟩)
        · exact .inl rfl
        · exact .inr (.inr hm)

/-- What hoisting the windows of predicates over `vars` comes to. -/
structure Hoisting.Lossless (t : FunctionTable) (vars : List String) (predicates : List Expr)
    (hoisting : Hoisting) : Prop where
  clean : ∀ e ∈ hoisting.predicates, e.callsWindow t = false
  names_distinct : (hoisting.windows.map (·.name)).Nodup
  names_fresh : ∀ w ∈ hoisting.windows, w.name ∉ vars
  calls : ∀ w ∈ hoisting.windows, ∃ func args, w.expr = .call func args ∧ t.isWindow func = true
  needed : hoisting.windows = [] ↔ predicates.any (·.callsWindow t) = false
  /-- One for one, each predicate is its folded original with the windows under their names. -/
  restored : List.Forall₂
    (fun original e => ∃ folded, original.fold vars = .ok folded ∧
      (e.substitute (definition? hoisting.windows)).signless = folded.signless)
    predicates hoisting.predicates

theorem hoist_predicates_ok {predicates : List Expr} {hoisting : Hoisting} :
    hoistPredicates t vars predicates = .ok hoisting ↔
      ∃ folded, foldAll vars predicates = .ok folded ∧
        hoisting = ⟨(hoistAll t.windowNames ⟨[], vars⟩ folded).2.windows,
          (hoistAll t.windowNames ⟨[], vars⟩ folded).1⟩ := by
  simp only [hoistPredicates, bind_ok, pure_ok]

/-- The windows are those of the predicates with windows. The others are only folded. -/
theorem hoist_predicates_apart (hn : t.OnePerName) {predicates folded : List Expr}
    (hf : foldAll vars predicates = .ok folded) :
    ∃ whole part, hoistPredicates t vars predicates = .ok whole ∧
      hoistPredicates t vars (predicates.filter (·.callsWindow t)) = .ok part ∧
      whole.windows = part.windows ∧
      ∀ e, e ∈ whole.predicates ↔
        (e ∈ folded ∧ e.callsWindow t = false) ∨ e ∈ part.predicates := by
  have hwindowed := fold_all_filter (t := t) id hf
  obtain ⟨hlast, hmem⟩ := hoist_all_apart hn ⟨[], vars⟩ folded
  exact ⟨_, _, hoist_predicates_ok.mpr ⟨_, hf, rfl⟩, hoist_predicates_ok.mpr ⟨_, hwindowed, rfl⟩,
    congrArg Hoisted.windows hlast, hmem⟩

theorem hoist_predicates_spec (hn : t.OnePerName) (hv : vars.Nodup) {predicates : List Expr}
    {hoisting : Hoisting} (h : hoistPredicates t vars predicates = .ok hoisting) :
    ∃ folded last, foldAll vars predicates = .ok folded ∧ hoisting.windows = last.windows ∧
      HoistsAll t vars ⟨[], vars⟩ last folded hoisting.predicates := by
  obtain ⟨folded, hf, rfl⟩ := hoist_predicates_ok.mp h
  have hfrom := fold_all_from (t := t) predicates hf
  refine ⟨folded, _, hf, rfl, hoist_all_spec hn (.start hv) folded ?_⟩
  rw [hfrom.columns]
  exact hfrom.found

/-- The windows are about columns of the input only. -/
theorem hoist_predicates_columns (hn : t.OnePerName) (hv : vars.Nodup) {predicates : List Expr}
    {hoisting : Hoisting} (h : hoistPredicates t vars predicates = .ok hoisting) :
    ∀ w ∈ hoisting.windows, ∀ c ∈ w.expr.columns, c ∈ vars := by
  obtain ⟨_, last, _, hw, hall⟩ := hoist_predicates_spec hn hv h
  rw [hw]
  exact hall.grows.valid.columns

/-- The windows nest others where the predicates did. -/
theorem hoist_predicates_nests (hn : t.OnePerName) (hv : vars.Nodup) {predicates : List Expr}
    {hoisting : Hoisting} (h : hoistPredicates t vars predicates = .ok hoisting) :
    (hoisting.windows.any fun w => w.expr.nestsWindow t) =
      predicates.any (·.nestsWindow t) := by
  obtain ⟨folded, last, hf, hw, hall⟩ := hoist_predicates_spec hn hv h
  have hnames := hall.grows.valid.names_distinct
  have hclean := windowless_all _ hall.clean
  have hback := hall.restored last hall.grows.valid List.prefix_rfl
  have hbrought : anyNestsWindow t folded = bringsIn (definition? last.windows)
      (·.nestsWindow t) (columnsOfAll hoisting.predicates) := by
    rw [← (signless_windows_all folded).nests, ← hback, (signless_windows_all _).nests,
      nests_substitute_all _ (by simp [hclean.2]), anyNestsWindow, hclean.1, List.any_nil,
      Bool.false_or]
  rw [← any_nests_window_eq_any, ← (fold_all_from predicates hf).nests, hbrought, hw,
    Bool.eq_iff_iff, definitions_bring_in hnames, List.any_eq_true]
  refine exists_congr fun w => and_congr_right fun hm => ?_
  have hused : w.name ∈ columnsOfAll hoisting.predicates :=
    (hall.uses w hm).resolve_left List.not_mem_nil
  exact (and_iff_right hused).symm

theorem hoist_predicates_lossless (hn : t.OnePerName) (hv : vars.Nodup) {predicates : List Expr}
    {hoisting : Hoisting} (h : hoistPredicates t vars predicates = .ok hoisting) :
    hoisting.Lossless t vars predicates := by
  obtain ⟨folded, last, hf, hw, hall⟩ := hoist_predicates_spec hn hv h
  have hvalid := hall.grows.valid
  have hcalls : anyCallsWindow t folded = predicates.any (·.callsWindow t) := by
    rw [(fold_all_from predicates hf).calls, any_calls_window_eq_any]
  refine ⟨?_, ?_, ?_, ?_, ?_, ?_⟩
  · have hclean := hall.clean
    rw [any_calls_window_eq_any, List.any_eq_false] at hclean
    simpa using hclean
  · rw [hw]
    exact hvalid.names_distinct
  · intro w hm hc
    rw [hw] at hm
    exact hvalid.names_fresh hc (List.mem_map.mpr ⟨w, hm, rfl⟩)
  · rw [hw]
    exact hvalid.calls
  · rw [hw, ← hcalls]
    constructor
    · intro hnone
      by_contra hc
      exact hall.grows.found (Bool.not_eq_false _ ▸ hc) hnone
    · intro hc
      rw [hall.grows.idle hc]
  · have hback := hall.restored last hvalid List.prefix_rfl
    rw [← hw, substituteAll_eq_map, signless_all_eq_map, signless_all_eq_map] at hback
    have hfold := fold_all_ok.mp hf
    generalize hoisting.predicates = rewritten at hback
    clear hcalls hall hf h
    induction hfold generalizing rewritten with
    | nil =>
      cases rewritten with
      | nil => exact .nil
      | cons e es => cases hback
    | cons he _ ih =>
      cases rewritten with
      | nil => cases hback
      | cons e es =>
        simp only [List.map_cons, List.cons.injEq] at hback
        exact .cons ⟨_, he, hback.1⟩ (ih es hback.2)

end LayeredSql.Expr
