import LayeredSql.Proofs.Expr.Nesting

namespace LayeredSql.Relation
variable {verb : Verb} {t : FunctionTable} {defs last derived : List NamedExpr}

/-- The definition that a name has before the items is part of a definition after them. -/
def live : List NamedExpr → String → Bool
  | [], _ => true
  | item :: rest, name =>
    (item.expr.columns.contains name && live rest item.name) ||
      (item.name != name && live rest name)

/-- The items that a resolved derivation is made of. -/
def liveItems : List NamedExpr → List NamedExpr
  | [] => []
  | item :: rest => if live rest item.name then item :: liveItems rest else liveItems rest

theorem mem_live_items_cons {item i : NamedExpr} {rest : List NamedExpr} :
    i ∈ liveItems (item :: rest) ↔
      (i = item ∧ live rest item.name = true) ∨ i ∈ liveItems rest := by
  rw [liveItems]
  split
  · rename_i hl
    simp [hl]
  · rename_i hl
    simp [hl]

theorem mem_define {name : String} {expr : Expr} {i : NamedExpr} :
    i ∈ define defs name expr ↔ i = ⟨name, expr⟩ ∨ (i ∈ defs ∧ i.name ≠ name) := by
  unfold define
  split
  · rename_i ha
    obtain ⟨known, hm, hn⟩ := List.any_eq_true.mp ha
    rw [List.mem_map]
    constructor
    · rintro ⟨j, hj, rfl⟩
      split
      · exact .inl rfl
      · rename_i hne
        exact .inr ⟨hj, by simpa using hne⟩
    · rintro (rfl | ⟨hi, hne⟩)
      · exact ⟨known, hm, if_pos hn⟩
      · exact ⟨i, hi, if_neg (by simpa using hne)⟩
  · rename_i ha
    have hnone : ∀ j ∈ defs, j.name ≠ name := by simpa using ha
    rw [List.mem_append, List.mem_singleton, or_comm]
    refine or_congr_right ⟨fun hi => ⟨hi, hnone i hi⟩, fun hi => hi.1⟩

theorem definition_windowless {c : String} (h : isWindowed t defs c = false) :
    (definition? defs c).any (·.callsWindow t) = false := by
  rw [← Bool.not_eq_true, Option.any_eq_true]
  rintro ⟨_, he, hcalls⟩
  obtain ⟨i, hm, rfl, rfl⟩ := definition_some he
  exact List.any_eq_false.mp h i hm (by simp [hcalls])

/-- From the definitions so far, those that are still live and the live items make up the result:
it nests windows where one of these does. -/
theorem resolve_from_nests (hn : (defs.map (·.name)).Nodup)
    (h : derived.foldlM (resolveItem verb t) defs = .ok last) :
    (∃ i ∈ last, i.expr.nestsWindow t = true) ↔
      (∃ i ∈ liveItems derived, i.expr.nestsWindow t = true) ∨
        ∃ i ∈ defs, live derived i.name = true ∧ i.expr.nestsWindow t = true := by
  induction derived generalizing defs with
  | nil =>
    rw [List.foldlM_nil, pure_ok] at h
    simp [h, liveItems, live]
  | cons item rest ih =>
    rw [List.foldlM_cons, bind_ok] at h
    obtain ⟨next, hnext, h⟩ := h
    obtain ⟨hfree, rfl⟩ := resolve_item_ok.mp hnext
    have hnests : (item.expr.substitute (definition? defs)).nestsWindow t = true ↔
        item.expr.nestsWindow t = true ∨
          ∃ i ∈ defs, i.name ∈ item.expr.columns ∧ i.expr.nestsWindow t = true := by
      rw [Expr.nests_substitute _ fun c hc => definition_windowless (hfree c hc),
        Bool.or_eq_true, Expr.definitions_bring_in hn]
    -- The new definition takes the place of the one that its name had.
    have hdefined : (∃ i ∈ define defs item.name (item.expr.substitute (definition? defs)),
          live rest i.name = true ∧ i.expr.nestsWindow t = true) ↔
        (live rest item.name = true ∧
          (item.expr.substitute (definition? defs)).nestsWindow t = true) ∨
        ∃ i ∈ defs, i.name ≠ item.name ∧ live rest i.name = true ∧
          i.expr.nestsWindow t = true := by
      simp only [mem_define, or_and_right, exists_or, exists_eq_left, and_assoc]
    have hlive : (∃ i ∈ liveItems (item :: rest), i.expr.nestsWindow t = true) ↔
        (live rest item.name = true ∧ item.expr.nestsWindow t = true) ∨
          ∃ i ∈ liveItems rest, i.expr.nestsWindow t = true := by
      simp only [mem_live_items_cons, or_and_right, exists_or, and_assoc, exists_eq_left]
    have hbefore : (∃ i ∈ defs, live (item :: rest) i.name = true ∧
          i.expr.nestsWindow t = true) ↔
        (live rest item.name = true ∧
          ∃ i ∈ defs, i.name ∈ item.expr.columns ∧ i.expr.nestsWindow t = true) ∨
        ∃ i ∈ defs, i.name ≠ item.name ∧ live rest i.name = true ∧
          i.expr.nestsWindow t = true := by
      simp only [live, Bool.or_eq_true, Bool.and_eq_true, List.contains_iff_mem, bne_iff_ne]
      grind
    rw [ih (define_names_nodup hn) h, hdefined, hnests, hlive, hbefore, and_or_left]
    apply iff_of_eq
    ac_rfl

/-- A resolved derivation nests windows where one of its live items does. -/
theorem resolve_derived_nests (h : resolveDerived verb t derived = .ok defs) :
    (∃ i ∈ defs, i.expr.nestsWindow t = true) ↔
      ∃ i ∈ liveItems derived, i.expr.nestsWindow t = true := by
  have hn : (([] : List NamedExpr).map (·.name)).Nodup := List.nodup_nil
  rw [resolve_from_nests hn h]
  simp

end LayeredSql.Relation
