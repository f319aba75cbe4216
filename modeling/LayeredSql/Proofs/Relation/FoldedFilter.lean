import LayeredSql.Proofs.Relation.Layers
import LayeredSql.Proofs.Sql.FoldedText
import LayeredSql.Proofs.Sql.Hoisting

namespace LayeredSql.Relation
open LayeredSql.Expr
variable {d : Dialect} {r plain windowed : Relation} {predicates : List Expr}

/-- Predicates with windows and predicates without, each of which filter on their own, filter
together exactly when the latter fold, to expressions whose floats are numbers. -/
theorem filter_together_iff (hd : d.Supported)
    (hp : r.filterRows d (predicates.filter (!·.callsWindow d.functions)) = .ok plain)
    (hw : r.filterWindows d (predicates.filter (·.callsWindow d.functions)) = .ok windowed) :
    (∃ r', r.filterWindows d predicates = .ok r') ↔
      ∃ folded, foldAll r.vars (predicates.filter (!·.callsWindow d.functions)) = .ok folded ∧
        NumericAll folded := by
  obtain ⟨plainTexts, hplain, -⟩ := filter_rows_ok.mp hp
  obtain ⟨part, inner, texts, hpart, hinner, htexts, -⟩ := filter_windows_ok.mp hw
  constructor
  · rintro ⟨r', h⟩
    obtain ⟨whole, inner', texts', hwhole, -, htexts', -⟩ := filter_windows_ok.mp h
    obtain ⟨folded, hf, -⟩ := hoist_predicates_ok.mp hwhole
    obtain ⟨whole', _, hwhole', -, -, hmem⟩ := hoist_predicates_apart hd.one_per_name hf
    obtain rfl : whole' = whole := Except.ok.inj (hwhole'.symm.trans hwhole)
    refine ⟨_, fold_all_filter (t := d.functions) not hf, numeric_all_iff.mpr ?_⟩
    intro e he
    obtain ⟨hm, hc⟩ := List.mem_filter.mp he
    have hwritten := (hmem e).mpr (.inl ⟨hm, by simpa using hc⟩)
    obtain ⟨text, -, ht⟩ := mapM_ok_result htexts' hwritten
    exact fun x hx => Sql.Scope.render_written hd ht _ hx
  · rintro ⟨folded, hf, hx⟩
    obtain ⟨windows, hwf, -⟩ := hoist_predicates_ok.mp hpart
    obtain ⟨all, hall⟩ := fold_all_of_parts (·.callsWindow d.functions) hwf hf
    obtain ⟨whole, part', hwhole, hpart', hsame, hmem⟩ :=
      hoist_predicates_apart hd.one_per_name hall
    obtain rfl : part' = part := Except.ok.inj (hpart'.symm.trans hpart)
    -- The windows are those of the predicates with windows alone, and so is the derivation of them.
    have hwritten : ∃ texts', (inner.scope d .condition).renderAll whole.predicates =
        .ok texts' := by
      refine mapM_succeeds.mpr fun e he => ?_
      rcases (hmem e).mp he with ⟨hm, hc⟩ | hm
      · have hfiltered := fold_all_filter (t := d.functions) not hall
        obtain rfl := Except.ok.inj (hf.symm.trans hfiltered)
        rw [fold_all_eq_mapM] at hf
        have hme : e ∈ all.filter (!·.callsWindow d.functions) :=
          List.mem_filter.mpr ⟨hm, by simp [hc]⟩
        obtain ⟨original, ho, hfold⟩ := mapM_ok_mem hf hme
        obtain ⟨text, -, ht⟩ := mapM_ok_result hplain ho
        have hwidens : (r.scope d .condition).Widens (inner.scope d .condition) :=
          ⟨rfl, rfl, mutate_vars hinner⟩
        exact (Sql.Scope.render_folded_iff hd hwidens nofun ht hfold).mpr
          (numeric_all_iff.mp hx e hme)
      · obtain ⟨text, -, ht⟩ := mapM_ok_result htexts hm
        exact ⟨text, ht⟩
    obtain ⟨texts', ht⟩ := hwritten
    exact ⟨_, filter_windows_ok.mpr ⟨whole, inner, texts', hwhole, hsame ▸ hinner, ht, rfl⟩⟩

/-- Folding an expression that is written as SQL leaves one that is, too, exactly when the floats in
it are numbers. So it is with filters: if the predicates without windows filter on their own, and so
do those with windows, then all filter together exactly when the former fold and the floats they
come to are numbers. -/
theorem folded_writable_iff (hd : d.Supported) :
    (∀ (s : Sql.Scope) (e e' : Expr) (text : String), s.dialect = d → s.render e = .ok text →
      e.fold s.vars = .ok e' → ((∃ text', s.render e' = .ok text') ↔ e'.Numeric)) ∧
    ∀ (r plain windowed : Relation) (predicates : List Expr),
      predicates.any (·.callsWindow d.functions) = true →
      r.filter d (predicates.filter (!·.callsWindow d.functions)) = .ok plain →
      r.filter d (predicates.filter (·.callsWindow d.functions)) = .ok windowed →
      ((∃ r', r.filter d predicates = .ok r') ↔
        ∃ folded, foldAll r.vars (predicates.filter (!·.callsWindow d.functions)) = .ok folded ∧
          NumericAll folded) := by
  constructor
  · rintro s e e' text rfl h hf
    exact Sql.Scope.render_folded_iff hd (.refl s) (fun _ order ho => ⟨order, ho⟩) h hf
  · intro r plain windowed predicates hany hp hw
    have hplain : (predicates.filter (!·.callsWindow d.functions)).any
        (·.callsWindow d.functions) = false := by
      simp
    have hwindowed : (predicates.filter (·.callsWindow d.functions)).any
        (·.callsWindow d.functions) = true := by
      simpa using hany
    rw [filter, hplain] at hp
    rw [filter, hwindowed] at hw
    simp only [filter, hany]
    exact filter_together_iff hd hp hw

def below (x : Float) : Expr :=
  .binary .lt (.column "x") (.literal (.float x))

def belowProduct (x y : Float) : Expr :=
  .binary .lt (.column "x") (.binary .mul (.literal (.float x)) (.literal (.float y)))

def severalRows : Expr :=
  .binary .gt (.call "n" []) (.literal (.int 1))

theorem below_numeric {x : Float} (h : x.isFinite = true) : (below x).Numeric := by
  intro y hy
  have hsame : y = x := by simpa [below, written] using hy
  rwa [hsame]

theorem below_refused {s : Sql.Scope} {x : Float} (hm : "x" ∈ s.vars) (h : x.isFinite = false) :
    s.render (below x) = .error (.expr (.nonFinite x)) := by
  have hcolumn : Sql.fragment s.orderText s true (.column "x") = .ok (s.dialect.quote "x") :=
    if_pos hm
  have hconstant : Sql.literal (.float x) = .error (.expr (.nonFinite x)) :=
    if_neg (by simp [h])
  exact bind_error.mpr (.inr ⟨_, hcolumn, bind_error.mpr (.inl hconstant)⟩)

/-- Beside a predicate with a window, the product is computed before it is written. -/
theorem product_refused {x y : Float} (h : (x * y).isFinite = false) :
    filter ⟨.table .inMemory, ["x"], [], []⟩ .ansi [belowProduct x y, severalRows] =
      .error ⟨.filter, .expr (.nonFinite (x * y))⟩ := by
  change sqlChecked .filter ((⟨.ansi, ["x", "q01"], .condition, [], []⟩ : Sql.Scope).renderAll
    [below (x * y), _]) >>= _ = _
  rw [Sql.Scope.renderAll, List.mapM_cons, below_refused (by decide) h]
  rfl

theorem product_beside_count_filters :
    let s : Sql.Scope := ⟨.ansi, ["x"], .condition, [], []⟩
    let r : Relation := ⟨.table .inMemory, ["x"], [], []⟩
    Dialect.ansi.Supported ∧ (belowProduct 2.5 4).fold s.vars = .ok (below (2.5 * 4)) ∧
      (∃ text, s.render (below (2.5 * 4)) = .ok text) ∧
      ∃ r', r.filter .ansi [belowProduct 2.5 4, severalRows] = .ok r' := by
  intro s r
  obtain ⟨text, htext⟩ : ∃ text, s.render (belowProduct 2.5 4) = .ok text :=
    exists_ok (by decide +kernel)
  obtain ⟨plain, hplain⟩ : ∃ plain, r.filter .ansi [belowProduct 2.5 4] = .ok plain :=
    exists_ok (by decide +kernel)
  obtain ⟨windowed, hwindowed⟩ : ∃ windowed, r.filter .ansi [severalRows] = .ok windowed :=
    exists_ok (by decide +kernel)
  have hnumeric : (below (2.5 * 4)).Numeric := below_numeric (by decide +kernel)
  have hall : NumericAll [below (2.5 * 4)] := numeric_all_iff.mpr (by simpa using hnumeric)
  obtain ⟨hwritten, hfilter⟩ := folded_writable_iff .ansi
  exact ⟨.ansi, rfl, (hwritten s _ _ text rfl htext rfl).mpr hnumeric,
    (hfilter r plain windowed [belowProduct 2.5 4, severalRows] rfl hplain hwindowed).mpr
      ⟨_, rfl, hall⟩⟩

/-- Folding may come to an infinity, for which SQL has no constant. A predicate that filters on its
own, as does the one with a window, is refused beside it. -/
theorem overflow_beside_count_refused :
    let s : Sql.Scope := ⟨.ansi, ["x"], .condition, [], []⟩
    let r : Relation := ⟨.table .inMemory, ["x"], [], []⟩
    Dialect.ansi.Supported ∧ (∃ text, s.render (belowProduct 1e308 10) = .ok text) ∧
      (belowProduct 1e308 10).fold s.vars = .ok (below (1e308 * 10)) ∧
      s.render (below (1e308 * 10)) = .error (.expr (.nonFinite (1e308 * 10))) ∧
      (∃ plain, r.filter .ansi [belowProduct 1e308 10] = .ok plain) ∧
      (∃ windowed, r.filter .ansi [severalRows] = .ok windowed) ∧
      r.filter .ansi [belowProduct 1e308 10, severalRows] =
        .error ⟨.filter, .expr (.nonFinite (1e308 * 10))⟩ := by
  intro s r
  have hoverflow : Float.isFinite (1e308 * 10) = false := by decide +kernel
  exact ⟨.ansi, exists_ok (by decide +kernel), rfl, below_refused (by decide) hoverflow,
    exists_ok (by decide +kernel), exists_ok (by decide +kernel), product_refused hoverflow⟩

end LayeredSql.Relation
