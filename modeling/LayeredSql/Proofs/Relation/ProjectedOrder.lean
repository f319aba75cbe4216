import LayeredSql.Proofs.Expr.Arrangement
import LayeredSql.Proofs.Relation.WellFormed

namespace LayeredSql.Relation
open Names SortKey
variable {d : Dialect} {r r' : Relation} {mapping : List ColumnRename} {keys : List SortKey}

/-- Whatever expressions mean, rows arranged by the keys `before` are arranged by the keys `after`
once each source of the mapping has become its target. -/
def KeepsArranged (mapping : List ColumnRename) (before after : List SortKey) : Prop :=
  ∀ (V S ρ : Type) [Preorder S] (I : Interpretation V) (env env' : String → V) (cell : V → ρ → S)
    (rows : List ρ), (∀ m ∈ mapping, env' m.target = env m.source) →
      ArrangedBy I env cell rows before → ArrangedBy I env' cell rows after

def survives (mapping : List ColumnRename) (key : SortKey) : Bool :=
  key.expr.columns.all fun c => mapping.any (·.source == c)

/-- No key that is passed on comes after one that is lost, unless its expression is that of a key
before them. -/
def Unbroken (mapping : List ColumnRename) (keys : List SortKey) : Prop :=
  ∀ key ∈ keys.dropWhile (survives mapping), survives mapping key = true →
    ∃ earlier ∈ keys.takeWhile (survives mapping), earlier.expr = key.expr

theorem project_order (r : Relation) (d : Dialect) (mapping : List ColumnRename) :
    (r.project d mapping).order = (r.order.filter (survives mapping)).map (retarget mapping) := by
  unfold survives
  simp only [any_source]
  rfl

/-- Different targets can take the values of their sources. -/
theorem exists_renamed {V : Type} (hn : (mapping.map (·.target)).Nodup) (env : String → V) :
    ∃ env' : String → V, ∀ m ∈ mapping, env' m.target = env m.source := by
  refine ⟨fun name => env (((mapping.find? (·.target == name)).map (·.source)).getD name), ?_⟩
  intro m hm
  simp only [found_by_name hn hm, Option.map_some, Option.getD_some]

section Values
variable {V S ρ : Type} [Preorder S] {I : Interpretation V} {env env' : String → V}
  (hm : ∀ m ∈ mapping, env' m.target = env m.source)
include hm

theorem retargeted_value {key : SortKey} (hk : survives mapping key = true) :
    (retarget mapping key).expr.eval I env' = key.expr.eval I env := by
  unfold retarget
  rw [Expr.eval_substitute]
  apply Expr.eval_congr
  intro c hc
  have hkept : (targetOf? mapping c).isSome = true := by
    rw [← any_source]
    exact List.all_eq_true.mp hk c hc
  obtain ⟨target, ht⟩ := Option.isSome_iff_exists.mp hkept
  simp only [Expr.replacedValue, ht, Option.map_some, Option.getD_some]
  exact hm _ (target_of_some ht)

/-- Keys under the new names arrange what they arranged under the old ones. -/
theorem arranged_retargeted {cell : V → ρ → S} {rows : List ρ}
    (hk : ∀ key ∈ keys, survives mapping key = true) :
    ArrangedBy I env' cell rows (keys.map (retarget mapping)) ↔
      ArrangedBy I env cell rows keys := by
  have hsame : ∀ a b, Precedes (fun e => cell (e.eval I env') a) (fun e => cell (e.eval I env') b)
      (keys.map (retarget mapping)) ↔
        Precedes (fun e => cell (e.eval I env) a) (fun e => cell (e.eval I env) b) keys := by
    intro a b
    apply (precedes_substitute _).trans
    apply precedes_congr
    intro key hkey
    have hvalue := retargeted_value (I := I) hm (hk key hkey)
    exact ⟨congrArg (cell · a) hvalue, congrArg (cell · b) hvalue⟩
  unfold ArrangedBy
  simp only [hsame]

end Values

/-- What the keys that are passed on need of the keys as they were. -/
theorem keeps_arranged_iff_implies (hn : (mapping.map (·.target)).Nodup) :
    KeepsArranged mapping r.order (r.project d mapping).order ↔
      Implies [] r.order (r.order.filter (survives mapping)) := by
  have hk : ∀ key ∈ r.order.filter (survives mapping), survives mapping key = true :=
    fun _ hm => (List.mem_filter.mp hm).2
  rw [project_order, implies_iff_arranged]
  constructor
  · intro hkeeps V S ρ _ I env cell rows hrows
    obtain ⟨env', hm⟩ := exists_renamed hn env
    exact (arranged_retargeted hm hk).mp (hkeeps V S ρ I env env' cell rows hm hrows)
  · intro harranged V S ρ _ I env env' cell rows hm hrows
    exact (arranged_retargeted hm hk).mpr (harranged V S ρ I env cell rows hrows)

theorem keeps_arranged_iff (hn : (mapping.map (·.target)).Nodup) :
    KeepsArranged mapping r.order (r.project d mapping).order ↔ Unbroken mapping r.order := by
  rw [keeps_arranged_iff_implies hn, implies_filter_iff]
  · simp only [List.not_mem_nil, false_or]
    rfl
  · intro key key' he
    unfold survives
    rw [he]
  · exact fun _ hm => absurd hm List.not_mem_nil

theorem unbroken_of_all (h : ∀ key ∈ keys, survives mapping key = true) :
    Unbroken mapping keys := by
  unfold Unbroken
  rw [List.dropWhile_eq_nil_iff.mpr h]
  exact fun _ hm => absurd hm List.not_mem_nil

/-- Every key is passed on by a rename, if its columns are there. -/
theorem survives_in_place {vars : List String} (renames : List ColumnRename) {key : SortKey}
    (h : ∀ c ∈ key.expr.columns, c ∈ vars) : survives (inPlace vars renames) key = true := by
  refine List.all_eq_true.mpr fun c hc => List.any_eq_true.mpr ?_
  exact ⟨_, List.mem_map_of_mem (h c hc), beq_self_eq_true c⟩

/-- Rows arranged by the keys of a relation stay arranged by the keys that a selection hands on
exactly when no key that it passes on comes after one that it loses, but for keys that decide
nothing. So it is with renames, and these lose no key over columns that are there. -/
theorem projected_order_truthful_iff (r r' : Relation) (d : Dialect) :
    (∀ columns, r.select d columns = .ok r' → ∃ wanted, columns.mapM requested = .ok wanted ∧
      (KeepsArranged (withGroups wanted r.groups) r.order r'.order ↔
        Unbroken (withGroups wanted r.groups) r.order)) ∧
    ∀ verb renames, r.rename verb d renames = .ok r' →
      (KeepsArranged (inPlace r.vars renames) r.order r'.order ↔
        Unbroken (inPlace r.vars renames) r.order) ∧
      ((∀ key ∈ r.order, ∀ c ∈ key.expr.columns, c ∈ r.vars) →
        KeepsArranged (inPlace r.vars renames) r.order r'.order) := by
  constructor
  · intro columns h
    obtain ⟨wanted, hw, -, hn, rfl⟩ := select_ok.mp h
    exact ⟨wanted, hw, keeps_arranged_iff hn⟩
  · intro verb renames h
    obtain ⟨-, -, hn, rfl⟩ := rename_ok.mp h
    rw [← in_place_targets] at hn
    have hiff := keeps_arranged_iff (r := r) (d := d) hn
    refine ⟨hiff, fun hkeys => hiff.mpr (unbroken_of_all fun key hk => ?_)⟩
    exact survives_in_place renames (hkeys key hk)

def dailyVisits : Relation :=
  ⟨.table ⟨none, "visits"⟩, ["day", "visitor", "page"], [],
    [⟨.column "day", true⟩, ⟨.column "visitor", false⟩]⟩

/-- A selection may lose the last key, and two columns may swap their names. -/
theorem last_key_lost_truthful :
    let columns : List Projection := [⟨.column "page", none⟩, ⟨.column "day", some "visitor"⟩]
    let renames : List ColumnRename := [⟨"day", "visitor"⟩, ⟨"visitor", "day"⟩]
    (∃ r' wanted, dailyVisits.select .ansi columns = .ok r' ∧
      columns.mapM requested = .ok wanted ∧ r'.order = [⟨.column "visitor", true⟩] ∧
      KeepsArranged (withGroups wanted []) dailyVisits.order r'.order) ∧
    ∃ r', dailyVisits.rename .rename .ansi renames = .ok r' ∧
      r'.order = [⟨.column "visitor", true⟩, ⟨.column "day", false⟩] ∧
      KeepsArranged (inPlace dailyVisits.vars renames) dailyVisits.order r'.order := by
  intro columns renames
  constructor
  · obtain ⟨r', h⟩ : ∃ r', dailyVisits.select .ansi columns = .ok r' := ⟨_, rfl⟩
    obtain ⟨wanted, hw, hiff⟩ := (projected_order_truthful_iff dailyVisits r' .ansi).1 columns h
    have horder : r'.order = [⟨.column "visitor", true⟩] := by
      cases h
      rfl
    refine ⟨r', wanted, h, hw, horder, hiff.mpr ?_⟩
    cases hw
    intro key hk hs
    obtain rfl : key = ⟨.column "visitor", false⟩ := List.mem_singleton.mp hk
    exact absurd hs (by decide)
  · obtain ⟨r', h⟩ : ∃ r', dailyVisits.rename .rename .ansi renames = .ok r' := ⟨_, rfl⟩
    have hrename := (projected_order_truthful_iff dailyVisits r' .ansi).2 .rename renames h
    have horder : r'.order = [⟨.column "visitor", true⟩, ⟨.column "day", false⟩] := by
      cases h
      rfl
    exact ⟨r', h, horder, hrename.2 (by decide)⟩

def pairCell : Expr → Int × Int → Int
  | .column "a", row => row.1
  | _, row => row.2

/-- Rows by `a` and then by `b` are said to be by `b` once `a` is dropped. A number given to the
rows afterwards does not follow them. -/
theorem second_key_alone_misleads :
    let r : Relation := ⟨.table ⟨none, "t"⟩, ["a", "b"], [],
      [⟨.column "a", false⟩, ⟨.column "b", false⟩]⟩
    let rows : List (Int × Int) := [(1, 2), (2, 1)]
    ∃ r', r.select .ansi [⟨.column "b", none⟩] = .ok r' ∧
      ArrangedBy .terms .column pairCell rows r.order ∧
      ¬ ArrangedBy .terms .column pairCell rows r'.order ∧
      (r'.scope .ansi .derivation).render (.call "row_number" []) =
        .ok "ROW_NUMBER() OVER (ORDER BY \x22b\x22)" :=
  ⟨_, rfl, by decide, by decide, by cbv⟩

end LayeredSql.Relation
