import LayeredSql.Proofs.Dialect
import LayeredSql.Proofs.Sql.Hoisting
import Mathlib.Data.String.Basic

namespace LayeredSql

namespace FunctionTable
variable {t : FunctionTable} {sig : Signature}

inductive Change where
  | register (sig : Signature)
  | remove (name : String)
deriving DecidableEq

def Change.name : Change → String
  | .register sig => sig.name
  | .remove name => name

def apply (t : FunctionTable) : Change → FunctionTable
  | .register sig => t.register sig
  | .remove name => t.remove name

def run (t : FunctionTable) (changes : List Change) : FunctionTable :=
  changes.foldl apply t

/-- The tables that there are without a change: the builtin one, and those of the dialects. -/
inductive Initial : FunctionTable → Prop where
  | builtin : Initial builtin
  | dialect {d : Dialect} : d.Supported → Initial d.functions

def registrations (t : FunctionTable) : List Change :=
  t.signatures.map .register

/-- The signature is the last one registered under its name, which was not removed since. -/
def Stands (history : List Change) (sig : Signature) : Prop :=
  ∃ before after, history = before ++ .register sig :: after ∧
    ∀ change ∈ after, change.name ≠ sig.name

theorem Initial.one_per_name (h : Initial t) : t.OnePerName := by
  cases h with
  | builtin => exact one_per_name_builtin
  | dialect hd => exact hd.one_per_name

theorem OnePerName.apply (h : t.OnePerName) (change : Change) : (t.apply change).OnePerName := by
  cases change with
  | register sig => exact h.register sig
  | remove name => exact h.remove name

theorem OnePerName.run (h : t.OnePerName) (changes : List Change) :
    (t.run changes).OnePerName := by
  induction changes generalizing t with
  | nil => exact h
  | cons change changes ih => exact ih (h.apply change)

theorem mem_apply {change : Change} :
    sig ∈ (t.apply change).signatures ↔
      change = .register sig ∨ (sig ∈ t.signatures ∧ change.name ≠ sig.name) := by
  cases change with
  | register added =>
    simp only [apply, register, List.mem_cons, List.mem_filter, bne_iff_ne, Change.register.injEq,
      Change.name]
    rw [eq_comm, ne_comm]
  | remove name =>
    simp only [apply, remove, List.mem_filter, bne_iff_ne, reduceCtorEq, false_or, Change.name]
    rw [ne_comm]

/-- The last change decides about its own name, and no other. -/
theorem stands_snoc {history : List Change} {change : Change} :
    Stands (history ++ [change]) sig ↔
      change = .register sig ∨ (Stands history sig ∧ change.name ≠ sig.name) := by
  constructor
  · rintro ⟨before, after, he, hafter⟩
    rcases List.eq_nil_or_concat after with rfl | ⟨after, last, rfl⟩
    · exact .inl (List.singleton_inj.mp (List.append_inj' he rfl).2)
    · rw [List.concat_eq_append] at he hafter
      rw [← List.cons_append, ← List.append_assoc] at he
      obtain ⟨rfl, hlast⟩ := List.append_inj' he rfl
      obtain rfl := List.singleton_inj.mp hlast
      rw [List.forall_mem_append, List.forall_mem_singleton] at hafter
      exact .inr ⟨⟨before, after, rfl, hafter.1⟩, hafter.2⟩
  · rintro (rfl | ⟨⟨before, after, rfl, hafter⟩, hne⟩)
    · exact ⟨history, [], rfl, fun _ hm => absurd hm List.not_mem_nil⟩
    · refine ⟨before, after ++ [change], by simp, ?_⟩
      rw [List.forall_mem_append, List.forall_mem_singleton]
      exact ⟨hafter, hne⟩

theorem stands_registered (h : t.OnePerName) : Stands t.registrations sig ↔ sig ∈ t.signatures := by
  constructor
  · rintro ⟨before, after, he, -⟩
    have hm : Change.register sig ∈ t.registrations := by simp [he]
    obtain ⟨added, ha, he⟩ := List.mem_map.mp hm
    obtain rfl := Change.register.inj he
    exact ha
  · intro hm
    obtain ⟨before, after, he⟩ := List.append_of_mem hm
    refine ⟨before.map .register, after.map .register, by simp [registrations, he], ?_⟩
    rw [OnePerName, he, List.map_append, List.map_cons] at h
    have hfresh := (List.nodup_cons.mp (List.nodup_append.mp h).2.1).1
    rw [List.forall_mem_map]
    intro other hother hname
    exact hfresh (List.mem_map.mpr ⟨other, hother, hname⟩)

/-- What is stored after a run is what stands after its history. -/
theorem mem_run (h : t.OnePerName) (changes : List Change) :
    sig ∈ (t.run changes).signatures ↔ Stands (t.registrations ++ changes) sig := by
  induction changes using List.reverseRecOn with
  | nil => rw [List.append_nil, stands_registered h, run, List.foldl_nil]
  | append_singleton changes change ih =>
    rw [run, List.foldl_append, ← List.append_assoc, stands_snoc, ← ih]
    exact mem_apply

/-- A change to signatures that are kept in a map, each under a key of its own. -/
def Change.enter (map : String → Option Signature) : Change → String → Option Signature
  | .register sig => Function.update map sig.name (some sig)
  | .remove name => Function.update map name none

theorem enter_eq_some {map : String → Option Signature} {change : Change} {key : String} :
    change.enter map key = some sig ↔
      (change = .register sig ∧ sig.name = key) ∨ (map key = some sig ∧ change.name ≠ key) := by
  cases change with
  | register added =>
    by_cases hk : key = added.name
    · subst hk
      simp only [Change.enter, Function.update_self, Option.some.injEq, Change.register.injEq,
        Change.name, ne_eq, not_true_eq_false, and_false, or_false]
      exact ⟨fun he => ⟨he, congrArg Signature.name he.symm⟩, And.left⟩
    · simp only [Change.enter, Function.update_of_ne hk, Change.register.injEq, Change.name]
      constructor
      · exact fun hm => .inr ⟨hm, Ne.symm hk⟩
      · rintro (⟨rfl, rfl⟩ | ⟨hm, -⟩)
        · exact absurd rfl hk
        · exact hm
  | remove name =>
    by_cases hk : key = name
    · simp [Change.enter, Change.name, hk]
    · simp [Change.enter, Change.name, hk, Ne.symm hk]

/-- A map never has a signature under a key that is not its name. -/
theorem entered_eq_some {history : List Change} {key : String} :
    history.foldl Change.enter (fun _ => none) key = some sig ↔
      Stands history sig ∧ sig.name = key := by
  induction history using List.reverseRecOn with
  | nil =>
    simp only [List.foldl_nil, reduceCtorEq, false_iff, not_and]
    rintro ⟨before, after, he, -⟩
    cases before <;> cases he
  | append_singleton history change ih =>
    rw [List.foldl_append, List.foldl_cons, List.foldl_nil, enter_eq_some, stands_snoc, ih,
      or_and_right]
    refine or_congr_right ?_
    constructor
    · rintro ⟨⟨hs, rfl⟩, hne⟩
      exact ⟨⟨hs, hne⟩, rfl⟩
    · rintro ⟨⟨hs, hne⟩, rfl⟩
      exact ⟨⟨hs, rfl⟩, hne⟩

theorem get_eq_some (h : t.OnePerName) {name : String} :
    t.get? name = some sig ↔ sig ∈ t.signatures ∧ sig.name = name := by
  constructor
  · exact found_under
  · rintro ⟨hm, rfl⟩
    exact h.get_of_mem hm

theorem get_eq_none {name : String} :
    t.get? name = none ↔ ∀ sig ∈ t.signatures, sig.name ≠ name := by
  rw [get?, none_under, List.mem_map, not_exists]
  simp only [not_and, ne_eq]

theorem insert_name_sorted {name : String} {ns : List String} (hs : ns.Pairwise (· < ·))
    (hn : name ∉ ns) : (insertName name ns).Pairwise (· < ·) := by
  induction ns with
  | nil => simp [insertName]
  | cons n ns ih =>
    obtain ⟨hlt, hs⟩ := List.pairwise_cons.mp hs
    rw [List.mem_cons, not_or] at hn
    unfold insertName
    split
    · rename_i hle
      have hfirst : name < n := lt_of_le_of_ne hle hn.1
      refine List.pairwise_cons.mpr ⟨?_, List.pairwise_cons.mpr ⟨hlt, hs⟩⟩
      exact List.forall_mem_cons.mpr ⟨hfirst, fun m hm => hfirst.trans (hlt m hm)⟩
    · rename_i hle
      refine List.pairwise_cons.mpr ⟨fun m hm => ?_, ih hs hn.2⟩
      rcases mem_insert_name.mp hm with rfl | hm
      · exact lt_of_not_ge hle
      · exact hlt m hm

theorem insert_names_sorted {ns : List String} (hn : ns.Nodup) :
    (ns.foldr insertName []).Pairwise (· < ·) := by
  induction ns with
  | nil => exact .nil
  | cons name ns ih =>
    obtain ⟨hfresh, hn⟩ := List.nodup_cons.mp hn
    exact insert_name_sorted (ih hn) (mem_insert_names.not.mpr hfresh)

/-- What a table says about functions, told from the changes that led to it. -/
structure Reflects (t : FunctionTable) (history : List Change) : Prop where
  stored : ∀ sig, sig ∈ t.signatures ↔ Stands history sig
  found : ∀ sig ∈ t.signatures, t.get? sig.name = some sig
  keyed : t.get? = history.foldl Change.enter fun _ => none
  lookup_ok : ∀ name arity sig, t.lookup name arity = .ok sig ↔
    Stands history sig ∧ sig.name = name ∧ sig.accepts arity = true
  lookup_error : ∀ name arity e, t.lookup name arity = .error e ↔
    ((∀ sig, Stands history sig → sig.name ≠ name) ∧ e = .notFound name) ∨
    ∃ sig, Stands history sig ∧ sig.name = name ∧ sig.accepts arity = false ∧
      e = .arity name sig.arityText arity
  is_window : ∀ name, t.isWindow name = true ↔
    ∃ sig, Stands history sig ∧ sig.name = name ∧ sig.isWindow = true
  window_names_sorted : t.windowNames.Pairwise (· < ·)
  window_names : ∀ name, name ∈ t.windowNames ↔ t.isWindow name = true

theorem OnePerName.reflects (h : t.OnePerName) (changes : List Change) :
    (t.run changes).Reflects (t.registrations ++ changes) where
  stored _ := mem_run h changes
  found _ hm := (h.run changes).get_of_mem hm
  keyed := by
    funext name
    apply Option.ext
    intro sig
    rw [get_eq_some (h.run changes), mem_run h, entered_eq_some]
  lookup_ok name arity sig := by
    rw [lookup_eq_ok, get_eq_some (h.run changes), mem_run h, and_assoc]
  lookup_error name arity e := by
    simp only [lookup_eq_error, get_eq_none, get_eq_some (h.run changes), mem_run h, and_assoc]
  is_window name := by
    rw [← (h.run changes).window_names_iff, mem_window_names]
    simp only [mem_run h, and_comm]
  window_names_sorted := insert_names_sorted ((h.run changes).sublist (List.filter_sublist.map _))
  window_names := (h.run changes).window_names_iff

/-- The decision whether an expression calls a window, made call by call, is the one that looking
for windows by their names comes to, and what is found by name is all there is. -/
structure Recognises (t : FunctionTable) (e : Expr) : Prop where
  kept : ∀ h, (e.hoist t.windowNames h).1 = e ↔ e.callsWindow t = false
  found : ∀ taken, (e.hoist t.windowNames ⟨[], taken⟩).2.windows = [] ↔ e.callsWindow t = false
  none_left : ∀ h, (e.hoist t.windowNames h).1.callsWindow t = false

theorem OnePerName.recognises (h : t.OnePerName) (e : Expr) : t.Recognises e where
  kept before := by
    constructor
    · intro he
      rw [← he]
      exact (Expr.hoist_takes h before e).clean
    · intro hw
      rw [Expr.hoist_windowless h before e hw]
  found taken := by
    rw [(Expr.hoist_takes h ⟨[], taken⟩ e).found, and_iff_right rfl]
  none_left before := (Expr.hoist_takes h before e).clean

/-- After any changes to a table there is, it holds the signatures registered last and not removed
since, answers every look-up by these, and lists the windows among them in order. A window in an
expression is recognised by its name in that list exactly when it is by itself. -/
theorem run_reflects (h : Initial t) (changes : List Change) :
    (t.run changes).Reflects (t.registrations ++ changes) ∧
      ∀ e, (t.run changes).Recognises e :=
  ⟨h.one_per_name.reflects changes, (h.one_per_name.run changes).recognises⟩

/-- A name changes its kind twice, another is removed and added again, a third is removed, and so is
one that was never there. -/
theorem sqlite_run_reflects :
    let total : Signature := ⟨"total", "TOTAL", .scalar, 1, some 2, false⟩
    let sum : Signature := ⟨"sum", "SUM", .ranking, 1, none, false⟩
    let now := Dialect.sqlite.functions.run
      [.register ⟨"total", "SUM", .aggregate, 1, some 1, false⟩, .remove "sum", .register total,
        .remove "nothing", .remove "rank", .register sum]
    now.lookup "total" 2 = .ok total ∧
    now.lookup "sum" 0 = .error (.arity "sum" "at least 1" 0) ∧
    now.lookup "rank" 0 = .error (.notFound "rank") ∧
    "sum" ∈ now.windowNames ∧ "total" ∉ now.windowNames ∧
    ∀ h, ((Expr.call "total" [.column "x"]).hoist now.windowNames h).1 =
      .call "total" [.column "x"] := by
  intro total sum now
  obtain ⟨hr, he⟩ := run_reflects (.dialect .sqlite)
    [.register ⟨"total", "SUM", .aggregate, 1, some 1, false⟩, .remove "sum", .register total,
      .remove "nothing", .remove "rank", .register sum]
  have hsum := (hr.stored sum).mp (by decide +kernel)
  have hrank : ∀ sig ∈ now.signatures, sig.name ≠ "rank" := by decide +kernel
  refine ⟨?_, ?_, ?_, ?_, ?_, ?_⟩
  · exact (hr.lookup_ok _ _ _).mpr ⟨(hr.stored total).mp (by decide +kernel), rfl, rfl⟩
  · exact (hr.lookup_error _ _ _).mpr (.inr ⟨sum, hsum, rfl, rfl, by decide⟩)
  · refine (hr.lookup_error _ _ _).mpr (.inl ⟨fun sig hs => ?_, rfl⟩)
    exact hrank sig ((hr.stored sig).mpr hs)
  · exact (hr.window_names _).mpr ((hr.is_window _).mpr ⟨sum, hsum, rfl, rfl⟩)
  · rw [hr.window_names]
    decide +kernel
  · exact fun h => ((he _).kept h).mpr (by decide +kernel)

end FunctionTable
end LayeredSql
