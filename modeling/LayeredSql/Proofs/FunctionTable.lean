import LayeredSql.Function.Builtin
import LayeredSql.Proofs.Keyed

namespace LayeredSql.FunctionTable

def OnePerName (t : FunctionTable) : Prop :=
  (t.signatures.map (·.name)).Nodup

instance (t : FunctionTable) : Decidable t.OnePerName :=
  inferInstanceAs (Decidable (List.Nodup _))

theorem one_per_name_builtin : builtin.OnePerName := by decide +kernel

theorem OnePerName.filter {t : FunctionTable} (h : t.OnePerName) (p : Signature → Bool) :
    (⟨t.signatures.filter p⟩ : FunctionTable).OnePerName :=
  h.sublist (List.filter_sublist.map _)

theorem OnePerName.remove {t : FunctionTable} (h : t.OnePerName) (name : String) :
    (t.remove name).OnePerName :=
  h.filter _

theorem OnePerName.register {t : FunctionTable} (h : t.OnePerName) (sig : Signature) :
    (t.register sig).OnePerName := by
  refine List.nodup_cons.mpr ⟨?_, h.filter _⟩
  intro hm
  obtain ⟨other, ho, he⟩ := List.mem_map.mp hm
  simp [he] at ho

/-- The signature found under a name is any that has it. -/
theorem OnePerName.get_of_mem {t : FunctionTable} (h : t.OnePerName) {sig : Signature}
    (hm : sig ∈ t.signatures) : t.get? sig.name = some sig :=
  found_by_name h hm

theorem lookup_eq_ok {t : FunctionTable} {sig : Signature} {name : String} {arity : Nat} :
    t.lookup name arity = .ok sig ↔ t.get? name = some sig ∧ sig.accepts arity = true := by
  unfold lookup
  cases t.get? name with
  | none => simp
  | some known =>
    simp only [Option.some.injEq]
    split
    · rename_i ha
      rw [Except.ok.injEq]
      exact ⟨fun he => ⟨he, he ▸ ha⟩, And.left⟩
    · rename_i ha
      exact ⟨nofun, fun ⟨he, hok⟩ => absurd (he ▸ hok) ha⟩

theorem lookup_eq_error {t : FunctionTable} {name : String} {arity : Nat} {e : FunctionError} :
    t.lookup name arity = .error e ↔
      (t.get? name = none ∧ e = .notFound name) ∨
      ∃ sig, t.get? name = some sig ∧ sig.accepts arity = false ∧
        e = .arity name sig.arityText arity := by
  unfold lookup
  cases t.get? name with
  | none =>
    simp only [Except.error.injEq, true_and, reduceCtorEq, false_and, exists_false, or_false]
    exact eq_comm
  | some known =>
    simp only [reduceCtorEq, false_and, false_or, Option.some.injEq, exists_eq_left']
    split
    · rename_i ha
      simp [ha]
    · rename_i ha
      simp only [Except.error.injEq, Bool.not_eq_true _ ▸ ha, true_and]
      exact eq_comm

theorem mem_of_remove {t : FunctionTable} {name : String} {sig : Signature}
    (h : sig ∈ (t.remove name).signatures) : sig ∈ t.signatures :=
  (List.mem_filter.mp h).1

theorem mem_of_register {t : FunctionTable} {added sig : Signature}
    (h : sig ∈ (t.register added).signatures) : sig = added ∨ sig ∈ t.signatures := by
  rcases List.mem_cons.mp h with he | hm
  · exact .inl he
  · exact .inr (List.mem_filter.mp hm).1

theorem mem_insert_name {name n : String} {ns : List String} :
    n ∈ insertName name ns ↔ n = name ∨ n ∈ ns := by
  induction ns with
  | nil => simp [insertName]
  | cons m ns ih =>
    unfold insertName
    split
    · exact List.mem_cons
    · simp only [List.mem_cons, ih]
      tauto

theorem mem_insert_names {n : String} {ns : List String} :
    n ∈ ns.foldr insertName [] ↔ n ∈ ns := by
  induction ns with
  | nil => rfl
  | cons m ns ih => rw [List.foldr_cons, mem_insert_name, ih, List.mem_cons]

theorem mem_window_names {t : FunctionTable} {name : String} :
    name ∈ t.windowNames ↔ ∃ sig ∈ t.signatures, sig.isWindow ∧ sig.name = name := by
  simp [windowNames, mem_insert_names, and_assoc]

/-- The list of window functions and the look-up of one agree. -/
theorem OnePerName.window_names_iff {t : FunctionTable} (h : t.OnePerName) (name : String) :
    name ∈ t.windowNames ↔ t.isWindow name = true := by
  rw [mem_window_names]
  unfold isWindow
  constructor
  · rintro ⟨sig, hm, hw, rfl⟩
    rw [h.get_of_mem hm]
    exact hw
  · intro hw
    cases hf : t.get? name with
    | none => simp [hf] at hw
    | some sig =>
      obtain ⟨hm, hname⟩ := found_under hf
      exact ⟨sig, hm, by simpa [hf] using hw, hname⟩

theorem OnePerName.not_window_name_iff {t : FunctionTable} (h : t.OnePerName) (name : String) :
    name ∉ t.windowNames ↔ t.isWindow name = false := by
  rw [h.window_names_iff, Bool.not_eq_true]

end LayeredSql.FunctionTable
