import Mathlib.Data.List.Forall2

namespace LayeredSql

theorem bind_ok {x : Except ε α} {f : α → Except ε β} {b : β} :
    (x >>= f) = .ok b ↔ ∃ a, x = .ok a ∧ f a = .ok b := by
  cases x <;> simp [bind, Except.bind]

theorem bind_error {x : Except ε α} {f : α → Except ε β} {e : ε} :
    (x >>= f) = .error e ↔ x = .error e ∨ ∃ a, x = .ok a ∧ f a = .error e := by
  cases x <;> simp [bind, Except.bind]

/-- After a success, the rest decides. -/
theorem bind_succeeds {x : Except ε α} {f : α → Except ε β} {a : α} (h : x = .ok a)
    (hf : ∃ b, f a = .ok b) : ∃ b, (x >>= f) = .ok b := by
  obtain ⟨b, hb⟩ := hf
  exact ⟨b, bind_ok.mpr ⟨a, h, hb⟩⟩

theorem bind_succeeds_iff {x : Except ε α} {f : α → Except ε β} :
    (∃ b, (x >>= f) = .ok b) ↔ ∃ a, x = .ok a ∧ ∃ b, f a = .ok b := by
  simp only [bind_ok]
  exact ⟨fun ⟨b, a, ha, hb⟩ => ⟨a, ha, b, hb⟩, fun ⟨a, ha, b, hb⟩ => ⟨b, a, ha, hb⟩⟩

/-- Either branch of a choice may be replaced by one that succeeds where it does. -/
theorem ite_succeeds {c : Prop} [Decidable c] {x y : Except ε α} {x' y' : Except ε' α'} {a : α}
    (hx : c → ∀ a, x = .ok a → ∃ a', x' = .ok a') (hy : ¬ c → ∀ a, y = .ok a → ∃ a', y' = .ok a')
    (h : (if c then x else y) = .ok a) : ∃ a', (if c then x' else y') = .ok a' := by
  split at h
  · rename_i hc
    rw [if_pos hc]
    exact hx hc a h
  · rename_i hc
    rw [if_neg hc]
    exact hy hc a h

theorem pure_succeeds {a : α} : ∃ b, (pure a : Except ε α) = .ok b :=
  ⟨a, rfl⟩

theorem pure_ok {a b : α} : (pure a : Except ε α) = .ok b ↔ b = a := by
  simp only [pure, Except.pure, Except.ok.injEq]
  exact eq_comm

theorem exists_ok {x : Except ε α} (h : x.isOk = true) : ∃ a, x = .ok a := by
  cases x with
  | error e => cases h
  | ok a => exact ⟨a, rfl⟩

theorem map_error_ok {x : Except ε α} {f : ε → ε'} {a : α} :
    x.mapError f = .ok a ↔ x = .ok a := by
  cases x <;> simp [Except.mapError]

theorem map_error_error {x : Except ε α} {f : ε → ε'} {e : ε'} :
    x.mapError f = .error e ↔ ∃ cause, x = .error cause ∧ f cause = e := by
  cases x <;> simp [Except.mapError]

theorem map_ok {x : Except ε α} {f : α → β} {b : β} :
    x.map f = .ok b ↔ ∃ a, x = .ok a ∧ f a = b := by
  cases x <;> simp [Except.map]

/-- A checked traversal succeeds exactly when every step does. -/
theorem mapM_ok {f : α → Except ε β} {xs : List α} {ys : List β} :
    xs.mapM f = .ok ys ↔ List.Forall₂ (fun x y => f x = .ok y) xs ys := by
  induction xs generalizing ys with
  | nil =>
    rw [List.mapM_nil, pure_ok, List.forall₂_nil_left_iff]
  | cons x xs ih =>
    simp only [List.mapM_cons, bind_ok, pure_ok, List.forall₂_cons_left_iff]
    constructor
    · rintro ⟨y, hy, zs, hzs, rfl⟩
      exact ⟨y, zs, hy, ih.mp hzs, rfl⟩
    · rintro ⟨y, zs, hy, hzs, rfl⟩
      exact ⟨y, hy, zs, ih.mpr hzs, rfl⟩

/-- A checked traversal fails as one of its steps does. -/
theorem mapM_error {f : α → Except ε β} {xs : List α} {e : ε} (h : xs.mapM f = .error e) :
    ∃ x ∈ xs, f x = .error e := by
  induction xs with
  | nil => cases h
  | cons x xs ih =>
    rw [List.mapM_cons, bind_error] at h
    rcases h with h | ⟨y, -, h⟩
    · exact ⟨x, List.mem_cons_self, h⟩
    · rcases bind_error.mp h with h | ⟨ys, -, h⟩
      · obtain ⟨z, hz, he⟩ := ih h
        exact ⟨z, List.mem_cons_of_mem _ hz, he⟩
      · cases h

/-- Steps that agree on a list make one traversal of it. -/
theorem mapM_congr_left {f g : α → Except ε β} {xs : List α} (h : ∀ x ∈ xs, f x = g x) :
    xs.mapM f = xs.mapM g := by
  induction xs with
  | nil => rfl
  | cons x xs ih =>
    rw [List.forall_mem_cons] at h
    rw [List.mapM_cons, List.mapM_cons, h.1, ih h.2]

/-- Every result of a checked traversal is the result of one of its steps. -/
theorem mapM_ok_mem {f : α → Except ε β} {xs : List α} {ys : List β} (h : xs.mapM f = .ok ys)
    {y : β} (hy : y ∈ ys) : ∃ x ∈ xs, f x = .ok y := by
  have hall := mapM_ok.mp h
  clear h
  induction hall with
  | nil => cases hy
  | cons hx _ ih =>
    rcases List.mem_cons.mp hy with rfl | hy
    · exact ⟨_, List.mem_cons_self, hx⟩
    · obtain ⟨x, hm, hf⟩ := ih hy
      exact ⟨x, List.mem_cons_of_mem _ hm, hf⟩

/-- Every step of a checked traversal has its result among the results. -/
theorem mapM_ok_result {f : α → Except ε β} {xs : List α} {ys : List β} (h : xs.mapM f = .ok ys)
    {x : α} (hx : x ∈ xs) : ∃ y ∈ ys, f x = .ok y := by
  have hall := mapM_ok.mp h
  clear h
  induction hall with
  | nil => cases hx
  | cons hy _ ih =>
    rcases List.mem_cons.mp hx with rfl | hx
    · exact ⟨_, List.mem_cons_self, hy⟩
    · obtain ⟨y, hm, hf⟩ := ih hx
      exact ⟨y, List.mem_cons_of_mem _ hm, hf⟩

/-- A checked traversal gets through exactly when each of its steps does. -/
theorem mapM_succeeds {f : α → Except ε β} {xs : List α} :
    (∃ ys, xs.mapM f = .ok ys) ↔ ∀ x ∈ xs, ∃ y, f x = .ok y := by
  constructor
  · rintro ⟨ys, h⟩ x hx
    obtain ⟨y, -, hy⟩ := mapM_ok_result h hx
    exact ⟨y, hy⟩
  · intro h
    induction xs with
    | nil => exact ⟨[], rfl⟩
    | cons x xs ih =>
      obtain ⟨hx, hxs⟩ := List.forall_mem_cons.mp h
      obtain ⟨y, hy⟩ := hx
      rw [List.mapM_cons]
      exact bind_succeeds hy (bind_succeeds (ih hxs).choose_spec ⟨_, rfl⟩)

/-- A checked fold stays in step with an unchecked one over the same list. -/
theorem foldlM_ok_tracks {R : β → γ → Prop} {f : β → α → Except ε β} {g : γ → α → γ}
    {xs : List α} {start last : β} {c : γ}
    (hstep : ∀ b c, ∀ x ∈ xs, ∀ next, R b c → f b x = .ok next → R next (g c x))
    (hstart : R start c) (h : xs.foldlM f start = .ok last) : R last (xs.foldl g c) := by
  induction xs generalizing start c with
  | nil =>
    rw [List.foldlM_nil, pure_ok] at h
    rwa [h]
  | cons x xs ih =>
    rw [List.foldlM_cons, bind_ok] at h
    obtain ⟨next, hn, h⟩ := h
    have hrest : ∀ b c, ∀ y ∈ xs, ∀ next, R b c → f b y = .ok next → R next (g c y) :=
      fun b c y hy => hstep b c y (List.mem_cons_of_mem _ hy)
    exact ih hrest (hstep start c x List.mem_cons_self next hstart hn) h

/-- A checked fold fails as one of its steps does. -/
theorem foldlM_error {f : β → α → Except ε β} {xs : List α} {start : β} {e : ε}
    (h : xs.foldlM f start = .error e) : ∃ b, ∃ x ∈ xs, f b x = .error e := by
  induction xs generalizing start with
  | nil => cases h
  | cons x xs ih =>
    rw [List.foldlM_cons, bind_error] at h
    rcases h with h | ⟨next, -, h⟩
    · exact ⟨start, x, List.mem_cons_self, h⟩
    · obtain ⟨b, y, hy, he⟩ := ih h
      exact ⟨b, y, List.mem_cons_of_mem _ hy, he⟩

/-- What every step keeps holds at the end of a checked fold. -/
theorem foldlM_ok_keeps {P : β → Prop} {f : β → α → Except ε β} {xs : List α} {start last : β}
    (hstep : ∀ b, ∀ x ∈ xs, ∀ next, P b → f b x = .ok next → P next) (hstart : P start)
    (h : xs.foldlM f start = .ok last) : P last := by
  have hunit : ∀ b (_ : Unit), ∀ x ∈ xs, ∀ next, P b → f b x = .ok next → P next :=
    fun b _ => hstep b
  exact foldlM_ok_tracks (R := fun b _ => P b) (g := fun u _ => u) (c := ()) hunit hstart h

/-- The second computation goes as the first does, unless an error of the kind `P` cuts it short. -/
def CutShort (P : ε → Prop) (x y : Except ε α) : Prop :=
  y = x ∨ ∃ e, P e ∧ y = .error e

namespace CutShort
variable {P : ε → Prop} {x y : Except ε α}

theorem refl (x : Except ε α) : CutShort P x x := .inl rfl

theorem bind {f g : α → Except ε β} (h : CutShort P x y) (hf : ∀ a, CutShort P (f a) (g a)) :
    CutShort P (x >>= f) (y >>= g) := by
  rcases h with rfl | ⟨e, he, rfl⟩
  · cases y with
    | error e => exact .refl _
    | ok a => exact hf a
  · exact .inr ⟨e, he, rfl⟩

theorem mapError {Q : ε' → Prop} {f : ε → ε'} (h : CutShort P x y) (hf : ∀ e, P e → Q (f e)) :
    CutShort Q (x.mapError f) (y.mapError f) := by
  rcases h with rfl | ⟨e, he, rfl⟩
  · exact .refl _
  · exact .inr ⟨f e, hf e he, rfl⟩

theorem mapM {f g : α → Except ε β} (h : ∀ a, CutShort P (f a) (g a)) (as : List α) :
    CutShort P (as.mapM f) (as.mapM g) := by
  induction as with
  | nil => exact .refl _
  | cons a as ih =>
    rw [List.mapM_cons, List.mapM_cons]
    exact (h a).bind fun b => ih.bind fun bs => .refl _

/-- What the second computation achieves the first does as well. -/
theorem ok {a : α} (h : CutShort P x y) (hy : y = .ok a) : x = .ok a := by
  rcases h with rfl | ⟨e, _, rfl⟩
  · exact hy
  · cases hy

/-- Where only the first succeeds, the second is cut short. -/
theorem error {a : α} {e : ε} (h : CutShort P x y) (hx : x = .ok a) (hy : y = .error e) : P e := by
  rcases h with rfl | ⟨e', he, rfl⟩
  · rw [hx] at hy
    cases hy
  · obtain rfl := Except.error.inj hy
    exact he

end CutShort

end LayeredSql
