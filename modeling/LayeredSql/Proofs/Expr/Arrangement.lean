import LayeredSql.Proofs.Expr.Evaluation
import Mathlib

namespace LayeredSql

def SortKey.substitute (σ : String → Option Expr) (key : SortKey) : SortKey :=
  ⟨key.expr.substitute σ, key.descending⟩

namespace SortKey
variable {S : Type} [Preorder S] {a b : Expr → S} {key : SortKey} {keys keys' : List SortKey}

/-- The key puts the row with the values `a` before the one with the values `b`. -/
def Before (a b : Expr → S) (key : SortKey) : Prop :=
  if key.descending then b key.expr < a key.expr else a key.expr < b key.expr

def Tied (a b : Expr → S) (e : Expr) : Prop :=
  a e ≤ b e ∧ b e ≤ a e

def Precedes (a b : Expr → S) : List SortKey → Prop
  | [] => True
  | key :: keys => key.Before a b ∨ (Tied a b key.expr ∧ Precedes a b keys)

instance [DecidableLT S] : Decidable (key.Before a b) :=
  inferInstanceAs (Decidable
    (if key.descending then b key.expr < a key.expr else a key.expr < b key.expr))

instance [DecidableLE S] {e : Expr} : Decidable (Tied a b e) :=
  inferInstanceAs (Decidable (a e ≤ b e ∧ b e ≤ a e))

instance decidablePrecedes [DecidableLT S] [DecidableLE S] (a b : Expr → S) :
    (keys : List SortKey) → Decidable (Precedes a b keys)
  | [] => .isTrue trivial
  | key :: keys =>
    have := decidablePrecedes a b keys
    inferInstanceAs (Decidable (key.Before a b ∨ (Tied a b key.expr ∧ Precedes a b keys)))

theorem Before.not_tied (h : key.Before a b) : ¬ Tied a b key.expr := by
  rintro ⟨hle, hge⟩
  unfold Before at h
  split at h
  · exact h.not_ge hle
  · exact h.not_ge hge

/-- Keys whose expression is tied decide nothing. -/
theorem precedes_tied (h : Tied a b key.expr) : Precedes a b (key :: keys) ↔ Precedes a b keys := by
  constructor
  · rintro (hb | ⟨_, hrest⟩)
    · exact absurd h hb.not_tied
    · exact hrest
  · exact fun hrest => .inr ⟨h, hrest⟩

theorem precedes_substitute (σ : String → Option Expr) :
    Precedes a b (keys.map (substitute σ)) ↔
      Precedes (fun e => a (e.substitute σ)) (fun e => b (e.substitute σ)) keys := by
  induction keys with
  | nil => rfl
  | cons key keys ih =>
    rw [List.map_cons, Precedes, Precedes, ih]
    rfl

theorem precedes_congr {a' b' : Expr → S}
    (h : ∀ key ∈ keys, a key.expr = a' key.expr ∧ b key.expr = b' key.expr) :
    Precedes a b keys ↔ Precedes a' b' keys := by
  induction keys with
  | nil => rfl
  | cons key keys ih =>
    obtain ⟨⟨ha, hb⟩, hrest⟩ := List.forall_mem_cons.mp h
    unfold Precedes Before Tied
    rw [ih hrest, ha, hb]

/-- Rows that tie in `tied` and follow the first keys follow the second ones as well: a key over a
tied expression may stand anywhere, the others come in the order of the first keys, and these may
end early. -/
inductive Implies : List Expr → List SortKey → List SortKey → Prop where
  | nil {tied : List Expr} {keys : List SortKey} : Implies tied keys []
  | again {tied : List Expr} {keys keys' : List SortKey} {key : SortKey} (known : key.expr ∈ tied)
      (rest : Implies tied keys keys') : Implies tied keys (key :: keys')
  | skip {tied : List Expr} {keys keys' : List SortKey} {key : SortKey} (known : key.expr ∈ tied)
      (rest : Implies tied keys keys') : Implies tied (key :: keys) keys'
  | same {tied : List Expr} {keys keys' : List SortKey} {key : SortKey}
      (rest : Implies (key.expr :: tied) keys keys') : Implies tied (key :: keys) (key :: keys')

theorem Implies.refl (tied : List Expr) (keys : List SortKey) : Implies tied keys keys := by
  induction keys generalizing tied with
  | nil => exact .nil
  | cons key keys ih => exact .same (ih _)

theorem Implies.precedes {tied : List Expr} (h : Implies tied keys keys')
    (htied : ∀ e ∈ tied, Tied a b e) (hp : Precedes a b keys) : Precedes a b keys' := by
  induction h with
  | nil => trivial
  | again known _ ih => exact (precedes_tied (htied _ known)).mpr (ih htied hp)
  | skip known _ ih => exact ih htied ((precedes_tied (htied _ known)).mp hp)
  | same _ ih =>
    rcases hp with hb | ⟨ht, hrest⟩
    · exact .inl hb
    · exact .inr ⟨ht, ih (List.forall_mem_cons.mpr ⟨ht, htied⟩) hrest⟩

def advance (key : SortKey) : Int :=
  if key.descending then -1 else 1

theorem advance_before {w : Expr → Int} (h : w key.expr = key.advance) :
    key.Before (fun _ => 0) w := by
  unfold Before
  rw [h, advance]
  cases key.descending <;> simp

/-- A difference the other way is neither put first nor a tie. -/
theorem not_precedes_of_neg {w : Expr → Int} (h : w key.expr = -key.advance) :
    ¬ Precedes (fun _ => 0) w (key :: keys) := by
  unfold Precedes Before Tied
  rw [h, advance]
  rintro (hb | ⟨⟨hle, hge⟩, -⟩)
  · cases hk : key.descending <;> simp [hk] at hb
  · cases hk : key.descending <;> simp [hk] at hle hge

/-- Of two keys, the first may put rows one way and the second the other, and all else tie. -/
theorem exists_apart {other : SortKey} (h : key ≠ other) :
    ∃ w : Expr → Int, w key.expr = key.advance ∧ w other.expr = -other.advance ∧
      ∀ e, e ≠ key.expr → e ≠ other.expr → w e = 0 := by
  classical
  by_cases he : other.expr = key.expr
  · refine ⟨Function.update (fun _ => 0) key.expr key.advance, Function.update_self .., ?_,
      fun e hk _ => Function.update_of_ne hk ..⟩
    have hdir : key.descending = !other.descending := by
      obtain ⟨e, first⟩ := key
      obtain ⟨e', second⟩ := other
      cases first <;> cases second <;> simp_all
    rw [he, Function.update_self, advance, advance, hdir]
    cases other.descending <;> rfl
  · refine ⟨Function.update (Function.update (fun _ => 0) other.expr (-other.advance)) key.expr
      key.advance, Function.update_self .., ?_, fun e hk ho => ?_⟩
    · rw [Function.update_of_ne he, Function.update_self]
    · rw [Function.update_of_ne hk, Function.update_of_ne ho]

theorem tied_of_zero {w : Expr → Int} {e : Expr} (h : w e = 0) :
    Tied (fun _ => (0 : Int)) w e :=
  ⟨h.ge, h.le⟩

/-- Keys that every two rows follow which follow the first ones are implied by these. The keys are
gone through side by side; where they part, two rows are found that only the first keys arrange. -/
theorem implies_of_precedes {tied : List Expr}
    (h : ∀ w : Expr → Int, (∀ e ∈ tied, w e = 0) → Precedes (fun _ => 0) w keys →
      Precedes (fun _ => 0) w keys') :
    Implies tied keys keys' := by
  classical
  induction keys' generalizing tied keys with
  | nil => exact .nil
  | cons key' keys' ih =>
    by_cases hk' : key'.expr ∈ tied
    · refine .again hk' (ih fun w hw hp => ?_)
      exact (precedes_tied (tied_of_zero (hw _ hk'))).mp (h w hw hp)
    induction keys with
    | nil =>
      have hw : ∀ e ∈ tied,
          Function.update (fun _ => (0 : Int)) key'.expr (-key'.advance) e = 0 := by
        intro e he
        exact Function.update_of_ne (ne_of_mem_of_not_mem he hk') ..
      exact absurd (h _ hw trivial) (not_precedes_of_neg (Function.update_self ..))
    | cons key keys ihk =>
      by_cases hk : key.expr ∈ tied
      · refine .skip hk (ihk fun w hw hp => ?_)
        exact h w hw ((precedes_tied (tied_of_zero (hw _ hk))).mpr hp)
      by_cases hsame : key = key'
      · subst hsame
        refine .same (ih fun w hw hp => ?_)
        have ht := tied_of_zero (hw _ List.mem_cons_self)
        have hw' : ∀ e ∈ tied, w e = 0 := fun e he => hw e (List.mem_cons_of_mem _ he)
        exact (precedes_tied ht).mp (h w hw' ((precedes_tied ht).mpr hp))
      · obtain ⟨w, hfirst, hsecond, hrest⟩ := exists_apart hsame
        have hw : ∀ e ∈ tied, w e = 0 := by
          intro e he
          exact hrest e (ne_of_mem_of_not_mem he hk) (ne_of_mem_of_not_mem he hk')
        exact absurd (h w hw (.inl (advance_before hfirst))) (not_precedes_of_neg hsecond)

theorem Implies.tail (h : Implies tied (key :: keys) (key :: keys')) :
    Implies (key.expr :: tied) keys keys' := by
  refine implies_of_precedes fun w hw hp => ?_
  have ht := tied_of_zero (hw _ List.mem_cons_self)
  have htied : ∀ e ∈ tied, Tied (fun _ => 0) w e :=
    fun e he => tied_of_zero (hw e (List.mem_cons_of_mem _ he))
  exact (precedes_tied ht).mp (h.precedes htied ((precedes_tied ht).mpr hp))

theorem implies_of_tied (h : ∀ key ∈ keys', key.expr ∈ tied) : Implies tied keys keys' := by
  induction keys' with
  | nil => exact .nil
  | cons key keys' ih =>
    obtain ⟨hk, hrest⟩ := List.forall_mem_cons.mp h
    exact .again hk (ih hrest)

/-- Without the key that tells rows apart next, no other can. -/
theorem Implies.stuck (h : Implies tied (key :: keys) keys') (hk : key.expr ∉ tied)
    (hlost : key ∉ keys') : ∀ key' ∈ keys', key'.expr ∈ tied := by
  induction keys' with
  | nil => exact fun _ hm => absurd hm List.not_mem_nil
  | cons key' keys' ih =>
    rw [List.forall_mem_cons]
    cases h with
    | again known rest => exact ⟨known, ih rest fun hm => hlost (List.mem_cons_of_mem _ hm)⟩
    | skip known _ => exact absurd known hk
    | same _ => exact absurd List.mem_cons_self hlost

/-- Of keys that are left out by their expressions, those up to the first one left out are implied,
and later ones only if they decide nothing. -/
theorem implies_filter_iff {p : SortKey → Bool}
    (hp : ∀ key key' : SortKey, key.expr = key'.expr → p key = p key')
    (htied : ∀ key : SortKey, key.expr ∈ tied → p key = true) :
    Implies tied keys (keys.filter p) ↔
      ∀ key ∈ keys.dropWhile p, p key = true →
        key.expr ∈ tied ∨ ∃ earlier ∈ keys.takeWhile p, earlier.expr = key.expr := by
  induction keys generalizing tied with
  | nil => exact ⟨fun _ _ hm => absurd hm List.not_mem_nil, fun _ => .nil⟩
  | cons key keys ih =>
    cases hk : p key with
    | true =>
      -- The key stays first on both sides, and its expression is tied from here on.
      have htied' : ∀ other : SortKey, other.expr ∈ key.expr :: tied → p other = true := by
        intro other hm
        rcases List.mem_cons.mp hm with he | hm
        · rw [hp other key he, hk]
        · exact htied other hm
      rw [List.filter_cons_of_pos hk, List.dropWhile_cons_of_pos hk, List.takeWhile_cons_of_pos hk]
      have hiff : Implies tied (key :: keys) (key :: keys.filter p) ↔
          Implies (key.expr :: tied) keys (keys.filter p) := ⟨.tail, .same⟩
      rw [hiff, ih htied']
      refine forall_congr' fun other => imp_congr_right fun _ => imp_congr_right fun _ => ?_
      rw [List.mem_cons, List.exists_mem_cons_iff, eq_comm (a := key.expr), or_assoc, or_left_comm]
    | false =>
      -- The key is lost, and what it would have decided is left open.
      have hunknown : key.expr ∉ tied := fun hm => by simp [htied key hm] at hk
      have hlost : key ∉ keys.filter p := fun hm => by simp [hk] at hm
      rw [List.filter_cons_of_neg (by simp [hk]), List.dropWhile_cons_of_neg (by simp [hk]),
        List.takeWhile_cons_of_neg (by simp [hk])]
      constructor
      · intro h other hm ho
        have hkept : other ∈ keys := by
          rcases List.mem_cons.mp hm with rfl | hm
          · rw [hk] at ho
            cases ho
          · exact hm
        exact .inl (h.stuck hunknown hlost other (List.mem_filter.mpr ⟨hkept, ho⟩))
      · intro h
        refine implies_of_tied fun other hm => ?_
        obtain ⟨hm, ho⟩ := List.mem_filter.mp hm
        exact (h other (List.mem_cons_of_mem _ hm) ho).resolve_right (by simp)

end SortKey

/-- The rows, in their order, are arranged by the keys. An expression has a value, which may be a
whole column, and `cell` is what a row has there. -/
def ArrangedBy {V S ρ : Type} [Preorder S] (I : Interpretation V) (env : String → V)
    (cell : V → ρ → S) (rows : List ρ) (keys : List SortKey) : Prop :=
  rows.Pairwise fun a b =>
    SortKey.Precedes (fun e => cell (e.eval I env) a) (fun e => cell (e.eval I env) b) keys

instance {V S ρ : Type} [Preorder S] [DecidableLT S] [DecidableLE S] (I : Interpretation V)
    (env : String → V) (cell : V → ρ → S) (rows : List ρ) (keys : List SortKey) :
    Decidable (ArrangedBy I env cell rows keys) :=
  inferInstanceAs (Decidable (rows.Pairwise fun a b =>
    SortKey.Precedes (fun e => cell (e.eval I env) a) (fun e => cell (e.eval I env) b) keys))

/-- Expressions that mean themselves. -/
def Interpretation.terms : Interpretation Expr :=
  ⟨.literal, .binary, .unary, .call, .inSet, .cast⟩

namespace Expr

mutual

theorem eval_terms (e : Expr) : e.eval .terms .column = e := by
  match e with
  | .literal value => rfl
  | .column name => rfl
  | .binary op left right =>
    rw [eval, eval_terms left, eval_terms right]
    rfl
  | .unary op operand =>
    rw [eval, eval_terms operand]
    rfl
  | .call func args =>
    rw [eval, eval_terms_all args]
    rfl
  | .inSet operand set =>
    rw [eval, eval_terms operand, eval_terms_all set]
    rfl
  | .cast operand target =>
    rw [eval, eval_terms operand]
    rfl

theorem eval_terms_all (es : List Expr) : evalAll .terms .column es = es := by
  match es with
  | [] => rfl
  | e :: es => rw [evalAll, eval_terms e, eval_terms_all es]

end

end Expr

theorem arranged_pair {V S ρ : Type} [Preorder S] {I : Interpretation V} {env : String → V}
    {cell : V → ρ → S} {a b : ρ} {keys : List SortKey} :
    ArrangedBy I env cell [a, b] keys ↔
      SortKey.Precedes (fun e => cell (e.eval I env) a) (fun e => cell (e.eval I env) b) keys := by
  simp [ArrangedBy]

/-- Keys are implied by others exactly when all rows that are arranged by those are arranged by
them, whatever expressions mean. -/
theorem implies_iff_arranged {before after : List SortKey} :
    SortKey.Implies [] before after ↔
      ∀ (V S ρ : Type) [Preorder S] (I : Interpretation V) (env : String → V) (cell : V → ρ → S)
        (rows : List ρ), ArrangedBy I env cell rows before → ArrangedBy I env cell rows after := by
  constructor
  · intro himplies V S ρ _ I env cell rows hrows
    exact hrows.imp fun hp => himplies.precedes (by simp) hp
  · -- Two rows that give each expression a value of its own are enough to tell keys apart.
    intro harranged
    refine SortKey.implies_of_precedes fun w _ hp => ?_
    have hrows := harranged Expr Int Bool .terms .column
      (fun e second => if second then w e else 0) [false, true]
    rw [arranged_pair, arranged_pair] at hrows
    simp only [Expr.eval_terms, Bool.false_eq_true, if_true, if_false] at hrows
    exact hrows hp

end LayeredSql
