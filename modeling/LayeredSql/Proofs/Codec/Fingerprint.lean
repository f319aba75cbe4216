import LayeredSql.Build.Pipeline
import LayeredSql.Proofs.Codec.Pipeline

namespace LayeredSql.Pipeline
open Json

/-- The floats of the pipeline are numbers. -/
def Numeric (p : Pipeline) : Prop :=
  ∀ x ∈ p.toJson.floats, x.isFinite = true

instance (p : Pipeline) : Decidable p.Numeric :=
  inferInstanceAs (Decidable (∀ x ∈ p.toJson.floats, x.isFinite = true))

theorem text_same_iff (p q : Pipeline) :
    p.toJson.compact = q.toJson.compact ↔ p.toJson.nulled = q.toJson.nulled :=
  compact_same_iff (ints p) (ints q)

/-- Two pipelines with one text are the same exactly if the values written there as null are the
same, as they are if all floats are numbers. Then they are built alike for every target. -/
theorem fingerprint_text_sound {p q : Pipeline} (h : p.toJson.compact = q.toJson.compact) :
    (p.Numeric → q.Numeric → p.toJson.gaps = q.toJson.gaps) ∧
      (p.toJson.gaps = q.toJson.gaps ↔ p = q) ∧
      (p.toJson.gaps = q.toJson.gaps → ∀ t, p.build t = q.build t) := by
  have hnulled := (text_same_iff p q).mp h
  have hsame : p.toJson.gaps = q.toJson.gaps → p = q := by
    intro hgaps
    apply codec.injective
    exact eq_of_gaps _ _ hnulled hgaps
  refine ⟨?_, ⟨hsame, ?_⟩, ?_⟩
  · intro hp hq
    rw [nulled_of_finite _ hp, nulled_of_finite _ hq] at hnulled
    rw [hnulled]
  · rintro rfl
    rfl
  · intro hgaps t
    rw [hsame hgaps]

def constantColumn (value : Literal) : Pipeline :=
  .mutate (.inMemory ["x"]) [⟨"y", .literal value⟩]

/-- A half is the same column however it was computed. -/
theorem half_column_text_sound :
    (constantColumn (.float (1 / 2))).toJson.compact =
        (constantColumn (.float 0.5)).toJson.compact ∧
      ∀ t, (constantColumn (.float (1 / 2))).build t = (constantColumn (.float 0.5)).build t := by
  have htext : (constantColumn (.float (1 / 2))).toJson.compact =
      (constantColumn (.float 0.5)).toJson.compact := by decide +kernel
  have hsound := fingerprint_text_sound htext
  refine ⟨htext, hsound.2.2 ?_⟩
  apply hsound.1 <;> decide +kernel

/-- Zero divided by zero has the text of null. No query has it for a constant, one has null. -/
theorem no_number_hashed_as_null :
    ¬ ∀ (p q : Pipeline) (t : Target), p.toJson.compact = q.toJson.compact →
        p.build t = q.build t := by
  intro h
  have htext : (constantColumn (.float (0 / 0))).toJson.compact =
      (constantColumn .null).toJson.compact := by decide +kernel
  have hbuild := congrArg Except.isOk (h _ _ ⟨.ansi, .standard⟩ htext)
  revert hbuild
  decide +kernel

end LayeredSql.Pipeline
