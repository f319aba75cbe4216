import LayeredSql.Command.Run
import LayeredSql.Proofs.Codec.Query

namespace LayeredSql.Json

variable {α : Type} {encode : α → Json} {decode : Json → Option α}

def readAs? (decode : Json → Option α) (text : String) : Option α :=
  (read? nestingLimit text).bind decode

/-- What is printed for a float is read as the float. -/
def ReadsBack (x : Float) : Prop :=
  read? nestingLimit (floatText x) = some (.float x)

instance (x : Float) : Decidable (ReadsBack x) :=
  match h : read? nestingLimit (floatText x) with
  | some (.float y) => decidable_of_iff (y = x) (by simp [ReadsBack, h])
  | some .null | some (.bool _) | some (.int _) | some (.string _) | some (.array _)
  | some (.object _) | none => isFalse (by simp [ReadsBack, h])

/-- Documents of one kind have canonical texts. -/
structure Canonical (encode : α → Json) (decode : Json → Option α) : Prop where
  /-- What is printed for a value is accepted as the value, unless it is nested too deeply. -/
  printed : ∀ a, (encode a).depth ≤ nestingLimit → (∀ x ∈ (encode a).floats, ReadsBack x) →
    readAs? decode (encode a).compact = some a
  /-- What is printed for an accepted document is accepted, as the same value. -/
  reread : ∀ text a, readAs? decode text = some a →
    (∀ x ∈ (encode a).floats, x.isFinite = true → ReadsBack x) →
    readAs? decode (encode a).compact = some a
  /-- Reading and printing once more changes nothing. -/
  settled : ∀ text a, readAs? decode text = some a →
    (∀ x ∈ (encode a).floats, x.isFinite = true → ReadsBack x) →
    (readAs? decode (encode a).compact).map (fun b => (encode b).compact) =
      some (encode a).compact
  /-- Two accepted documents are printed alike only if they have one value. -/
  told_apart : ∀ text text' a b, readAs? decode text = some a → readAs? decode text' = some b →
    (encode a).compact = (encode b).compact → a = b

theorem readAs_fits (h : Codec encode decode) {text : String} {a : α}
    (ha : readAs? decode text = some a) : (encode a).Fits nestingLimit := by
  obtain ⟨j, hj, hd⟩ := Option.bind_eq_some_iff.mp ha
  exact h.keeps nestingLimit j a hd (read_fits hj)

mutual

/-- What fits has numbers only. -/
theorem Fits.finite {levels : Nat} (v : Json) (h : v.Fits levels) :
    ∀ x ∈ v.floats, x.isFinite = true := by
  match v with
  | .null | .bool _ | .int _ | .string _ =>
    intro x hx
    cases hx
  | .float y =>
    intro x hx
    rw [List.mem_singleton.mp hx]
    exact h
  | .array items => exact ItemsFit.finite items h.2
  | .object members => exact MembersFit.finite members h.2

theorem ItemsFit.finite {levels : Nat} (items : List Json) (h : ItemsFit levels items) :
    ∀ x ∈ itemFloats items, x.isFinite = true := by
  match items with
  | [] =>
    intro x hx
    cases hx
  | v :: vs => exact List.forall_mem_append.mpr ⟨Fits.finite v h.1, ItemsFit.finite vs h.2⟩

theorem MembersFit.finite {levels : Nat} (members : List (String × Json))
    (h : MembersFit levels members) : ∀ x ∈ memberFloats members, x.isFinite = true := by
  match members with
  | [] =>
    intro x hx
    cases hx
  | (k, v) :: ms =>
    exact List.forall_mem_append.mpr ⟨Fits.finite v h.1, MembersFit.finite ms h.2⟩

end

theorem ReadsBack.finite {x : Float} (h : ReadsBack x) : x.isFinite = true := by
  by_contra hx
  have hnull : floatText x = "null" := if_neg hx
  have hread : read? nestingLimit "null" = some .null := rfl
  unfold ReadsBack at h
  rw [hnull, hread] at h
  cases h

theorem Codec.read_encode (h : Codec encode decode) {a : α}
    (hfit : (encode a).Fits nestingLimit) (hf : ∀ x ∈ (encode a).floats, ReadsBack x) :
    readAs? decode (encode a).compact = some a := by
  have hfloats : ∀ x ∈ (encode a).floats, ReadsFloat Decimal.toFloat x := by
    intro x hx
    exact reads_of_text (hf x hx).finite (hf x hx)
  unfold readAs?
  rw [read_compact hfit hfloats]
  exact h.undoes a

theorem Codec.reread (h : Codec encode decode) {text : String} {a : α}
    (ha : readAs? decode text = some a)
    (hf : ∀ x ∈ (encode a).floats, x.isFinite = true → ReadsBack x) :
    readAs? decode (encode a).compact = some a := by
  have hfit := readAs_fits h ha
  apply h.read_encode hfit
  intro x hx
  exact hf x hx (Fits.finite _ hfit x hx)

theorem Codec.canonical (h : Codec encode decode) : Canonical encode decode where
  printed a hd hf := by
    have hfit := nulled_fits (encode a) (h.ints a) hd
    rw [nulled_of_finite _ fun x hx => (hf x hx).finite] at hfit
    exact h.read_encode hfit hf
  reread text a ha hf := h.reread ha hf
  settled text a ha hf := by rw [h.reread ha hf, Option.map_some]
  told_apart text text' a b ha hb he := by
    apply h.injective
    exact compact_injective (readAs_fits h ha) (readAs_fits h hb) he

end LayeredSql.Json

namespace LayeredSql
open Json

/-- Pipelines, expressions, queries, function signatures and types have canonical texts. -/
theorem documents_canonical :
    Canonical Pipeline.toJson Pipeline.ofJson? ∧ Canonical Expr.toJson Expr.ofJson? ∧
      Canonical Query.toJson Query.ofJson? ∧ Canonical Signature.toJson Signature.ofJson? ∧
      Canonical SqlType.toJson SqlType.ofJson? :=
  ⟨Pipeline.codec.canonical, Expr.codec.canonical, Query.codec.canonical,
    Signature.codec.canonical, SqlType.codec.canonical⟩

/-- A filter spelled by position, with its number in scientific notation. -/
def positionalFilter : String :=
  "[\"Filter\", [\"BaseLocal\", [\"x\"]], " ++
    "[[\"BinaryOp\", \"Gt\", [\"Column\", \"x\"], [\"Literal\", 5e-1]]]]"

/-- The positional filter is read, and read again from what is printed for it. -/
theorem positional_filter_canonical :
    ∃ p, readAs? Pipeline.ofJson? positionalFilter = some p ∧
      p.toJson.compact ≠ positionalFilter ∧
      readAs? Pipeline.ofJson? p.toJson.compact = some p := by
  have hread : (readAs? Pipeline.ofJson? positionalFilter).map
      (fun p => (p.toJson.floats, decide (p.toJson.compact = positionalFilter))) =
        some ([0.5], false) := by decide +kernel
  obtain ⟨p, hp, hseen⟩ := Option.map_eq_some_iff.mp hread
  obtain ⟨hfloats, hspelled⟩ := Prod.mk.inj hseen
  have hhalf : ∀ x ∈ p.toJson.floats, x.isFinite = true → ReadsBack x := by
    intro x hx _
    rw [hfloats, List.mem_singleton] at hx
    rw [hx]
    decide +kernel
  exact ⟨p, hp, of_decide_eq_false hspelled,
    documents_canonical.1.reread positionalFilter p hp hhalf⟩

end LayeredSql
