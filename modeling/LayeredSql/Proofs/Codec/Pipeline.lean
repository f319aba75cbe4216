import LayeredSql.Codec.Pipeline
import LayeredSql.Proofs.Codec.Expr

namespace LayeredSql
open Json

theorem TableRef.codec : Codec (fun t => .object (TableRef.members t)) TableRef.ofJson? where
  undoes t := by
    obtain ⟨schema, name⟩ := t
    cases schema <;>
      simp [members, ofJson?, record?, Record.required, Record.optional, Record.get?, string?,
        optionalMember]
  keeps := by
    intro levels j t h hj
    unfold ofJson? at h
    simp only [Option.bind_eq_bind, Option.bind_eq_some_iff, Option.pure_def,
      Option.some.injEq] at h
    obtain ⟨r, hr, schema, hs, name, hn, rfl⟩ := h
    obtain ⟨hl, hf⟩ := record_fits hr hj
    cases schema with
    | none => exact ⟨hl, trivial, trivial⟩
    | some s => exact ⟨hl, trivial, trivial, trivial⟩
  ints t := by
    obtain ⟨schema, name⟩ := t
    cases schema with
    | none => exact ⟨trivial, trivial⟩
    | some s => exact ⟨trivial, trivial, trivial⟩

theorem Projection.codec : Codec Projection.toJson Projection.ofJson? :=
  .labelled Projection.mk Projection.expr Projection.label (fun _ => rfl) (fun _ _ => rfl)
    (fun _ _ => rfl) (by decide) Expr.codec string_codec nofun

theorem ColumnRename.codec : Codec ColumnRename.toJson ColumnRename.ofJson? :=
  .pair ColumnRename.mk ColumnRename.source ColumnRename.target (fun _ => rfl) (fun _ _ => rfl)
    (fun _ _ => rfl) (by decide) string_codec string_codec

theorem KeyPair.codec : Codec KeyPair.toJson KeyPair.ofJson? :=
  .pair KeyPair.mk KeyPair.left KeyPair.right (fun _ => rfl) (fun _ _ => rfl) (fun _ _ => rfl)
    (by decide) string_codec string_codec

theorem Suffixes.codec : Codec Suffixes.toJson Suffixes.ofJson? :=
  .pair Suffixes.mk Suffixes.left Suffixes.right (fun _ => rfl) (fun _ _ => rfl) (fun _ _ => rfl)
    (by decide) string_codec string_codec

theorem JoinKind.codec : Codec (fun kind => .string (JoinKind.name kind)) JoinKind.ofJson? :=
  unit_codec fun kind => by cases kind <;> rfl

theorem SetKind.codec : Codec (fun kind => .string (SetKind.name kind)) SetKind.ofJson? :=
  unit_codec fun kind => by cases kind <;> rfl

namespace Pipeline

/-- The operation as a pipeline's object names it. -/
def tag : Pipeline → String
  | .remote .. => "BaseRemote"
  | .inMemory .. => "BaseLocal"
  | .select .. => "Select"
  | .rename .. => "Rename"
  | .arrange .. => "Arrange"
  | .summarise .. => "Summarise"
  | .mutate .. => "Mutate"
  | .groupBy .. => "GroupBy"
  | .ungroup .. => "Ungroup"
  | .filter .. => "Filter"
  | .distinct .. => "Distinct"
  | .take .. => "Take"
  | .join .. => "Join"
  | .semiJoin .. => "SemiJoin"
  | .setOp .. => "SetOp"

theorem read_tagged {n : Nat} {v : Json} {p : Pipeline} (h : ofJsonWithin? (n + 1) v = some p) :
    ∃ body, v.tagged? "op" = some (p.tag, body) := by
  unfold ofJsonWithin? at h
  simp only [Option.bind_eq_bind, Option.bind_eq_some_iff, Prod.exists] at h
  obtain ⟨tag, body, ht, h⟩ := h
  refine ⟨body, ?_⟩
  split at h
  all_goals
    simp only [Option.bind_eq_some_iff, Option.pure_def, Option.some.injEq, reduceCtorEq] at h
  all_goals grind [Pipeline.tag]

theorem keeps (n : Nat) : Keeps toJson (ofJsonWithin? n) := by
  induction n with
  | zero =>
    intro levels j p h hj
    cases h
  | succ n ih =>
    intro levels j p h hj
    obtain ⟨body, ht⟩ := read_tagged h
    have hbody := tagged_fits ht hj
    rw [ofJsonWithin?, ht, Option.bind_eq_bind, Option.bind_some] at h
    cases p
    all_goals
      simp only [tag, Option.bind_eq_bind, Option.bind_eq_some_iff, Option.pure_def,
        Option.some.injEq] at h
      obtain ⟨r, hr, h⟩ := h
      obtain ⟨hl, hf⟩ := record_fits hr hbody
    case remote table vars =>
      obtain ⟨_, htable, _, hv, ⟨⟩⟩ := h
      exact ⟨hl, trivial, required_fits TableRef.codec.keeps hf htable,
        required_fits strings_codec.keeps hf hv, trivial⟩
    case inMemory vars =>
      obtain ⟨_, hv, ⟨⟩⟩ := h
      exact ⟨hl, trivial, required_fits strings_codec.keeps hf hv, trivial⟩
    case select input columns =>
      obtain ⟨_, hi, _, hc, ⟨⟩⟩ := h
      exact ⟨hl, trivial, required_fits ih hf hi,
        required_fits Projection.codec.list.keeps hf hc, trivial⟩
    case rename input renames =>
      obtain ⟨_, hi, _, hc, ⟨⟩⟩ := h
      exact ⟨hl, trivial, required_fits ih hf hi,
        required_fits ColumnRename.codec.list.keeps hf hc, trivial⟩
    case arrange input keys =>
      obtain ⟨_, hi, _, hk, ⟨⟩⟩ := h
      exact ⟨hl, trivial, required_fits ih hf hi, required_fits SortKey.codec.list.keeps hf hk,
        trivial⟩
    case summarise input aggregates =>
      obtain ⟨_, hi, _, ha, ⟨⟩⟩ := h
      exact ⟨hl, trivial, required_fits ih hf hi,
        required_fits NamedExpr.codec.list.keeps hf ha, trivial⟩
    case mutate input derived =>
      obtain ⟨_, hi, _, hd, ⟨⟩⟩ := h
      exact ⟨hl, trivial, required_fits ih hf hi,
        required_fits NamedExpr.codec.list.keeps hf hd, trivial⟩
    case groupBy input vars =>
      obtain ⟨_, hi, _, hv, ⟨⟩⟩ := h
      exact ⟨hl, trivial, required_fits ih hf hi, required_fits strings_codec.keeps hf hv,
        trivial⟩
    case ungroup input =>
      obtain ⟨_, hi, ⟨⟩⟩ := h
      exact ⟨hl, trivial, required_fits ih hf hi, trivial⟩
    case filter input predicates =>
      obtain ⟨_, hi, _, hp, ⟨⟩⟩ := h
      exact ⟨hl, trivial, required_fits ih hf hi,
        required_fits Expr.codec.list.keeps hf hp, trivial⟩
    case distinct input columns keepAll =>
      obtain ⟨_, hi, _, hc, _, hkeep, ⟨⟩⟩ := h
      have hinput := required_fits ih hf hi
      rcases defaulting_fits strings_codec.keeps hf hc with rfl | hcolumns
      · exact ⟨hl, trivial, hinput, trivial, trivial⟩
      · cases columns with
        | nil => exact ⟨hl, trivial, hinput, trivial, trivial⟩
        | cons c cs => exact ⟨hl, trivial, hinput, hcolumns, trivial, trivial⟩
    case take input limit =>
      obtain ⟨_, hi, _, hlimit, ⟨⟩⟩ := h
      exact ⟨hl, trivial, required_fits ih hf hi, required_fits uint64_codec.keeps hf hlimit,
        trivial⟩
    case join left right kind keys suffixes =>
      obtain ⟨_, hleft, _, hright, _, hkind, _, hkeys, _, hs, ⟨⟩⟩ := h
      have hsides := And.intro (required_fits ih hf hleft) (required_fits ih hf hright)
      have hby := required_fits KeyPair.codec.list.keeps hf hkeys
      have hsuffixes := optionalMember_fits "suffixes" (optional_fits Suffixes.codec.keeps hf hs)
      exact ⟨hl, trivial, hsides.1, hsides.2, trivial, hby, hsuffixes⟩
    case semiJoin left right anti keys =>
      obtain ⟨_, hleft, _, hright, _, hanti, _, hkeys, ⟨⟩⟩ := h
      exact ⟨hl, trivial, required_fits ih hf hleft, required_fits ih hf hright, trivial,
        required_fits KeyPair.codec.list.keeps hf hkeys, trivial⟩
    case setOp left right kind =>
      obtain ⟨_, hleft, _, hright, _, hkind, ⟨⟩⟩ := h
      exact ⟨hl, trivial, required_fits ih hf hleft, required_fits ih hf hright, trivial,
        trivial⟩

/-- An operation on one input with one more field is read from its object. -/
theorem undoes_over {α : Type} {encode : α → Json} {decode : Json → Option α}
    (hc : Codec encode decode) {tag field : String} {build : Pipeline → α → Pipeline}
    {input : Pipeline} {a : α} {n : Nat} (hf : ["op", "upstream", field].Nodup)
    (hstep : ∀ n v body, v.tagged? "op" = some (tag, body) → ofJsonWithin? (n + 1) v =
      (body.record? ["upstream", field]).bind fun r =>
        (r.required "upstream" (ofJsonWithin? n)).bind fun input =>
          (r.required field decode).bind fun a => some (build input a))
    (ih : ∀ {n}, input.toJson.depth ≤ n → ofJsonWithin? n input.toJson = some input)
    (h : (Json.object [("op", .string tag), ("upstream", input.toJson), (field, encode a)]).depth ≤
      n) :
    ofJsonWithin? n (.object [("op", .string tag), ("upstream", input.toJson), (field, encode a)]) =
      some (build input a) := by
  obtain ⟨n, rfl⟩ := levels_left h
  simp only [depth, membersDepth] at h
  obtain ⟨hop, hn⟩ := List.nodup_cons.mp hf
  have hop' : "op" ∉ [("upstream", input.toJson), (field, encode a)].map (·.1) := hop
  rw [hstep n _ _ (tagged_object hop')]
  exact two_fields hn (ih (by omega)) (hc.undoes a) build

theorem undoes (p : Pipeline) {n : Nat} (h : p.toJson.depth ≤ n) :
    ofJsonWithin? n p.toJson = some p := by
  induction p generalizing n with
  | remote table vars =>
    obtain ⟨n, rfl⟩ := levels_left h
    rw [toJson, ofJsonWithin?, tagged_object (by simp)]
    simp only [Option.bind_eq_bind, Option.bind_some]
    exact two_fields (by decide) (TableRef.codec.undoes table) (strings_codec.undoes vars) remote
  | inMemory vars =>
    obtain ⟨n, rfl⟩ := levels_left h
    rw [toJson, ofJsonWithin?, tagged_object (by simp)]
    simp only [Option.bind_eq_bind, Option.bind_some]
    exact one_field (strings_codec.undoes vars) inMemory
  | ungroup input ih =>
    obtain ⟨n, rfl⟩ := levels_left h
    simp only [toJson, depth, membersDepth] at h
    rw [toJson, ofJsonWithin?, tagged_object (by simp)]
    simp only [Option.bind_eq_bind, Option.bind_some]
    exact one_field (ih (by omega)) ungroup
  | select input columns ih =>
    refine undoes_over Projection.codec.list (by decide) ?_ ih h
    intro n v body ht
    rw [ofJsonWithin?, ht]
    rfl
  | rename input renames ih =>
    refine undoes_over ColumnRename.codec.list (by decide) ?_ ih h
    intro n v body ht
    rw [ofJsonWithin?, ht]
    rfl
  | arrange input keys ih =>
    refine undoes_over SortKey.codec.list (by decide) ?_ ih h
    intro n v body ht
    rw [ofJsonWithin?, ht]
    rfl
  | summarise input aggregates ih =>
    refine undoes_over NamedExpr.codec.list (by decide) ?_ ih h
    intro n v body ht
    rw [ofJsonWithin?, ht]
    rfl
  | mutate input derived ih =>
    refine undoes_over NamedExpr.codec.list (by decide) ?_ ih h
    intro n v body ht
    rw [ofJsonWithin?, ht]
    rfl
  | groupBy input vars ih =>
    refine undoes_over strings_codec (by decide) ?_ ih h
    intro n v body ht
    rw [ofJsonWithin?, ht]
    rfl
  | filter input predicates ih =>
    refine undoes_over Expr.codec.list (by decide) ?_ ih h
    intro n v body ht
    rw [ofJsonWithin?, ht]
    rfl
  | take input limit ih =>
    refine undoes_over uint64_codec (by decide) ?_ ih h
    intro n v body ht
    rw [ofJsonWithin?, ht]
    rfl
  | distinct input columns keepAll ih =>
    obtain ⟨n, rfl⟩ := levels_left h
    have hdepth : input.toJson.depth ≤ n := by
      simp only [toJson, depth, List.cons_append, List.nil_append, membersDepth] at h
      omega
    have hinput := ih hdepth
    cases columns with
    | nil =>
      rw [toJson, ofJsonWithin?, List.append_assoc, List.cons_append,
        tagged_object (by simp [memberIf])]
      simp only [Option.bind_eq_bind, Option.bind_some]
      simp [record?, Record.required, Record.defaulting,
        Record.get?, memberIf, bool?, hinput]
    | cons c cs =>
      rw [toJson, ofJsonWithin?, List.append_assoc, List.cons_append,
        tagged_object (by simp [memberIf])]
      simp only [Option.bind_eq_bind, Option.bind_some]
      simp [record?, Record.required, Record.defaulting,
        Record.get?, memberIf, bool?, hinput, strings_codec.undoes]
  | join left right kind keys suffixes ihl ihr =>
    obtain ⟨n, rfl⟩ := levels_left h
    simp only [toJson, depth, List.cons_append, List.nil_append, membersDepth] at h
    have hleft := ihl (show left.toJson.depth ≤ n by omega)
    have hright := ihr (show right.toJson.depth ≤ n by omega)
    have hkind := JoinKind.codec.undoes kind
    cases suffixes with
    | none =>
      rw [toJson, ofJsonWithin?, List.cons_append, tagged_object (by simp [optionalMember])]
      simp only [Option.bind_eq_bind, Option.bind_some]
      simp [record?, Record.required, Record.defaulting,
        Record.optional, Record.get?, optionalMember, hleft, hright, hkind,
        KeyPair.codec.list.undoes]
    | some s =>
      have hs := Suffixes.codec.undoes s
      rw [Suffixes.toJson] at hs
      rw [toJson, ofJsonWithin?, List.cons_append, tagged_object (by simp [optionalMember])]
      simp only [Option.bind_eq_bind, Option.bind_some]
      simp [record?, Record.required, Record.defaulting,
        Record.optional, Record.get?, optionalMember, Suffixes.toJson, hleft, hright, hkind, hs,
        KeyPair.codec.list.undoes]
  | semiJoin left right anti keys ihl ihr =>
    obtain ⟨n, rfl⟩ := levels_left h
    simp only [toJson, depth, membersDepth] at h
    have hleft := ihl (show left.toJson.depth ≤ n by omega)
    have hright := ihr (show right.toJson.depth ≤ n by omega)
    rw [toJson, ofJsonWithin?, tagged_object (by simp)]
    simp only [Option.bind_eq_bind, Option.bind_some]
    simp [record?, Record.required, Record.defaulting,
      Record.get?, bool?, hleft, hright, KeyPair.codec.list.undoes]
  | setOp left right kind ihl ihr =>
    obtain ⟨n, rfl⟩ := levels_left h
    simp only [toJson, depth, membersDepth] at h
    rw [toJson, ofJsonWithin?, tagged_object (by simp)]
    simp only [Option.bind_eq_bind, Option.bind_some]
    exact three_fields (by decide) (ihl (by omega)) (ihr (by omega))
      (SetKind.codec.undoes kind) setOp

theorem ints (p : Pipeline) : p.toJson.IntsFit := by
  induction p with
  | remote table vars =>
    exact ⟨trivial, TableRef.codec.ints table, strings_codec.ints vars, trivial⟩
  | inMemory vars => exact ⟨trivial, strings_codec.ints vars, trivial⟩
  | select input columns ih => exact ⟨trivial, ih, Projection.codec.list.ints columns, trivial⟩
  | rename input renames ih => exact ⟨trivial, ih, ColumnRename.codec.list.ints renames, trivial⟩
  | arrange input keys ih => exact ⟨trivial, ih, SortKey.codec.list.ints keys, trivial⟩
  | summarise input aggregates ih =>
    exact ⟨trivial, ih, NamedExpr.codec.list.ints aggregates, trivial⟩
  | mutate input derived ih => exact ⟨trivial, ih, NamedExpr.codec.list.ints derived, trivial⟩
  | groupBy input vars ih => exact ⟨trivial, ih, strings_codec.ints vars, trivial⟩
  | ungroup input ih => exact ⟨trivial, ih, trivial⟩
  | filter input predicates ih => exact ⟨trivial, ih, Expr.codec.list.ints predicates, trivial⟩
  | distinct input columns keepAll ih =>
    cases columns with
    | nil => exact ⟨trivial, ih, trivial, trivial⟩
    | cons c cs => exact ⟨trivial, ih, strings_codec.ints (c :: cs), trivial, trivial⟩
  | take input limit ih => exact ⟨trivial, ih, uint64_codec.ints limit, trivial⟩
  | join left right kind keys suffixes ihl ihr =>
    have hkeys := KeyPair.codec.list.ints keys
    cases suffixes with
    | none => exact ⟨trivial, ihl, ihr, trivial, hkeys, trivial⟩
    | some s => exact ⟨trivial, ihl, ihr, trivial, hkeys, Suffixes.codec.ints s, trivial⟩
  | semiJoin left right anti keys ihl ihr =>
    exact ⟨trivial, ihl, ihr, trivial, KeyPair.codec.list.ints keys, trivial⟩
  | setOp left right kind ihl ihr => exact ⟨trivial, ihl, ihr, trivial, trivial⟩

theorem codec : Codec toJson ofJson? where
  undoes p := undoes p (Nat.le_refl _)
  keeps levels j p h hj := keeps j.depth levels j p h hj
  ints := ints

end Pipeline
end LayeredSql
