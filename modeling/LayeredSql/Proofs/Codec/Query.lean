import LayeredSql.Codec.Query
import LayeredSql.Codec.Signature
import LayeredSql.Proofs.Codec.Pipeline

namespace LayeredSql
open Json

theorem SelectItem.codec : Codec SelectItem.toJson SelectItem.ofJson? :=
  .labelled SelectItem.mk SelectItem.sql SelectItem.label (fun _ => rfl) (fun _ _ => rfl)
    (fun _ _ => rfl) (by decide) string_codec string_codec nofun

namespace Layer

theorem names_sublist (layer : Layer) :
    (layer.members.map (·.1)).Sublist
      ["select", "where", "group_by", "order_by", "distinct", "limit"] := by
  have hmember : ∀ present key value,
      ((memberIf present key value).map (·.1)).Sublist [key] := by
    intro present key value
    cases present <;> simp [memberIf]
  have hoptional : ((optionalMember "limit" (fun n => .int n.toNat) layer.limit).map (·.1)).Sublist
      ["limit"] := by
    cases layer.limit <;> simp [optionalMember]
  simp only [members, List.map_append]
  exact (((((hmember _ _ _).append (hmember _ _ _)).append (hmember _ _ _)).append
    (hmember _ _ _)).append (List.Sublist.refl ["distinct"])).append hoptional

theorem ofRecord_members (source : Json) (layer : Layer) :
    ofRecord? ⟨false, ("from", source) :: layer.members⟩ = some layer := by
  have hitems : Record.defaulting ⟨false, ("from", source) :: layer.members⟩ "select" []
      (list? SelectItem.ofJson?) = some layer.items :=
    Record.defaulting_list (SelectItem.codec.list.undoes layer.items) (by simp [members])
  have hconditions : Record.defaulting ⟨false, ("from", source) :: layer.members⟩ "where" []
      strings? = some layer.conditions :=
    Record.defaulting_list (strings_codec.undoes layer.conditions) (by simp [members])
  have hgroupBy : Record.defaulting ⟨false, ("from", source) :: layer.members⟩ "group_by" []
      strings? = some layer.groupBy :=
    Record.defaulting_list (strings_codec.undoes layer.groupBy) (by simp [members])
  have horderBy : Record.defaulting ⟨false, ("from", source) :: layer.members⟩ "order_by" []
      strings? = some layer.orderBy :=
    Record.defaulting_list (strings_codec.undoes layer.orderBy) (by simp [members])
  have hdistinct : Record.defaulting ⟨false, ("from", source) :: layer.members⟩ "distinct" false
      bool? = some layer.distinct := by
    simp [Record.defaulting, members, bool?]
  have hlimit : Record.optional ⟨false, ("from", source) :: layer.members⟩ "limit" uint64? =
      some layer.limit :=
    Record.optional_member uint64_codec (by simp) (by simp [members])
  simp [ofRecord?, hitems, hconditions, hgroupBy, horderBy, hdistinct, hlimit]

theorem members_fit {r : Record} {layer : Layer} {levels : Nat} (hr : r.Fits levels)
    (h : ofRecord? r = some layer) : MembersFit levels layer.members := by
  unfold ofRecord? at h
  simp only [Option.bind_eq_bind, Option.bind_eq_some_iff, Option.pure_def,
    Option.some.injEq] at h
  obtain ⟨items, hi, conditions, hc, groupBy, hg, orderBy, ho, distinct, hd, limit, hlimit, rfl⟩ :=
    h
  simp only [members, membersFit_append]
  have hstrings : ∀ key (names : List String), r.defaulting key [] strings? = some names →
      MembersFit levels (memberIf (!names.isEmpty) key (ofStrings names)) := by
    intro key names hn
    apply memberIf_fits
    intro hsome
    rcases defaulting_fits strings_codec.keeps hr hn with rfl | hf
    · cases hsome
    · exact hf
  refine ⟨⟨⟨⟨⟨?_, hstrings _ _ hc⟩, hstrings _ _ hg⟩, hstrings _ _ ho⟩, trivial, trivial⟩, ?_⟩
  · apply memberIf_fits
    intro hsome
    rcases defaulting_fits SelectItem.codec.list.keeps hr hi with rfl | hf
    · cases hsome
    · exact hf
  · exact optionalMember_fits "limit" (optional_fits uint64_codec.keeps hr hlimit)

theorem members_ints (layer : Layer) : MemberIntsFit layer.members := by
  have happend : ∀ ms ns, MemberIntsFit ms → MemberIntsFit ns → MemberIntsFit (ms ++ ns) := by
    intro ms ns hm hn
    rw [memberIntsFit_iff] at hm hn ⊢
    exact List.forall_mem_append.mpr ⟨hm, hn⟩
  have hmember : ∀ present key v, v.IntsFit → MemberIntsFit (memberIf present key v) := by
    intro present key v hv
    cases present with
    | false => trivial
    | true => exact ⟨hv, trivial⟩
  have hlimit : MemberIntsFit (optionalMember "limit" (fun n => .int n.toNat) layer.limit) := by
    cases layer.limit with
    | none => trivial
    | some n => exact ⟨uint64_codec.ints n, trivial⟩
  unfold members
  refine happend _ _ (happend _ _ (happend _ _ (happend _ _ (happend _ _ ?_ ?_) ?_) ?_)
    ⟨trivial, trivial⟩) hlimit
  · exact hmember _ _ _ (SelectItem.codec.list.ints layer.items)
  · exact hmember _ _ _ (strings_codec.ints layer.conditions)
  · exact hmember _ _ _ (strings_codec.ints layer.groupBy)
  · exact hmember _ _ _ (strings_codec.ints layer.orderBy)

end Layer

namespace Query

/-- The constructor as a query's object names it. -/
def tag : Query → String
  | .table _ => "Table"
  | .select .. => "Select"
  | .join .. => "Join"
  | .semiJoin .. => "SemiJoin"
  | .setOp .. => "SetOp"

theorem read_tagged {n : Nat} {v : Json} {q : Query} (h : ofJsonWithin? (n + 1) v = some q) :
    ∃ body, v.tagged? "type" = some (q.tag, body) := by
  unfold ofJsonWithin? at h
  simp only [Option.bind_eq_bind, Option.bind_eq_some_iff, Prod.exists] at h
  obtain ⟨tag, body, ht, h⟩ := h
  refine ⟨body, ?_⟩
  split at h
  all_goals
    simp only [Option.bind_eq_some_iff, Option.map_eq_some_iff, Option.pure_def,
      Option.some.injEq, reduceCtorEq] at h
  all_goals grind [Query.tag]

theorem keeps (n : Nat) : Keeps toJson (ofJsonWithin? n) := by
  induction n with
  | zero =>
    intro levels j q h hj
    cases h
  | succ n ih =>
    intro levels j q h hj
    obtain ⟨body, ht⟩ := read_tagged h
    have hbody := tagged_fits ht hj
    rw [ofJsonWithin?, ht, Option.bind_eq_bind, Option.bind_some] at h
    cases q
    case table t =>
      obtain ⟨_, htable, ⟨⟩⟩ := Option.map_eq_some_iff.mp h
      obtain ⟨hl, hf⟩ := TableRef.codec.keeps levels body t htable hbody
      exact ⟨hl, trivial, hf⟩
    all_goals
      simp only [tag, Option.bind_eq_bind, Option.bind_eq_some_iff, Option.pure_def,
        Option.some.injEq] at h
      obtain ⟨r, hr, h⟩ := h
      obtain ⟨hl, hf⟩ := record_fits hr hbody
    case select source layer =>
      obtain ⟨_, hs, _, hlayer, ⟨⟩⟩ := h
      exact ⟨hl, trivial, required_fits ih hf hs, Layer.members_fit hf hlayer⟩
    case join left right kind keys =>
      obtain ⟨_, hleft, _, hright, _, hkind, _, hkeys, ⟨⟩⟩ := h
      exact ⟨hl, trivial, required_fits ih hf hleft, required_fits ih hf hright, trivial,
        required_fits KeyPair.codec.list.keeps hf hkeys, trivial⟩
    case semiJoin left right anti keys =>
      obtain ⟨_, hleft, _, hright, _, hanti, _, hkeys, ⟨⟩⟩ := h
      exact ⟨hl, trivial, required_fits ih hf hleft, required_fits ih hf hright, trivial,
        required_fits KeyPair.codec.list.keeps hf hkeys, trivial⟩
    case setOp left right kind =>
      obtain ⟨_, hleft, _, hright, _, hkind, ⟨⟩⟩ := h
      exact ⟨hl, trivial, required_fits ih hf hleft, required_fits ih hf hright, trivial,
        trivial⟩

theorem undoes (q : Query) {n : Nat} (h : q.toJson.depth ≤ n) :
    ofJsonWithin? n q.toJson = some q := by
  induction q generalizing n with
  | table t =>
    obtain ⟨n, rfl⟩ := levels_left h
    have hkeys : "type" ∉ t.members.map (·.1) := by
      obtain ⟨schema, name⟩ := t
      cases schema <;> simp [TableRef.members, optionalMember]
    rw [toJson, ofJsonWithin?, tagged_object hkeys]
    exact congrArg (Option.map table) (TableRef.codec.undoes t)
  | select source layer ih =>
    obtain ⟨n, rfl⟩ := levels_left h
    have hdepth : source.toJson.depth ≤ n := by
      simp only [toJson, depth, List.cons_append, List.nil_append, membersDepth] at h
      omega
    have hkeys : "type" ∉ (("from", source.toJson) :: layer.members).map (·.1) := by
      have hsub := (layer.names_sublist.cons_cons "from").subset
      intro hm
      exact absurd (hsub hm) (by decide)
    rw [toJson, List.cons_append, ofJsonWithin?, List.cons_append, List.nil_append,
      tagged_object hkeys]
    simp only [Option.bind_eq_bind, Option.bind_some]
    have hrecord : record? ["from", "select", "where", "group_by", "order_by", "distinct", "limit"]
        (.object (("from", source.toJson) :: layer.members)) =
          some ⟨false, ("from", source.toJson) :: layer.members⟩ :=
      record_object (layer.names_sublist.cons_cons "from") (by decide)
    rw [hrecord, Option.bind_some]
    simp [Record.required, Layer.ofRecord_members, ih hdepth]
  | join left right kind keys ihl ihr =>
    obtain ⟨n, rfl⟩ := levels_left h
    simp only [toJson, depth, membersDepth] at h
    rw [toJson, ofJsonWithin?, tagged_object (by simp)]
    simp only [Option.bind_eq_bind, Option.bind_some]
    exact four_fields (by decide) (ihl (by omega)) (ihr (by omega)) (JoinKind.codec.undoes kind)
      (KeyPair.codec.list.undoes keys) join
  | semiJoin left right anti keys ihl ihr =>
    obtain ⟨n, rfl⟩ := levels_left h
    simp only [toJson, depth, membersDepth] at h
    rw [toJson, ofJsonWithin?, tagged_object (by simp)]
    simp only [Option.bind_eq_bind, Option.bind_some]
    exact four_fields (by decide) (ihl (by omega)) (ihr (by omega)) (bool_codec.undoes anti)
      (KeyPair.codec.list.undoes keys) semiJoin
  | setOp left right kind ihl ihr =>
    obtain ⟨n, rfl⟩ := levels_left h
    simp only [toJson, depth, membersDepth] at h
    rw [toJson, ofJsonWithin?, tagged_object (by simp)]
    simp only [Option.bind_eq_bind, Option.bind_some]
    exact three_fields (by decide) (ihl (by omega)) (ihr (by omega)) (SetKind.codec.undoes kind)
      setOp

theorem ints (q : Query) : q.toJson.IntsFit := by
  induction q with
  | table t => exact ⟨trivial, TableRef.codec.ints t⟩
  | select source layer ih => exact ⟨trivial, ih, layer.members_ints⟩
  | join left right kind keys ihl ihr =>
    exact ⟨trivial, ihl, ihr, trivial, KeyPair.codec.list.ints keys, trivial⟩
  | semiJoin left right anti keys ihl ihr =>
    exact ⟨trivial, ihl, ihr, trivial, KeyPair.codec.list.ints keys, trivial⟩
  | setOp left right kind ihl ihr => exact ⟨trivial, ihl, ihr, trivial, trivial⟩

theorem codec : Codec toJson ofJson? where
  undoes q := undoes q (Nat.le_refl _)
  keeps levels j q h hj := keeps j.depth levels j q h hj
  ints := ints

end Query

theorem FunctionKind.codec : Codec (fun kind => .string (FunctionKind.name kind))
    (fun v => v.unitName?.bind FunctionKind.ofName?) :=
  unit_codec fun kind => by cases kind <;> rfl

/-- The record of a signature, whatever reads the numbers in it. -/
theorem Signature.record_read {number : Json → Option UInt64} {least most : Json}
    {minArgs : UInt64} {maxArgs : Option UInt64} (hmin : number least = some minArgs)
    (hmax : ∀ r : Record, r.get? "max_args" = some most →
      r.optional "max_args" number = some maxArgs)
    (name sqlName : String) (kind : FunctionKind) (orderByArg : Bool) :
    (do
      let r ← Json.record? ["name", "sql_name", "kind", "min_args", "max_args", "order_by_arg"]
        (.object [("name", .string name), ("sql_name", .string sqlName),
          ("kind", .string kind.name), ("min_args", least), ("max_args", most),
          ("order_by_arg", .bool orderByArg)])
      let name ← r.required "name" string?
      let sqlName ← r.required "sql_name" string?
      let kind ← r.required "kind" fun v => v.unitName?.bind FunctionKind.ofName?
      let minArgs ← r.required "min_args" number
      let maxArgs ← r.nullable "max_args" number
      let orderByArg ← r.defaulting "order_by_arg" false bool?
      return (⟨name, sqlName, kind, minArgs, maxArgs, orderByArg⟩ : Signature)) =
      some ⟨name, sqlName, kind, minArgs, maxArgs, orderByArg⟩ := by
  have hkind := FunctionKind.codec.undoes kind
  simp [record?, Record.required, Record.nullable, Record.defaulting, string?, bool?, hkind, hmin,
    hmax]

theorem Signature.codec : Codec Signature.toJson Signature.ofJson? where
  undoes sig :=
    record_read (uint64_codec.undoes sig.minArgs)
      (fun _ => Record.optional_null uint64_codec (by simp)) sig.name sig.sqlName sig.kind
      sig.orderByArg
  keeps := by
    intro levels j sig h hj
    unfold ofJson? at h
    simp only [Option.bind_eq_bind, Option.bind_eq_some_iff, Option.pure_def,
      Option.some.injEq] at h
    obtain ⟨r, hr, name, hn, sqlName, hs, kind, hk, minArgs, hmin, maxArgs, hmax, orderByArg, ho,
      rfl⟩ := h
    obtain ⟨hl, hf⟩ := record_fits hr hj
    exact ⟨hl, trivial, trivial, trivial, required_fits uint64_codec.keeps hf hmin,
      ofOption_fits (nullable_fits uint64_codec.keeps hf hmax), trivial, trivial⟩
  ints sig := by
    refine ⟨trivial, trivial, trivial, uint64_codec.ints sig.minArgs, ?_, trivial, trivial⟩
    cases sig.maxArgs with
    | none => trivial
    | some n => exact uint64_codec.ints n

end LayeredSql
