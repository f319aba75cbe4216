import LayeredSql.Proofs.Build.JsonDepth
import LayeredSql.Proofs.Command.Stages

namespace LayeredSql
open Json

theorem Pipeline.read_depth {text : String} {p : Pipeline} (h : Pipeline.read? text = some p) :
    p.toJson.depth ≤ nestingLimit :=
  Fits.depth_le _ (readAs_fits Pipeline.codec h)

namespace Command

/-- The query that is printed without asking for its tree is read back as what was built exactly if
it nests no deeper than a document may. It nests no deeper than the document of the pipeline did,
but for the extra levels. -/
theorem printed_query_read {t : Target} {args : Arguments} (he : args.explain = false)
    {text fault out : String} (h : answer t args text fault = .ok out) :
    ∃ p q, Pipeline.read? text = some p ∧ p.build t = .ok q ∧
      Query.read? out = (if q.toJson.depth ≤ nestingLimit then some q else none) ∧
      q.toJson.depth ≤ p.toJson.depth + p.extraLevels t.dialect.functions ∧
      p.toJson.depth ≤ nestingLimit := by
  obtain ⟨p, q, hp, hq, rfl⟩ := answer_ok.mp h
  rw [he]
  exact ⟨p, q, hp, hq, q.read_printed, Pipeline.build_json_depth hq, Pipeline.read_depth hp⟩

def repeatedRows : String :=
  "[\"Filter\", [\"BaseLocal\", [\"x\"]], " ++
    "[[\"BinaryOp\", \"Gt\", [\"FuncCall\", \"n\", []], [\"Literal\", 1]]]]"

theorem repeated_rows_read :
    ∃ out q, answer ⟨.ansi, .standard⟩ ⟨"p.json", none, none, false⟩ repeatedRows "" = .ok out ∧
      Query.read? out = some q := by
  have hb : (answer ⟨.ansi, .standard⟩ ⟨"p.json", none, none, false⟩ repeatedRows "").isOk =
      true := by
    decide +kernel
  obtain ⟨out, h⟩ := exists_ok hb
  obtain ⟨p, q, hp, _, hread, hdepth, _⟩ := printed_query_read rfl h
  have hlevels : (Pipeline.read? repeatedRows).map
      (fun p => decide (p.toJson.depth + p.extraLevels FunctionTable.builtin ≤ nestingLimit)) =
        some true := by decide +kernel
  rw [hp] at hlevels
  have hshallow := hdepth.trans (of_decide_eq_true (Option.some.inj hlevels))
  rw [if_pos hshallow] at hread
  exact ⟨out, q, h, hread⟩

end Command

namespace Pipeline

def severalRows : Expr :=
  .binary .gt (.call "n" []) (.literal (.int 1))

/-- So many filters over a table, each by a window. -/
def sieve : Nat → Pipeline
  | 0 => .remote ⟨none, "t"⟩ ["x"]
  | n + 1 => .filter (sieve n) [severalRows]

def sieved : Nat → Query
  | 0 => .table ⟨none, "t"⟩
  | n + 1 =>
    .select
      (.select (sieved n)
        { items := [⟨"\"x\"", none⟩, ⟨"COUNT(*) OVER ()", some "q01"⟩] })
      { items := [⟨"\"x\"", none⟩], conditions := ["\"q01\" > 1"] }

theorem sieve_relation (n : Nat) :
    (sieve n).relation ⟨.ansi, .standard⟩ = .ok ⟨sieved n, ["x"], [], []⟩ := by
  induction n with
  | zero => rfl
  | succ n ih =>
    rw [sieve, relation, ih]
    change Relation.filter ⟨sieved n, ["x"], [], []⟩ .ansi [severalRows] = _
    simp only [sieved]
    generalize sieved n = q
    cbv

theorem sieve_depth (n : Nat) : (sieve (n + 1)).toJson.depth = n + 5 := by
  induction n with
  | zero => rfl
  | succ n ih =>
    rw [sieve]
    simp [toJson, depth, membersDepth, itemsDepth, ih, severalRows, Expr.toJson,
      Expr.toJsonAll, Literal.toJson]

theorem sieved_depth (n : Nat) : (sieved (n + 1)).toJson.depth = 2 * n + 4 := by
  induction n with
  | zero => rfl
  | succ n ih =>
    rw [sieved]
    simp only [Query.toJson, Layer.members, memberIf, List.isEmpty_cons, List.isEmpty_nil,
      Bool.not_false, Bool.not_true, Bool.false_eq_true, if_true, if_false, SelectItem.toJson,
      optionalMember, List.map_cons, List.map_nil, List.append_nil, List.cons_append,
      List.nil_append, ofStrings, depth, membersDepth, itemsDepth, ih]
    omega

theorem sieve_floats (n : Nat) : (sieve n).toJson.floats = [] := by
  induction n with
  | zero => rfl
  | succ n ih =>
    simp only [sieve, toJson, floats, memberFloats, ih]
    rfl

theorem sieve_read {n : Nat} (h : n + 5 ≤ nestingLimit) :
    Pipeline.read? (sieve (n + 1)).toJson.compact = some (sieve (n + 1)) := by
  refine codec.canonical.printed _ ?_ ?_
  · rwa [sieve_depth]
  · rw [sieve_floats]
    exact List.forall_mem_nil _

/-- Sixty-three filters on windows are read and built, but what is printed for them is refused. -/
theorem deep_sieve_refused :
    ∃ out, Command.answer ⟨.ansi, .standard⟩ ⟨"p.json", none, none, false⟩
        (sieve 63).toJson.compact "" = .ok out ∧ Query.read? out = none := by
  refine ⟨(sieved 63).printed false, ?_, ?_⟩
  · refine Command.answer_ok.mpr ⟨_, _, sieve_read (by decide), ?_, rfl⟩
    rw [build, sieve_relation]
    rfl
  · rw [Query.read_printed, sieved_depth]
    rfl

end Pipeline
end LayeredSql
