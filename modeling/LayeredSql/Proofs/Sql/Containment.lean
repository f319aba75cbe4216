import LayeredSql.Proofs.Sql.Fragment

namespace LayeredSql.Sql
variable {N S : String → Prop} {ts us : List Token}

namespace Token

/-- The number of open parentheses after a token. None can be closed that is not open. -/
def nest (depth : Nat) : Token → Option Nat
  | .plain '(' => some (depth + 1)
  | .plain ')' =>
    match depth with
    | 0 => none
    | depth + 1 => some depth
  | _ => some depth

def Silent (a b : Token) : Prop :=
  ¬(a = .plain '-' ∧ b = .plain '-') ∧ ¬(a = .plain '/' ∧ b = .plain '*')

theorem nest_plain {c : Char} (ho : c ≠ '(') (hc : c ≠ ')') (depth : Nat) :
    nest depth (.plain c) = some depth := by
  unfold nest
  split
  · rename_i h
    exact absurd (Token.plain.inj h) ho
  · rename_i h
    exact absurd (Token.plain.inj h) hc
  · rfl

end Token

/-- Tokens that a query can take in without coming to mean something else. -/
structure Contained (names strings : List String) (ts : List Token) : Prop where
  balanced : ts.foldlM Token.nest 0 = some 0
  no_line_comment : ¬[.plain '-', .plain '-'] <:+: ts
  no_block_comment : ¬[.plain '/', .plain '*'] <:+: ts
  no_semicolon : .plain ';' ∉ ts
  names : ∀ name, .name name ∈ ts → name ∈ names
  strings : ∀ s, .string s ∈ ts → s ∈ strings

namespace Phrase

theorem mild_ne {cs : List Char} (h : PlainText cs) {c : Char} (hc : c ∈ cs) :
    c ≠ '(' ∧ c ≠ ')' ∧ c ≠ ';' := by
  have hm := h.mild c hc
  simp only [isMild, List.mem_cons, List.not_mem_nil, or_false, not_or, decide_eq_true_eq] at hm
  exact ⟨hm.2.2.2.1, hm.2.2.2.2.1, hm.2.2.2.2.2⟩

theorem nest_word {cs : List Char} (h : PlainText cs) (depth : Nat) :
    (cs.map Token.plain).foldlM Token.nest depth = some depth := by
  have hnest : ∀ t ∈ cs.map Token.plain, Token.nest depth t = some depth := by
    rw [List.forall_mem_map]
    intro c hc
    obtain ⟨ho, hcl, _⟩ := mild_ne h hc
    exact Token.nest_plain ho hcl depth
  clear h
  generalize cs.map Token.plain = word at hnest
  induction word with
  | nil => rfl
  | cons t word ih =>
    rw [List.forall_mem_cons] at hnest
    rw [List.foldlM_cons, hnest.1]
    exact ih hnest.2

/-- A phrase closes the parentheses it opens, and no others. -/
theorem nest (h : Phrase N S ts) (depth : Nat) : ts.foldlM Token.nest depth = some depth := by
  induction h generalizing depth with
  | word hp => exact nest_word hp depth
  | name _ | string _ => rfl
  | spaced _ _ iht ihu =>
    rw [List.foldlM_append, iht]
    exact ihu depth
  | listed _ _ iht ihu =>
    rw [List.foldlM_append, iht]
    exact ihu depth
  | @enclosed cs ts hp _ ih =>
    have hinside : (ts ++ [Token.plain ')']).foldlM Token.nest (depth + 1) = some depth := by
      rw [List.foldlM_append, ih]
      rfl
    rw [List.foldlM_append, nest_word hp]
    exact hinside
  | minus _ _ ih => exact ih depth

/-- A character that takes part in no comment keeps two silent lists of tokens so. -/
theorem silent_append_plain {c : Char} (hc : c ∉ ['-', '/', '*']) (ht : ts.IsChain Token.Silent)
    (hu : us.IsChain Token.Silent) : (ts ++ .plain c :: us).IsChain Token.Silent := by
  simp only [List.mem_cons, List.not_mem_nil, or_false, not_or] at hc
  have hcu : (Token.plain c :: us).IsChain Token.Silent :=
    hu.cons fun b _ => ⟨by simp [hc.1], by simp [hc.2.1]⟩
  refine ht.append hcu fun a _ b hb => ?_
  obtain rfl := Option.some.inj hb
  exact ⟨by simp [hc.1], by simp [hc.2.2]⟩

theorem silent_word {cs : List Char} (h : PlainText cs) :
    (cs.map Token.plain).IsChain Token.Silent := by
  rw [List.isChain_map]
  refine h.quiet.imp fun a b hq => ?_
  simpa [Token.Silent, Quiet] using hq

theorem silent (h : Phrase N S ts) : ts.IsChain Token.Silent := by
  induction h with
  | word hp => exact silent_word hp
  | name _ | string _ => exact .singleton _
  | spaced _ _ iht ihu => exact silent_append_plain (by decide) iht ihu
  | @listed ts us _ _ iht ihu =>
    have hspaced : (Token.plain ' ' :: us).IsChain Token.Silent :=
      silent_append_plain (by decide) .nil ihu
    exact silent_append_plain (by decide) iht hspaced
  | enclosed hp _ ih =>
    have hinside := silent_append_plain (c := ')') (by decide) ih .nil
    exact silent_append_plain (by decide) (silent_word hp) hinside
  | minus hd _ ih =>
    refine ih.cons fun b hb => ⟨?_, by simp⟩
    rintro ⟨_, rfl⟩
    exact hd hb

theorem no_semicolon (h : Phrase N S ts) : .plain ';' ∉ ts := by
  have hword : ∀ cs, PlainText cs → Token.plain ';' ∉ cs.map Token.plain := by
    intro cs hp hm
    obtain ⟨c, hc, he⟩ := List.mem_map.mp hm
    exact (mild_ne hp hc).2.2 (Token.plain.inj he)
  induction h with
  | word hp => exact hword _ hp
  | name _ | string _ => simp
  | spaced _ _ iht ihu | listed _ _ iht ihu => simp [iht, ihu]
  | enclosed hp _ ih =>
    have hcs := hword _ hp
    simp only [List.mem_append, List.mem_cons, List.not_mem_nil, or_false, not_or]
    exact ⟨hcs, by simp, ih, by simp⟩
  | minus _ _ ih => simp [ih]

/-- The strings of a phrase are the ones it is built from. -/
theorem strings_hold (h : Phrase N S ts) : ∀ s, .string s ∈ ts → S s := by
  induction h with
  | word _ | name _ => simp
  | string hs => simpa using hs
  | spaced _ _ iht ihu | listed _ _ iht ihu =>
    intro s hs
    simp only [List.mem_append, List.mem_cons, reduceCtorEq, false_or] at hs
    exact hs.elim (iht s) (ihu s)
  | enclosed _ _ ih => simpa using ih
  | minus _ _ ih => simpa using ih

theorem contained {names strings : List String} (h : Phrase (· ∈ names) (· ∈ strings) ts) :
    Contained names strings ts where
  balanced := h.nest 0
  no_line_comment := fun hi => by simpa [Token.Silent] using h.silent.infix hi
  no_block_comment := fun hi => by simpa [Token.Silent] using h.silent.infix hi
  no_semicolon := h.no_semicolon
  names := h.names_hold
  strings := h.strings_hold

end Phrase

namespace Scope
variable {s : Scope}

/-- The names an expression can bring into its text, those of the scope included. -/
def namesAround (s : Scope) (e : Expr) : List String :=
  e.columns ++ s.groups ++ s.order.flatMap (·.expr.columns)

def stringsAround (s : Scope) (e : Expr) : List String :=
  e.strings ++ s.order.flatMap (·.expr.strings)

theorem render_around (hd : s.dialect.Supported) {e : Expr} {text : String}
    (h : s.render e = .ok text) :
    Reads s.dialect (· ∈ s.namesAround e) (· ∈ s.stringsAround e) text := by
  have ha : s.Admits (· ∈ s.namesAround e) (· ∈ s.stringsAround e) := by
    refine ⟨hd, ?_, ?_, ?_⟩
    · intro g hg
      exact List.mem_append_left _ (List.mem_append_right _ hg)
    · intro key hk c hc _
      exact List.mem_append_right _ (List.mem_flatMap.mpr ⟨key, hk, hc⟩)
    · intro key hk t ht
      exact List.mem_append_right _ (List.mem_flatMap.mpr ⟨key, hk, ht⟩)
  refine ha.render_reads ?_ ?_ h
  · intro c hc _
    exact List.mem_append_left _ (List.mem_append_left _ hc)
  · intro t ht
    exact List.mem_append_left _ ht

/-- The text of an expression or of a sorting key can be read to its end, leaves nothing open, and
quotes no names and strings but those of the expression and of its scope. -/
theorem rendered_contained (hd : s.dialect.Supported) :
    (∀ e text, s.render e = .ok text → ∃ ts, tokens? s.dialect text = some ts ∧
      Contained (s.namesAround e) (s.stringsAround e) ts) ∧
    ∀ keys texts, s.renderKeys keys = .ok texts →
      List.Forall₂ (fun key text => ∃ ts, tokens? s.dialect text = some ts ∧
        Contained (s.namesAround key.expr) (s.stringsAround key.expr) ts) keys texts := by
  constructor
  · intro e text h
    obtain ⟨ts, hp, ht⟩ := (render_around hd h).tokens hd
    exact ⟨ts, ht, hp.contained⟩
  · intro keys texts h
    refine (mapM_ok.mp h).imp fun key text hk => ?_
    simp only [bind_ok, pure_ok] at hk
    obtain ⟨sql, hsql, rfl⟩ := hk
    obtain ⟨ts, hp, ht⟩ := ((render_around hd hsql).key key.descending).tokens hd
    exact ⟨ts, ht, hp.contained⟩

def hostile : Scope where
  dialect := .mysql
  vars := ["x", "a`; --"]
  clause := .derivation
  groups := ["a`; --"]
  order := [⟨.binary .ne (.column "x") (.literal (.string "*/ '); --")), true⟩]

theorem hostile_contained :
    ∃ text ts, hostile.render (.binary .sub (.call "row_number" [])
        (.unary .neg (.unary .neg (.cast (.literal (.string "'' or 1 = 1; /*")) .int64)))) =
      .ok text ∧ tokens? .mysql text = some ts ∧
      Contained ["a`; --", "x"] ["'' or 1 = 1; /*", "*/ '); --"] ts := by
  have hb : (hostile.render (.binary .sub (.call "row_number" [])
      (.unary .neg (.unary .neg (.cast (.literal (.string "'' or 1 = 1; /*")) .int64))))).isOk =
      true := by
    decide +kernel
  obtain ⟨text, h⟩ := exists_ok hb
  obtain ⟨ts, ht, hc⟩ := (rendered_contained (s := hostile) .mysql).1 _ _ h
  exact ⟨text, ts, h, ht, hc⟩

end Scope
end LayeredSql.Sql
