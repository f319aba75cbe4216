import LayeredSql.Proofs.Sql.Constant
import LayeredSql.Proofs.Sql.Fragment

namespace LayeredSql

namespace Expr

mutual

/-- Made of constants, columns, operators, tests for being in a set that is not empty, and casts. -/
def elementary : Expr → Bool
  | .literal _ => true
  | .column _ => true
  | .binary _ left right => left.elementary && right.elementary
  | .unary _ operand => operand.elementary
  | .call _ _ => false
  | .inSet operand set => operand.elementary && !set.isEmpty && allElementary set
  | .cast operand _ => operand.elementary

def allElementary : List Expr → Bool
  | [] => true
  | e :: es => e.elementary && allElementary es

end

end Expr

namespace Expr

mutual

/-- Equal but for what the text of a dialect does not show. -/
inductive Alike (d : Dialect) : Expr → Expr → Prop where
  | literal (value : Literal) : Alike d (.literal value) (.literal value)
  | column (name : String) : Alike d (.column name) (.column name)
  | binary (op : BinaryOp) {l l' r r' : Expr} : Alike d l l' → Alike d r r' →
      Alike d (.binary op l r) (.binary op l' r')
  | unary (op : UnaryOp) {e e' : Expr} : Alike d e e' → Alike d (.unary op e) (.unary op e')
  | inSet {e e' : Expr} {set set' : List Expr} : Alike d e e' → AlikeAll d set set' →
      Alike d (.inSet e set) (.inSet e' set')
  | cast {e e' : Expr} {t t' : SqlType} : Alike d e e' → d.typeName t = d.typeName t' →
      Alike d (.cast e t) (.cast e' t')
  /-- The negation of a number, and the negated number. -/
  | negation {a b : Literal} : a.Negation b → Alike d (.unary .neg (.literal a)) (.literal b)
  | negated {a b : Literal} : a.Negation b → Alike d (.literal b) (.unary .neg (.literal a))

inductive AlikeAll (d : Dialect) : List Expr → List Expr → Prop where
  | nil : AlikeAll d [] []
  | cons {e e' : Expr} {es es' : List Expr} : Alike d e e' → AlikeAll d es es' →
      AlikeAll d (e :: es) (e' :: es')

end

end Expr

namespace Sql
open Form
variable {d : Dialect} {s : Scope} {keys : Except SqlError (List String)}

theorem readType_other {c : Char} (ho : c ≠ '(') (hc : c ≠ ')') (depth : Nat) (cs : List Char) :
    readType depth (c :: cs) = (readType depth cs).map fun (t, rest) => (c :: t, rest) := by
  simp only [readType, if_neg ho, if_neg hc]

/-- Text that closes what it opens is read on from. -/
theorem readType_phrase {ts : List Token}
    (h : Phrase (fun _ => False) (fun _ => False) ts) (depth : Nat) (rest : List Char) :
    readType depth (spelled d ts ++ rest) =
      (readType depth rest).map fun (t, rest) => (spelled d ts ++ t, rest) := by
  induction h generalizing depth rest with
  | word hp => rw [spelled_plain, readType_mild hp.mild]
  | name hs | string hs => exact hs.elim
  | @spaced ts us _ _ iht ihu =>
    have he : spelled d (ts ++ .plain ' ' :: us) = spelled d ts ++ ' ' :: spelled d us :=
      spelled_append d ts _
    rw [he, List.append_assoc, iht, List.cons_append, readType_other (by decide) (by decide), ihu]
    simp [Function.comp_def]
  | @listed ts us _ _ iht ihu =>
    have he : spelled d (ts ++ .plain ',' :: .plain ' ' :: us) =
        spelled d ts ++ ',' :: ' ' :: spelled d us :=
      spelled_append d ts _
    rw [he, List.append_assoc, iht, List.cons_append, List.cons_append,
      readType_other (by decide) (by decide), readType_other (by decide) (by decide), ihu]
    simp [Function.comp_def]
  | @enclosed cs ts hp _ ih =>
    have he : spelled d (cs.map .plain ++ .plain '(' :: (ts ++ [.plain ')'])) =
        cs ++ '(' :: (spelled d ts ++ [')']) := by
      rw [spelled_append, spelled_plain]
      change _ ++ '(' :: spelled d (ts ++ [.plain ')']) = _
      rw [spelled_append]
      rfl
    rw [he, List.append_assoc, readType_mild hp.mild]
    simp only [List.cons_append, List.append_assoc, List.nil_append, readType, if_true]
    rw [ih]
    simp [readType, Function.comp_def]
  | @minus ts _ _ ih =>
    change readType depth ('-' :: (spelled d ts ++ rest)) = _
    rw [readType_other (by decide) (by decide), ih, Option.map_map]
    rfl

theorem type_closed (hd : d.Supported) (t : SqlType) : IsType (d.typeName t) := by
  obtain ⟨ts, hp, he⟩ := Reads.type_name (N := fun _ => False) (S := fun _ => False) hd t
  intro rest
  rw [he, readType_phrase hp]
  simp [readType]

/-- The form that shows an expression in its text. -/
inductive Shows (d : Dialect) : Expr → Form → Prop where
  | word {value : Literal} {cs : List Char} : (literal value).isOk = true →
      literalForm value = .word cs → Shows d (.literal value) (.word cs)
  | negative {value : Literal} {cs : List Char} : (literal value).isOk = true →
      literalForm value = .minus (.word cs) → Shows d (.literal value) (.minus (.word cs))
  | string (s : String) : Shows d (.literal (.string s)) (.string s)
  | name (s : String) : Shows d (.column s) (.name s)
  | neg {e : Expr} {f : Form} : Shows d e f → Shows d (.unary .neg e) (.minus f)
  | not {e : Expr} {f : Form} : Shows d e f → Shows d (.unary .not e) (.not f)
  | nullTest {op : BinaryOp} {l r : Expr} {f : Form} {test : String} :
      nullTest? op r = some test → Shows d l f → Shows d (.binary op l r) (.nullTest test f)
  | binary {op : BinaryOp} {l r : Expr} {f g : Form} : nullTest? op r = none → Shows d l f →
      Shows d r g → Shows d (.binary op l r) (.binary op f g)
  | inSet {e : Expr} {f : Form} {set : List Expr} {fs : List Form} : Shows d e f → set ≠ [] →
      List.Forall₂ (Shows d) set fs → Shows d (.inSet e set) (.inSet f fs)
  | cast {e : Expr} {f : Form} {t : SqlType} {type : String} : Shows d e f →
      d.typeName t = type → Shows d (.cast e t) (.cast f type)

theorem nullTest_shown {op : BinaryOp} {r : Expr} {test : String}
    (h : nullTest? op r = some test) : test ∈ [" IS NULL", " IS NOT NULL"] := by
  unfold nullTest? at h
  split at h <;> cases h <;> simp

theorem literal_shown {value : Literal} (h : (literal value).isOk = true) :
    Shows d (.literal value) (literalForm value) := by
  have hnumber : ∀ n, literalForm value = numeralForm n →
      Shows d (.literal value) (literalForm value) := by
    intro n he
    rw [he]
    unfold numeralForm at he ⊢
    split at he <;> rename_i hn
    · rw [if_pos hn]
      exact .negative h he
    · rw [if_neg hn]
      exact .word h he
  cases value with
  | null | bool _ => exact .word h rfl
  | int _ | float _ => exact hnumber _ rfl
  | string s => exact .string s

mutual

/-- The text of an expression is the one of its form. -/
theorem fragment_form (hd : s.dialect.Supported) {nested : Bool} {text : String} (e : Expr)
    (he : e.elementary = true) (h : fragment keys s nested e = .ok text) :
    ∃ f, Shows s.dialect e f ∧ f.Well ∧ f.write s.dialect nested = text := by
  match e with
  | .literal value =>
    obtain ⟨hw, hwell⟩ := literal_written (d := s.dialect) h nested
    have hok : (literal value).isOk = true := by
      change (fragment keys s nested (.literal value)).isOk = true
      rw [h]
      rfl
    exact ⟨_, literal_shown hok, hwell, hw⟩
  | .column column =>
    simp only [fragment] at h
    split at h
    · cases h
      exact ⟨_, .name column, trivial, rfl⟩
    · cases h
  | .binary op left right =>
    simp only [Expr.elementary, Bool.and_eq_true] at he
    simp only [fragment, bind_ok] at h
    obtain ⟨lhs, hl, h⟩ := h
    obtain ⟨f, hf, hfw, rfl⟩ := fragment_form hd left he.1 hl
    split at h
    · rename_i test hn
      rw [pure_ok] at h
      exact ⟨_, .nullTest hn hf, ⟨nullTest_shown hn, hfw⟩, h.symm⟩
    · rename_i hn
      simp only [bind_ok, pure_ok] at h
      obtain ⟨rhs, hr, rfl⟩ := h
      obtain ⟨g, hg, hgw, rfl⟩ := fragment_form hd right he.2 hr
      exact ⟨_, .binary hn hf hg, ⟨hfw, hgw⟩, rfl⟩
  | .unary op operand =>
    simp only [fragment, bind_ok] at h
    obtain ⟨sql, ho, h⟩ := h
    obtain ⟨f, hf, hfw, rfl⟩ := fragment_form hd operand he ho
    cases op with
    | not =>
      rw [pure_ok] at h
      exact ⟨_, .not hf, hfw, h.symm⟩
    | neg =>
      rw [pure_ok] at h
      exact ⟨_, .neg hf, hfw, h.symm⟩
  | .call func args => cases he
  | .inSet operand set =>
    simp only [Expr.elementary, Bool.and_eq_true, Bool.not_eq_true'] at he
    obtain ⟨⟨heo, hne⟩, hes⟩ := he
    simp only [fragment, hne, Bool.false_eq_true, if_false, bind_ok, pure_ok] at h
    obtain ⟨lhs, hl, items, hi, rfl⟩ := h
    obtain ⟨f, hf, hfw, rfl⟩ := fragment_form hd operand heo hl
    obtain ⟨fs, hfs, hfsw, rfl⟩ := fragments_form hd set hes hi
    have hset : set ≠ [] := by
      rintro rfl
      cases hne
    have hfs' : fs ≠ [] := by
      rintro rfl
      exact hset (List.forall₂_nil_right_iff.mp hfs)
    exact ⟨_, .inSet hf hset hfs, ⟨hfw, hfs', hfsw⟩, rfl⟩
  | .cast operand target =>
    simp only [fragment, bind_ok, pure_ok] at h
    obtain ⟨sql, ho, rfl⟩ := h
    obtain ⟨f, hf, hfw, rfl⟩ := fragment_form hd operand he ho
    exact ⟨_, .cast hf rfl, ⟨hfw, type_closed hd target⟩, rfl⟩

theorem fragments_form (hd : s.dialect.Supported) {texts : List String} (es : List Expr)
    (he : Expr.allElementary es = true) (h : fragments keys s false es = .ok texts) :
    ∃ fs, List.Forall₂ (Shows s.dialect) es fs ∧ Form.AllWell fs ∧
      Form.writeAll s.dialect fs = texts := by
  match es with
  | [] =>
    cases h
    exact ⟨[], .nil, trivial, rfl⟩
  | e :: es =>
    simp only [Expr.allElementary, Bool.and_eq_true] at he
    simp only [fragments, bind_ok, pure_ok] at h
    obtain ⟨text, ht, rest, hr, rfl⟩ := h
    obtain ⟨f, hf, hfw, rfl⟩ := fragment_form hd e he.1 ht
    obtain ⟨fs, hfs, hfsw, rfl⟩ := fragments_form hd es he.2 hr
    exact ⟨f :: fs, .cons hf hfs, ⟨hfw, hfsw⟩, rfl⟩

end

theorem nullTest_some {op : BinaryOp} {r : Expr} {test : String}
    (h : nullTest? op r = some test) :
    r = .literal .null ∧ (op = .eq ∧ test = " IS NULL" ∨ op = .ne ∧ test = " IS NOT NULL") := by
  unfold nullTest? at h
  split at h <;> cases h <;> simp

mutual

/-- Expressions that one form shows are alike. -/
theorem Shows.alike {e e' : Expr} {f : Form} (h : Shows d e f) (h' : Shows d e' f) :
    e.Alike d e' := by
  match e, f, h with
  | _, _, .word hok hf =>
    cases h' with
    | word hok' hf' =>
      rw [literal_form_injective (hf.trans hf'.symm)]
      exact .literal _
  | _, _, .negative hok hf =>
    cases h' with
    | negative hok' hf' =>
      rw [literal_form_injective (hf.trans hf'.symm)]
      exact .literal _
    | neg hw =>
      cases hw with
      | word hok' hf' => exact .negated (literal_negation hok' hf' hf)
  | _, _, .string s =>
    cases h' with
    | string => exact .literal _
  | _, _, .name s =>
    cases h' with
    | name => exact .column s
  | _, _, .neg hx =>
    cases h' with
    | negative hok' hf' =>
      cases hx with
      | word hok hf => exact .negation (literal_negation hok hf hf')
    | neg hx' => exact .unary .neg (hx.alike hx')
  | _, _, .not hx =>
    cases h' with
    | not hx' => exact .unary .not (hx.alike hx')
  | _, _, .nullTest hn hl =>
    cases h' with
    | nullTest hn' hl' =>
      obtain ⟨rfl, hop⟩ := nullTest_some hn
      obtain ⟨rfl, hop'⟩ := nullTest_some hn'
      have hsame := hl.alike hl'
      rcases hop with ⟨rfl, rfl⟩ | ⟨rfl, rfl⟩
      · rcases hop' with ⟨rfl, -⟩ | ⟨rfl, ht⟩
        · exact .binary _ hsame (.literal _)
        · exact absurd ht (by decide)
      · rcases hop' with ⟨rfl, ht⟩ | ⟨rfl, -⟩
        · exact absurd ht (by decide)
        · exact .binary _ hsame (.literal _)
  | _, _, .binary hn hl hr =>
    cases h' with
    | binary hn' hl' hr' => exact .binary _ (hl.alike hl') (hr.alike hr')
  | _, _, .inSet hx hne hset =>
    cases h' with
    | inSet hx' hne' hset' => exact .inSet (hx.alike hx') (shows_all_alike hset hset')
  | _, _, .cast hx ht =>
    cases h' with
    | cast hx' ht' => exact .cast (hx.alike hx') (ht.trans ht'.symm)

theorem shows_all_alike {es es' : List Expr} {fs : List Form} (h : List.Forall₂ (Shows d) es fs)
    (h' : List.Forall₂ (Shows d) es' fs) : Expr.AlikeAll d es es' := by
  match es, fs, h with
  | _, _, .nil =>
    cases h' with
    | nil => exact .nil
  | _, _, .cons hx hxs =>
    cases h' with
    | cons hx' hxs' => exact .cons (hx.alike hx') (shows_all_alike hxs hxs')

end

theorem negation_fragment {a b : Literal} (h : a.Negation b) (nested : Bool) :
    fragment keys s nested (.unary .neg (.literal a)) = literal b := by
  obtain ⟨text, ha⟩ := exists_ok (negation_ok h).1
  rw [negation_text h ha]
  change (literal a).bind (fun sql => .ok (negated sql)) = _
  rw [ha]
  rfl

theorem alike_nullTest {e e' : Expr} (h : e.Alike d e') (op : BinaryOp) :
    nullTest? op e = nullTest? op e' := by
  cases h with
  | literal => rfl
  | negated hn | negation hn => cases hn <;> cases op <;> rfl
  | column | binary | unary | inSet | cast => cases op <;> rfl

mutual

/-- Alike expressions have one text, or the same reason for having none. -/
theorem fragment_alike {e e' : Expr} (h : e.Alike s.dialect e') (nested : Bool) :
    fragment keys s nested e = fragment keys s nested e' := by
  match e, e', h with
  | _, _, .literal _ => rfl
  | _, _, .column _ => rfl
  | _, _, .binary op hl hr =>
    simp only [fragment, fragment_alike hl true, fragment_alike hr true, alike_nullTest hr]
  | _, _, .unary op hx => simp only [fragment, fragment_alike hx true]
  | _, _, .inSet hx hset =>
    simp only [fragment, fragment_alike hx true, fragments_alike hset]
    cases hset <;> rfl
  | _, _, .cast hx ht => simp only [fragment, fragment_alike hx false, ht]
  | _, _, .negation hn => exact negation_fragment hn nested
  | _, _, .negated hn => exact (negation_fragment hn nested).symm

theorem fragments_alike {es es' : List Expr} (h : Expr.AlikeAll s.dialect es es') :
    fragments keys s false es = fragments keys s false es' := by
  match es, es', h with
  | _, _, .nil => rfl
  | _, _, .cons hx hxs => simp only [fragments, fragment_alike hx false, fragments_alike hxs]

end

namespace Scope

/-- Translation does not confuse expressions: within a scope, two expressions without calls have
the same text exactly when they are alike. So every operator is alike with an operator of its kind
only, on alike operands, however they are grouped. -/
theorem rendered_same_iff {s : Scope} (hd : s.dialect.Supported) {e e' : Expr}
    {text text' : String} (he : e.elementary = true) (he' : e'.elementary = true)
    (h : s.render e = .ok text) (h' : s.render e' = .ok text') :
    text = text' ↔ e.Alike s.dialect e' := by
  constructor
  · rintro rfl
    obtain ⟨f, hf, hfw, rfl⟩ := fragment_form hd e he h
    obtain ⟨f', hf', hfw', ht⟩ := fragment_form hd e' he' h'
    rw [Form.write_injective hd hfw' hfw ht] at hf'
    exact hf.alike hf'
  · intro ha
    have hsame : s.render e = s.render e' := fragment_alike ha false
    rw [h, h'] at hsame
    exact Except.ok.inj hsame

def arithmetic : Scope where
  dialect := .mysql
  vars := ["x", "y"]
  clause := .derivation
  groups := []
  order := []

/-- The grouping of two subtractions, told by their texts. -/
theorem differences_told_apart : ∃ text text',
    arithmetic.render (.binary .sub (.binary .sub (.column "x") (.column "y"))
      (.cast (.unary .neg (.literal (.int 1))) .int32)) = .ok text ∧
    arithmetic.render (.binary .sub (.column "x") (.binary .sub (.column "y")
      (.cast (.literal (.int (-1))) .int64))) = .ok text' ∧ text ≠ text' := by
  obtain ⟨text, h⟩ : ∃ text, arithmetic.render (.binary .sub
      (.binary .sub (.column "x") (.column "y"))
      (.cast (.unary .neg (.literal (.int 1))) .int32)) = .ok text := exists_ok (by decide +kernel)
  obtain ⟨text', h'⟩ : ∃ text, arithmetic.render (.binary .sub (.column "x")
      (.binary .sub (.column "y") (.cast (.literal (.int (-1))) .int64))) = .ok text :=
    exists_ok (by decide +kernel)
  refine ⟨text, text', h, h', fun ht => ?_⟩
  cases (rendered_same_iff (s := arithmetic) .mysql rfl rfl h h').mp ht with
  | binary _ hl _ => cases hl

end Scope
end Sql
end LayeredSql
