import LayeredSql.Proofs.Dialect
import LayeredSql.Proofs.Sql.PlainText
import LayeredSql.Proofs.Sql.Token

namespace LayeredSql.Sql

/-- Token lists of fragments whose quoted names satisfy `N` and whose strings satisfy `S`. -/
inductive Phrase (N S : String → Prop) : List Token → Prop where
  | word {cs : List Char} : PlainText cs → Phrase N S (cs.map .plain)
  | name {s : String} : N s → Phrase N S [.name s]
  | string {s : String} : S s → Phrase N S [.string s]
  | spaced {ts us : List Token} : Phrase N S ts → Phrase N S us →
      Phrase N S (ts ++ .plain ' ' :: us)
  | listed {ts us : List Token} : Phrase N S ts → Phrase N S us →
      Phrase N S (ts ++ .plain ',' :: .plain ' ' :: us)
  | enclosed {cs : List Char} {ts : List Token} : PlainText cs → Phrase N S ts →
      Phrase N S (cs.map .plain ++ .plain '(' :: (ts ++ [.plain ')']))
  | minus {ts : List Token} : ts.head? ≠ some (.plain '-') → Phrase N S ts →
      Phrase N S (.plain '-' :: ts)

def Reads (d : Dialect) (N S : String → Prop) (text : String) : Prop :=
  ∃ ts, Phrase N S ts ∧ text.toList = spelled d ts

namespace Phrase
variable {N S : String → Prop} {ts : List Token}

/-- The quoted names of a phrase are the ones it is built from. -/
theorem names_hold (h : Phrase N S ts) : ∀ s, .name s ∈ ts → N s := by
  induction h with
  | word _ => simp
  | name hs => simpa using hs
  | string _ => simp
  | spaced _ _ iht ihu | listed _ _ iht ihu =>
    intro s hs
    simp only [List.mem_append, List.mem_cons, reduceCtorEq, false_or] at hs
    exact hs.elim (iht s) (ihu s)
  | enclosed _ _ ih => simpa using ih
  | minus _ _ ih => simpa using ih

def Unquoting (c : Char) : Prop :=
  c ≠ '\x27' ∧ c ∉ ['\x22', '\x60']

theorem plain_unquoting (h : Phrase N S ts) : ∀ c, .plain c ∈ ts → Unquoting c := by
  have hmild : ∀ cs, PlainText cs → ∀ c ∈ cs, Unquoting c := by
    intro cs hp c hc
    have hm := hp.mild c hc
    simp only [isMild, List.mem_cons, List.not_mem_nil, or_false, not_or,
      decide_eq_true_eq] at hm
    simp [Unquoting, hm]
  induction h with
  | word hp => simpa using hmild _ hp
  | name _ => simp
  | string _ => simp
  | spaced _ _ iht ihu =>
    intro c hc
    simp only [List.mem_append, List.mem_cons, Token.plain.injEq] at hc
    rcases hc with hc | rfl | hc
    · exact iht c hc
    · simp [Unquoting]
    · exact ihu c hc
  | listed _ _ iht ihu =>
    intro c hc
    simp only [List.mem_append, List.mem_cons, Token.plain.injEq] at hc
    rcases hc with hc | rfl | rfl | hc
    · exact iht c hc
    · simp [Unquoting]
    · simp [Unquoting]
    · exact ihu c hc
  | enclosed hp _ ih =>
    intro c hc
    simp only [List.mem_append, List.mem_cons, List.mem_map, Token.plain.injEq,
      exists_eq_right, List.not_mem_nil, or_false] at hc
    rcases hc with hc | rfl | hc | rfl
    · exact hmild _ hp c hc
    · simp [Unquoting]
    · exact ih c hc
    · simp [Unquoting]
  | minus _ _ ih =>
    intro c hc
    simp only [List.mem_cons, Token.plain.injEq] at hc
    rcases hc with rfl | hc
    · simp [Unquoting]
    · exact ih c hc

def Apart (ts : List Token) : Prop :=
  ts.IsChain fun a b => ¬(a.isQuoted ∧ b.isQuoted)

theorem Apart.plain_cons {c : Char} (h : Apart ts) : Apart (.plain c :: ts) :=
  h.cons fun _ _ hq => by simp [Token.isQuoted] at hq

/-- A plain character keeps two lists of tokens apart. -/
theorem Apart.append_plain {us : List Token} {c : Char} (ht : Apart ts) (hu : Apart us) :
    Apart (ts ++ .plain c :: us) :=
  ht.append hu.plain_cons fun _ _ b hb hq => by
    simp only [List.head?_cons, Option.mem_def, Option.some.injEq] at hb
    subst hb
    simp [Token.isQuoted] at hq

theorem apart_word (cs : List Char) : Apart (cs.map .plain) := by
  induction cs with
  | nil => exact .nil
  | cons c cs ih => exact ih.plain_cons

theorem apart (h : Phrase N S ts) : Apart ts := by
  induction h with
  | word _ => exact apart_word _
  | name _ => exact .singleton _
  | string _ => exact .singleton _
  | spaced _ _ iht ihu => exact iht.append_plain ihu
  | listed _ _ iht ihu => exact iht.append_plain ihu.plain_cons
  | enclosed _ _ ih => exact (apart_word _).append_plain (ih.append_plain .nil)
  | minus _ _ ih => exact ih.plain_cons

theorem proper {d : Dialect} (hd : d.Supported) (h : Phrase N S ts) : Proper d ts := by
  obtain ⟨hclose, hopen⟩ := hd.quotes
  refine ⟨fun c hc => ?_, h.apart⟩
  obtain ⟨hs, hn⟩ := h.plain_unquoting c hc
  have hne : c ≠ d.openQuote := by
    rintro rfl
    exact hn hopen
  exact ⟨hs, hne, hclose ▸ hne⟩

/-- A phrase is read back token by token. -/
theorem scan_spelled {d : Dialect} (hd : d.Supported) (h : Phrase N S ts) :
    scan d .outside (spelled d ts) = some ts :=
  Sql.scan_spelled hd.quote_ne_string (h.proper hd)

end Phrase

/-- A quoted name is read back as this name and nothing else. -/
theorem tokens_quote {d : Dialect} (hd : d.Supported) (name : String) :
    tokens? d (d.quote name) = some [.name name] := by
  have hp : Phrase (· = name) (fun _ => True) [.name name] := .name rfl
  have hq : (d.quote name).toList = spelled d [.name name] := by
    simp [spelled, Token.chars, Dialect.quote, doubled]
  rw [tokens?, hq]
  exact hp.scan_spelled hd

theorem quoted_name {d : Dialect} (hd : d.Supported) (name : String) :
    quotedName? d (d.quote name) = some name := by
  rw [quotedName?, tokens_quote hd]

theorem quote_within {d : Dialect} (hd : d.Supported) {name : String} {vars : List String}
    (h : name ∈ vars) : NamesWithin d vars (d.quote name) :=
  ⟨_, tokens_quote hd name, by simpa [names] using h⟩

theorem NamesWithin.mono {d : Dialect} {vars vars' : List String} {text : String}
    (h : NamesWithin d vars text) (hv : ∀ v ∈ vars, v ∈ vars') : NamesWithin d vars' text := by
  obtain ⟨ts, ht, hn⟩ := h
  exact ⟨ts, ht, fun name hm => hv name (hn name hm)⟩

namespace Reads
variable {d : Dialect} {N S : String → Prop} {a b : String}

theorem tokens (hd : d.Supported) (h : Reads d N S a) :
    ∃ ts, Phrase N S ts ∧ tokens? d a = some ts := by
  obtain ⟨ts, hp, he⟩ := h
  refine ⟨ts, hp, ?_⟩
  rw [tokens?, he]
  exact hp.scan_spelled hd

theorem names_within {vars : List String} (hd : d.Supported) (h : Reads d (· ∈ vars) S a) :
    NamesWithin d vars a := by
  obtain ⟨ts, hp, he⟩ := h.tokens hd
  refine ⟨ts, he, fun s hs => ?_⟩
  obtain ⟨t, ht, hn⟩ := List.mem_filterMap.mp hs
  cases t with
  | plain c => cases hn
  | string c => cases hn
  | name c =>
    cases hn
    exact hp.names_hold s ht

theorem word (h : PlainText a.toList) : Reads d N S a :=
  ⟨_, .word h, (spelled_plain d _).symm⟩

theorem name (h : N a) : Reads d N S (d.quote a) :=
  ⟨_, .name h, by simp [spelled, Token.chars, Dialect.quote, doubled]⟩

theorem string (h : S a) : Reads d N S (stringLiteral a) :=
  ⟨_, .string h, by simp [spelled, Token.chars, stringLiteral, doubled]⟩

theorem spaced (ha : Reads d N S a) (hb : Reads d N S b) : Reads d N S (a ++ " " ++ b) := by
  obtain ⟨ts, ht, he⟩ := ha
  obtain ⟨us, hu, hf⟩ := hb
  refine ⟨_, ht.spaced hu, ?_⟩
  rw [String.toList_append, String.toList_append, he, hf, spelled_append, List.append_assoc]
  rfl

theorem listed (ha : Reads d N S a) (hb : Reads d N S b) : Reads d N S (a ++ ", " ++ b) := by
  obtain ⟨ts, ht, he⟩ := ha
  obtain ⟨us, hu, hf⟩ := hb
  refine ⟨_, ht.listed hu, ?_⟩
  rw [String.toList_append, String.toList_append, he, hf, spelled_append, List.append_assoc]
  rfl

theorem enclosed (hb : PlainText b.toList) (ha : Reads d N S a) :
    Reads d N S (b ++ "(" ++ a ++ ")") := by
  obtain ⟨ts, ht, he⟩ := ha
  refine ⟨_, ht.enclosed hb, ?_⟩
  have hw : spelled d (b.toList.map .plain ++ .plain '(' :: (ts ++ [.plain ')'])) =
      b.toList ++ '(' :: (spelled d ts ++ [')']) := by
    rw [spelled_append, spelled_plain]
    change _ ++ '(' :: spelled d (ts ++ [.plain ')']) = _
    rw [spelled_append]
    rfl
  rw [hw, ← he]
  simp

theorem in_parentheses (ha : Reads d N S a) : Reads d N S ("(" ++ a ++ ")") := by
  have h := enclosed (b := "") .nil ha
  rwa [String.empty_append] at h

theorem parenthesised (nested : Bool) (ha : Reads d N S a) :
    Reads d N S (parenthesised nested a) := by
  unfold Sql.parenthesised
  split
  · exact in_parentheses ha
  · exact ha

/-- A minus sign is kept from a following one by parentheses. -/
theorem negated (ha : Reads d N S a) : Reads d N S (negated a) := by
  unfold Sql.negated
  split
  · exact enclosed (b := "-") (by decide) ha
  · rename_i hd
    obtain ⟨ts, ht, he⟩ := ha
    refine ⟨_, ht.minus ?_, ?_⟩
    · intro hh
      obtain ⟨us, rfl⟩ := List.head?_eq_some_iff.mp hh
      apply hd
      rw [he]
      rfl
    · rw [String.toList_append, he]
      rfl

theorem empty : Reads d N S "" := word .nil

/-- Phrases joined by anything that joins two of them. -/
theorem intercalated {sep : String} {as : List String}
    (hsep : ∀ {a b}, Reads d N S a → Reads d N S b → Reads d N S (a ++ sep ++ b))
    (h : ∀ a ∈ as, Reads d N S a) : Reads d N S (sep.intercalate as) := by
  induction as with
  | nil => exact empty
  | cons a as ih =>
    have ha := h a List.mem_cons_self
    cases as with
    | nil => rwa [String.intercalate_singleton]
    | cons b bs =>
      rw [String.intercalate_cons_cons]
      exact hsep ha (ih fun c hc => h c (List.mem_cons_of_mem _ hc))

theorem comma_list {as : List String} (h : ∀ a ∈ as, Reads d N S a) :
    Reads d N S (", ".intercalate as) :=
  intercalated listed h

theorem space_list {as : List String} (h : ∀ a ∈ as, Reads d N S a) :
    Reads d N S (" ".intercalate as) :=
  intercalated spaced h

end Reads

end LayeredSql.Sql
