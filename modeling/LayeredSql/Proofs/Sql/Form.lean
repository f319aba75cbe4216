import LayeredSql.Proofs.Dialect
import LayeredSql.Proofs.Sql.Token

namespace LayeredSql.Sql

/-- What the text of an expression shows of it. -/
inductive Form where
  /-- A keyword, or a number without its sign. -/
  | word (cs : List Char)
  | string (s : String)
  | name (s : String)
  | minus (operand : Form)
  | not (operand : Form)
  | binary (op : BinaryOp) (left right : Form)
  | nullTest (test : String) (operand : Form)
  | inSet (operand : Form) (set : List Form)
  | cast (operand : Form) (type : String)

namespace Form

mutual

def write (d : Dialect) (nested : Bool) : Form → String
  | .word cs => String.ofList cs
  | .string s => stringLiteral s
  | .name s => d.quote s
  | .minus f => negated (f.write d true)
  | .not f => parenthesised nested ("NOT " ++ f.write d true)
  | .binary op l r => parenthesised nested (operation d op (l.write d true) (r.write d true))
  | .nullTest test f => parenthesised nested (f.write d true ++ test)
  | .inSet f set =>
    parenthesised nested (f.write d true ++ " IN (" ++ ", ".intercalate (writeAll d set) ++ ")")
  | .cast f type => "CAST(" ++ f.write d false ++ " AS " ++ type ++ ")"

def writeAll (d : Dialect) : List Form → List String
  | [] => []
  | f :: fs => f.write d false :: writeAll d fs

end

def inWord (c : Char) : Bool :=
  c ∉ [' ', '(', ')', ',']

def after (text cs : List Char) : Option (List Char) :=
  cs.dropPrefix? text

/-- The characters up to a closing quote that is not written twice. -/
def readQuoted (close : Char) : List Char → Option (List Char × List Char)
  | [] => none
  | [c] => if c = close then some ([], []) else none
  | c :: c' :: cs =>
    if c = close then
      if c' = close then (readQuoted close cs).map fun (s, rest) => (c :: s, rest)
      else some ([], c' :: cs)
    else (readQuoted close (c' :: cs)).map fun (s, rest) => (c :: s, rest)

def readType : Nat → List Char → Option (List Char × List Char)
  | _, [] => none
  | depth, c :: cs =>
    if c = '(' then (readType (depth + 1) cs).map fun (s, rest) => (c :: s, rest)
    else if c = ')' then
      match depth with
      | 0 => some ([], cs)
      | depth + 1 => (readType depth cs).map fun (s, rest) => (c :: s, rest)
    else (readType depth cs).map fun (s, rest) => (c :: s, rest)

/-- What an operand turns out to be the first part of. -/
inductive Continuation where
  | whole
  | nullTest (test : String)
  | inSet
  | binary (op : BinaryOp)

def operators : List BinaryOp :=
  [.add, .sub, .mul, .div, .mod, .eq, .ne, .lt, .le, .gt, .ge, .and, .or, .like, .ilike]

def infixText (op : BinaryOp) : List Char :=
  ' ' :: (operatorText op).toList ++ [' ']

def continuations : List (List Char × Continuation) :=
  [(" IS NULL".toList, .nullTest " IS NULL"), (" IS NOT NULL".toList, .nullTest " IS NOT NULL"),
    (" IN (".toList, .inSet)] ++ operators.map fun op => (infixText op, .binary op)

def continuation (cs : List Char) : Continuation × List Char :=
  (continuations.findSome? fun (text, next) => (after text cs).map (next, ·)).getD (.whole, cs)

mutual

def readOperand (d : Dialect) : Nat → List Char → Option (Form × List Char)
  | 0, _ => none
  | fuel + 1, '-' :: cs => (readOperand d fuel cs).map fun (f, cs) => (.minus f, cs)
  | fuel + 1, '(' :: cs => do
    let (f, cs) ← readPhrase d fuel cs
    let cs ← after [')'] cs
    return (f, cs)
  | _ + 1, '\x27' :: cs =>
    (readQuoted '\x27' cs).map fun (s, cs) => (.string (String.ofList s), cs)
  | fuel + 1, cs =>
    if cs.head? = some d.openQuote then
      (readQuoted d.closeQuote cs.tail).map fun (s, cs) => (.name (String.ofList s), cs)
    else if cs.takeWhile inWord = "CAST".toList then do
      let cs ← after "CAST(".toList cs
      let (f, cs) ← readPhrase d fuel cs
      let cs ← after " AS ".toList cs
      let (type, cs) ← readType 0 cs
      return (.cast f (String.ofList type), cs)
    else some (.word (cs.takeWhile inWord), cs.dropWhile inWord)

def readPhrase (d : Dialect) : Nat → List Char → Option (Form × List Char)
  | 0, _ => none
  | fuel + 1, cs =>
    if cs.takeWhile inWord = "NOT".toList then do
      let cs ← after "NOT ".toList cs
      let (f, cs) ← readOperand d fuel cs
      return (.not f, cs)
    else if cs.takeWhile inWord = "LOWER".toList then do
      let cs ← after "LOWER(".toList cs
      let (l, cs) ← readOperand d fuel cs
      let cs ← after ") LIKE LOWER(".toList cs
      let (r, cs) ← readOperand d fuel cs
      let cs ← after [')'] cs
      return (.binary .ilike l r, cs)
    else do
      let (f, cs) ← readOperand d fuel cs
      match continuation cs with
      | (.whole, cs) => some (f, cs)
      | (.nullTest test, cs) => some (.nullTest test f, cs)
      | (.inSet, cs) => (readItems d fuel cs).map fun (set, cs) => (.inSet f set, cs)
      | (.binary op, cs) => (readOperand d fuel cs).map fun (g, cs) => (.binary op f g, cs)

def readItems (d : Dialect) : Nat → List Char → Option (List Form × List Char)
  | 0, _ => none
  | fuel + 1, cs => do
    let (f, cs) ← readPhrase d fuel cs
    match after ", ".toList cs with
    | some cs => do
      let (fs, cs) ← readItems d fuel cs
      return (f :: fs, cs)
    | none => do
      let cs ← after [')'] cs
      return ([f], cs)

end

theorem after_append (text cs : List Char) : after text (text ++ cs) = some cs :=
  List.dropPrefix?_append_of_beq cs (beq_self_eq_true _)

def Follows (rest : List Char) : Prop :=
  ∀ c ∈ rest.head?, c ∈ [' ', ')', ',']

/-- What may come after a text that is no part of a longer one. -/
inductive Stops : List Char → Prop where
  | nil : Stops []
  | close (rest : List Char) : Stops (')' :: rest)
  | comma (rest : List Char) : Stops (',' :: rest)
  | as (rest : List Char) : Stops (" AS ".toList ++ rest)

theorem Stops.follows {rest : List Char} (h : Stops rest) : Follows rest := by
  cases h <;> simp [Follows]

theorem follows_space (rest : List Char) : Follows (' ' :: rest) := by
  simp [Follows]

theorem continuation_whole {rest : List Char} (h : Stops rest) :
    continuation rest = (.whole, rest) := by
  cases h <;> rfl

theorem continuation_binary (op : BinaryOp) (rest : List Char) :
    continuation (infixText op ++ rest) = (.binary op, rest) := by
  cases op <;> cbv

theorem readQuoted_doubled {q : Char} (cs : List Char) {rest : List Char}
    (h : rest.head? ≠ some q) : readQuoted q (doubled q cs ++ q :: rest) = some (cs, rest) := by
  induction cs with
  | nil =>
    cases rest with
    | nil => simp [doubled, readQuoted]
    | cons c rest =>
      have hc : c ≠ q := by simpa using h
      simp [doubled, readQuoted, hc]
  | cons c cs ih =>
    by_cases hc : c = q
    · subst hc
      simp [doubled_quote, readQuoted, ih]
    · obtain ⟨c', rest', he⟩ : ∃ c' rest', doubled q cs ++ q :: rest = c' :: rest' := by
        cases doubled q cs <;> simp
      rw [doubled_other hc, List.cons_append, he, readQuoted, if_neg hc, ← he, ih]
      rfl

/-- Text without parentheses is no reason to stop. -/
theorem readType_mild {cs : List Char} (h : ∀ c ∈ cs, isMild c = true) (depth : Nat)
    (rest : List Char) :
    readType depth (cs ++ rest) = (readType depth rest).map fun (s, rest) => (cs ++ s, rest) := by
  induction cs with
  | nil => simp
  | cons c cs ih =>
    rw [List.forall_mem_cons] at h
    have hc : c ≠ '(' ∧ c ≠ ')' := by
      constructor <;> rintro rfl <;> exact absurd h.1 (by decide)
    simp only [List.cons_append, readType, if_neg hc.1, if_neg hc.2, ih h.2, Option.map_map]
    rfl

def IsType (type : String) : Prop :=
  ∀ rest, readType 0 (type.toList ++ ')' :: rest) = some (type.toList, rest)

structure IsWord (cs : List Char) : Prop where
  inside : ∀ c ∈ cs, inWord c = true
  start : ∃ c ∈ cs.head?, c ∉ ['-', '\x27', '\x22', '\x60']
  free : cs ∉ ["CAST".toList, "NOT".toList, "LOWER".toList]

mutual

def Well : Form → Prop
  | .word cs => IsWord cs
  | .string _ => True
  | .name _ => True
  | .minus f => f.Well
  | .not f => f.Well
  | .binary _ l r => l.Well ∧ r.Well
  | .nullTest test f => test ∈ [" IS NULL", " IS NOT NULL"] ∧ f.Well
  | .inSet f set => f.Well ∧ set ≠ [] ∧ AllWell set
  | .cast f type => f.Well ∧ IsType type

def AllWell : List Form → Prop
  | [] => True
  | f :: fs => f.Well ∧ AllWell fs

end

variable {d : Dialect} {f g : Form}

def Unled (cs : List Char) : Prop :=
  cs.takeWhile inWord ≠ "NOT".toList ∧ cs.takeWhile inWord ≠ "LOWER".toList

theorem unled_of_head {c : Char} (hc : c ∉ ['N', 'L']) (cs : List Char) : Unled (c :: cs) := by
  simp only [List.mem_cons, List.not_mem_nil, or_false, not_or] at hc
  unfold Unled
  rw [List.takeWhile_cons]
  split <;> simp [hc]

theorem takeWhile_word {cs rest : List Char} (h : ∀ c ∈ cs, inWord c = true) (hr : Follows rest) :
    (cs ++ rest).takeWhile inWord = cs ∧ (cs ++ rest).dropWhile inWord = rest := by
  rw [List.takeWhile_append_of_pos h, List.dropWhile_append_of_pos h]
  cases rest with
  | nil => simp
  | cons c rest =>
    have hc : inWord c = false := by
      have hm := hr c rfl
      simp only [List.mem_cons, List.not_mem_nil, or_false] at hm
      rcases hm with rfl | rfl | rfl <;> rfl
    simp [hc]

theorem parenthesised_chars (s : String) (rest : List Char) :
    (parenthesised true s).toList ++ rest = '(' :: (s.toList ++ ([')'] ++ rest)) := by
  simp [parenthesised]

theorem quote_chars (d : Dialect) (s : String) (rest : List Char) :
    (d.quote s).toList ++ rest =
      d.openQuote :: (doubled d.closeQuote s.toList ++ d.closeQuote :: rest) := by
  simp [Dialect.quote, doubled]

theorem string_chars (s : String) (rest : List Char) :
    (stringLiteral s).toList ++ rest =
      '\x27' :: (doubled '\x27' s.toList ++ '\x27' :: rest) := by
  simp [stringLiteral, doubled]

theorem cast_chars (f : Form) (type : String) (rest : List Char) (nested : Bool) :
    ((Form.cast f type).write d nested).toList ++ rest =
      "CAST(".toList ++ ((f.write d false).toList ++ (" AS ".toList ++
        (type.toList ++ ')' :: rest))) := by
  simp [write]

theorem operation_chars {op : BinaryOp} (h : ¬(op = .ilike ∧ ¬ d.supports .ilike)) (a b : String)
    (rest : List Char) :
    (operation d op a b).toList ++ rest =
      a.toList ++ (infixText op ++ (b.toList ++ rest)) := by
  rw [operation, if_neg h]
  simp [infixText]

theorem caseless_chars (h : ¬ d.supports .ilike) (a b : String) (rest : List Char) :
    (operation d .ilike a b).toList ++ rest =
      "LOWER(".toList ++ (a.toList ++ (") LIKE LOWER(".toList ++ (b.toList ++ ([')'] ++ rest)))) := by
  simp [operation, h]

/-- An operand does not begin like a phrase that is led by a keyword. -/
theorem Well.unled (hd : d.Supported) (h : f.Well) {rest : List Char} (hr : Follows rest) :
    Unled ((f.write d true).toList ++ rest) := by
  cases f with
  | word cs =>
    have hfree := IsWord.free h
    simp only [List.mem_cons, List.not_mem_nil, or_false, not_or] at hfree
    rw [write, String.toList_ofList, Unled, (takeWhile_word (IsWord.inside h) hr).1]
    exact ⟨hfree.2.1, hfree.2.2⟩
  | string s =>
    rw [write, string_chars]
    exact unled_of_head (by decide) _
  | name s =>
    rw [write, quote_chars]
    refine unled_of_head ?_ _
    have ho := hd.quotes.2
    intro hm
    simp only [List.mem_cons, List.not_mem_nil, or_false] at ho hm
    rcases ho with ho | ho <;> rw [ho] at hm <;> exact absurd hm (by decide)
  | minus f =>
    rw [write, negated]
    split
    · simpa using unled_of_head (by decide) _
    · simpa using unled_of_head (by decide) _
  | not f | binary op l r | nullTest test f | inSet f set =>
    rw [write, parenthesised_chars]
    exact unled_of_head (by decide) _
  | cast f type =>
    rw [cast_chars]
    exact unled_of_head (by decide) _

/-- A form that is read back from what is written, as an operand and as a whole. -/
structure Recovered (d : Dialect) (f : Form) : Prop where
  operand : ∀ {fuel rest}, 4 * sizeOf f ≤ fuel → Follows rest →
    readOperand d fuel ((f.write d true).toList ++ rest) = some (f, rest)
  phrase : ∀ {fuel rest}, 4 * sizeOf f ≤ fuel → Stops rest →
    readPhrase d fuel ((f.write d false).toList ++ rest) = some (f, rest)

/-- A text that does not begin with a keyword begins with an operand. -/
theorem readPhrase_operand {fuel : Nat} {cs rest : List Char} (hu : Unled cs)
    (ho : readOperand d fuel cs = some (f, rest)) :
    readPhrase d (fuel + 1) cs =
      match continuation rest with
      | (.whole, cs) => some (f, cs)
      | (.nullTest test, cs) => some (.nullTest test f, cs)
      | (.inSet, cs) => (readItems d fuel cs).map fun (set, cs) => (.inSet f set, cs)
      | (.binary op, cs) => (readOperand d fuel cs).map fun (g, cs) => (.binary op f g, cs) := by
  rw [readPhrase, if_neg hu.1, if_neg hu.2, ho]
  rfl

/-- A form has some size, so that much fuel is not used up. -/
theorem fuel_left {fuel : Nat} (h : 4 * sizeOf f ≤ fuel + 1) : ∃ n, fuel = n + 1 := by
  have hpos : 0 < sizeOf f := by cases f <;> simp
  exact Nat.exists_eq_succ_of_ne_zero (by omega)

/-- Forms that are written alike inside and outside of others. -/
theorem Recovered.atomic (hu : ∀ {rest}, Follows rest → Unled ((f.write d true).toList ++ rest))
    (hw : f.write d false = f.write d true)
    (ho : ∀ {fuel rest}, 4 * sizeOf f ≤ fuel + 1 → Follows rest →
      readOperand d fuel ((f.write d true).toList ++ rest) = some (f, rest)) :
    Recovered d f where
  operand := fun hf hr => ho (Nat.le_succ_of_le hf) hr
  phrase := by
    intro fuel rest hf hr
    obtain ⟨fuel, rfl⟩ := fuel_left (Nat.le_succ_of_le hf)
    rw [hw, readPhrase_operand (hu hr.follows) (ho hf hr.follows), continuation_whole hr]

/-- Forms that are put in parentheses inside of others. -/
theorem Recovered.enclosed (hw : f.write d true = parenthesised true (f.write d false))
    (hp : ∀ {fuel rest}, 4 * sizeOf f ≤ fuel + 1 → Stops rest →
      readPhrase d fuel ((f.write d false).toList ++ rest) = some (f, rest)) :
    Recovered d f where
  operand := by
    intro fuel rest hf hr
    obtain ⟨fuel, rfl⟩ := fuel_left (Nat.le_succ_of_le hf)
    have hclosed : Stops ([')'] ++ rest) := .close rest
    rw [hw, parenthesised_chars, readOperand, hp hf hclosed]
    simp only [bind, Option.bind, after_append]
    rfl
  phrase := fun hf hr => hp (Nat.le_succ_of_le hf) hr

/-- An operand that is not known by its first character. -/
theorem readOperand_led {fuel : Nat} {c : Char} {cs : List Char}
    (hc : c ∉ ['-', '(', '\x27']) :
    readOperand d (fuel + 1) (c :: cs) =
      if c = d.openQuote then
        (readQuoted d.closeQuote cs).map fun (s, cs) => (.name (String.ofList s), cs)
      else if (c :: cs).takeWhile inWord = "CAST".toList then do
        let cs ← after "CAST(".toList (c :: cs)
        let (f, cs) ← readPhrase d fuel cs
        let cs ← after " AS ".toList cs
        let (type, cs) ← readType 0 cs
        return (.cast f (String.ofList type), cs)
      else some (.word ((c :: cs).takeWhile inWord), (c :: cs).dropWhile inWord) := by
  simp only [List.mem_cons, List.not_mem_nil, or_false, not_or] at hc
  obtain ⟨h1, h2, h3⟩ := hc
  unfold readOperand
  split
  all_goals simp_all

theorem Recovered.word {cs : List Char} (hd : d.Supported) (h : IsWord cs) :
    Recovered d (.word cs) := by
  refine .atomic (fun hr => Well.unled hd (f := .word cs) h hr) rfl ?_
  intro fuel rest hf hr
  obtain ⟨fuel, rfl⟩ := fuel_left hf
  obtain ⟨c, hc, hstart⟩ := h.start
  obtain ⟨hword, hrest⟩ := takeWhile_word h.inside hr
  have hfree := h.free
  simp only [List.mem_cons, List.not_mem_nil, or_false, not_or] at hstart hfree
  have hparen : c ≠ '(' := by
    rintro rfl
    exact absurd (h.inside _ (List.mem_of_mem_head? hc)) (by decide)
  have hopen : c ≠ d.openQuote := by
    intro ho
    have hq := hd.quotes.2
    rw [← ho] at hq
    simp [hstart] at hq
  obtain ⟨cs, rfl⟩ := List.head?_eq_some_iff.mp hc
  rw [List.cons_append] at hword hrest
  rw [write, String.toList_ofList, List.cons_append, readOperand_led (by simp [hstart, hparen]),
    if_neg hopen, hword, hrest, if_neg hfree.1]

theorem Recovered.string (hd : d.Supported) (s : String) : Recovered d (.string s) := by
  refine .atomic (fun hr => Well.unled hd (f := .string s) trivial hr) rfl ?_
  intro fuel rest hf hr
  obtain ⟨fuel, rfl⟩ := fuel_left hf
  rw [write, string_chars, readOperand, readQuoted_doubled]
  · simp
  · intro h
    have := hr _ h
    simp at this

theorem Recovered.name (hd : d.Supported) (s : String) : Recovered d (.name s) := by
  refine .atomic (fun hr => Well.unled hd (f := .name s) trivial hr) rfl ?_
  intro fuel rest hf hr
  obtain ⟨fuel, rfl⟩ := fuel_left hf
  obtain ⟨hclose, hopen⟩ := hd.quotes
  have hled : d.openQuote ∉ ['-', '(', '\x27'] := by
    intro hm
    simp only [List.mem_cons, List.not_mem_nil, or_false] at hopen hm
    rcases hopen with ho | ho <;> rw [ho] at hm <;> exact absurd hm (by decide)
  rw [write, quote_chars, readOperand_led hled, if_pos rfl, readQuoted_doubled]
  · simp
  · intro h
    have hm := hr _ h
    simp only [List.mem_cons, List.not_mem_nil, or_false] at hopen hm
    rw [hclose] at hm
    rcases hopen with ho | ho <;> rw [ho] at hm <;> exact absurd hm (by decide)

/-- No dialect quotes names with a letter. -/
theorem letter_ne_open (hd : d.Supported) : 'C' ≠ d.openQuote := by
  intro ho
  have hq := hd.quotes.2
  rw [← ho] at hq
  exact absurd hq (by decide)

theorem Recovered.cast (hd : d.Supported) {type : String} (hw : (Form.cast f type).Well)
    (hf : Recovered d f) : Recovered d (.cast f type) := by
  refine .atomic (fun hr => Well.unled hd hw hr) rfl ?_
  intro fuel rest hfuel hr
  obtain ⟨fuel, rfl⟩ := fuel_left hfuel
  have hsize : 4 * sizeOf f ≤ fuel := by
    simp at hfuel
    omega
  have hphrase := hf.phrase hsize (.as (type.toList ++ ')' :: rest))
  have htype : readType 0 (type.toList ++ ')' :: rest) = some (type.toList, rest) := hw.2 rest
  have hword : ∀ cs, ('C' :: ("AST(".toList ++ cs)).takeWhile inWord = "CAST".toList :=
    fun _ => rfl
  have hcast : ∀ cs, after "CAST(".toList ('C' :: ("AST(".toList ++ cs)) = some cs :=
    after_append "CAST(".toList
  rw [cast_chars]
  change readOperand d (fuel + 1) ('C' :: ("AST(".toList ++ _)) = _
  rw [readOperand_led (by decide), if_neg (letter_ne_open hd), if_pos (hword _)]
  simp only [bind, Option.bind, hcast, hphrase, after_append, htype]
  simp [pure]

/-- Only a minus sign begins with a minus sign, and it stands without parentheses. -/
theorem written_alike (hm : (f.write d true).toList.head? = some '-') :
    f.write d false = f.write d true := by
  cases f with
  | word cs | string s | name s | minus f | cast f type => rfl
  | not f | binary op l r | nullTest test f | inSet f set =>
    simp [write, parenthesised] at hm

/-- A minus sign is read before what it stands in front of, in parentheses or not. -/
theorem Recovered.minus (hd : d.Supported) (hw : (Form.minus f).Well) (hf : Recovered d f) :
    Recovered d (.minus f) := by
  refine .atomic (fun hr => Well.unled hd hw hr) rfl ?_
  intro fuel rest hfuel hr
  have hsize : 4 * sizeOf f + 2 ≤ fuel := by
    simp at hfuel
    omega
  obtain ⟨fuel, rfl⟩ : ∃ n, fuel = n + 2 := Nat.exists_eq_add_of_le' (by omega)
  rw [write, negated]
  split
  · rename_i hm
    have hclosed : Stops ([')'] ++ rest) := .close rest
    have hchars : ("-(" ++ f.write d true ++ ")").toList ++ rest =
        '-' :: '(' :: ((f.write d false).toList ++ ([')'] ++ rest)) := by
      simp [written_alike hm]
    rw [hchars, readOperand, readOperand, hf.phrase (by omega) hclosed]
    simp only [bind, Option.bind, after_append]
    rfl
  · have hchars : ("-" ++ f.write d true).toList ++ rest =
        '-' :: ((f.write d true).toList ++ rest) := by
      simp
    rw [hchars, readOperand, hf.operand (by omega) hr]
    rfl

theorem Recovered.not (hf : Recovered d f) : Recovered d (.not f) := by
  refine .enclosed rfl ?_
  intro fuel rest hfuel hr
  obtain ⟨fuel, rfl⟩ := fuel_left hfuel
  have hsize : 4 * sizeOf f ≤ fuel := by
    simp at hfuel
    omega
  have hchars : ((Form.not f).write d false).toList ++ rest =
      "NOT ".toList ++ ((f.write d true).toList ++ rest) := by
    simp [write, parenthesised]
  have hword : ∀ cs, ("NOT ".toList ++ cs).takeWhile inWord = "NOT".toList := fun _ => rfl
  rw [hchars, readPhrase, if_pos (hword _)]
  simp only [bind, Option.bind, after_append, hf.operand hsize hr.follows]
  rfl

theorem Recovered.nullTest {test : String} (hd : d.Supported) (hw : (Form.nullTest test f).Well)
    (hf : Recovered d f) : Recovered d (.nullTest test f) := by
  refine .enclosed rfl ?_
  intro fuel rest hfuel hr
  obtain ⟨fuel, rfl⟩ := fuel_left hfuel
  have hsize : 4 * sizeOf f ≤ fuel := by
    simp at hfuel
    omega
  obtain ⟨htest, hwf⟩ := hw
  have hchars : ((Form.nullTest test f).write d false).toList ++ rest =
      (f.write d true).toList ++ (test.toList ++ rest) := by
    simp [write, parenthesised]
  have hnext : continuation (test.toList ++ rest) = (.nullTest test, rest) ∧
      Follows (test.toList ++ rest) := by
    simp only [List.mem_cons, List.not_mem_nil, or_false] at htest
    rcases htest with rfl | rfl
    · exact ⟨by cbv, follows_space _⟩
    · exact ⟨by cbv, follows_space _⟩
  rw [hchars, readPhrase_operand (hwf.unled hd hnext.2) (hf.operand hsize hnext.2), hnext.1]

theorem Recovered.binary (hd : d.Supported) {op : BinaryOp} (hw : (Form.binary op f g).Well)
    (hf : Recovered d f) (hg : Recovered d g) : Recovered d (.binary op f g) := by
  refine .enclosed rfl ?_
  intro fuel rest hfuel hr
  obtain ⟨fuel, rfl⟩ := fuel_left hfuel
  have hsize : 4 * sizeOf f ≤ fuel ∧ 4 * sizeOf g ≤ fuel := by
    simp at hfuel
    omega
  have hwrite : (Form.binary op f g).write d false =
      operation d op (f.write d true) (g.write d true) := rfl
  by_cases hop : op = .ilike ∧ ¬ d.supports .ilike
  · obtain ⟨rfl, hno⟩ := hop
    have hword : ∀ cs, ("LOWER(".toList ++ cs).takeWhile inWord = "LOWER".toList := fun _ => rfl
    have hnot : "LOWER".toList ≠ "NOT".toList := by decide
    have hlike (cs : List Char) : Follows (") LIKE LOWER(".toList ++ cs) := by simp [Follows]
    have hclose (cs : List Char) : Follows ([')'] ++ cs) := by simp [Follows]
    rw [hwrite, caseless_chars hno, readPhrase, hword, if_neg hnot, if_pos rfl]
    simp only [bind, Option.bind, after_append, hf.operand hsize.1 (hlike _),
      hg.operand hsize.2 (hclose _)]
    rfl
  · have hinfix : Follows (infixText op ++ ((g.write d true).toList ++ rest)) := follows_space _
    rw [hwrite, operation_chars hop,
      readPhrase_operand (hw.1.unled hd hinfix) (hf.operand hsize.1 hinfix), continuation_binary]
    simp only [hg.operand hsize.2 hr.follows]
    rfl

theorem listed_chars (fs : List Form) (f : Form) (rest : List Char) :
    (", ".intercalate (writeAll d (f :: fs))).toList ++ ([')'] ++ rest) =
      (f.write d false).toList ++
        match fs with
        | [] => [')'] ++ rest
        | f :: fs => ", ".toList ++
            ((", ".intercalate (writeAll d (f :: fs))).toList ++ ([')'] ++ rest)) := by
  cases fs with
  | nil => simp [writeAll]
  | cons g fs => simp [writeAll, String.intercalate_cons_cons]

/-- Items are read back up to the closing parenthesis. -/
theorem readItems_write {fs : List Form} (h : ∀ f ∈ fs, Recovered d f) {fuel : Nat}
    (hfuel : 4 * sizeOf fs ≤ fuel) (hne : fs ≠ []) (rest : List Char) :
    readItems d fuel ((", ".intercalate (writeAll d fs)).toList ++ ([')'] ++ rest)) =
      some (fs, rest) := by
  induction fs generalizing fuel with
  | nil => exact absurd rfl hne
  | cons f fs ih =>
    have hsize : 4 * sizeOf f + 4 * sizeOf fs + 4 ≤ fuel := by
      simp at hfuel
      omega
    obtain ⟨fuel, rfl⟩ : ∃ n, fuel = n + 1 := Nat.exists_eq_succ_of_ne_zero (by omega)
    obtain ⟨hf, hfs⟩ := List.forall_mem_cons.mp h
    rw [listed_chars]
    cases fs with
    | nil =>
      have hclosed : Stops ([')'] ++ rest) := .close rest
      have hcomma : after ", ".toList ([')'] ++ rest) = none := rfl
      simp only [readItems, bind, Option.bind, hf.phrase (show _ ≤ fuel by omega) hclosed, hcomma,
        after_append]
      rfl
    | cons g fs =>
      have hcomma (cs : List Char) : Stops (", ".toList ++ cs) := .comma (' ' :: cs)
      simp only [readItems, bind, Option.bind, hf.phrase (show _ ≤ fuel by omega) (hcomma _),
        after_append, ih hfs (show _ ≤ fuel by omega) (List.cons_ne_nil g fs)]
      rfl

theorem Recovered.inSet {set : List Form} (hd : d.Supported) (hw : (Form.inSet f set).Well)
    (hf : Recovered d f) (hset : ∀ g ∈ set, Recovered d g) : Recovered d (.inSet f set) := by
  refine .enclosed rfl ?_
  intro fuel rest hfuel hr
  obtain ⟨fuel, rfl⟩ := fuel_left hfuel
  have hsize : 4 * sizeOf f ≤ fuel ∧ 4 * sizeOf set ≤ fuel := by
    simp at hfuel
    omega
  have hchars : ((Form.inSet f set).write d false).toList ++ rest =
      (f.write d true).toList ++ (" IN (".toList ++
        ((", ".intercalate (writeAll d set)).toList ++ ([')'] ++ rest))) := by
    simp [write, parenthesised]
  have hnext (cs : List Char) : continuation (" IN (".toList ++ cs) = (.inSet, cs) := by cbv
  have hfollows (cs : List Char) : Follows (" IN (".toList ++ cs) := follows_space _
  rw [hchars, readPhrase_operand (hw.1.unled hd (hfollows _)) (hf.operand hsize.1 (hfollows _)),
    hnext]
  simp only [readItems_write hset hsize.2 hw.2.1]
  rfl

mutual

theorem recovered (hd : d.Supported) (f : Form) (h : f.Well) : Recovered d f := by
  match f with
  | .word cs => exact .word hd h
  | .string s => exact .string hd s
  | .name s => exact .name hd s
  | .minus f => exact .minus hd h (recovered hd f h)
  | .not f => exact .not (recovered hd f h)
  | .binary op l r => exact .binary hd h (recovered hd l h.1) (recovered hd r h.2)
  | .nullTest test f => exact .nullTest hd h (recovered hd f h.2)
  | .inSet f set => exact .inSet hd h (recovered hd f h.1) (recovered_all hd set h.2.2)
  | .cast f type => exact .cast hd h (recovered hd f h.1)

theorem recovered_all (hd : d.Supported) (fs : List Form) (h : AllWell fs) :
    ∀ f ∈ fs, Recovered d f := by
  match fs with
  | [] => simp
  | f :: fs =>
    exact List.forall_mem_cons.mpr ⟨recovered hd f h.1, recovered_all hd fs h.2⟩

end

/-- Two forms are not written alike. -/
theorem write_injective (hd : d.Supported) (hf : f.Well) (hg : g.Well)
    (h : f.write d false = g.write d false) : f = g := by
  have hfuel : 4 * sizeOf f ≤ 4 * (sizeOf f + sizeOf g) ∧
      4 * sizeOf g ≤ 4 * (sizeOf f + sizeOf g) := by
    omega
  have hread := (recovered hd f hf).phrase hfuel.1 .nil
  rw [h, (recovered hd g hg).phrase hfuel.2 .nil] at hread
  simpa using hread.symm

end Form
end LayeredSql.Sql
