import LayeredSql.Proofs.Sql.Containment

namespace LayeredSql.Sql

/-- Where reading stands, with the text of the piece that is being read. -/
inductive Cursor where
  | outside
  | inside (kind : Quoted) (read : List Char)
  /-- Right after a backslash in a string. -/
  | taking (read : List Char)
  /-- Right after a closing quote, which may yet turn out to be the first of two. -/
  | closed (kind : Quoted) (read : List Char)

namespace Cursor

def enter (d : Dialect) (c : Char) : List (List Char) × Cursor :=
  if c = '\x27' then ([], .inside .string [c])
  else if c = d.openQuote then ([], .inside .name [c])
  else ([[c]], .outside)

def step (d : Dialect) (c : Char) : Cursor → List (List Char) × Cursor
  | .outside => enter d c
  | .inside kind read =>
    if kind = .string ∧ c = '\\' then ([], .taking (read ++ [c]))
    else if c = kind.closing d then ([], .closed kind (read ++ [c]))
    else ([], .inside kind (read ++ [c]))
  | .taking read => ([], .inside .string (read ++ [c]))
  | .closed kind read =>
    if c = kind.closing d then ([], .inside kind (read ++ [c]))
    else (read :: (enter d c).1, (enter d c).2)

def finish : Cursor → Option (List (List Char))
  | .outside => some []
  | .closed _ read => some [read]
  | _ => none

end Cursor

def cut (d : Dialect) (at_ : Cursor) : List Char → Option (List (List Char))
  | [] => at_.finish
  | c :: cs => (cut d (at_.step d c).2 cs).map ((at_.step d c).1 ++ ·)

/-- The pieces of a text where a backslash in a string takes the next character with it: quoted
names and strings with their quotes, and all other characters one by one. -/
def pieces? (d : Dialect) (text : String) : Option (List (List Char)) :=
  cut d .outside text.toList

/-- Every backslash takes a character with it, and no quote. -/
def backslashesPaired : List Char → Bool
  | [] => true
  | ['\\'] => false
  | '\\' :: c :: cs => c != '\x27' && backslashesPaired cs
  | _ :: cs => backslashesPaired cs

/-- The last equation of `backslashesPaired` is for other characters. -/
theorem not_backslash {c : Char} {cs : List Char} (hlast : c = '\\' → cs = [] → False)
    (hpair : ∀ x xs, c = '\\' → cs = x :: xs → False) : c ≠ '\\' := by
  intro hc
  cases cs with
  | nil => exact hlast hc rfl
  | cons x xs => exact hpair x xs hc rfl

namespace Cursor

def read : Cursor → List Char
  | .outside => []
  | .inside _ read => read
  | .taking read => read
  | .closed _ read => read

end Cursor

variable {d : Dialect}

theorem cut_cons (d : Dialect) (cursor : Cursor) (c : Char) (cs : List Char) :
    cut d cursor (c :: cs) =
      (cut d (cursor.step d c).2 cs).map ((cursor.step d c).1 ++ ·) := rfl

theorem cut_taking (read : List Char) (c : Char) (cs : List Char) :
    cut d (.taking read) (c :: cs) = cut d (.inside .string (read ++ [c])) cs := by
  simp [cut_cons, Cursor.step]

theorem cut_backslash (read cs : List Char) :
    cut d (.inside .string read) ('\\' :: cs) = cut d (.taking (read ++ ['\\'])) cs := by
  simp [cut_cons, Cursor.step]

/-- The closing quote of a string, or the first of two. -/
theorem cut_quote (read cs : List Char) :
    cut d (.inside .string read) ('\x27' :: cs) =
      cut d (.closed .string (read ++ ['\x27'])) cs := by
  simp [cut_cons, Cursor.step, Quoted.closing]

/-- The second of two quotes in a string. -/
theorem cut_second_quote (read cs : List Char) :
    cut d (.closed .string read) ('\x27' :: cs) =
      cut d (.inside .string (read ++ ['\x27'])) cs := by
  simp [cut_cons, Cursor.step, Quoted.closing]

theorem cut_character {c : Char} (hq : c ≠ '\x27') (hb : c ≠ '\\') (read cs : List Char) :
    cut d (.inside .string read) (c :: cs) = cut d (.inside .string (read ++ [c])) cs := by
  simp [cut_cons, Cursor.step, Quoted.closing, hq, hb]

/-- A piece ends where its closing quote is not written twice. -/
theorem cut_closed {kind : Quoted} {read rest : List Char}
    (h : rest.head? ≠ some (kind.closing d)) :
    cut d (.closed kind read) rest = (cut d .outside rest).map (read :: ·) := by
  cases rest with
  | nil => rfl
  | cons c cs =>
    have hc : c ≠ kind.closing d := by simpa using h
    simp only [cut_cons, Cursor.step, if_neg hc, Option.map_map]
    rfl

/-- Inside a piece every character is read into it, wherever that leads. -/
theorem cut_inside (kind : Quoted) (read : List Char) (c : Char) (cs : List Char) :
    ∃ next : Cursor, next.read = read ++ [c] ∧
      cut d (.inside kind read) (c :: cs) = cut d next cs := by
  simp only [cut_cons, Cursor.step]
  split
  · exact ⟨.taking (read ++ [c]), rfl, by simp⟩
  · split
    · exact ⟨.closed kind (read ++ [c]), rfl, by simp⟩
    · exact ⟨.inside kind (read ++ [c]), rfl, by simp⟩

/-- Pieces only grow while they are read. -/
theorem cut_read_le {cursor : Cursor} {cs piece : List Char} {pieces : List (List Char)}
    (h : cut d cursor cs = some (piece :: pieces)) : cursor.read.length ≤ piece.length := by
  induction cs generalizing cursor pieces with
  | nil =>
    cases cursor with
    | closed kind read =>
      obtain ⟨rfl, -⟩ := List.cons.inj (Option.some.inj h)
      exact Nat.le_refl _
    | _ => cases h
  | cons c cs ih =>
    have hgrows : ∀ {next : Cursor}, cut d next cs = some (piece :: pieces) →
        next.read = cursor.read ++ [c] → cursor.read.length ≤ piece.length := by
      intro next hn hr
      have hle := ih hn
      rw [hr, List.length_append] at hle
      exact Nat.le_of_add_right_le hle
    cases cursor with
    | outside => exact Nat.zero_le _
    | taking read =>
      rw [cut_taking] at h
      exact hgrows h rfl
    | inside kind read =>
      obtain ⟨next, hr, he⟩ := cut_inside kind read c cs (d := d)
      rw [he] at h
      exact hgrows h hr
    | closed kind read =>
      simp only [cut_cons, Cursor.step] at h
      split at h
      · exact hgrows (by simpa using h) rfl
      · obtain ⟨_, -, he⟩ := Option.map_eq_some_iff.mp h
        obtain ⟨rfl, -⟩ := List.cons.inj he
        exact Nat.le_refl _

/-- An open piece has at least one more character. -/
theorem cut_inside_lt {kind : Quoted} {read cs piece : List Char} {pieces : List (List Char)}
    (h : cut d (.inside kind read) cs = some (piece :: pieces)) : read.length < piece.length := by
  cases cs with
  | nil => cases h
  | cons c cs =>
    obtain ⟨next, hr, he⟩ := cut_inside kind read c cs (d := d)
    rw [he] at h
    have hle := cut_read_le h
    rw [hr, List.length_append, List.length_singleton] at hle
    exact hle

/-- A name ends at its closing quote, backslashes or not. -/
theorem cut_name (cs read rest : List Char) :
    cut d (.inside .name read) (doubled d.closeQuote cs ++ d.closeQuote :: rest) =
      cut d (.closed .name (read ++ doubled d.closeQuote cs ++ [d.closeQuote])) rest := by
  induction cs generalizing read with
  | nil => simp [doubled, cut_cons, Cursor.step, Quoted.closing]
  | cons c cs ih =>
    by_cases hc : c = d.closeQuote
    · simp [hc, doubled_quote, cut_cons, Cursor.step, Quoted.closing, ih]
    · simp [hc, doubled_other hc, cut_cons, Cursor.step, Quoted.closing, ih]

/-- A string ends at its closing quote if no backslash takes a quote. -/
theorem cut_string {cs : List Char} (h : backslashesPaired cs = true) (read rest : List Char) :
    cut d (.inside .string read) (doubled '\x27' cs ++ '\x27' :: rest) =
      cut d (.closed .string (read ++ doubled '\x27' cs ++ ['\x27'])) rest := by
  fun_induction backslashesPaired cs generalizing read with
  | case1 => simp [doubled, cut_quote]
  | case2 => cases h
  | case3 c cs ih =>
    simp only [Bool.and_eq_true, bne_iff_ne] at h
    simp [doubled_other, h.1, cut_backslash, cut_taking, ih h.2]
  | case4 c cs hb hbc ih =>
    have hslash := not_backslash hb hbc
    by_cases hc : c = '\x27'
    · simp [hc, doubled_quote, cut_quote, cut_second_quote, ih h]
    · simp [doubled_other hc, cut_character hc hslash, ih h]

/-- Once a quote inside has been taken for the closing one, the piece does not end at the
closing quote. -/
theorem cut_astray {cs read rest piece : List Char} {pieces : List (List Char)}
    (h : cut d (.closed .string read) (doubled '\x27' cs ++ '\x27' :: rest) =
      some (piece :: pieces)) :
    piece.length ≠ read.length + (doubled '\x27' cs).length + 1 := by
  induction cs generalizing read with
  | nil =>
    have hgrows := cut_inside_lt ((cut_second_quote read rest).symm.trans h)
    simp [doubled] at hgrows ⊢
    omega
  | cons c cs ih =>
    by_cases hc : c = '\x27'
    · simp only [hc, doubled_quote, List.cons_append, cut_quote, cut_second_quote] at h
      have hrest := ih h
      simp [hc, doubled_quote] at hrest ⊢
      omega
    · rw [doubled_other hc, List.cons_append, cut_closed (by simpa [Quoted.closing])] at h
      obtain ⟨_, -, he⟩ := Option.map_eq_some_iff.mp h
      obtain ⟨rfl, -⟩ := List.cons.inj he
      omega

/-- A backslash that takes a quote keeps the string from ending at its closing quote. -/
theorem cut_unpaired {cs read rest piece : List Char} {pieces : List (List Char)}
    (hp : backslashesPaired cs = false)
    (h : cut d (.inside .string read) (doubled '\x27' cs ++ '\x27' :: rest) =
      some (piece :: pieces)) :
    piece.length ≠ read.length + (doubled '\x27' cs).length + 1 := by
  have hslash (cs : List Char) : doubled '\x27' ('\\' :: cs) = '\\' :: doubled '\x27' cs := rfl
  fun_induction backslashesPaired cs generalizing read with
  | case1 => cases hp
  | case2 =>
    have hgrows := cut_inside_lt (by simpa [doubled, cut_backslash, cut_taking] using h)
    simp [doubled] at hgrows ⊢
    omega
  | case3 c cs ih =>
    rw [hslash, List.cons_append, cut_backslash] at h
    by_cases hc : c = '\x27'
    · simp only [hc, doubled_quote, List.cons_append, cut_taking, cut_quote] at h
      have hastray := cut_astray h
      simp [hslash, hc, doubled_quote] at hastray ⊢
      omega
    · simp only [doubled_other hc, List.cons_append, cut_taking] at h
      have hrest := ih (by simpa [hc] using hp) h
      simp [hslash, doubled_other hc] at hrest ⊢
      omega
  | case4 c cs hb hbc ih =>
    by_cases hc : c = '\x27'
    · simp only [hc, doubled_quote, List.cons_append, cut_quote, cut_second_quote] at h
      have hrest := ih hp h
      simp [hc, doubled_quote] at hrest ⊢
      omega
    · simp only [doubled_other hc, List.cons_append,
        cut_character hc (not_backslash hb hbc)] at h
      have hrest := ih hp h
      simp [doubled_other hc] at hrest ⊢
      omega

theorem cut_name_token (ho : d.openQuote ≠ '\x27') {s : String} {rest : List Char}
    (h : rest.head? ≠ some (Quoted.name.closing d)) :
    cut d .outside ((Token.name s).chars d ++ rest) =
      (cut d .outside rest).map ((Token.name s).chars d :: ·) := by
  have hopen (cs : List Char) : cut d .outside (d.openQuote :: cs) =
      cut d (.inside .name [d.openQuote]) cs := by
    simp [cut_cons, Cursor.step, Cursor.enter, ho]
  change cut d .outside (d.openQuote :: doubled d.closeQuote s.toList ++ [d.closeQuote] ++ rest) = _
  rw [List.append_assoc, List.cons_append, hopen, List.singleton_append, cut_name, cut_closed h]
  rfl

theorem cut_string_opening (s : String) (rest : List Char) :
    cut d .outside ((Token.string s).chars d ++ rest) =
      cut d (.inside .string ['\x27']) (doubled '\x27' s.toList ++ '\x27' :: rest) := by
  simp [Token.chars, cut_cons, Cursor.step, Cursor.enter]

theorem cut_string_token {s : String} (hp : backslashesPaired s.toList = true) {rest : List Char}
    (h : rest.head? ≠ some (Quoted.string.closing d)) :
    cut d .outside ((Token.string s).chars d ++ rest) =
      (cut d .outside rest).map ((Token.string s).chars d :: ·) := by
  rw [cut_string_opening, cut_string hp, cut_closed h]
  rfl

theorem cut_string_token_ne {s : String} (hp : backslashesPaired s.toList = false)
    (rest : List Char) (pieces : List (List Char)) :
    cut d .outside ((Token.string s).chars d ++ rest) ≠
      some ((Token.string s).chars d :: pieces) := by
  rw [cut_string_opening]
  intro h
  have hlength := cut_unpaired hp h
  simp [Token.chars] at hlength
  omega

/-- The pieces of a text are the tokens it is written from, each as it is written, exactly when
no backslash in a string takes a quote. -/
theorem cut_spelled_iff (ho : d.openQuote ≠ '\x27') {ts : List Token} (h : Proper d ts) :
    cut d .outside (spelled d ts) = some (ts.map (Token.chars d)) ↔
      ∀ s, .string s ∈ ts → backslashesPaired s.toList = true := by
  induction ts with
  | nil => simp [spelled, cut, Cursor.finish]
  | cons t ts ih =>
    have hrest := ih h.tail
    have hafter := head_after_quoted h
    have hcons (piece : List Char) : (cut d .outside (spelled d ts)).map (piece :: ·) =
        some (piece :: ts.map (Token.chars d)) ↔
          ∀ s, .string s ∈ ts → backslashesPaired s.toList = true := by
      rw [← hrest]
      cases cut d .outside (spelled d ts) <;> simp
    change cut d .outside (t.chars d ++ spelled d ts) = some (t.chars d :: _) ↔ _
    cases t with
    | plain c =>
      obtain ⟨h1, h2, _⟩ := h.plain c (by simp)
      have hstep : cut d .outside ([c] ++ spelled d ts) =
          (cut d .outside (spelled d ts)).map ([c] :: ·) := by
        simp [cut_cons, Cursor.step, Cursor.enter, h1, h2]
      change cut d .outside ([c] ++ spelled d ts) = some ([c] :: _) ↔ _
      rw [hstep, hcons]
      simp
    | name s =>
      rw [cut_name_token ho (hafter rfl .name), hcons]
      simp
    | string s =>
      by_cases hp : backslashesPaired s.toList = true
      · rw [cut_string_token hp (hafter rfl .string), hcons]
        simp [hp]
      · refine iff_of_false (cut_string_token_ne (by simpa using hp) _ _) ?_
        intro hall
        exact hp (hall s List.mem_cons_self)

namespace Scope

/-- Where backslashes count, the text of an expression still falls into the tokens it is written
from exactly when no string among them has a backslash that takes a quote. Its strings are those
of the expression and of its scope. -/
theorem rendered_pieces_iff {s : Scope} (hd : s.dialect.Supported) {e : Expr} {text : String}
    (h : s.render e = .ok text) :
    ∃ ts, tokens? s.dialect text = some ts ∧
      (∀ t, .string t ∈ ts → t ∈ s.stringsAround e) ∧
      (pieces? s.dialect text = some (ts.map (Token.chars s.dialect)) ↔
        ∀ t, .string t ∈ ts → backslashesPaired t.toList = true) := by
  obtain ⟨ts, hp, he⟩ := render_around hd h
  refine ⟨ts, ?_, hp.strings_hold, ?_⟩
  · rw [tokens?, he]
    exact hp.scan_spelled hd
  · rw [pieces?, he]
    exact cut_spelled_iff hd.quote_ne_string (hp.proper hd)

def backslashed : Scope where
  dialect := .mysql
  vars := []
  clause := .condition
  groups := []
  order := []

/-- Two backslashes make a pair, whatever comes after them. -/
theorem paired_backslashes_kept :
    ∃ text ts, backslashed.render (.binary .eq (.literal (.string "a\\\\"))
        (.literal (.string "it's\\n"))) = .ok text ∧ tokens? .mysql text = some ts ∧
      pieces? .mysql text = some (ts.map (Token.chars .mysql)) := by
  have hb : (backslashed.render (.binary .eq (.literal (.string "a\\\\"))
      (.literal (.string "it's\\n")))).isOk = true := by
    decide +kernel
  obtain ⟨text, h⟩ := exists_ok hb
  obtain ⟨ts, ht, hs, hpieces⟩ := rendered_pieces_iff (s := backslashed) .mysql h
  refine ⟨text, ts, h, ht, hpieces.mpr fun t hm => ?_⟩
  have hpaired : ∀ t ∈ backslashed.stringsAround (.binary .eq (.literal (.string "a\\\\"))
      (.literal (.string "it's\\n"))), backslashesPaired t.toList = true := by
    decide +kernel
  exact hpaired t (hs t hm)

/-- A backslash in front of a quote takes it, and the quote after it ends the string: what the
expression has inside its string is then read as SQL. -/
theorem backslash_ends_string_early :
    backslashed.render (.literal (.string "\\' OR 1=1 -- ")) = .ok "'\\'' OR 1=1 -- '" ∧
      tokens? .mysql "'\\'' OR 1=1 -- '" = some [.string "\\' OR 1=1 -- "] ∧
      pieces? .mysql "'\\'' OR 1=1 -- '" = none ∧
      (pieces? .mysql "'\\'' OR 1=1 -- ").map (·.head?) = some (some "'\\''".toList) := by
  refine ⟨rfl, ?_⟩
  decide +kernel

end Scope
end LayeredSql.Sql
