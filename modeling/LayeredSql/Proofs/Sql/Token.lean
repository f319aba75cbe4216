import LayeredSql.Sql.Clauses
import Mathlib.Data.List.Chain

namespace LayeredSql.Sql

inductive Token where
  | plain (c : Char)
  | string (s : String)
  | name (s : String)
deriving DecidableEq

def Token.isQuoted : Token → Bool
  | .plain _ => false
  | _ => true

inductive Quoted where
  | string
  | name
deriving DecidableEq

namespace Quoted

def opening (d : Dialect) : Quoted → Char
  | .string => '\x27'
  | .name => d.openQuote

def closing (d : Dialect) : Quoted → Char
  | .string => '\x27'
  | .name => d.closeQuote

def token (cs : List Char) : Quoted → Token
  | .string => .string (String.ofList cs)
  | .name => .name (String.ofList cs)

end Quoted

/-- Where reading stands. A closing quote may yet turn out to be the first of two. -/
inductive Place where
  | outside
  | inside (kind : Quoted) (read : List Char)
  | closed (kind : Quoted) (read : List Char)

namespace Place

def enter (d : Dialect) (c : Char) : List Token × Place :=
  if c = '\x27' then ([], .inside .string [])
  else if c = d.openQuote then ([], .inside .name [])
  else ([.plain c], .outside)

def step (d : Dialect) (c : Char) : Place → List Token × Place
  | .outside => enter d c
  | .inside kind read =>
    if c = kind.closing d then ([], .closed kind read) else ([], .inside kind (read ++ [c]))
  | .closed kind read =>
    if c = kind.closing d then ([], .inside kind (read ++ [c]))
    else (kind.token read :: (enter d c).1, (enter d c).2)

def finish : Place → Option (List Token)
  | .outside => some []
  | .inside _ _ => none
  | .closed kind read => some [kind.token read]

end Place

def scan (d : Dialect) (place : Place) : List Char → Option (List Token)
  | [] => place.finish
  | c :: cs => (scan d (place.step d c).2 cs).map ((place.step d c).1 ++ ·)

def tokens? (d : Dialect) (text : String) : Option (List Token) :=
  scan d .outside text.toList

def names (ts : List Token) : List String :=
  ts.filterMap fun
    | .name s => some s
    | _ => none

/-- The text can be read, and every name it quotes is one of `vars`. Strings are skipped. -/
def NamesWithin (d : Dialect) (vars : List String) (text : String) : Prop :=
  ∃ ts, tokens? d text = some ts ∧ ∀ name ∈ names ts, name ∈ vars

/-- The name a text quotes, when it is the quoting of one name and no more. -/
def quotedName? (d : Dialect) (text : String) : Option String :=
  match tokens? d text with
  | some [.name s] => some s
  | _ => none

def doubled (q : Char) (cs : List Char) : List Char :=
  cs.flatMap fun c => if c = q then [c, c] else [c]

theorem doubled_quote (q : Char) (cs : List Char) : doubled q (q :: cs) = q :: q :: doubled q cs := by
  simp [doubled]

theorem doubled_other {q c : Char} (h : c ≠ q) (cs : List Char) :
    doubled q (c :: cs) = c :: doubled q cs := by
  simp [doubled, h]

namespace Token

def chars (d : Dialect) : Token → List Char
  | .plain c => [c]
  | .string s => '\x27' :: doubled '\x27' s.toList ++ ['\x27']
  | .name s => d.openQuote :: doubled d.closeQuote s.toList ++ [d.closeQuote]

end Token

def spelled (d : Dialect) (ts : List Token) : List Char :=
  ts.flatMap (Token.chars d)

theorem spelled_append (d : Dialect) (ts us : List Token) :
    spelled d (ts ++ us) = spelled d ts ++ spelled d us :=
  List.flatMap_append

theorem spelled_plain (d : Dialect) (cs : List Char) :
    spelled d (cs.map .plain) = cs := by
  induction cs with
  | nil => rfl
  | cons c cs ih =>
    change [c] ++ spelled d (cs.map .plain) = c :: cs
    rw [ih]
    rfl

/-- A token list that its spelling determines: no plain character is a quote, and no two quoted
tokens touch. -/
structure Proper (d : Dialect) (ts : List Token) : Prop where
  plain : ∀ c, .plain c ∈ ts → c ≠ '\x27' ∧ c ≠ d.openQuote ∧ c ≠ d.closeQuote
  apart : ts.IsChain fun a b => ¬(a.isQuoted ∧ b.isQuoted)

theorem Proper.tail {d : Dialect} {t : Token} {ts : List Token} (h : Proper d (t :: ts)) :
    Proper d ts :=
  ⟨fun c hc => h.plain c (List.mem_cons_of_mem _ hc), h.apart.tail⟩

theorem scan_cons (d : Dialect) (place : Place) (c : Char) (cs : List Char) :
    scan d place (c :: cs) =
      (scan d (place.step d c).2 cs).map ((place.step d c).1 ++ ·) := rfl

/-- Quotes written twice are read as one, up to the closing quote. -/
theorem scan_doubled (d : Dialect) (kind : Quoted) (read cs rest : List Char) :
    scan d (.inside kind read) (doubled (kind.closing d) cs ++ kind.closing d :: rest) =
      scan d (.closed kind (read ++ cs)) rest := by
  induction cs generalizing read with
  | nil => simp [doubled, scan_cons, Place.step]
  | cons c cs ih =>
    have hd : doubled (kind.closing d) (c :: cs) =
        (if c = kind.closing d then [c, c] else [c]) ++ doubled (kind.closing d) cs := rfl
    rw [hd, List.append_cons read c cs, ← ih (read ++ [c])]
    by_cases hc : c = kind.closing d
    · simp [hc, scan_cons, Place.step]
    · simp [hc, scan_cons, Place.step]

/-- A quoted token ends where its closing quote is not written twice. -/
theorem scan_closed {d : Dialect} {kind : Quoted} {read rest : List Char}
    (h : rest.head? ≠ some (kind.closing d)) :
    scan d (.closed kind read) rest = (scan d .outside rest).map (kind.token read :: ·) := by
  cases rest with
  | nil => rfl
  | cons c cs =>
    have hc : c ≠ kind.closing d := by simpa using h
    simp only [scan_cons, Place.step, if_neg hc, Option.map_map]
    rfl

theorem scan_opening {d : Dialect} (ho : d.openQuote ≠ '\x27') (kind : Quoted) (cs : List Char) :
    scan d .outside (kind.opening d :: cs) = scan d (.inside kind []) cs := by
  cases kind with
  | string => simp [scan_cons, Place.step, Place.enter, Quoted.opening]
  | name => simp [scan_cons, Place.step, Place.enter, Quoted.opening, ho]

/-- The character after a quoted token cannot be taken for a second closing quote. -/
theorem head_after_quoted {d : Dialect} {t : Token} {ts : List Token} (h : Proper d (t :: ts))
    (ht : t.isQuoted = true) (kind : Quoted) :
    (spelled d ts).head? ≠ some (kind.closing d) := by
  cases ts with
  | nil => simp [spelled]
  | cons u us =>
    have hu : u.isQuoted = false := by
      have := h.apart.rel
      simpa [ht] using this
    cases u with
    | string s => cases hu
    | name s => cases hu
    | plain c =>
      obtain ⟨h1, _, h3⟩ := h.plain c (by simp)
      cases kind with
      | string => simpa [spelled, Token.chars, Quoted.closing] using h1
      | name => simpa [spelled, Token.chars, Quoted.closing] using h3

theorem scan_quoted {d : Dialect} (ho : d.openQuote ≠ '\x27') {t : Token} {ts : List Token}
    (h : Proper d (t :: ts)) (kind : Quoted) (cs : List Char) (ht : t = kind.token cs)
    (hc : t.chars d = kind.opening d :: doubled (kind.closing d) cs ++ [kind.closing d]) :
    scan d .outside (spelled d (t :: ts)) = (scan d .outside (spelled d ts)).map (t :: ·) := by
  have hq : t.isQuoted = true := by
    subst ht
    cases kind <;> rfl
  have he : spelled d (t :: ts) = kind.opening d ::
      (doubled (kind.closing d) cs ++ kind.closing d :: spelled d ts) := by
    change t.chars d ++ spelled d ts = _
    rw [hc]
    simp
  rw [he, scan_opening ho, scan_doubled, List.nil_append,
    scan_closed (head_after_quoted h hq kind), ht]

/-- Reading undoes writing. -/
theorem scan_spelled {d : Dialect} (ho : d.openQuote ≠ '\x27') {ts : List Token}
    (h : Proper d ts) : scan d .outside (spelled d ts) = some ts := by
  induction ts with
  | nil => rfl
  | cons t ts ih =>
    have hrest := ih h.tail
    cases t with
    | plain c =>
      obtain ⟨h1, h2, _⟩ := h.plain c (by simp)
      change scan d .outside (c :: spelled d ts) = _
      simp [scan_cons, Place.step, Place.enter, h1, h2, hrest]
    | string s =>
      rw [scan_quoted ho h .string s.toList (by simp [Quoted.token]) rfl, hrest]
      rfl
    | name s =>
      rw [scan_quoted ho h .name s.toList (by simp [Quoted.token]) rfl, hrest]
      rfl

end LayeredSql.Sql
