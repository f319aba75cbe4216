import LayeredSql.Command.Arguments
import LayeredSql.Proofs.Outcome
import Mathlib.Data.List.Basic

namespace LayeredSql.Arguments

/-- A word that neither asks for help nor starts a flag. -/
def IsPath (word : String) : Prop :=
  word ≠ "-h" ∧ ¬ ['-', '-'] <+: word.toList

instance (word : String) : Decidable (IsPath word) :=
  inferInstanceAs (Decidable (_ ∧ _))

inductive Item where
  | config (file : String)
  | dialect (name : String)
  | explain
  | path (word : String) (h : IsPath word)
deriving DecidableEq

namespace Item

def words : Item → List String
  | .config file => ["--config", file]
  | .dialect name => ["--dialect", name]
  | .explain => ["--explain"]
  | .path word _ => [word]

def config? : Item → Option String
  | .config file => some file
  | _ => none

def dialect? : Item → Option String
  | .dialect name => some name
  | _ => none

def path? : Item → Option String
  | .path word _ => some word
  | _ => none

end Item

def written (items : List Item) : List String :=
  items.flatMap Item.words

/-- The arguments that items stand for: the one path among them, and of the values of an option the
last. -/
structure Means (items : List Item) (a : Arguments) : Prop where
  pipeline : items.filterMap Item.path? = [a.pipeline]
  config : a.config = (items.filterMap Item.config?).getLast?
  dialect : a.dialect = (items.filterMap Item.dialect?).getLast?
  explain : a.explain = true ↔ .explain ∈ items

/-- The same items in another order, in which the values of an option keep theirs. -/
structure Reordered (items items' : List Item) : Prop where
  perm : items.Perm items'
  config : items.filterMap Item.config? = items'.filterMap Item.config?
  dialect : items.filterMap Item.dialect? = items'.filterMap Item.dialect?

variable {draft : Draft} {items items' : List Item} {args : List String} {a : Arguments}

theorem is_flag_iff {word : String} : isFlag word = true ↔ ['-', '-'] <+: word.toList := by
  unfold isFlag
  split
  · rename_i rest he
    simp [he]
  · rename_i hne
    simp only [Bool.false_eq_true, false_iff]
    rintro ⟨rest, he⟩
    exact hne rest he.symm

theorem IsPath.no_option {word : String} (h : IsPath word) :
    word ≠ "--config" ∧ word ≠ "--dialect" ∧ word ≠ "--explain" ∧ word ≠ "--help" := by
  refine ⟨?_, ?_, ?_, ?_⟩
  all_goals
    rintro rfl
    exact absurd h (by decide)

def Draft.add (draft : Draft) : Item → Except UsageError Draft
  | .config file => .ok { draft with config := some file }
  | .dialect name => .ok { draft with dialect := some name }
  | .explain => .ok { draft with explain := true }
  | .path word _ =>
    if draft.pipeline.isSome then .error .secondPipeline
    else .ok { draft with pipeline := some word }

/-- Words that begin with an item are read as the item and then the rest. -/
theorem read_item (draft : Draft) (item : Item) (rest : List String) :
    readFrom draft (item.words ++ rest) = draft.add item >>= (readFrom · rest) := by
  cases item with
  | config file => rfl
  | dialect name => rfl
  | explain =>
    change readFrom draft ("--explain" :: rest) = _
    rw [readFrom.eq_def]
    rfl
  | path word h =>
    obtain ⟨hconfig, hdialect, hexplain, hhelp⟩ := h.no_option
    have hflag : isFlag word = false := by
      rw [← Bool.not_eq_true, is_flag_iff]
      exact h.2
    change readFrom draft (word :: rest) = _
    rw [readFrom.eq_def]
    simp only [hconfig, hdialect, hexplain, h.1, hhelp, or_self, hflag, if_false,
      Bool.false_eq_true, Draft.add]
    split <;> rfl

/-- What a draft and the items after it come to. -/
def Draft.told (draft : Draft) (items : List Item) : Except UsageError Arguments :=
  match draft.pipeline.toList ++ items.filterMap Item.path? with
  | [] => .error .usage
  | [path] => .ok {
      pipeline := path
      config := (items.filterMap Item.config?).getLast?.or draft.config
      dialect := (items.filterMap Item.dialect?).getLast?.or draft.dialect
      explain := draft.explain || decide (.explain ∈ items) }
  | _ :: _ :: _ => .error .secondPipeline

/-- A value goes before what is there, and a later one before it. -/
theorem last_or (value : String) (values : List String) (before : Option String) :
    (value :: values).getLast?.or before = values.getLast?.or (some value) := by
  rw [List.getLast?_cons]
  cases values.getLast? <;> rfl

theorem told_cons (draft : Draft) (item : Item) (items : List Item) :
    draft.told (item :: items) = draft.add item >>= (·.told items) := by
  cases item with
  | config _ | dialect _ | explain =>
    change _ = Draft.told _ items
    simp only [Draft.told, List.filterMap_cons, Item.path?, Item.config?, Item.dialect?, last_or,
      List.mem_cons, reduceCtorEq, false_or, true_or, decide_true, Bool.or_true, Bool.true_or]
  | path word h =>
    simp only [Draft.told, Draft.add, List.filterMap_cons, Item.path?, Item.config?, Item.dialect?,
      List.mem_cons, reduceCtorEq, false_or]
    cases draft.pipeline with
    | none => rfl
    | some first => rfl

theorem read_written (draft : Draft) (items : List Item) :
    readFrom draft (written items) = draft.told items := by
  induction items generalizing draft with
  | nil =>
    unfold Draft.told
    cases hp : draft.pipeline with
    | none => simp [written, readFrom, hp]
    | some path => simp [written, readFrom, hp]
  | cons item items ih =>
    change readFrom draft (item.words ++ written items) = _
    rw [read_item, told_cons]
    exact congrArg _ (funext ih)

/-- Nothing but items is ever accepted. -/
theorem written_of_read (h : readFrom draft args = .ok a) : ∃ items, written items = args := by
  fun_induction readFrom draft args with
  | case1 => exact ⟨[], rfl⟩
  | case2 | case3 | case5 | case8 | case9 | case10 => cases h
  | case4 draft file args ih =>
    obtain ⟨items, rfl⟩ := ih h
    exact ⟨.config file :: items, rfl⟩
  | case6 draft name args _ ih =>
    obtain ⟨items, rfl⟩ := ih h
    exact ⟨.dialect name :: items, rfl⟩
  | case7 draft args _ _ ih =>
    obtain ⟨items, rfl⟩ := ih h
    exact ⟨.explain :: items, rfl⟩
  | case11 draft word args _ _ _ hhelp hflag _ ih =>
    obtain ⟨items, rfl⟩ := ih h
    have hpath : IsPath word :=
      ⟨fun he => hhelp (.inl he), fun hp => hflag (is_flag_iff.mpr hp)⟩
    exact ⟨.path word hpath :: items, rfl⟩

/-- The first word tells what item it is. -/
theorem words_injective {item item' : Item} {rest rest' : List String}
    (h : item.words ++ rest = item'.words ++ rest') : item = item' ∧ rest = rest' := by
  cases item <;> cases item'
  all_goals
    simp only [Item.words, List.cons_append, List.nil_append, List.cons.injEq] at h
    grind [IsPath.no_option]

theorem written_injective : Function.Injective written := by
  intro items items' h
  induction items generalizing items' with
  | nil =>
    cases items' with
    | nil => rfl
    | cons item items' => cases item <;> cases h
  | cons item items ih =>
    cases items' with
    | nil => cases item <;> cases h
    | cons item' items' =>
      obtain ⟨rfl, hrest⟩ := words_injective h
      rw [ih hrest]

theorem told_ok : Draft.told {} items = .ok a ↔ Means items a := by
  constructor
  · intro h
    unfold Draft.told at h
    split at h
    · cases h
    · rename_i path hp
      obtain rfl := Except.ok.inj h
      exact ⟨hp, Option.or_none, Option.or_none, decide_eq_true_iff⟩
    · cases h
  · rintro ⟨hp, hc, hd, he⟩
    have hexplain : decide (.explain ∈ items) = a.explain := by
      rw [Bool.eq_iff_iff, decide_eq_true_iff, he]
    simp only [Draft.told, Option.toList_none, List.nil_append, hp, Option.or_none, ← hc, ← hd,
      Bool.false_or, hexplain]

/-- With no path, or with more than one, the order does not matter either. -/
theorem Reordered.told (h : Reordered items items') :
    Draft.told {} items = Draft.told {} items' := by
  have hpaths : (items.filterMap Item.path?).Perm (items'.filterMap Item.path?) :=
    h.perm.filterMap Item.path?
  unfold Draft.told
  simp only [Option.toList_none, List.nil_append, h.config, h.dialect, h.perm.mem_iff]
  rcases hp : items.filterMap Item.path? with _ | ⟨first, _ | ⟨second, others⟩⟩
  · rw [hp] at hpaths
    rw [hpaths.nil_eq]
  · rw [hp] at hpaths
    rw [List.singleton_perm.mp hpaths]
  · rw [hp] at hpaths
    rcases hp' : items'.filterMap Item.path? with _ | ⟨first', _ | ⟨second', others'⟩⟩
    · simp [hp'] at hpaths
    · simp [hp'] at hpaths
    · rfl

/-- Arguments are accepted exactly when they split into items with one path among them, and say what
these do. They split in one way, and reordering the items changes nothing. -/
theorem read_follows_grammar :
    (∀ args a, read args = .ok a ↔ ∃ items, written items = args ∧ Means items a) ∧
    (∀ args, (∃ a, read args = .ok a) ↔
      ∃ items, written items = args ∧ (items.filterMap Item.path?).length = 1) ∧
    Function.Injective written ∧
    ∀ items items', Reordered items items' → read (written items) = read (written items') := by
  have hread : ∀ items, read (written items) = Draft.told {} items := read_written {}
  have hok : ∀ args a, read args = .ok a ↔ ∃ items, written items = args ∧ Means items a := by
    intro args a
    constructor
    · intro h
      obtain ⟨items, rfl⟩ := written_of_read h
      exact ⟨items, rfl, told_ok.mp (hread items ▸ h)⟩
    · rintro ⟨items, rfl, hm⟩
      rw [hread]
      exact told_ok.mpr hm
  refine ⟨hok, fun args => ⟨?_, ?_⟩, written_injective, fun items items' h => ?_⟩
  · rintro ⟨a, h⟩
    obtain ⟨items, hw, hm⟩ := (hok args a).mp h
    exact ⟨items, hw, by rw [hm.pipeline, List.length_singleton]⟩
  · rintro ⟨items, hw, hone⟩
    obtain ⟨path, hp⟩ := List.length_eq_one_iff.mp hone
    have hm : Means items ⟨path, (items.filterMap Item.config?).getLast?,
        (items.filterMap Item.dialect?).getLast?, decide (.explain ∈ items)⟩ :=
      ⟨hp, rfl, rfl, decide_eq_true_iff⟩
    exact ⟨_, (hok args _).mpr ⟨items, hw, hm⟩⟩
  · rw [hread, hread, h.told]

/-- Values look like flags, both options are given twice, and one dash makes a path. -/
theorem shuffled_words_read :
    let words := ["--config", "--explain", "--dialect", "mysql", "-p", "--dialect", "sqlite",
      "--config", "-h"]
    let shuffled := ["--dialect", "mysql", "--config", "--explain", "--config", "-h", "--dialect",
      "sqlite", "-p"]
    read words = .ok ⟨"-p", some "-h", some "sqlite", false⟩ ∧ read shuffled = read words := by
  intro words shuffled
  let items : List Item := [.config "--explain", .dialect "mysql", .path "-p" (by decide),
    .dialect "sqlite", .config "-h"]
  let items' : List Item := [.dialect "mysql", .config "--explain", .config "-h",
    .dialect "sqlite", .path "-p" (by decide)]
  have hmeans : Means items ⟨"-p", some "-h", some "sqlite", false⟩ :=
    ⟨rfl, rfl, rfl, by decide⟩
  have hreordered : Reordered items' items := ⟨by decide, rfl, rfl⟩
  obtain ⟨hok, -, -, hsame⟩ := read_follows_grammar
  exact ⟨(hok words _).mpr ⟨items, rfl, hmeans⟩, hsame items' items hreordered⟩

end LayeredSql.Arguments
