import LayeredSql.Dialect
import LayeredSql.Proofs.FunctionTable
import LayeredSql.Proofs.Sql.PlainText

namespace LayeredSql.Dialect

/-- The dialects that can be obtained: the four known ones, with or without window functions. -/
inductive Supported : Dialect → Prop where
  | ansi : Supported ansi
  | postgres : Supported postgres
  | mysql : Supported mysql
  | sqlite : Supported sqlite
  | windows {d : Dialect} (enabled : Bool) : Supported d → Supported (d.withWindowFunctions enabled)

/-- A dialect asked for by name is one of them. -/
theorem named_supported {name : String} {d : Dialect} (h : named name = .ok d) : d.Supported := by
  unfold named at h
  simp only at h
  split at h
  · cases h; exact .ansi
  · split at h
    · cases h; exact .postgres
    · split at h
      · cases h; exact .mysql
      · split at h
        · cases h; exact .sqlite
        · cases h

theorem Supported.one_per_name {d : Dialect} (h : d.Supported) : d.functions.OnePerName := by
  induction h with
  | ansi => exact FunctionTable.one_per_name_builtin
  | postgres => exact FunctionTable.one_per_name_builtin
  | mysql => exact FunctionTable.one_per_name_builtin.register _
  | sqlite => exact ((FunctionTable.one_per_name_builtin.remove _).remove _).register _
  | windows _ _ ih => exact ih

/-- Names stand between two quotes of one kind, and strings have another kind. -/
theorem Supported.quotes {d : Dialect} (h : d.Supported) :
    d.closeQuote = d.openQuote ∧ d.openQuote ∈ ['\x22', '\x60'] := by
  induction h with
  | ansi => decide
  | postgres => decide
  | mysql => decide
  | sqlite => decide
  | windows _ _ ih => exact ih

theorem Supported.quote_ne_string {d : Dialect} (h : d.Supported) : d.openQuote ≠ '\x27' := by
  intro hq
  have hm := h.quotes.2
  rw [hq] at hm
  exact absurd hm (by decide)

theorem plain_builtin : ∀ sig ∈ FunctionTable.builtin.signatures,
    Sql.PlainText sig.sqlName.toList := by
  decide +kernel

/-- What holds of the functions that every dialect starts from, and of the two that some spell in
their own way, holds of all functions there are. -/
theorem Supported.functions_all {P : Signature → Prop} {d : Dialect} (h : d.Supported)
    (hbuiltin : ∀ sig ∈ FunctionTable.builtin.signatures, P sig)
    (hlength : P ⟨"nchar", "CHAR_LENGTH", .scalar, 1, some 1, false⟩)
    (hlog : P ⟨"log", "LOG", .scalar, 1, some 1, false⟩) :
    ∀ sig ∈ d.functions.signatures, P sig := by
  induction h with
  | ansi => exact hbuiltin
  | postgres => exact hbuiltin
  | mysql =>
    intro sig hm
    rcases FunctionTable.mem_of_register hm with rfl | hm
    · exact hlength
    · exact hbuiltin sig hm
  | sqlite =>
    intro sig hm
    rcases FunctionTable.mem_of_register hm with rfl | hm
    · exact hlog
    · exact hbuiltin sig (FunctionTable.mem_of_remove (FunctionTable.mem_of_remove hm))
  | windows _ _ ih => exact ih

/-- Functions are called by plain words. -/
theorem Supported.plain_functions {d : Dialect} (h : d.Supported) :
    ∀ sig ∈ d.functions.signatures, Sql.PlainText sig.sqlName.toList :=
  h.functions_all plain_builtin (by decide) (by decide)

/-- An aggregate passes all its arguments on. -/
theorem Supported.aggregates_unordered {d : Dialect} (h : d.Supported) :
    ∀ sig ∈ d.functions.signatures, sig.kind = .aggregate → sig.orderByArg = false :=
  h.functions_all (by decide +kernel) (by decide) (by decide)

/-- Types that a dialect spells in a way of its own are plain words. -/
theorem Supported.plain_types {d : Dialect} (h : d.Supported) :
    ∀ spelling ∈ d.typeNames, Sql.PlainText spelling.2.toList := by
  induction h with
  | ansi => decide
  | postgres => decide
  | mysql => decide
  | sqlite => decide
  | windows _ _ ih => exact ih

end LayeredSql.Dialect
