import LayeredSql.Proofs.Names.Disambiguation
import LayeredSql.Proofs.Sql.Phrase
import LayeredSql.Query.Basic
import LayeredSql.Relation.Basic

namespace LayeredSql
open Sql

/-- The name of an item's column: its label, or without one the name it quotes. -/
def SelectItem.name? (d : Dialect) (item : SelectItem) : Option String :=
  item.label.or (quotedName? d item.sql)

/-- An item about columns of a source. Without a label it is a bare column. -/
structure SelectItem.Scoped (d : Dialect) (source : List String) (item : SelectItem) : Prop where
  bare : item.label = none → ∃ name, item.sql = d.quote name
  within : NamesWithin d source item.sql

namespace Layer

def names (d : Dialect) (layer : Layer) : List String :=
  layer.items.filterMap (·.name? d)

/-- Without items every column of the source is passed on. -/
def exposed (d : Dialect) (layer : Layer) (source : List String) : List String :=
  if layer.items.isEmpty then source else layer.names d

/-- Every clause of a layer is about columns of its source. -/
structure Scoped (d : Dialect) (source : List String) (layer : Layer) : Prop where
  items : ∀ item ∈ layer.items, item.Scoped d source
  conditions : ∀ text ∈ layer.conditions, NamesWithin d source text
  groupBy : ∀ text ∈ layer.groupBy, NamesWithin d source text
  orderBy : ∀ text ∈ layer.orderBy, NamesWithin d source text
  distinct : (layer.names d).Nodup

theorem Scoped.mono {d : Dialect} {vars vars' : List String} {layer : Layer}
    (h : layer.Scoped d vars) (hv : ∀ v ∈ vars, v ∈ vars') : layer.Scoped d vars' where
  items := fun item hi => ⟨(h.items item hi).bare, (h.items item hi).within.mono hv⟩
  conditions := fun text ht => (h.conditions text ht).mono hv
  groupBy := fun text ht => (h.groupBy text ht).mono hv
  orderBy := fun text ht => (h.orderBy text ht).mono hv
  distinct := h.distinct

/-- Every item of a scoped layer has a name. -/
theorem Scoped.names_length {d : Dialect} (hd : d.Supported) {vars : List String} {layer : Layer}
    (h : layer.Scoped d vars) : (layer.names d).length = layer.items.length := by
  have hname : ∀ item ∈ layer.items, (item.name? d).isSome := by
    intro item hi
    unfold SelectItem.name?
    cases hl : item.label with
    | some label => rfl
    | none =>
      obtain ⟨name, hq⟩ := (h.items item hi).bare hl
      rw [hq, quoted_name hd, Option.none_or]
      rfl
  unfold names
  rw [List.filterMap_length_eq_length]
  exact hname

end Layer

namespace Query

def tables : Query → List TableRef
  | .table t => [t]
  | .select source _ => source.tables
  | .join left right _ _ => left.tables ++ right.tables
  | .semiJoin left right _ _ => left.tables ++ right.tables
  | .setOp left right _ => left.tables ++ right.tables

/-- The names a query exposes, given the columns of its tables from left to right. -/
def exposed (d : Dialect) : Query → List (List String) → List String
  | .table _, columns => columns.headD []
  | .select source layer, columns => layer.exposed d (source.exposed d columns)
  | .join left right _ keys, columns =>
    Names.joinColumns (left.exposed d (columns.take left.tables.length))
      (right.exposed d (columns.drop left.tables.length)) keys
  | .semiJoin left _ _ _, columns => left.exposed d (columns.take left.tables.length)
  | .setOp left _ _, columns => left.exposed d (columns.take left.tables.length)

/-- At every node the clauses and keys are about columns exposed below it. -/
def Scoped (d : Dialect) : Query → List (List String) → Prop
  | .table _, _ => True
  | .select source layer, columns =>
    source.Scoped d columns ∧ layer.Scoped d (source.exposed d columns)
  | .join left right _ keys, columns =>
    left.Scoped d (columns.take left.tables.length) ∧
      right.Scoped d (columns.drop left.tables.length) ∧
      Names.KeysFound (left.exposed d (columns.take left.tables.length))
        (right.exposed d (columns.drop left.tables.length)) keys
  | .semiJoin left right _ keys, columns =>
    left.Scoped d (columns.take left.tables.length) ∧
      right.Scoped d (columns.drop left.tables.length) ∧
      Names.KeysFound (left.exposed d (columns.take left.tables.length))
        (right.exposed d (columns.drop left.tables.length)) keys
  | .setOp left right _, columns =>
    left.Scoped d (columns.take left.tables.length) ∧
      right.Scoped d (columns.drop left.tables.length)

/-- Both sides of every set operation expose one list of names. -/
def Aligned (d : Dialect) : Query → List (List String) → Prop
  | .table _, _ => True
  | .select source _, columns => source.Aligned d columns
  | .join left right _ _, columns | .semiJoin left right _ _, columns =>
    left.Aligned d (columns.take left.tables.length) ∧
      right.Aligned d (columns.drop left.tables.length)
  | .setOp left right _, columns =>
    left.Aligned d (columns.take left.tables.length) ∧
      right.Aligned d (columns.drop left.tables.length) ∧
      left.exposed d (columns.take left.tables.length) =
        right.exposed d (columns.drop left.tables.length)

/-- The columns of the tables of two queries, taken apart again. -/
theorem split_columns {q : Query} {leaves : List (TableRef × List String)}
    (h : q.tables = leaves.map (·.1)) (rest : List (TableRef × List String)) :
    ((leaves ++ rest).map (·.2)).take q.tables.length = leaves.map (·.2) ∧
      ((leaves ++ rest).map (·.2)).drop q.tables.length = rest.map (·.2) := by
  have hlen : q.tables.length = (leaves.map (·.2)).length := by simp [h]
  rw [hlen, List.map_append]
  exact ⟨List.take_left, List.drop_left⟩

end Query

/-- The tables a pipeline reads with the columns recorded for them, from left to right. -/
def Pipeline.leaves : Pipeline → List (TableRef × List String)
  | .remote table vars => [(table, vars)]
  | .inMemory vars => [(.inMemory, vars)]
  | .select input _ | .rename input _ | .arrange input _ | .summarise input _ | .mutate input _
  | .groupBy input _ | .ungroup input | .filter input _ | .distinct input _ _ | .take input _ =>
    input.leaves
  | .join left right _ _ _ | .semiJoin left right _ _ | .setOp left right _ =>
    left.leaves ++ right.leaves

namespace Relation
variable {d : Dialect}

theorem column_item_names (hd : d.Supported) (vars : List String) :
    (vars.map (columnItem d)).filterMap (·.name? d) = vars := by
  rw [List.filterMap_map]
  have hname : ((·.name? d) ∘ columnItem d) = some := by
    funext v
    simp only [Function.comp_apply, columnItem, SelectItem.name?, Option.none_or]
    exact quoted_name hd v
  rw [hname, List.filterMap_some]

theorem labelled_names (texts : List (String × String)) :
    (labelled texts).filterMap (·.name? d) = texts.map (·.1) := by
  unfold labelled
  rw [List.filterMap_map, ← List.filterMap_eq_map]
  rfl

theorem rename_item_name (hd : d.Supported) (m : ColumnRename) :
    (renameItem d m).name? d = some m.target := by
  simp only [renameItem, SelectItem.name?]
  split
  · rename_i hi
    have he : m.source = m.target := by simpa [ColumnRename.isIdentity] using hi
    rw [Option.none_or, quoted_name hd, he]
  · rfl

theorem rename_item_names (hd : d.Supported) (mapping : List ColumnRename) :
    (mapping.map (renameItem d)).filterMap (·.name? d) = mapping.map (·.target) := by
  rw [List.filterMap_map, ← List.filterMap_eq_map]
  congr 1
  funext m
  exact rename_item_name hd m

theorem column_items_scoped (hd : d.Supported) {names source : List String}
    (h : ∀ name ∈ names, name ∈ source) :
    ∀ item ∈ names.map (columnItem d), item.Scoped d source := by
  rw [List.forall_mem_map]
  exact fun name hn => ⟨fun _ => ⟨name, rfl⟩, quote_within hd (h name hn)⟩

theorem labelled_scoped {texts : List (String × String)} {source : List String}
    (h : ∀ text ∈ texts, NamesWithin d source text.2) :
    ∀ item ∈ labelled texts, item.Scoped d source := by
  unfold labelled
  rw [List.forall_mem_map]
  refine fun text ht => ⟨fun hl => ?_, h text ht⟩
  cases hl

theorem rename_items_scoped (hd : d.Supported) {mapping : List ColumnRename} {source : List String}
    (h : ∀ m ∈ mapping, m.source ∈ source) :
    ∀ item ∈ mapping.map (renameItem d), item.Scoped d source := by
  rw [List.forall_mem_map]
  exact fun m hm => ⟨fun _ => ⟨m.source, rfl⟩, quote_within hd (h m hm)⟩

end Relation
end LayeredSql
