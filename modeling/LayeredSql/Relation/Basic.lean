import LayeredSql.Build.Error
import LayeredSql.Query.Basic
import LayeredSql.Sql.Clauses

namespace LayeredSql

/-- A query, the columns it has, and what its rows are grouped and ordered by. -/
structure Relation where
  query : Query
  vars : List String
  groups : List String
  order : List SortKey

namespace Relation

def namesChecked (verb : Verb) (x : Except NameError α) : Except BuildError α :=
  x.mapError (.ofNames verb)

def sqlChecked (verb : Verb) (x : Except SqlError α) : Except BuildError α :=
  x.mapError (.ofSql verb)

def scope (r : Relation) (d : Dialect) (clause : Clause) : Sql.Scope :=
  ⟨d, r.vars, clause, r.groups, r.order⟩

def columnItem (d : Dialect) (name : String) : SelectItem :=
  ⟨d.quote name, none⟩

def labelled (texts : List (String × String)) : List SelectItem :=
  texts.map fun (name, sql) => ⟨sql, some name⟩

def ofTable (verb : Verb) (table : TableRef) (vars : List String) :
    Except BuildError Relation := do
  namesChecked verb (Names.requireDistinct vars)
  return ⟨.table table, vars, [], []⟩

def targetOf? (mapping : List ColumnRename) (name : String) : Option String :=
  (mapping.find? (·.source == name)).map (·.target)

def retarget (mapping : List ColumnRename) (key : SortKey) : SortKey :=
  ⟨key.expr.substitute fun name => (targetOf? mapping name).map .column, key.descending⟩

def renameItem (d : Dialect) (m : ColumnRename) : SelectItem :=
  ⟨d.quote m.source, if m.isIdentity then none else some m.target⟩

/-- One layer of columns. Grouping and ordering follow the new names and lose what is dropped. -/
def project (r : Relation) (d : Dialect) (mapping : List ColumnRename) : Relation where
  query := .select r.query { items := mapping.map (renameItem d) }
  vars := mapping.map (·.target)
  groups := r.groups.filterMap (targetOf? mapping)
  order :=
    (r.order.filter fun key => key.expr.columns.all fun c => (targetOf? mapping c).isSome).map
      (retarget mapping)

def requested (item : Projection) : Except BuildError ColumnRename :=
  match item.expr.asColumn? with
  | some name => .ok ⟨name, item.label.getD name⟩
  | none => .error ⟨.select, .expr (.notAColumn item.expr)⟩

def select (r : Relation) (d : Dialect) (columns : List Projection) :
    Except BuildError Relation := do
  let wanted ← columns.mapM requested
  let mapping ← namesChecked .select (Names.resolveSelect r.vars wanted r.groups)
  return r.project d mapping

/-- For joins as well, which rename their sides under their own name. -/
def rename (r : Relation) (verb : Verb) (d : Dialect) (renames : List ColumnRename) :
    Except BuildError Relation := do
  let mapping ← namesChecked verb (Names.resolveRename r.vars renames)
  return r.project d mapping

def arrange (r : Relation) (d : Dialect) (keys : List SortKey) : Except BuildError Relation := do
  let texts ← sqlChecked .arrange ((r.scope d .ordering).renderKeys keys)
  return { r with query := .select r.query { orderBy := texts }, order := keys }

/-- One row for each group, and the innermost grouping variable is given up. -/
def summarise (r : Relation) (d : Dialect) (aggregates : List NamedExpr) :
    Except BuildError Relation := do
  let texts ← sqlChecked .summarise ((r.scope d .summary).renderNamed aggregates)
  let vars := r.groups ++ aggregates.map (·.name)
  namesChecked .summarise (Names.requireDistinct vars)
  let layer : Layer :=
    { items := r.groups.map (columnItem d) ++ labelled texts
      groupBy := r.groups.map d.quote }
  return ⟨.select r.query layer, vars, r.groups.dropLast, []⟩

def groupBy (r : Relation) (vars : List String) : Except BuildError Relation := do
  namesChecked .groupBy (Names.requireAll r.vars vars)
  namesChecked .groupBy (Names.requireDistinct vars)
  return { r with groups := vars }

def ungroup (r : Relation) : Relation :=
  { r with groups := [] }

def distinct (r : Relation) (columns : List String) (keepAll : Bool) :
    Except BuildError Relation := do
  if !columns.isEmpty && !keepAll then throw ⟨.distinct, .distinctOn columns⟩
  namesChecked .distinct (Names.requireAll r.vars columns)
  return { r with query := .select r.query { distinct := true } }

def take (r : Relation) (limit : UInt64) : Relation :=
  { r with query := .select r.query { limit := some limit } }

end Relation
end LayeredSql
