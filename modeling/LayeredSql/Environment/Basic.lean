namespace LayeredSql

abbrev Environment := String → Option String

namespace Environment

def empty : Environment := fun _ => none

def ofList (assigned : List (String × String)) : Environment :=
  fun name => (assigned.find? (·.1 == name)).map (·.2)

def setDefault (env : Environment) (name value : String) : Environment :=
  fun n => if n = name then (env n).or (some value) else env n

theorem setDefault_of_some {env : Environment} {name old : String} (h : env name = some old)
    (value : String) : env.setDefault name value = env := by
  funext n
  by_cases hn : n = name
  · subst hn
    simp [setDefault, h]
  · simp [setDefault, hn]

end Environment
end LayeredSql
