import Mathlib.Data.List.Nodup

namespace LayeredSql
variable {α : Type} {name : α → String} {items : List α}

theorem found_by_name (hd : (items.map name).Nodup) {item : α} (hi : item ∈ items) :
    items.find? (name · == name item) = some item := by
  cases hf : items.find? (name · == name item) with
  | none => simpa using List.find?_eq_none.mp hf item hi
  | some found =>
    have hsame : name found = name item := by simpa using List.find?_some hf
    rw [List.inj_on_of_nodup_map hd (List.mem_of_find?_eq_some hf) hi hsame]

theorem found_under {n : String} {item : α} (h : items.find? (name · == n) = some item) :
    item ∈ items ∧ name item = n :=
  ⟨List.mem_of_find?_eq_some h, by simpa using List.find?_some h⟩

theorem none_under {n : String} : items.find? (name · == n) = none ↔ n ∉ items.map name := by
  simp

end LayeredSql
