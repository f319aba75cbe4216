import LayeredSql.Proofs.Names.Disambiguation
import LayeredSql.Proofs.Relation.Renamed

namespace LayeredSql

def KeyPair.swapped (key : KeyPair) : KeyPair :=
  ⟨key.right, key.left⟩

def Suffixes.swapped (suffixes : Suffixes) : Suffixes :=
  ⟨suffixes.right, suffixes.left⟩

namespace Names
variable {left right : List String} {keys : List KeyPair} {suffixes : Suffixes}

theorem shared_swapped {name : String} :
    (⟨name, name⟩ : KeyPair) ∈ keys.map .swapped ↔ (⟨name, name⟩ : KeyPair) ∈ keys := by
  constructor
  · intro hm
    obtain ⟨⟨l, r⟩, hkey, he⟩ := List.mem_map.mp hm
    simp only [KeyPair.swapped, KeyPair.mk.injEq] at he
    obtain ⟨rfl, rfl⟩ := he
    exact hkey
  · intro hm
    exact List.mem_map.mpr ⟨_, hm, rfl⟩

theorem collides_swapped {name : String} :
    Collides right left (keys.map .swapped) name ↔ Collides left right keys name := by
  unfold Collides
  rw [shared_swapped, and_left_comm]

theorem suffixed_name_swapped (suffix : String) :
    suffixedName right left (keys.map .swapped) suffix = suffixedName left right keys suffix := by
  funext name
  simp only [suffixedName, collides_swapped]

theorem keys_found_swapped (hk : KeysFound left right keys) :
    KeysFound right left (keys.map .swapped) := by
  intro key hm
  obtain ⟨key, hkey, rfl⟩ := List.mem_map.mp hm
  exact (hk key hkey).symm

/-- Suffixes are enough when on either side the names differ, and one name on both sides is that of
one column, a shared key. -/
theorem suffixed_columns_nodup_iff (hr : right.Nodup) (hk : KeysFound left right keys) :
    (suffixedColumns left right keys suffixes).Nodup ↔
      (left.map (suffixedName left right keys suffixes.left)).Nodup ∧
      (right.map (suffixedName left right keys suffixes.right)).Nodup ∧
      ∀ v ∈ left, ∀ w ∈ right, suffixedName left right keys suffixes.left v =
        suffixedName left right keys suffixes.right w → v = w ∧ (⟨v, v⟩ : KeyPair) ∈ keys := by
  constructor
  · intro hn
    obtain ⟨hleft, -, happart⟩ := suffixed_columns_nodup.mp hn
    refine ⟨hleft, right_side_nodup hr hk hn, fun v hv w hw he => ?_⟩
    by_cases hs : (⟨w, w⟩ : KeyPair) ∈ keys
    · have hsame : suffixedName left right keys suffixes.left v =
          suffixedName left right keys suffixes.left w := by
        rw [he, suffixed_name_of_shared hs, suffixed_name_of_shared hs]
      obtain rfl := List.inj_on_of_nodup_map hleft hv (hk _ hs).1 hsame
      exact ⟨rfl, hs⟩
    · exact absurd he (happart v hv w hw hs)
  · rintro ⟨hleft, hright, happart⟩
    refine suffixed_columns_nodup.mpr ⟨hleft, ?_, fun v hv w hw hs he => ?_⟩
    · exact hright.sublist (List.filter_sublist.map _)
    · obtain ⟨rfl, hv⟩ := happart v hv w hw he
      exact hs hv

theorem suffixed_columns_swapped (hl : left.Nodup) (hr : right.Nodup)
    (hk : KeysFound left right keys) :
    (suffixedColumns right left (keys.map .swapped) suffixes.swapped).Nodup ↔
      (suffixedColumns left right keys suffixes).Nodup := by
  rw [suffixed_columns_nodup_iff hl (keys_found_swapped hk), suffixed_columns_nodup_iff hr hk,
    and_left_comm]
  simp only [suffixed_name_swapped, shared_swapped, Suffixes.swapped]
  refine and_congr_right fun _ => and_congr_right fun _ => ?_
  constructor
  · intro h v hv w hw he
    obtain ⟨rfl, hs⟩ := h w hw v hv he.symm
    exact ⟨rfl, hs⟩
  · intro h v hv w hw he
    obtain ⟨rfl, hs⟩ := h w hw v hv he.symm
    exact ⟨rfl, hs⟩

theorem suffixed_swapped (hl : left.Nodup) (hr : right.Nodup) (suffix : String) :
    (suffixed (collisions left right keys) suffix).Perm
      (suffixed (collisions right left (keys.map .swapped)) suffix) := by
  have hp : (collisions left right keys).Perm (collisions right left (keys.map .swapped)) := by
    refine (List.perm_ext_iff_of_nodup (hl.filter _) (hr.filter _)).mpr fun v => ?_
    exact (mem_collisions.trans collides_swapped.symm).trans mem_collisions.symm
  unfold suffixed
  split
  · exact .refl []
  · exact hp.map _

theorem suffixed_applicable {vars : List String} {suffix : String}
    (hs : ∀ v ∈ collisions left right keys, v ∈ vars) (hl : left.Nodup)
    (hn : (vars.map (suffixedName left right keys suffix)).Nodup) :
    Applicable vars (suffixed (collisions left right keys) suffix) := by
  obtain ⟨hfound, hsources, hnames, -⟩ := resolve_rename_ok.mp (resolve_suffixed hs hl hn)
  exact ⟨hfound, hsources, hnames⟩

end Names

namespace Relation
open Names
variable {verb : Verb} {d : Dialect} {r : Relation}

theorem rename_side_perm {renames renames' : List ColumnRename} (hp : renames.Perm renames')
    (ha : Applicable r.vars renames) :
    ∃ r', r.renameSide verb d renames = .ok r' ∧ r.renameSide verb d renames' = .ok r' := by
  by_cases he : renames = []
  · subst he
    obtain rfl := hp.nil_eq
    exact ⟨r, rfl, rfl⟩
  · have he' : renames' ≠ [] := by
      rintro rfl
      exact he hp.eq_nil
    have hsame : inPlace r.vars renames' = inPlace r.vars renames := by
      simp only [inPlace, renamed_perm hp ha.sources_distinct]
    refine ⟨r.project d (inPlace r.vars renames), ?_, ?_⟩
    · exact rename_side_ok.mpr (.inr ⟨he, rename_ok_iff.mpr ⟨ha, rfl⟩⟩)
    · exact rename_side_ok.mpr (.inr ⟨he', rename_ok_iff.mpr ⟨ha.perm hp, by rw [hsame]⟩⟩)

end Relation

namespace Names
variable {left right : List String} {keys : List KeyPair}

/-- Exchanging the inputs of a join exchanges what is done to their names. The suffixes are enough
for both orders or for none, and then a side has the same renames in both, but for their order, so
that both joins read it under the same query. -/
theorem disambiguate_symmetric (hl : left.Nodup) (hr : right.Nodup)
    (hk : KeysFound left right keys) (suffixes : Suffixes) :
    ((∃ plan, disambiguate left right keys suffixes = .ok plan) ↔
      ∃ plan, disambiguate right left (keys.map .swapped) suffixes.swapped = .ok plan) ∧
    ∀ plan plan', disambiguate left right keys suffixes = .ok plan →
      disambiguate right left (keys.map .swapped) suffixes.swapped = .ok plan' →
      plan.left.Perm plan'.right ∧ plan.right.Perm plan'.left ∧
      ∀ (verb : Verb) (d : Dialect) (l r : Relation), l.vars = left → r.vars = right → ∃ l' r',
        l.renameSide verb d plan.left = .ok l' ∧ l.renameSide verb d plan'.right = .ok l' ∧
        r.renameSide verb d plan.right = .ok r' ∧ r.renameSide verb d plan'.left = .ok r' := by
  have hsame : (suffixedColumns right left (keys.map .swapped) suffixes.swapped).Nodup ↔
      (suffixedColumns left right keys suffixes).Nodup := suffixed_columns_swapped hl hr hk
  constructor
  · simp only [disambiguate_ok, exists_and_left, exists_eq, and_true]
    exact hsame.symm
  · intro plan plan' h h'
    obtain ⟨hn, rfl⟩ := disambiguate_ok.mp h
    obtain ⟨-, rfl⟩ := disambiguate_ok.mp h'
    have hleft : (suffixPlan left right keys suffixes).left.Perm
        (suffixPlan right left (keys.map .swapped) suffixes.swapped).right :=
      suffixed_swapped hl hr suffixes.left
    have hright : (suffixPlan left right keys suffixes).right.Perm
        (suffixPlan right left (keys.map .swapped) suffixes.swapped).left :=
      suffixed_swapped hl hr suffixes.right
    refine ⟨hleft, hright, ?_⟩
    rintro verb d l r rfl rfl
    obtain ⟨hln, hrn, -⟩ := (suffixed_columns_nodup_iff hr hk).mp hn
    obtain ⟨l', hl₁, hl₂⟩ := Relation.rename_side_perm (d := d) hleft
      (suffixed_applicable (fun v hv => (mem_collisions.mp hv).1) hl hln)
    obtain ⟨r', hr₁, hr₂⟩ := Relation.rename_side_perm (d := d) hright
      (suffixed_applicable (fun v hv => (mem_collisions.mp hv).2.1) hl hrn)
    exact ⟨l', r', hl₁, hl₂, hr₁, hr₂⟩

/-- One column is a key twice, and on one side nothing is added to the names. -/
theorem orders_symmetric :
    let orders := ["id", "note", "code", "year"]
    let items := ["code", "id", "year", "note", "line"]
    let keys : List KeyPair := [⟨"id", "id"⟩, ⟨"id", "line"⟩, ⟨"code", "code"⟩]
    (∃ plan plan', disambiguate orders items keys ⟨"", "_i"⟩ = .ok plan ∧
      disambiguate items orders (keys.map .swapped) ⟨"_i", ""⟩ = .ok plan' ∧
      plan.left = [] ∧ plan'.right = [] ∧
      plan.right = [⟨"note", "note_i"⟩, ⟨"year", "year_i"⟩] ∧ plan.right.Perm plan'.left) ∧
    ¬∃ plan, disambiguate items orders (keys.map .swapped) ⟨"", ""⟩ = .ok plan := by
  intro orders items keys
  have hfound : KeysFound orders items keys := by decide
  have hall := disambiguate_symmetric (by decide) (by decide) hfound
  constructor
  · have hplan : disambiguate orders items keys ⟨"", "_i"⟩ =
        .ok ⟨[], [⟨"note", "note_i"⟩, ⟨"year", "year_i"⟩]⟩ := by decide
    obtain ⟨plan', hplan'⟩ := (hall ⟨"", "_i"⟩).1.mp ⟨_, hplan⟩
    obtain ⟨hleft, hright, -⟩ := (hall ⟨"", "_i"⟩).2 _ _ hplan hplan'
    exact ⟨_, plan', hplan, hplan', rfl, hleft.symm.eq_nil, rfl, hright⟩
  · intro hplan
    obtain ⟨plan, hplan⟩ := (hall ⟨"", ""⟩).1.mpr hplan
    have hrefused : disambiguate orders items keys ⟨"", ""⟩ =
        .error (.duplicate ["year", "note"]) := by decide
    rw [hrefused] at hplan
    cases hplan

end Names
end LayeredSql
