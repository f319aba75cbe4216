import LayeredSql.Names.Join
import LayeredSql.Proofs.Names.Renames
import Mathlib.Data.List.Dedup

namespace LayeredSql.Names

/-- A name of both sides that is no key of one name. -/
def Collides (left right : List String) (keys : List KeyPair) (name : String) : Prop :=
  name ∈ left ∧ name ∈ right ∧ (⟨name, name⟩ : KeyPair) ∉ keys

instance (left right : List String) (keys : List KeyPair) (name : String) :
    Decidable (Collides left right keys name) :=
  inferInstanceAs (Decidable (_ ∧ _ ∧ _))

def suffixedName (left right : List String) (keys : List KeyPair) (suffix name : String) :
    String :=
  if Collides left right keys name then name ++ suffix else name

/-- The columns of both sides with their suffixes, keys of one name standing on the left only. -/
def suffixedColumns (left right : List String) (keys : List KeyPair) (suffixes : Suffixes) :
    List String :=
  left.map (suffixedName left right keys suffixes.left) ++
    (right.filter fun v => (⟨v, v⟩ : KeyPair) ∉ keys).map
      (suffixedName left right keys suffixes.right)

/-- The different names that a key has on both sides. -/
def sharedNames (keys : List KeyPair) : List String :=
  ((keys.filter KeyPair.isShared).map KeyPair.left).dedup

theorem is_shared_key {keys : List KeyPair} {name : String} :
    isSharedKey keys name = true ↔ (⟨name, name⟩ : KeyPair) ∈ keys := by
  simp only [isSharedKey, List.any_eq_true, KeyPair.isShared, Bool.and_eq_true, beq_iff_eq]
  constructor
  · rintro ⟨⟨l, r⟩, hm, hs, hn⟩
    simp only at hs hn
    subst hs hn
    exact hm
  · intro hm
    exact ⟨_, hm, rfl, rfl⟩

theorem mem_shared_names {keys : List KeyPair} {name : String} :
    name ∈ sharedNames keys ↔ (⟨name, name⟩ : KeyPair) ∈ keys := by
  rw [← is_shared_key]
  simp [sharedNames, isSharedKey, and_assoc]

section
variable {left right : List String} {keys : List KeyPair} {suffixes : Suffixes}

theorem mem_collisions {name : String} :
    name ∈ collisions left right keys ↔ Collides left right keys name := by
  simp [collisions, Collides, is_shared_key, ← Bool.not_eq_true]

theorem renamed_suffixed (names : List String) (suffix name : String) :
    renamed (suffixed names suffix) name = if name ∈ names then name ++ suffix else name := by
  unfold suffixed
  split
  · rename_i he
    have hs : suffix = "" := String.isEmpty_iff.mp he
    simp [renamed_nil, hs]
  · exact renamed_map names (· ++ suffix) name

theorem renamed_collisions (suffix : String) :
    renamed (suffixed (collisions left right keys) suffix) =
      suffixedName left right keys suffix := by
  funext name
  simp only [renamed_suffixed, mem_collisions, suffixedName]

theorem join_columns_filter (keys : List KeyPair) (right : List String) :
    (right.filter fun v => !isSharedKey keys v) =
      right.filter fun v => (⟨v, v⟩ : KeyPair) ∉ keys := by
  apply List.filter_congr
  intro v _
  rw [Bool.eq_iff_iff]
  simp [← Bool.not_eq_true, is_shared_key]

def suffixPlan (left right : List String) (keys : List KeyPair) (suffixes : Suffixes) :
    Disambiguation :=
  ⟨suffixed (collisions left right keys) suffixes.left,
    suffixed (collisions left right keys) suffixes.right⟩

theorem disambiguate_eq :
    disambiguate left right keys suffixes =
      if (suffixedColumns left right keys suffixes).Nodup then
        .ok (suffixPlan left right keys suffixes)
      else .error (.duplicate (repeated (suffixedColumns left right keys suffixes))) := by
  have hc : disambiguate left right keys suffixes =
      (requireDistinct (suffixedColumns left right keys suffixes)).bind
        fun _ => .ok (suffixPlan left right keys suffixes) := by
    simp only [disambiguate, renamed_collisions, join_columns_filter]
    rfl
  rw [hc]
  split
  · rename_i hn
    have ho : requireDistinct (suffixedColumns left right keys suffixes) = .ok () :=
      require_distinct_ok.mpr hn
    rw [ho]
    rfl
  · rename_i hn
    rw [require_distinct_error hn]
    rfl

theorem disambiguate_ok {plan : Disambiguation} :
    disambiguate left right keys suffixes = .ok plan ↔
      (suffixedColumns left right keys suffixes).Nodup ∧
        plan = suffixPlan left right keys suffixes := by
  rw [disambiguate_eq]
  split
  · rename_i hn
    simp only [Except.ok.injEq, hn, true_and]
    exact eq_comm
  · rename_i hn
    simp [hn]

/-- A key of one name keeps it. -/
theorem suffixed_name_of_shared {suffix name : String} (h : (⟨name, name⟩ : KeyPair) ∈ keys) :
    suffixedName left right keys suffix name = name := by
  unfold suffixedName
  rw [if_neg]
  exact fun hc => hc.2.2 h

theorem collisions_sublist : (collisions left right keys).Sublist left := List.filter_sublist

theorem suffixed_sources_sublist (names : List String) (suffix : String) :
    ((suffixed names suffix).map (·.source)).Sublist names := by
  unfold suffixed
  split
  · exact List.nil_sublist names
  · simp [Function.comp_def]

/-- Renaming a side by its suffixes succeeds as soon as the new names differ. -/
theorem resolve_suffixed {vars : List String} {suffix : String}
    (hs : ∀ v ∈ collisions left right keys, v ∈ vars) (hl : left.Nodup)
    (hn : (vars.map (suffixedName left right keys suffix)).Nodup) :
    resolveRename vars (suffixed (collisions left right keys) suffix) =
      .ok (inPlace vars (suffixed (collisions left right keys) suffix)) := by
  have hsub := suffixed_sources_sublist (collisions left right keys) suffix
  refine resolve_rename_ok.mpr ⟨?_, ?_, ?_, rfl⟩
  · intro r hr
    exact hs _ (hsub.subset (List.mem_map.mpr ⟨r, hr, rfl⟩))
  · exact (hl.sublist collisions_sublist).sublist hsub
  · rwa [renamed_collisions]

theorem suffixed_targets (vars : List String) (suffix : String) :
    (inPlace vars (suffixed (collisions left right keys) suffix)).map (·.target) =
      vars.map (suffixedName left right keys suffix) := by
  rw [in_place_targets, renamed_collisions]

/-- What suffixes achieve, the two sides having become `newLeft` and `newRight`. -/
structure Separated (left right : List String) (keys : List KeyPair) (plan : Disambiguation)
    (newLeft newRight : List String) : Prop where
  left_distinct : newLeft.Nodup
  right_distinct : newRight.Nodup
  /-- What is left in common are the keys of one name. -/
  common : ∀ v, v ∈ newLeft ∧ v ∈ newRight ↔ (⟨v, v⟩ : KeyPair) ∈ keys
  keys_found : ∀ key ∈ plan.remapKeys keys, key.left ∈ newLeft ∧ key.right ∈ newRight
  keys_shared : ∀ key ∈ keys,
    renamed plan.left key.left = renamed plan.right key.right ↔ key.left = key.right
  columns_distinct : (joinColumns newLeft newRight (plan.remapKeys keys)).Nodup
  columns_count : (joinColumns newLeft newRight (plan.remapKeys keys)).length +
    (sharedNames keys).length = left.length + right.length

def KeysFound (left right : List String) (keys : List KeyPair) : Prop :=
  ∀ key ∈ keys, key.left ∈ left ∧ key.right ∈ right

instance (left right : List String) (keys : List KeyPair) : Decidable (KeysFound left right keys) :=
  inferInstanceAs (Decidable (∀ key ∈ keys, _))

/-- Suffixed names that differ, taken apart by side. -/
theorem suffixed_columns_nodup :
    (suffixedColumns left right keys suffixes).Nodup ↔
      (left.map (suffixedName left right keys suffixes.left)).Nodup ∧
      ((right.filter fun v => (⟨v, v⟩ : KeyPair) ∉ keys).map
        (suffixedName left right keys suffixes.right)).Nodup ∧
      ∀ v ∈ left, ∀ w ∈ right, (⟨w, w⟩ : KeyPair) ∉ keys →
        suffixedName left right keys suffixes.left v ≠
          suffixedName left right keys suffixes.right w := by
  unfold suffixedColumns
  rw [List.nodup_append]
  simp only [List.forall_mem_map, List.mem_filter, decide_eq_true_eq, and_imp]

/-- A shared key stands on the left under its own name, so a suffixed name of the right that
differs from the left columns differs from the shared keys too. -/
theorem right_side_nodup (hr : right.Nodup) (hk : KeysFound left right keys)
    (hn : (suffixedColumns left right keys suffixes).Nodup) :
    (right.map (suffixedName left right keys suffixes.right)).Nodup := by
  obtain ⟨_, hrest, happart⟩ := suffixed_columns_nodup.mp hn
  have hshared : ∀ a ∈ right, ∀ b ∈ right, (⟨a, a⟩ : KeyPair) ∈ keys →
      (⟨b, b⟩ : KeyPair) ∉ keys → suffixedName left right keys suffixes.right a ≠
        suffixedName left right keys suffixes.right b := by
    intro a _ b hb ha hnb he
    apply happart a (hk _ ha).1 b hb hnb
    rw [suffixed_name_of_shared ha, ← he, suffixed_name_of_shared ha]
  refine List.Nodup.map_on ?_ hr
  intro a ha b hb he
  by_cases hsa : (⟨a, a⟩ : KeyPair) ∈ keys <;> by_cases hsb : (⟨b, b⟩ : KeyPair) ∈ keys
  · rwa [suffixed_name_of_shared hsa, suffixed_name_of_shared hsb] at he
  · exact absurd he (hshared a ha b hb hsa hsb)
  · exact absurd he.symm (hshared b hb a ha hsb hsa)
  · refine List.inj_on_of_nodup_map hrest ?_ ?_ he
    · exact List.mem_filter.mpr ⟨ha, by simpa using hsa⟩
    · exact List.mem_filter.mpr ⟨hb, by simpa using hsb⟩

theorem common_iff_shared (hk : KeysFound left right keys)
    (hn : (suffixedColumns left right keys suffixes).Nodup) (v : String) :
    v ∈ left.map (suffixedName left right keys suffixes.left) ∧
      v ∈ right.map (suffixedName left right keys suffixes.right) ↔
      (⟨v, v⟩ : KeyPair) ∈ keys := by
  obtain ⟨_, _, happart⟩ := suffixed_columns_nodup.mp hn
  constructor
  · rintro ⟨hl, hr⟩
    obtain ⟨a, ha, rfl⟩ := List.mem_map.mp hl
    obtain ⟨b, hb, he⟩ := List.mem_map.mp hr
    by_cases hs : (⟨b, b⟩ : KeyPair) ∈ keys
    · rwa [← he, suffixed_name_of_shared hs]
    · exact absurd he.symm (happart a ha b hb hs)
  · intro hs
    obtain ⟨hl, hr⟩ := hk _ hs
    exact ⟨List.mem_map.mpr ⟨v, hl, suffixed_name_of_shared hs⟩,
      List.mem_map.mpr ⟨v, hr, suffixed_name_of_shared hs⟩⟩

theorem remapped_keys (keys' : List KeyPair) :
    (suffixPlan left right keys suffixes).remapKeys keys' =
      keys'.map fun key => ⟨suffixedName left right keys suffixes.left key.left,
        suffixedName left right keys suffixes.right key.right⟩ := by
  simp only [Disambiguation.remapKeys, suffixPlan, renamed_collisions]

theorem remapped_shared (hr : right.Nodup) (hk : KeysFound left right keys)
    (hn : (suffixedColumns left right keys suffixes).Nodup) {key : KeyPair} (hm : key ∈ keys) :
    suffixedName left right keys suffixes.left key.left =
      suffixedName left right keys suffixes.right key.right ↔ key.left = key.right := by
  obtain ⟨hleft, _, _⟩ := suffixed_columns_nodup.mp hn
  obtain ⟨hkl, hkr⟩ := hk key hm
  constructor
  · intro he
    -- The common name is a shared key, and on either side only that key goes by it.
    have hs := (common_iff_shared hk hn _).mp
      ⟨List.mem_map.mpr ⟨_, hkl, rfl⟩, he ▸ List.mem_map.mpr ⟨_, hkr, rfl⟩⟩
    obtain ⟨hsl, hsr⟩ := hk _ hs
    have h1 : key.left = suffixedName left right keys suffixes.left key.left :=
      List.inj_on_of_nodup_map hleft hkl hsl (suffixed_name_of_shared hs).symm
    have h2 : key.right = suffixedName left right keys suffixes.left key.left :=
      List.inj_on_of_nodup_map (right_side_nodup hr hk hn) hkr hsr
        (he.symm.trans (suffixed_name_of_shared hs).symm)
    exact h1.trans h2.symm
  · intro he
    have hs : (⟨key.left, key.left⟩ : KeyPair) ∈ keys := by
      have hkey : key = ⟨key.left, key.left⟩ := by
        cases key
        simp only at he
        subst he
        rfl
      rwa [hkey] at hm
    rw [← he, suffixed_name_of_shared hs, suffixed_name_of_shared hs]

/-- The remapped keys have one name exactly where a key had. -/
theorem shared_remapped (hk : KeysFound left right keys)
    (hn : (suffixedColumns left right keys suffixes).Nodup) (v : String) :
    (⟨v, v⟩ : KeyPair) ∈ (suffixPlan left right keys suffixes).remapKeys keys ↔
      (⟨v, v⟩ : KeyPair) ∈ keys := by
  rw [remapped_keys]
  constructor
  · intro hm
    obtain ⟨key, hkey, he⟩ := List.mem_map.mp hm
    obtain ⟨hkl, hkr⟩ := hk key hkey
    simp only [KeyPair.mk.injEq] at he
    exact (common_iff_shared hk hn v).mp
      ⟨List.mem_map.mpr ⟨_, hkl, he.1⟩, List.mem_map.mpr ⟨_, hkr, he.2⟩⟩
  · intro hs
    refine List.mem_map.mpr ⟨⟨v, v⟩, hs, ?_⟩
    simp only [suffixed_name_of_shared hs]

/-- Joining the renamed sides on the remapped keys gives the suffixed columns. -/
theorem join_columns_suffixed (hk : KeysFound left right keys)
    (hn : (suffixedColumns left right keys suffixes).Nodup) :
    joinColumns (left.map (suffixedName left right keys suffixes.left))
        (right.map (suffixedName left right keys suffixes.right))
        ((suffixPlan left right keys suffixes).remapKeys keys) =
      suffixedColumns left right keys suffixes := by
  unfold joinColumns suffixedColumns
  rw [join_columns_filter, List.filter_map]
  congr 2
  apply List.filter_congr
  intro w hw
  simp only [Function.comp_apply, shared_remapped hk hn, decide_not]
  congr 1
  rw [decide_eq_decide]
  constructor
  · intro hs
    -- The suffixed name is a left column, so `w` cannot be among the columns kept apart.
    by_contra hw'
    obtain ⟨hl, _⟩ := hk _ hs
    refine (suffixed_columns_nodup.mp hn).2.2 _ hl w hw hw' ?_
    exact suffixed_name_of_shared hs
  · intro hs
    rwa [suffixed_name_of_shared hs]

/-- Each shared name stands once on the right. -/
theorem shared_names_count (hr : right.Nodup) (hk : KeysFound left right keys) :
    (right.filter fun v => (⟨v, v⟩ : KeyPair) ∉ keys).length + (sharedNames keys).length =
      right.length := by
  have hp : List.Perm (right.filter fun v => (⟨v, v⟩ : KeyPair) ∈ keys) (sharedNames keys) := by
    have hd : (sharedNames keys).Nodup := List.nodup_dedup _
    refine (List.perm_ext_iff_of_nodup (hr.filter _) hd).mpr fun v => ?_
    rw [mem_shared_names, List.mem_filter, decide_eq_true_eq]
    exact ⟨fun h => h.2, fun h => ⟨(hk _ h).2, h⟩⟩
  have hsplit := List.length_eq_length_filter_add (l := right)
    (fun v => decide ((⟨v, v⟩ : KeyPair) ∉ keys))
  simp only [decide_not, Bool.not_not] at hsplit
  rw [← hp.length_eq]
  simp only [decide_not]
  omega

theorem suffixed_columns_length (hr : right.Nodup) (hk : KeysFound left right keys) :
    (suffixedColumns left right keys suffixes).length + (sharedNames keys).length =
      left.length + right.length := by
  have hc := shared_names_count hr hk
  simp only [suffixedColumns, List.length_append, List.length_map]
  omega

theorem suffixed_separated (hr : right.Nodup) (hk : KeysFound left right keys)
    (hn : (suffixedColumns left right keys suffixes).Nodup) :
    Separated left right keys (suffixPlan left right keys suffixes)
      (left.map (suffixedName left right keys suffixes.left))
      (right.map (suffixedName left right keys suffixes.right)) where
  left_distinct := (suffixed_columns_nodup.mp hn).1
  right_distinct := right_side_nodup hr hk hn
  common := common_iff_shared hk hn
  keys_found := by
    rw [remapped_keys]
    intro key hm
    obtain ⟨key, hkey, rfl⟩ := List.mem_map.mp hm
    obtain ⟨hkl, hkr⟩ := hk key hkey
    exact ⟨List.mem_map.mpr ⟨_, hkl, rfl⟩, List.mem_map.mpr ⟨_, hkr, rfl⟩⟩
  keys_shared := by
    intro key hm
    simp only [suffixPlan, renamed_collisions]
    exact remapped_shared hr hk hn hm
  columns_distinct := by
    rw [join_columns_suffixed hk hn]
    exact hn
  columns_count := by
    rw [join_columns_suffixed hk hn]
    exact suffixed_columns_length hr hk

end

end LayeredSql.Names
