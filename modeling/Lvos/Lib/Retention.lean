import Mathlib.Data.List.Sort

set_option autoImplicit false

namespace Retention

/-! What a bounded history keeps: the values with the greatest keys. -/

variable {α κ : Type} [LinearOrder κ] (key : α → κ) (count : Nat)

/-- A stable sort by key. -/
def byKey (values : List α) : List α :=
  values.insertionSort (fun first second => key first ≤ key second)

def expired (values : List α) : List α :=
  (byKey key values).take (values.length - count)

def retained (values : List α) : List α :=
  (byKey key values).drop (values.length - count)

variable {key} {count}

theorem byKey_perm (values : List α) : (byKey key values).Perm values :=
  List.perm_insertionSort _ values

theorem byKey_pairwise (values : List α) :
    (byKey key values).Pairwise (fun first second => key first ≤ key second) := by
  have total : Std.Total (fun first second : α => key first ≤ key second) :=
    ⟨fun first second => le_total (key first) (key second)⟩
  have transitive : IsTrans α (fun first second => key first ≤ key second) :=
    ⟨fun _ _ _ => le_trans⟩
  exact List.pairwise_insertionSort _ values

theorem expired_append_retained (values : List α) :
    expired key count values ++ retained key count values = byKey key values :=
  List.take_append_drop ..

theorem mem_expired_or_retained {values : List α} {value : α} :
    value ∈ expired key count values ∨ value ∈ retained key count values ↔ value ∈ values := by
  rw [← List.mem_append, expired_append_retained, (byKey_perm values).mem_iff]

theorem length_retained_le (values : List α) : (retained key count values).length ≤ count := by
  rw [retained, List.length_drop, (byKey_perm values).length_eq]
  omega

/-- Nothing expires while there are no more than `count`. -/
theorem length_retained {values : List α} {value : α}
    (expires : value ∈ expired key count values) : (retained key count values).length = count := by
  have more : 0 < (expired key count values).length := List.length_pos_of_mem expires
  rw [expired, List.length_take, (byKey_perm values).length_eq] at more
  rw [retained, List.length_drop, (byKey_perm values).length_eq]
  omega

theorem expired_le_retained {values : List α} {old recent : α}
    (expires : old ∈ expired key count values) (stays : recent ∈ retained key count values) :
    key old ≤ key recent := by
  have sorted := @byKey_pairwise _ _ _ key values
  rw [← @expired_append_retained _ _ _ key count, List.pairwise_append] at sorted
  exact sorted.2.2 old expires recent stays

theorem disjoint_of_nodup {values : List α} (distinct : values.Nodup) {value : α}
    (expires : value ∈ expired key count values) : value ∉ retained key count values := by
  have sorted : (byKey key values).Nodup := (byKey_perm values).nodup_iff.mpr distinct
  rw [← @expired_append_retained _ _ _ key count, List.nodup_append] at sorted
  intro stays
  exact sorted.2.2 value expires value stays rfl

theorem nodup_retained {values : List α} (distinct : values.Nodup) :
    (retained key count values).Nodup :=
  (List.drop_sublist _ _).nodup ((byKey_perm values).nodup_iff.mpr distinct)

/-- A value with a key of its own stays where fewer than `count` values have a greater one. -/
theorem mem_retained_iff {values : List α} (distinct : values.Nodup) {value : α}
    (member : value ∈ values) (alone : ∀ other ∈ values, key other = key value → other = value) :
    value ∈ retained key count values ↔
      (values.filter (fun other => key value < key other)).length < count := by
  have sorted := @byKey_pairwise _ _ _ key values
  have perm := @byKey_perm _ _ _ key values
  have unique : (byKey key values).Nodup := perm.nodup_iff.mpr distinct
  obtain ⟨before, after, split⟩ := List.append_of_mem (perm.mem_iff.mpr member)
  have inside : ∀ other ∈ before ++ value :: after, other ∈ values := by
    intro other there
    rw [← split] at there
    exact perm.mem_iff.mp there
  have total : before.length + 1 + after.length = values.length := by
    rw [← perm.length_eq, split, List.length_append, List.length_cons]
    omega
  rw [split] at sorted unique
  obtain ⟨-, fromValue, ordered⟩ := List.pairwise_append.mp sorted
  obtain ⟨-, valueOnce, apart⟩ := List.nodup_append.mp unique
  have lower : ∀ other ∈ before, ¬key value < key other := by
    intro other there
    exact not_lt.mpr (ordered other there value List.mem_cons_self)
  have upper : ∀ other ∈ after, key value < key other := by
    intro other there
    have above : key value ≤ key other := List.rel_of_pairwise_cons fromValue there
    refine lt_of_le_of_ne above ?_
    intro same
    have equal := alone other
      (inside other (List.mem_append_right _ (List.mem_cons_of_mem _ there))) same.symm
    rw [equal] at there
    exact (List.nodup_cons.mp valueOnce).1 there
  have greater : (values.filter (fun other => key value < key other)).length = after.length := by
    rw [← (perm.filter (fun other => key value < key other)).length_eq, split,
      List.filter_append, List.filter_cons_of_neg (by simp),
      List.filter_eq_nil_iff.mpr (by simpa using lower),
      List.filter_eq_self.mpr (by simpa using upper), List.nil_append]
  rw [greater, retained, split]
  by_cases stays : values.length - count ≤ before.length
  · rw [List.drop_append_of_le_length stays]
    have holds : value ∈ before.drop (values.length - count) ++ value :: after :=
      List.mem_append_right _ List.mem_cons_self
    simp only [holds, true_iff]
    omega
  · have gone : value ∉ (before ++ value :: after).drop (values.length - count) := by
      intro there
      rw [List.drop_append, List.drop_eq_nil_of_le (by omega), List.nil_append] at there
      obtain ⟨skipped, later⟩ := Nat.exists_eq_add_of_lt (Nat.lt_of_not_le stays)
      rw [later, show before.length + skipped + 1 - before.length = skipped + 1 by omega,
        List.drop_succ_cons] at there
      exact (List.nodup_cons.mp valueOnce).1 (List.mem_of_mem_drop there)
    simp only [gone, false_iff]
    omega

end Retention
