import SedsNet.Ingress

/-!
# Bounded caches

Three tables are kept small in the same way: the ids are listed in the order in which they came, an id that comes again is
listed anew, and the oldest go from the list and from the table until there is room (`rememberId`). `Cached` is what this
keeps of a table and its list. Entries that leave the table by another way leave their ids in the list.
-/

set_option autoImplicit false

namespace SedsNet

/-- Every id is listed once, no more than `cap` of them (or one), and no entry is without its id. -/
structure Cached {α : Type} (cap : Nat) (order : List UInt64) (m : Map UInt64 α) : Prop where
  nodup : order.Nodup
  capped : order.length ≤ max 1 cap
  listed : ∀ id ∈ m, id ∈ order

section

variable {α : Type} {cap : Nat} {order : List UInt64} {m m' : Map UInt64 α} {id x : UInt64}

theorem length_rememberId : (rememberId cap order id).2.length ≤ max 1 cap := by
  unfold rememberId
  dsimp only
  rw [List.length_append, List.length_drop, List.length_singleton]
  omega

/-- The id is the newest, and the others that stay are the ones that do not go. -/
theorem mem_rememberId (hnodup : order.Nodup) :
    x ∈ (rememberId cap order id).2 ↔ x = id ∨ x ∈ order ∧ x ∉ (rememberId cap order id).1 := by
  unfold rememberId
  dsimp only
  generalize (order.filter (· ≠ id)).length + 1 - max 1 cap = gone
  have hfiltered : (order.filter (· ≠ id)).Nodup := hnodup.filter _
  rw [List.mem_append, List.mem_singleton]
  have hmem : x ∈ order.filter (· ≠ id) ↔ x ∈ order ∧ x ≠ id := by
    rw [List.mem_filter]
    simp
  have hsplit : x ∈ (order.filter (· ≠ id)).take gone ∨ x ∈ (order.filter (· ≠ id)).drop gone ↔ x ∈ order ∧ x ≠ id := by
    rw [← List.mem_append, List.take_append_drop, hmem]
  have hdisjoint : x ∈ (order.filter (· ≠ id)).take gone → x ∉ (order.filter (· ≠ id)).drop gone := by
    intro htaken hdropped
    rw [← List.take_append_drop gone (order.filter (· ≠ id)), List.nodup_append] at hfiltered
    exact hfiltered.2.2 x htaken x hdropped rfl
  constructor
  · rintro (hdropped | hsame)
    · exact .inr ⟨(hsplit.mp (.inr hdropped)).1, fun htaken => hdisjoint htaken hdropped⟩
    · exact .inl hsame
  · rintro (hsame | ⟨hlisted, hkept⟩)
    · exact .inr hsame
    · by_cases hsame : x = id
      · exact .inr hsame
      · exact .inl ((hsplit.mpr ⟨hlisted, hsame⟩).resolve_left hkept)

theorem nodup_rememberId (hnodup : order.Nodup) : (rememberId cap order id).2.Nodup := by
  unfold rememberId
  dsimp only
  rw [List.nodup_append]
  refine ⟨(hnodup.filter _).sublist (List.drop_sublist _ _), List.nodup_singleton id, ?_⟩
  intro x hx y hy heq
  rw [List.mem_singleton.mp hy] at heq
  have hother := (List.mem_filter.mp (List.mem_of_mem_drop hx)).2
  simp [heq] at hother

/-- The entries after an id was remembered and its entry written. -/
theorem mem_remembered (v : α) :
    x ∈ ((rememberId cap order id).1.foldl (fun m old => m.erase old) m).insert id v ↔
      x = id ∨ x ∈ m ∧ x ∉ (rememberId cap order id).1 := by
  rw [AList.mem_insert]
  generalize (rememberId cap order id).1 = gone
  have hfold : x ∈ gone.foldl (fun m old => m.erase old) m ↔ x ∈ m ∧ x ∉ gone := by
    rw [← AList.lookup_isSome, ← AList.lookup_isSome, Map.lookup_foldl_erase]
    by_cases hgone : x ∈ gone
    · simp [hgone]
    · simp [hgone]
  rw [hfold]

namespace Cached

theorem empty : Cached cap [] (∅ : Map UInt64 α) :=
  ⟨.nil, Nat.zero_le _, fun id hid => absurd hid (AList.notMem_empty id)⟩

/-- Entries leave the table, or are written anew. -/
theorem less (h : Cached cap order m) {β : Type} {m' : Map UInt64 β} (hless : ∀ id ∈ m', id ∈ m) : Cached cap order m' :=
  ⟨h.nodup, h.capped, fun id hid => h.listed id (hless id hid)⟩

theorem remember (h : Cached cap order m) (id : UInt64) (v : α) :
    Cached cap (rememberId cap order id).2 (((rememberId cap order id).1.foldl (fun m old => m.erase old) m).insert id v) := by
  refine ⟨nodup_rememberId h.nodup, length_rememberId, ?_⟩
  intro x hx
  rw [mem_rememberId h.nodup]
  exact ((mem_remembered v).mp hx).imp_right fun hold => ⟨h.listed x hold.1, hold.2⟩

end Cached

/-- If every listed id has an entry, it goes on having one. -/
theorem listed_remembered (hnodup : order.Nodup) (hall : ∀ id ∈ order, id ∈ m) (id : UInt64) (v : α) :
    ∀ x ∈ (rememberId cap order id).2, x ∈ ((rememberId cap order id).1.foldl (fun m old => m.erase old) m).insert id v := by
  intro x hx
  rw [mem_remembered]
  exact ((mem_rememberId hnodup).mp hx).imp_right fun hold => ⟨hall x hold.1, hold.2⟩

end

end SedsNet
