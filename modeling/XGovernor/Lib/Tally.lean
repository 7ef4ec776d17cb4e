import Mathlib.Algebra.Order.BigOperators.Group.Finset
import Mathlib.Data.Set.Card
import XGovernor.Lib.Table

/-!
# Tallies

How many keys of a partial map have a given value, and how that number changes when one key is
set or cleared.  A table is counted by the tally of its lookups.  Counters that are kept per key
have a total.
-/

namespace XGovernor.Lib

open Function

universe u v w

variable {K : Type u} {V : Type v} {A : Type w}

/-- Only finitely many keys have a value. -/
def FiniteSupport (f : K → Option A) : Prop :=
  {k | f k ≠ none}.Finite

/-- The number of keys with the value `a`. -/
noncomputable def tally (f : K → Option A) (a : A) : Nat :=
  {k | f k = some a}.ncard

/-- Whether this value is there, as a number. -/
def occurs [DecidableEq A] (o : Option A) (a : A) : Nat :=
  if o = some a then 1 else 0

@[simp] theorem occurs_none [DecidableEq A] (a : A) : occurs none a = 0 := rfl

@[simp] theorem occurs_self [DecidableEq A] (a : A) : occurs (some a) a = 1 :=
  if_pos rfl

theorem occurs_of_ne [DecidableEq A] {a b : A} (h : a ≠ b) : occurs (some a) b = 0 :=
  if_neg fun heq => h (Option.some.inj heq)

theorem FiniteSupport.finite {f : K → Option A} (hf : FiniteSupport f) (a : A) :
    {k | f k = some a}.Finite :=
  Set.Finite.subset hf fun k (hk : f k = some a) => by simp [hk]

theorem FiniteSupport.tally_pos {f : K → Option A} (hf : FiniteSupport f) {k : K} {a : A}
    (hk : f k = some a) : 0 < tally f a :=
  (Set.ncard_pos (hf.finite a)).mpr ⟨k, hk⟩

section Update

variable [DecidableEq K] {f : K → Option A} {k : K} {a b : A}

section

variable (hf : FiniteSupport f)
include hf

theorem FiniteSupport.update (k : K) (o : Option A) :
    FiniteSupport (update f k o) := by
  refine Set.Finite.subset (hf.insert k) fun k' hk' => ?_
  by_cases h : k' = k
  · exact .inl h
  · refine .inr ?_
    simpa [update_of_ne h] using hk'

/-- Setting a key that has no value. -/
theorem tally_update_some [DecidableEq A] (hk : f k = none) (a b : A) :
    tally (update f k (some a)) b = tally f b + if a = b then 1 else 0 := by
  have hnot : k ∉ {k' | f k' = some b} := by simp [hk]
  by_cases hab : a = b
  · subst hab
    have hset : {k' | update f k (some a) k' = some a} = insert k {k' | f k' = some a} := by
      ext k'
      by_cases h : k' = k <;> simp [h, update_of_ne]
    rw [tally, hset, Set.ncard_insert_of_notMem hnot (hf.finite a), if_pos rfl, tally]
  · have hset : {k' | update f k (some a) k' = some b} = {k' | f k' = some b} := by
      ext k'
      by_cases h : k' = k <;> simp [h, update_of_ne, hab, hk]
    rw [tally, hset, if_neg hab, tally, Nat.add_zero]

/-- Clearing a key. -/
theorem tally_update_none [DecidableEq A] (hk : f k = some a) (b : A) :
    tally f b = tally (update f k none) b + if a = b then 1 else 0 := by
  have hback : f = update (update f k none) k (some a) := by
    rw [update_idem, ← hk, update_eq_self]
  conv_lhs => rw [hback]
  exact tally_update_some (hf.update k none) (update_self ..) a b

/-- Setting one key to anything: what was counted there before goes, and what is there now comes. -/
theorem tally_update [DecidableEq A] (k : K) (o : Option A) (b : A) :
    tally (update f k o) b + occurs (f k) b = tally f b + occurs o b := by
  -- both sides count the map with the key cleared
  have hclear : tally f b = tally (update f k none) b + occurs (f k) b := by
    cases hk : f k with
    | none => rw [← hk, update_eq_self, hk, occurs_none, Nat.add_zero]
    | some a => simpa [occurs] using tally_update_none hf hk b
  have hset : tally (update f k o) b = tally (update f k none) b + occurs o b := by
    cases o with
    | none => rfl
    | some a =>
      have hnone : update f k none k = none := update_self ..
      have hsome := tally_update_some (hf.update k none) hnone a b
      simpa [occurs] using hsome
  omega

end

end Update

section Sum

variable {L : Type*} {f : K → Option A} {g : L → Option A}

/-- The keys of two maps, kept apart, are counted one map after the other. -/
theorem tally_sum_elim (hf : FiniteSupport f) (hg : FiniteSupport g) (a : A) :
    tally (Sum.elim f g) a = tally f a + tally g a := by
  have hset : {k | Sum.elim f g k = some a} =
      Sum.inl '' {k | f k = some a} ∪ Sum.inr '' {k | g k = some a} := by
    ext (k | k) <;> simp
  have hdisjoint : Disjoint (Sum.inl '' {k | f k = some a} : Set (K ⊕ L))
      (Sum.inr '' {k | g k = some a}) := by
    rw [Set.disjoint_left]
    rintro _ ⟨k, -, rfl⟩ ⟨l, -, hl⟩
    cases hl
  rw [tally, hset, Set.ncard_union_eq hdisjoint ((hf.finite a).image _) ((hg.finite a).image _),
    Set.ncard_image_of_injective _ Sum.inl_injective,
    Set.ncard_image_of_injective _ Sum.inr_injective, tally, tally]

theorem FiniteSupport.inl (h : FiniteSupport (Sum.elim f g)) : FiniteSupport f :=
  Set.Finite.preimage Sum.inl_injective.injOn h

theorem FiniteSupport.inr (h : FiniteSupport (Sum.elim f g)) : FiniteSupport g :=
  Set.Finite.preimage Sum.inr_injective.injOn h

theorem FiniteSupport.elim (hf : FiniteSupport f) (hg : FiniteSupport g) :
    FiniteSupport (Sum.elim f g) := by
  refine ((hf.image Sum.inl).union (hg.image Sum.inr)).subset ?_
  rintro (k | k) hk
  · exact .inl ⟨k, hk, rfl⟩
  · exact .inr ⟨k, hk, rfl⟩

end Sum

theorem finiteSupport_none : FiniteSupport fun _ : K => (none : Option A) := by
  simp [FiniteSupport]

@[simp] theorem tally_none (a : A) : tally (fun _ : K => none) a = 0 := by
  simp [tally]

/-! ## Totals -/

/-- The counters, all but finitely many of them zero, add up to the total. -/
def Totals (counts : K → Nat) (total : Nat) : Prop :=
  ∃ keys : Finset K, (∀ k, k ∉ keys → counts k = 0) ∧ ∑ k ∈ keys, counts k = total

section Totals

variable [DecidableEq K] {counts : K → Nat} {total : Nat}

theorem Totals.le (h : Totals counts total) (k : K) : counts k ≤ total := by
  obtain ⟨keys, hzero, rfl⟩ := h
  by_cases hk : k ∈ keys
  · exact Finset.single_le_sum (fun _ _ => Nat.zero_le _) hk
  · rw [hzero k hk]
    exact Nat.zero_le _

/-- The total follows when one counter is set. -/
theorem Totals.update (h : Totals counts total) {k : K} {n total' : Nat}
    (htotal : total' + counts k = total + n) : Totals (update counts k n) total' := by
  obtain ⟨keys, hzero, rfl⟩ := h
  have hmem : k ∈ insert k keys := Finset.mem_insert_self k keys
  refine ⟨insert k keys, fun k' hk' => ?_, ?_⟩
  · rw [Finset.mem_insert, not_or] at hk'
    rw [update_of_ne hk'.1]
    exact hzero k' hk'.2
  · have hsum : ∑ k' ∈ insert k keys, counts k' = ∑ k' ∈ keys, counts k' := by
      rw [Finset.sum_insert_of_eq_zero_if_notMem (hzero k)]
    rw [Finset.sum_update_of_mem hmem]
    rw [← Finset.add_sum_erase _ _ hmem, ← Finset.sdiff_singleton_eq_erase] at hsum
    omega

end Totals

/-! ## Counting rows -/

theorem Table.finiteSupport [DecidableEq K] (t : Table K V) (f : V → Option A) :
    FiniteSupport fun k => (t.get? k).bind f := by
  refine Set.Finite.subset (List.finite_toSet (t.rows.map Prod.fst)) fun k hk => ?_
  obtain ⟨v, hv⟩ : ∃ v, t.get? k = some v := by
    rw [← Option.isSome_iff_exists, Option.isSome_iff_ne_none]
    intro hnone
    exact hk (by simp [hnone])
  exact List.mem_map.mpr ⟨(k, v), Table.get?_eq_some_iff.mp hv, rfl⟩

/-- The number of rows with the value `a` is the tally of the lookups. -/
theorem Table.count_eq_tally [DecidableEq K] [DecidableEq A] (t : Table K V) (f : V → Option A)
    (a : A) :
    t.count (fun _ v => f v = some a) = tally (fun k => (t.get? k).bind f) a := by
  let keys := (t.rows.filter fun row => f row.2 = some a).map Prod.fst
  have hnodup : keys.Nodup := (List.filter_sublist.map Prod.fst).nodup t.keys_nodup
  have hset : {k | (t.get? k).bind f = some a} = ↑keys.toFinset := by
    ext k
    simp [keys, Option.bind_eq_some_iff, Table.get?_eq_some_iff]
  rw [tally, hset, Set.ncard_coe_finset, List.toFinset_card_of_nodup hnodup, List.length_map,
    Table.count, List.countP_eq_length_filter]

end XGovernor.Lib
