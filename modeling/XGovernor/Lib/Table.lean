import Mathlib.Algebra.Order.BigOperators.Group.List
import Mathlib.Algebra.GroupWithZero.Nat
import Mathlib.Algebra.Order.Group.Nat
import Mathlib.Data.List.Nodup

/-!
# Keyed tables

Relational tables with a primary key: a finite list of rows in insertion order
whose keys are pairwise distinct.  The statements of SQL that a transactional
store uses (`INSERT OR IGNORE`, `UPDATE … WHERE`, `DELETE … WHERE`, `EXISTS`,
`count(*)`, `sum`) are total functions on tables.

Every operation is characterised by its action on the lookup function
`Table.get?`, which is the abstraction of a table to a partial map; proofs about
a store never look at the list of rows.
-/

namespace XGovernor.Lib

open Function

universe u v

/-- A value of an updated function is the new one or an old one. -/
theorem update_cases {α : Type u} {β : Type v} [DecidableEq α] {f : α → β} {i j : α} {x y : β}
    (h : update f i x j = y) : j = i ∧ x = y ∨ j ≠ i ∧ f j = y := by
  by_cases hj : j = i
  · exact .inl ⟨hj, by rwa [hj, update_self] at h⟩
  · exact .inr ⟨hj, by rwa [update_of_ne hj] at h⟩

instance decidableExistsSome {α : Type u} {p : α → Prop} [DecidablePred p] :
    (o : Option α) → Decidable (∃ a, o = some a ∧ p a)
  | none => isFalse (by simp)
  | some a => decidable_of_iff (p a) (by simp)

@[simp] theorem filter_true {α : Type u} (o : Option α) : o.filter (fun _ => true) = o := by
  cases o <;> rfl

/-- A table with primary key `K` and row contents `V`. -/
structure Table (K : Type u) (V : Type v) where
  rows : List (K × V)
  keys_nodup : (rows.map Prod.fst).Nodup

namespace Table

variable {K : Type u} {V : Type v}

/-- The table without rows. -/
def empty : Table K V where
  rows := []
  keys_nodup := List.nodup_nil

instance : Inhabited (Table K V) := ⟨empty⟩

/-- `SELECT … WHERE key = k`. -/
def get? [DecidableEq K] (t : Table K V) (k : K) : Option V :=
  (t.rows.find? fun row => row.1 = k).map Prod.snd

variable (t : Table K V) (p : K → V → Bool)

/-- `SELECT EXISTS(… WHERE p)`. -/
def any : Bool :=
  t.rows.any fun row => p row.1 row.2

/-- `SELECT count(*) … WHERE p`; also the number of rows an `UPDATE` or `DELETE` changes. -/
def count : Nat :=
  t.rows.countP fun row => p row.1 row.2

/-- `SELECT … WHERE p`, in insertion order. -/
def select : List (K × V) :=
  t.rows.filter fun row => p row.1 row.2

/-- `SELECT coalesce(sum(f), 0)`. -/
def sum (f : K → V → Nat) : Nat :=
  (t.rows.map fun row => f row.1 row.2).sum

/-- `UPDATE … SET f WHERE p`: the key columns are never assigned. -/
def modify (f : V → V) : Table K V where
  rows := t.rows.map fun row => (row.1, if p row.1 row.2 then f row.2 else row.2)
  keys_nodup := by
    simpa [List.map_map, Function.comp_def] using t.keys_nodup

/-- `DELETE … WHERE p`. -/
def erase : Table K V where
  rows := t.rows.filter fun row => !p row.1 row.2
  keys_nodup := (List.filter_sublist.map Prod.fst).nodup t.keys_nodup

variable [DecidableEq K] {t : Table K V} {k k' : K} {v v' : V} {p : K → V → Bool}
  {m m' : K → Option V} {P : K → V → Prop} {m'' : K → Option V} {q : K → V → Bool}

theorem get?_eq_some_iff :
    t.get? k = some v ↔ (k, v) ∈ t.rows := by
  constructor
  · intro h
    obtain ⟨⟨k', v'⟩, hfind, rfl⟩ := Option.map_eq_some_iff.1 h
    obtain rfl : k' = k := by simpa using List.find?_some hfind
    exact List.mem_of_find?_eq_some hfind
  · intro hmem
    -- the row that `find?` returns has the same key, so it is this row
    obtain ⟨⟨k', v'⟩, hfind⟩ : ∃ row, t.rows.find? (fun row => row.1 = k) = some row := by
      rw [← Option.isSome_iff_exists, List.find?_isSome]
      exact ⟨(k, v), hmem, by simp⟩
    obtain rfl : k' = k := by simpa using List.find?_some hfind
    have hmem' := List.mem_of_find?_eq_some hfind
    obtain ⟨-, rfl⟩ := Prod.ext_iff.1
      (List.inj_on_of_nodup_map t.keys_nodup hmem' hmem rfl)
    simp [get?, hfind]

theorem get?_eq_none_iff :
    t.get? k = none ↔ ∀ v, (k, v) ∉ t.rows := by
  rw [Option.eq_none_iff_forall_ne_some]
  exact forall_congr' fun v => not_congr get?_eq_some_iff

/-- `INSERT OR IGNORE`.  A plain `INSERT` is the same after a check that the key is free. -/
def add (k : K) (v : V) : Table K V :=
  if h : t.get? k = none then
    { rows := t.rows ++ [(k, v)]
      keys_nodup := by
        have hfree : k ∉ t.rows.map Prod.fst := by
          simpa using get?_eq_none_iff.1 h
        rw [List.map_append, List.nodup_append]
        refine ⟨t.keys_nodup, by simp, ?_⟩
        rintro a ha b hb rfl
        obtain rfl : a = k := by simpa using hb
        exact hfree ha }
  else t

/-- `INSERT … ON CONFLICT(key) DO UPDATE`, with every column assigned. -/
def upsert (t : Table K V) (k : K) (v : V) : Table K V :=
  (t.erase fun k' _ => k' = k).add k v

/-! ## Action on lookups -/

@[simp] theorem get?_empty (k : K) : (empty : Table K V).get? k = none := rfl

theorem get?_modify (t : Table K V) (p : K → V → Bool) (f : V → V) (k : K) :
    (t.modify p f).get? k = (t.get? k).map fun v => if p k v then f v else v := by
  ext w
  rw [get?_eq_some_iff, Option.map_eq_some_iff]
  constructor
  · intro h
    obtain ⟨⟨k', v⟩, hmem, heq⟩ := List.mem_map.1 h
    obtain ⟨rfl, rfl⟩ := Prod.ext_iff.1 heq
    exact ⟨v, get?_eq_some_iff.2 hmem, rfl⟩
  · rintro ⟨v, hv, rfl⟩
    exact List.mem_map.2 ⟨(k, v), get?_eq_some_iff.1 hv, rfl⟩

theorem get?_erase (t : Table K V) (p : K → V → Bool) (k : K) :
    (t.erase p).get? k = (t.get? k).filter fun v => !p k v := by
  ext w
  rw [get?_eq_some_iff, Option.filter_eq_some_iff, get?_eq_some_iff]
  simp [erase, List.mem_filter]

theorem get?_add (t : Table K V) (k : K) (v : V) (k' : K) :
    (t.add k v).get? k' = (t.get? k').or (if k' = k then some v else none) := by
  by_cases h : t.get? k = none
  · rw [add, dif_pos h]
    simp only [get?, List.find?_append, Option.map_or]
    by_cases hk : k' = k
    · simp [hk]
    · simp [hk, Ne.symm hk]
  · rw [add, dif_neg h]
    by_cases hk : k' = k
    · subst hk
      obtain ⟨w, hw⟩ := Option.ne_none_iff_exists'.1 h
      simp [hw]
    · simp [hk]

/-- A row added at a free key is found there, and every other lookup is unchanged. -/
theorem get?_add_of_free (hfree : t.get? k = none) (v : V) (k' : K) :
    (t.add k v).get? k' = if k' = k then some v else t.get? k' := by
  rw [get?_add]
  by_cases hk : k' = k
  · simp [hk, hfree]
  · simp [hk]

theorem get?_add_self (hfree : t.get? k = none) (v : V) : (t.add k v).get? k = some v := by
  rw [get?_add_of_free hfree, if_pos rfl]

/-- A row found after an insertion was there before, or it is the new one. -/
theorem get?_add_cases (h : (t.add k v).get? k' = some v') :
    t.get? k' = some v' ∨ t.get? k' = none ∧ k' = k ∧ v' = v := by
  cases hk : t.get? k' with
  | none => simpa [get?_add, hk, eq_comm] using h
  | some w => simpa [get?_add, hk] using h

theorem get?_add_new (hnone : t.get? k' = none) (h : (t.add k v).get? k' = some v') :
    k' = k ∧ v' = v := by
  rcases get?_add_cases h with hold | ⟨-, hnew⟩
  · cases hnone.symm.trans hold
  · exact hnew

/-- An update leaves the rows that it does not match. -/
theorem get?_modify_of_not (hnot : ∀ v, t.get? k = some v → p k v = false) (f : V → V) :
    (t.modify p f).get? k = t.get? k := by
  rw [get?_modify]
  cases hk : t.get? k with
  | none => rfl
  | some v => simp [hnot v hk]

theorem get?_modify_key_of_ne (t : Table K V) (hne : k' ≠ k) (f : V → V) :
    (t.modify (fun key _ => key = k) f).get? k' = t.get? k' :=
  get?_modify_of_not (fun _ _ => by simp [hne]) f

theorem get?_modify_key_self (hv : t.get? k = some v) (f : V → V) :
    (t.modify (fun key _ => key = k) f).get? k = some (f v) := by
  simp [get?_modify, hv]

/-- A deletion leaves the rows that it does not match. -/
theorem get?_erase_of_not (hnot : ∀ v, t.get? k = some v → p k v = false) :
    (t.erase p).get? k = t.get? k := by
  rw [get?_erase]
  cases hk : t.get? k with
  | none => rfl
  | some v => simp [hnot v hk]

theorem get?_add_of_ne (t : Table K V) (hne : k' ≠ k) (v : V) :
    (t.add k v).get? k' = t.get? k' := by
  rw [get?_add, if_neg hne, Option.or_none]

theorem get?_upsert (t : Table K V) (k : K) (v : V) (k' : K) :
    (t.upsert k v).get? k' = if k' = k then some v else t.get? k' := by
  have hfree : (t.erase fun k' _ => k' = k).get? k = none := by simp [get?_erase]
  rw [upsert, get?_add_of_free hfree, get?_erase]
  by_cases hk : k' = k
  · rw [if_pos hk, if_pos hk]
  · cases t.get? k' <;> simp [hk]

/-! The same statements on partial maps, which a table is abstracted to. -/

/-- `UPDATE … SET f WHERE p` on a partial map. -/
def modified (m : K → Option V) (p : K → V → Bool) (f : V → V) : K → Option V :=
  fun k => (m k).map fun v => if p k v then f v else v

/-- `INSERT OR IGNORE` on a partial map. -/
def extended (m : K → Option V) (k : K) (v : V) : K → Option V :=
  fun k' => (m k').or (if k' = k then some v else none)

/-- `DELETE … WHERE p` on a partial map. -/
def erased (m : K → Option V) (p : K → V → Bool) : K → Option V :=
  fun k => (m k).filter fun v => !p k v

theorem get?_modify_eq (t : Table K V) (p : K → V → Bool) (f : V → V) :
    (t.modify p f).get? = modified t.get? p f :=
  funext (get?_modify t p f)

theorem get?_add_eq (t : Table K V) (k : K) (v : V) :
    (t.add k v).get? = extended t.get? k v :=
  funext (get?_add t k v)

theorem get?_erase_eq (t : Table K V) (p : K → V → Bool) :
    (t.erase p).get? = erased t.get? p :=
  funext (get?_erase t p)

/-- An update that matches one row writes one entry. -/
theorem modified_eq_update (hv : m k = some v) (hp : p k v = true)
    (honly : ∀ k' v', p k' v' = true → k' = k) (f : V → V) :
    modified m p f = update m k (some (f v)) := by
  funext k'
  by_cases hk : k' = k
  · subst hk
    simp [modified, hv, hp]
  · cases hm : m k' with
    | none => simp [modified, hk, hm]
    | some v' =>
      have hp' : p k' v' = false := Bool.eq_false_iff.2 fun h => hk (honly k' v' h)
      simp [modified, hk, hm, hp']

/-- An update by key writes one entry. -/
theorem modified_key (hv : m k = some v) (f : V → V) :
    modified m (fun k' _ => k' = k) f = update m k (some (f v)) :=
  modified_eq_update hv (by simp) (fun k' _ h => by simpa using h) f

omit [DecidableEq K] in
/-- An update that matches no row changes nothing. -/
theorem modified_of_no_match (h : ∀ k v, m k = some v → p k v = false) (f : V → V) :
    modified m p f = m := by
  funext k
  cases hk : m k with
  | none => simp [modified, hk]
  | some v => simp [modified, hk, h k v hk]

theorem extended_key (hfree : m k = none) (v : V) :
    extended m k v = update m k (some v) := by
  funext k'
  by_cases hk : k' = k
  · subst hk
    simp [extended, hfree]
  · simp [extended, hk]

theorem extended_of_some {w : V} (hw : m k = some w) (v : V) :
    extended m k v = m := by
  funext k'
  by_cases hk : k' = k
  · subst hk
    simp [extended, hw]
  · simp [extended, hk]

/-- What holds of every entry of a map after one of them was written. -/
theorem forall_update (hv : P k v) (hm : ∀ k' v', k' ≠ k → m k' = some v' → P k' v')
    (h : update m k (some v) k' = some v') : P k' v' := by
  rcases update_cases h with ⟨rfl, ⟨⟩⟩ | ⟨hk, h⟩
  · exact hv
  · exact hm k' v' hk h

/-- `m'` has every entry of `m`, and its other entries satisfy `P`. -/
structure Grows (m m' : K → Option V) (P : K → V → Prop) : Prop where
  keep : ∀ k v, m k = some v → m' k = some v
  new : ∀ k v, m' k = some v → m k = some v ∨ (m k = none ∧ P k v)

namespace Grows

omit [DecidableEq K] in
theorem refl (m : K → Option V) (P : K → V → Prop) : Grows m m P where
  keep := fun _ _ h => h
  new := fun _ _ h => .inl h

omit [DecidableEq K] in
theorem free (h : Grows m m' P) (hfree : m' k = none) : m k = none := by
  cases hk : m k with
  | none => rfl
  | some v => simp [h.keep k v hk] at hfree

omit [DecidableEq K] in
/-- A key that no new entry may have is looked up as before. -/
theorem frame (h : Grows m m' P) (hkey : ∀ v, ¬P k v) : m' k = m k := by
  cases hk : m' k with
  | none => exact (h.free hk).symm
  | some v => exact ((h.new k v hk).resolve_right fun hnew => hkey v hnew.2).symm

omit [DecidableEq K] in
theorem trans (h : Grows m m' P) (h' : Grows m' m'' P) : Grows m m'' P where
  keep := fun k v hv => h'.keep k v (h.keep k v hv)
  new := by
    intro k v hv
    rcases h'.new k v hv with hold | ⟨hfree, hP⟩
    · exact h.new k v hold
    · exact .inr ⟨h.free hfree, hP⟩

omit [DecidableEq K] in
theorem mono {Q : K → V → Prop} (h : Grows m m' P) (hPQ : ∀ k v, P k v → Q k v) : Grows m m' Q where
  keep := h.keep
  new := fun k v hv => (h.new k v hv).imp id fun ⟨hfree, hP⟩ => ⟨hfree, hPQ k v hP⟩

theorem update (hfree : m k = none) (hP : P k v) : Grows m (update m k (some v)) P where
  keep := by
    intro k' v' hv'
    have hne : k' ≠ k := by
      rintro rfl
      simp [hfree] at hv'
    rwa [update_of_ne hne]
  new := by
    intro k' v' hv'
    rcases update_cases hv' with ⟨rfl, ⟨⟩⟩ | ⟨-, hv'⟩
    · exact .inr ⟨hfree, hP⟩
    · exact .inl hv'

end Grows

/-- `m'` has an entry for every entry of `m`, moved as `Move` says, and its other entries are as
`New` says. -/
structure Evolves (m m' : K → Option V) (New : K → V → Prop) (Move : K → V → V → Prop) : Prop where
  stays : ∀ {k v}, m k = some v → ∃ v', m' k = some v' ∧ Move k v v'
  new : ∀ {k v'}, m k = none → m' k = some v' → New k v'

namespace Evolves

variable {New : K → V → Prop} {Move : K → V → V → Prop}

omit [DecidableEq K] in
/-- Where an entry comes from. -/
theorem origin (h : Evolves m m' New Move) (hv' : m' k = some v') :
    (m k = none ∧ New k v') ∨ ∃ v, m k = some v ∧ Move k v v' := by
  cases hv : m k with
  | none => exact .inl ⟨rfl, h.new hv hv'⟩
  | some v =>
    obtain ⟨v'', hv'', hmove⟩ := h.stays hv
    cases hv''.symm.trans hv'
    exact .inr ⟨v, rfl, hmove⟩

omit [DecidableEq K] in
theorem trans (htrans : ∀ k v v' v'', Move k v v' → Move k v' v'' → Move k v v'')
    (h : Evolves m m' (fun _ _ => False) Move) (h' : Evolves m' m'' New Move) :
    Evolves m m'' New Move where
  stays := by
    intro k v hv
    obtain ⟨v', hv', hmove⟩ := h.stays hv
    obtain ⟨v'', hv'', hmove'⟩ := h'.stays hv'
    exact ⟨v'', hv'', htrans k v v' v'' hmove hmove'⟩
  new := by
    intro k v'' hnone hv''
    cases hv' : m' k with
    | none => exact h'.new hv' hv''
    | some v' => exact (h.new hnone hv').elim

omit [DecidableEq K] in
theorem mono {Move' : K → V → V → Prop} (h : Evolves m m' New Move)
    (hmove : ∀ k v v', Move k v v' → Move' k v v') : Evolves m m' New Move' where
  stays := by
    intro k v hv
    obtain ⟨v', hv', hmoved⟩ := h.stays hv
    exact ⟨v', hv', hmove k v v' hmoved⟩
  new := h.new

omit [DecidableEq K] in
/-- Every entry is moved. -/
theorem map {g : K → V → V} (hmove : ∀ k v, m k = some v → Move k v (g k v)) :
    Evolves m (fun k => (m k).map (g k)) New Move where
  stays := fun {k v} hv => ⟨g k v, by rw [hv]; rfl, hmove k v hv⟩
  new := fun hnone h => by simp [hnone] at h

variable (hrefl : ∀ k v, Move k v v) {f : V → V}
include hrefl

omit [DecidableEq K] in
theorem ofGrows (h : Grows m m' P) (hnew : ∀ k v, P k v → New k v) : Evolves m m' New Move where
  stays := fun {k v} hv => ⟨v, h.keep k v hv, hrefl k v⟩
  new := by
    intro k v hnone hv
    rcases h.new k v hv with hold | ⟨-, hP⟩
    · cases hnone.symm.trans hold
    · exact hnew k v hP

omit [DecidableEq K] in
theorem refl : Evolves m m New Move where
  stays := fun h => ⟨_, h, hrefl _ _⟩
  new := fun h h' => nomatch h.symm.trans h'

omit [DecidableEq K] in
theorem of_eq (h : m' = m) : Evolves m m' New Move :=
  h ▸ refl hrefl

theorem add (hfree : m k = none) (hnew : New k v) :
    Evolves m (update m k (some v)) New Move :=
  ofGrows hrefl (Grows.update hfree hnew) fun _ _ => id

theorem move (hv : m k = some v) (hmove : Move k v v') :
    Evolves m (update m k (some v')) New Move where
  stays := by
    intro k' w hw
    by_cases hk : k' = k
    · subst hk
      cases hv.symm.trans hw
      exact ⟨v', update_self .., hmove⟩
    · exact ⟨w, by rw [update_of_ne hk, hw], hrefl k' w⟩
  new := by
    intro k' w hnone h
    rcases update_cases h with ⟨rfl, -⟩ | ⟨-, h⟩
    · cases hnone.symm.trans hv
    · cases hnone.symm.trans h

/-- A row is inserted. -/
theorem insert (hfree : t.get? k = none) (hnew : New k v) :
    Evolves t.get? (t.add k v).get? New Move := by
  rw [get?_add_eq, extended_key hfree]
  exact add hrefl hfree hnew

/-- The row of a key is updated. -/
theorem modify_key (hv : t.get? k = some v) (hmove : Move k v (f v)) :
    Evolves t.get? (t.modify (fun k' _ => k' = k) f).get? New Move := by
  rw [get?_modify_eq, modified_key hv]
  exact move hrefl hv hmove

/-- The rows that match are updated. -/
theorem modify (hmove : ∀ k v, t.get? k = some v → p k v = true → Move k v (f v)) :
    Evolves t.get? (t.modify p f).get? New Move := by
  rw [get?_modify_eq]
  refine map fun k v hv => ?_
  split
  · exact hmove k v hv ‹_›
  · exact hrefl k v

end Evolves

/-! ## Queries -/

theorem any_eq_false_iff :
    t.any p = false ↔ ∀ k v, t.get? k = some v → p k v = false := by
  simp [any, get?_eq_some_iff]

theorem count_congr (h : ∀ k v, t.get? k = some v → p k v = q k v) :
    t.count p = t.count q := by
  refine List.countP_congr fun row hrow => ?_
  rw [h row.1 row.2 (get?_eq_some_iff.mpr hrow)]

/-- At most one row matches a condition that is counted at most once. -/
theorem eq_of_count_le_one (hcount : t.count p ≤ 1) (hv : t.get? k = some v) (hp : p k v = true)
    (hv' : t.get? k' = some v') (hp' : p k' v' = true) : k = k' := by
  have hlen : (t.rows.filter fun row => p row.1 row.2).length ≤ 1 := by
    simpa [count, List.countP_eq_length_filter] using hcount
  have hmem : (k, v) ∈ t.rows.filter fun row => p row.1 row.2 :=
    List.mem_filter.2 ⟨get?_eq_some_iff.1 hv, hp⟩
  have hmem' : (k', v') ∈ t.rows.filter fun row => p row.1 row.2 :=
    List.mem_filter.2 ⟨get?_eq_some_iff.1 hv', hp'⟩
  rcases hl : t.rows.filter fun row => p row.1 row.2 with _ | ⟨row, _ | ⟨row', rest⟩⟩
  · simp [hl] at hmem
  · rw [hl, List.mem_singleton] at hmem hmem'
    exact congrArg Prod.fst (hmem.trans hmem'.symm)
  · simp [hl] at hlen

/-! ## Sums and counts after a write -/

theorem count_add_of_free (hfree : t.get? k = none) (v : V) (p : K → V → Bool) :
    (t.add k v).count p = t.count p + if p k v then 1 else 0 := by
  simp [add, hfree, count, List.countP_singleton]

theorem sum_add_of_free (hfree : t.get? k = none) (v : V) (f : K → V → Nat) :
    (t.add k v).sum f = t.sum f + f k v := by
  simp [add, hfree, sum]

omit [DecidableEq K] in
theorem count_modify (t : Table K V) (p q : K → V → Bool) (f : V → V) :
    (t.modify p f).count q = t.count fun k v => q k (if p k v then f v else v) := by
  simp only [count, modify, List.countP_map]
  rfl

omit [DecidableEq K] in
theorem sum_modify (t : Table K V) (p : K → V → Bool) (f : V → V) (g : K → V → Nat) :
    (t.modify p f).sum g = t.sum fun k v => g k (if p k v then f v else v) := by
  simp only [sum, modify, List.map_map]
  rfl

theorem count_le_count
    (h : ∀ k v, t.get? k = some v → p k v = true → q k v = true) : t.count p ≤ t.count q :=
  List.countP_mono_left fun row hrow => h row.1 row.2 (get?_eq_some_iff.2 hrow)

theorem sum_le_sum {f g : K → V → Nat} (h : ∀ k v, t.get? k = some v → f k v ≤ g k v) :
    t.sum f ≤ t.sum g :=
  List.sum_le_sum fun row hrow => h row.1 row.2 (get?_eq_some_iff.2 hrow)

theorem mem_select_iff :
    (k, v) ∈ t.select p ↔ t.get? k = some v ∧ p k v = true := by
  simp [select, List.mem_filter, get?_eq_some_iff]

end Table

end XGovernor.Lib
