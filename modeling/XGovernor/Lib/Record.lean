import XGovernor.Lib.Table

/-!
# Reading a record from named entries

A reader of records knows which field a name stands for (several names may stand for one field)
and how to read the value of each field.  It rejects a name it does not know, a field that comes
twice and a value it cannot read; a field that does not come is absent.

`collect` is that reader.  What it reads of a field depends on the entries of that field only, so
entries can be taken out of a record without a change to the other fields.
-/

namespace XGovernor.Lib

open Function

universe u v w x

variable {K : Type u} {J : Type v} {F : Type w} {V : Type x} [DecidableEq F]
  {fieldOf : K → Option F} {read : F → J → Option V}
variable {fields result : F → Option V} {entries : List (K × J)} {f : F} {hidden : F → Bool}
  {value : J} {key : K}

/-- The fields read so far, after some more entries. -/
def collect (fieldOf : K → Option F) (read : F → J → Option V) :
    List (K × J) → (F → Option V) → Option (F → Option V)
  | [], fields => some fields
  | (key, value) :: rest, fields =>
    match fieldOf key with
    | none => none
    | some f =>
      if (fields f).isSome then none
      else
        match read f value with
        | none => none
        | some v => collect fieldOf read rest (update fields f (some v))

/-- One entry that was accepted. -/
theorem collect_cons {rest : List (K × J)}
    (h : collect fieldOf read ((key, value) :: rest) fields = some result) :
    ∃ f v, fieldOf key = some f ∧ fields f = none ∧ read f value = some v ∧
      collect fieldOf read rest (update fields f (some v)) = some result := by
  simp only [collect] at h
  split at h
  · cases h
  · rename_i f hf
    split at h
    · cases h
    · rename_i hfree
      split at h
      · cases h
      · rename_i v hv
        exact ⟨f, v, hf, by simpa using hfree, hv, h⟩

section

variable (h : collect fieldOf read entries fields = some result) {v : V}
include h

/-- What was read stays. -/
theorem collect_keeps (hf : fields f = some v) : result f = some v := by
  induction entries generalizing fields with
  | nil => rwa [← Option.some.inj h]
  | cons entry rest ih =>
    obtain ⟨g, w, -, hfree, -, hrest⟩ := collect_cons h
    refine ih hrest ?_
    rw [update_of_ne, hf]
    rintro rfl
    simp [hfree] at hf

/-- Every entry is read into its field. -/
theorem collect_mem (hentry : (key, value) ∈ entries) :
    ∃ f v, fieldOf key = some f ∧ read f value = some v ∧ result f = some v := by
  induction entries generalizing fields with
  | nil => cases hentry
  | cons entry rest ih =>
    obtain ⟨f, v, hf, -, hv, hrest⟩ := collect_cons h
    rcases List.mem_cons.1 hentry with rfl | hmem
    · exact ⟨f, v, hf, hv, collect_keeps hrest (update_self ..)⟩
    · exact ih hrest hmem

/-- Every field comes from an entry, or was there before. -/
theorem collect_origin (hf : result f = some v) :
    fields f = some v ∨ ∃ key value, (key, value) ∈ entries ∧ fieldOf key = some f ∧
      read f value = some v := by
  induction entries generalizing fields with
  | nil => exact .inl (by rwa [← Option.some.inj h] at hf)
  | cons entry rest ih =>
    obtain ⟨g, w, hg, -, hw, hrest⟩ := collect_cons h
    rcases ih hrest with hbef | ⟨key, value, hmem, hkey, hvalue⟩
    · rcases update_cases hbef with ⟨rfl, ⟨⟩⟩ | ⟨-, hbef⟩
      · exact .inr ⟨entry.1, entry.2, List.mem_cons_self, hg, hw⟩
      · exact .inl hbef
    · exact .inr ⟨key, value, List.mem_cons_of_mem _ hmem, hkey, hvalue⟩

end

/-- The fields outside a set. -/
def hide (hidden : F → Bool) (fields : F → Option V) : F → Option V :=
  fun f => if hidden f then none else fields f

theorem hide_update_of_hidden (hf : hidden f = true) (fields : F → Option V) (v : Option V) :
    hide hidden (update fields f v) = hide hidden fields := by
  funext g
  by_cases hg : g = f
  · simp [hide, hg, hf]
  · simp [hide, update_of_ne hg]

theorem hide_update_of_shown (hf : hidden f = false) (fields : F → Option V) (v : Option V) :
    hide hidden (update fields f v) = update (hide hidden fields) f v := by
  funext g
  by_cases hg : g = f
  · subst hg
    simp [hide, hf]
  · simp [hide, update_of_ne hg]

/-- **Entries can be taken out.**  Without the entries of some fields the record is still read,
and differs in those fields only. -/
theorem collect_without (hidden : F → Bool)
    (h : collect fieldOf read entries fields = some result) :
    collect fieldOf read (entries.filter fun entry => !(fieldOf entry.1).any hidden)
      (hide hidden fields) = some (hide hidden result) := by
  induction entries generalizing fields with
  | nil => rw [List.filter_nil, collect, Option.some.inj h]
  | cons entry rest ih =>
    obtain ⟨f, v, hf, hfree, hv, hrest⟩ := collect_cons h
    have hnext := ih hrest
    cases hhidden : hidden f with
    | true =>
      rw [List.filter_cons_of_neg (by simp [hf, hhidden])]
      rwa [hide_update_of_hidden hhidden] at hnext
    | false =>
      rw [hide_update_of_shown hhidden] at hnext
      simp [collect, hf, hide, hfree, hv, hhidden]
      exact hnext

end XGovernor.Lib
