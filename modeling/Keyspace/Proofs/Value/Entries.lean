import Mathlib.Data.List.Perm.Subperm
import Keyspace.Proofs.Value.WellFormed

/-! # Entries by their keys

    A dictionary is looked at by its keys. If each of them occurs once, every
    entry is found (`get?_of_mem`).

    Two dictionaries of the same size have the same keys as soon as those of the
    first are keys of the second (`mem_keys_of_subset`).
-/

namespace Keyspace.Entries

variable {entries others : List (String × Value)} {k : String} {v : Value}

/-- The keys, in the order of the entries. -/
def keys (entries : List (String × Value)) : List String := entries.map Prod.fst

@[simp] theorem keys_nil : keys [] = [] := rfl

@[simp] theorem keys_cons (e : String × Value) (rest : List (String × Value)) :
    keys (e :: rest) = e.1 :: keys rest := rfl

theorem length_keys (entries : List (String × Value)) : (keys entries).length = entries.length :=
  List.length_map Prod.fst

theorem mem_keys_of_mem {e : String × Value} (h : e ∈ entries) : e.1 ∈ keys entries :=
  List.mem_map_of_mem h

/-! ## Section 1: Looking a key up -/

theorem get?_eq_none_iff : get? entries k = none ↔ k ∉ keys entries := by
  induction entries with
  | nil => exact iff_of_true rfl List.not_mem_nil
  | cons e rest ih =>
    obtain ⟨j, w⟩ := e
    by_cases hj : j = k
    · simp [get?, hj]
    · rw [get?, if_neg hj, ih]
      simp [Ne.symm hj]

theorem get?_eq_none (h : ∀ e ∈ entries, e.1 ≠ k) : get? entries k = none := by
  rw [get?_eq_none_iff]
  intro hk
  obtain ⟨e, he, rfl⟩ := List.mem_map.mp hk
  exact h e he rfl

theorem exists_of_mem_keys (h : k ∈ keys entries) : ∃ v, get? entries k = some v := by
  cases hget : get? entries k with
  | none => exact absurd h (get?_eq_none_iff.mp hget)
  | some v => exact ⟨v, rfl⟩

/-- If each key occurs once, every entry is found. -/
theorem get?_of_mem (hkeys : (keys entries).Nodup) (h : (k, v) ∈ entries) :
    get? entries k = some v := by
  induction entries with
  | nil => cases h
  | cons e rest ih =>
    obtain ⟨hfresh, hrest⟩ := List.nodup_cons.mp hkeys
    rcases List.mem_cons.mp h with rfl | h
    · exact if_pos rfl
    · have hne : e.1 ≠ k := fun heq => hfresh (heq ▸ mem_keys_of_mem h)
      rw [get?, if_neg hne]
      exact ih hrest h

/-! ## Section 2: The same keys -/

theorem length_eq_of_keys (hentries : (keys entries).Nodup) (hothers : (keys others).Nodup)
    (h : ∀ k, k ∈ keys entries ↔ k ∈ keys others) : entries.length = others.length := by
  have hperm := ((List.perm_ext_iff_of_nodup hentries hothers).mpr h).length_eq
  rwa [length_keys, length_keys] at hperm

/-- There is no room for other keys in the second dictionary. -/
theorem mem_keys_of_subset (hentries : (keys entries).Nodup)
    (hlength : entries.length = others.length) (h : ∀ k ∈ keys entries, k ∈ keys others)
    (hk : k ∈ keys others) : k ∈ keys entries := by
  have hsubperm := List.subperm_of_subset hentries h
  have hle : (keys others).length ≤ (keys entries).length :=
    Nat.le_of_eq (by rw [length_keys, length_keys, hlength])
  exact (hsubperm.perm_of_length_le hle).mem_iff.mpr hk

end Keyspace.Entries
