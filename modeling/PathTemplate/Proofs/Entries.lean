-- What params hold. Each key has one entry, so to look a key up is to find its
-- entry. After any number of writes, a key is bound to the last value that was
-- written to it, and in whatever order the entries of different keys are
-- written, the same comes of it.
import Mathlib
import PathTemplate.Params

namespace PathTemplate.Params

open Text (Before)

/-! ## Lists of entries -/

section Lists

variable {entries : List (String × Value)}

/-- Where no key comes twice, a key is bound to the value that stands behind it. -/
theorem lookup_eq_some_iff_mem (h : (entries.map Prod.fst).Nodup) {key : String} {value : Value} :
    entries.lookup key = some value ↔ (key, value) ∈ entries := by
  induction entries with
  | nil => simp
  | cons entry rest ih =>
    obtain ⟨name, stored⟩ := entry
    obtain ⟨hname, hrest⟩ := List.nodup_cons.1 h
    rw [List.lookup_cons, List.mem_cons]
    by_cases hkey : key = name
    · subst hkey
      have hnot : (key, value) ∉ rest := fun hmem => hname (List.mem_map.2 ⟨_, hmem, rfl⟩)
      simp [hnot, eq_comm]
    · rw [beq_false_of_ne hkey, ih hrest]
      simp [hkey]

theorem lookup_isSome_iff_mem {key : String} :
    (entries.lookup key).isSome = true ↔ key ∈ entries.map Prod.fst := by
  rw [List.lookup_isSome_iff, List.mem_map]
  simp only [beq_iff_eq, eq_comm (a := key)]

theorem lookup_eq_none_iff_not_mem {key : String} :
    entries.lookup key = none ↔ key ∉ entries.map Prod.fst := by
  rw [← lookup_isSome_iff_mem, Option.not_isSome_iff_eq_none]

/-- The order of the entries does not count where no key comes twice. -/
theorem lookup_eq_of_perm {others : List (String × Value)}
    (h : (entries.map Prod.fst).Nodup) (hperm : others.Perm entries) (key : String) :
    others.lookup key = entries.lookup key := by
  have hothers : (others.map Prod.fst).Nodup := (hperm.map Prod.fst).nodup_iff.2 h
  ext value
  rw [lookup_eq_some_iff_mem hothers, lookup_eq_some_iff_mem h, hperm.mem_iff]

/-- A change of all values changes the value that is found. -/
theorem lookup_map_value (change : Value → Value) (key : String) :
    (entries.map fun e => (e.1, change e.2)).lookup key = (entries.lookup key).map change := by
  induction entries with
  | nil => rfl
  | cons entry rest ih =>
    rw [List.map_cons, List.lookup_cons, List.lookup_cons]
    split
    · rfl
    · exact ih

end Lists

/-! ## Entries and keys -/

theorem nodup_of_inOrder {names : List String} (h : names.Pairwise Before) : names.Nodup := by
  refine h.imp fun {a b} hlt heq => ?_
  rw [heq] at hlt
  exact Text.not_before_self b hlt

/-- The same names can be put in order in only one way. -/
theorem eq_of_inOrder {as bs : List String} (ha : as.Pairwise Before) (hb : bs.Pairwise Before)
    (h : ∀ name, name ∈ as ↔ name ∈ bs) : as = bs := by
  refine List.Perm.eq_of_pairwise ?_ ha hb ?_
  · intro a b _ _ hab hba
    exact absurd (Text.before_trans hab hba) (Text.not_before_self a)
  · exact (List.perm_ext_iff_of_nodup (nodup_of_inOrder ha) (nodup_of_inOrder hb)).2 h

theorem nodup_keys (p : Params) : p.keys.Nodup := nodup_of_inOrder p.keys_inOrder

theorem get?_eq_some_iff {p : Params} {key : String} {value : Value} :
    p.get? key = some value ↔ (key, value) ∈ p.entries :=
  lookup_eq_some_iff_mem p.nodup_keys

theorem isSome_get?_iff {p : Params} {key : String} :
    (p.get? key).isSome = true ↔ key ∈ p.keys :=
  lookup_isSome_iff_mem

theorem contains_iff {p : Params} {key : String} : p.contains key = true ↔ key ∈ p.keys := by
  simp [contains, keys]

/-- Params with the same keys have them in the same order. -/
theorem keys_eq_of_mem_iff {p q : Params} (h : ∀ key, key ∈ p.keys ↔ key ∈ q.keys) :
    p.keys = q.keys := eq_of_inOrder p.keys_inOrder q.keys_inOrder h

theorem nodup_entries (p : Params) : p.entries.Nodup := List.Nodup.of_map _ p.nodup_keys

/-- Params are what their keys are bound to. -/
theorem ext_get? {p q : Params} (h : ∀ key, p.get? key = q.get? key) : p = q := by
  have hmem : ∀ e, e ∈ p.entries ↔ e ∈ q.entries := by
    rintro ⟨key, value⟩
    rw [← get?_eq_some_iff, ← get?_eq_some_iff, h]
  have hentries : p.entries = q.entries := by
    refine List.Perm.eq_of_pairwise ?_ p.inKeyOrder q.inKeyOrder ?_
    · intro a b _ _ hab hba
      exact absurd (Text.before_trans hab hba) (Text.not_before_self a.1)
    · exact (List.perm_ext_iff_of_nodup p.nodup_entries q.nodup_entries).2 hmem
  cases p
  cases q
  cases hentries
  rfl

/-! ## Writes -/

theorem get?_insert (p : Params) (key other : String) (value : Value) :
    (p.insert key value).get? other = if other = key then some value else p.get? other := by
  by_cases h : other = key
  · rw [if_pos h, h, get?_insert_self]
  · rw [if_neg h, get?_insert_of_ne p h]

theorem mem_keys_insert {p : Params} {key name : String} {value : Value} :
    key ∈ (p.insert name value).keys ↔ key = name ∨ key ∈ p.keys := by
  rw [← isSome_get?_iff, ← isSome_get?_iff, get?_insert]
  by_cases h : key = name
  · simp [h]
  · simp [h]

/-- The last write to a key counts, and a key that is not written keeps what it had. -/
theorem get?_insertMany (p : Params) (entries : List (String × Value)) (key : String) :
    (p.insertMany entries).get? key = (entries.reverse.lookup key).or (p.get? key) := by
  induction entries generalizing p with
  | nil => rfl
  | cons entry rest ih =>
    obtain ⟨name, value⟩ := entry
    have hfirst : (p.insert name value).get? key = ([(name, value)].lookup key).or (p.get? key) := by
      rw [get?_insert, List.lookup_cons]
      by_cases h : key = name
      · simp [h]
      · simp [h, beq_false_of_ne h]
    calc (p.insertMany ((name, value) :: rest)).get? key
        = ((p.insert name value).insertMany rest).get? key := rfl
      _ = (rest.reverse.lookup key).or ((p.insert name value).get? key) := ih _
      _ = (((name, value) :: rest).reverse.lookup key).or (p.get? key) := by
        rw [hfirst, List.reverse_cons, List.lookup_append, Option.or_assoc]

theorem get?_ofList (entries : List (String × Value)) (key : String) :
    (ofList entries).get? key = entries.reverse.lookup key := by
  rw [ofList, get?_insertMany, get?_empty, Option.or_none]

theorem ofArray_eq_ofList (entries : Array (String × Value)) :
    ofArray entries = ofList entries.toList := by
  rw [ofArray, ofList, insertMany, Array.foldl_toList]

theorem mem_keys_ofList {entries : List (String × Value)} {key : String} :
    key ∈ (ofList entries).keys ↔ key ∈ entries.map Prod.fst := by
  rw [← isSome_get?_iff, get?_ofList, lookup_isSome_iff_mem, List.map_reverse, List.mem_reverse]

/-- With no key twice, each key is bound to its only value. -/
theorem get?_ofList_of_nodup {entries : List (String × Value)}
    (h : (entries.map Prod.fst).Nodup) (key : String) :
    (ofList entries).get? key = entries.lookup key := by
  rw [get?_ofList, lookup_eq_of_perm h entries.reverse_perm]

end PathTemplate.Params
