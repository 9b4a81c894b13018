-- Bindings and their keys. If no key is bound twice, the bindings are collected, in whatever
-- order they come. Otherwise they are refused, and the key that is named is the first one
-- that comes again.
import Mathlib
import PathTemplate.Proofs.Arguments

namespace PathTemplate.Command

/-! ## Keys that come again -/

/-- This key stands at this place, and at one before it. -/
def AgainAt (keys : List String) (i : Nat) (name : String) : Prop :=
  keys[i]? = some name ∧ ∃ j < i, keys[j]? = some name

/-- This key comes again at this place, and none does before. -/
structure FirstAgainAt (keys : List String) (i : Nat) (name : String) : Prop where
  again : AgainAt keys i name
  none_before : ∀ j < i, ∀ other, ¬ AgainAt keys j other

section Keys

variable {keys : List String} {i : Nat} {name : String}

theorem nodup_iff_not_againAt : keys.Nodup ↔ ∀ i name, ¬ AgainAt keys i name := by
  rw [List.nodup_iff_getElem?_ne_getElem?]
  constructor
  · rintro h i name ⟨hi, j, hj, hname⟩
    have hlt : i < keys.length := (List.getElem?_eq_some_iff.1 hi).1
    exact h j i hj hlt (hname.trans hi.symm)
  · intro h j i hj hlt heq
    have hi : keys[i]? = some keys[i] := List.getElem?_eq_getElem hlt
    exact h i keys[i] ⟨hi, j, hj, heq.trans hi⟩

theorem exists_firstAgainAt (h : ¬ keys.Nodup) : ∃ i name, FirstAgainAt keys i name := by
  classical
  have hagain : ∃ i name, AgainAt keys i name := by
    simpa [nodup_iff_not_againAt] using h
  obtain ⟨name, hname⟩ := Nat.find_spec hagain
  refine ⟨Nat.find hagain, name, hname, fun j hj other hother => ?_⟩
  exact Nat.find_min hagain hj ⟨other, hother⟩

/-- The keys in front of the first one that comes again are all different. -/
theorem FirstAgainAt.nodup_take (h : FirstAgainAt keys i name) : (keys.take i).Nodup := by
  rw [nodup_iff_not_againAt]
  rintro j other ⟨hj, k, hk, hother⟩
  simp only [List.getElem?_take, Option.ite_none_right_eq_some] at hj hother
  exact h.none_before j hj.1 other ⟨hj.2, k, hk, hother.2⟩

theorem FirstAgainAt.mem_take (h : FirstAgainAt keys i name) : name ∈ keys.take i := by
  obtain ⟨j, hj, hname⟩ := h.again.2
  apply List.mem_of_getElem? (i := j)
  rw [List.getElem?_take_of_lt hj]
  exact hname

end Keys

/-! ## Collecting -/

namespace Binding

variable {bindings : List Binding} {i : Nat} {name : String}

/-- Up to the first key that comes again all bindings are added, and there that key is bound
already. -/
theorem collect_eq_error (h : FirstAgainAt (bindings.map key) i name) :
    collect bindings = .error name := by
  have hnodup := h.nodup_take
  have hmem := h.mem_take
  obtain ⟨b, hb, rfl⟩ : ∃ b, bindings[i]? = some b ∧ b.key = name := by
    simpa using h.again.1
  obtain ⟨hlt, hget⟩ := List.getElem?_eq_some_iff.1 hb
  rw [← List.map_take] at hnodup hmem
  have hbound : (Params.ofList ((bindings.take i).map entry)).contains b.key = true := by
    rwa [Params.contains_iff, Params.mem_keys_ofList, map_fst_entry]
  calc collect bindings
      = collectInto .empty (bindings.take i ++ b :: bindings.drop (i + 1)) := by
        rw [← hget, ← List.drop_eq_getElem_cons hlt, List.take_append_drop, collect]
    _ = collectInto (.ofList ((bindings.take i).map entry)) (b :: bindings.drop (i + 1)) :=
        collectInto_append hnodup _ (fun c _ => not_mem_keys_empty c.key) _
    _ = .error b.key := by rw [collectInto, if_pos hbound]

theorem exists_collect_eq_error (h : ¬ (bindings.map key).Nodup) :
    ∃ name, collect bindings = .error name := by
  obtain ⟨i, name, hfirst⟩ := exists_firstAgainAt h
  exact ⟨name, collect_eq_error hfirst⟩

theorem collect_eq_ok_iff {p : Params} :
    collect bindings = .ok p ↔
      (bindings.map key).Nodup ∧ p = .ofList (bindings.map entry) := by
  by_cases h : (bindings.map key).Nodup
  · simp [collect_eq_ok h, h, eq_comm]
  · obtain ⟨name, hname⟩ := exists_collect_eq_error h
    simp [hname, h]

theorem collect_eq_error_iff :
    collect bindings = .error name ↔ ∃ i, FirstAgainAt (bindings.map key) i name := by
  refine ⟨fun h => ?_, fun ⟨i, hi⟩ => collect_eq_error hi⟩
  by_cases hkeys : (bindings.map key).Nodup
  · rw [collect_eq_ok hkeys] at h
    cases h
  · obtain ⟨i, other, hfirst⟩ := exists_firstAgainAt hkeys
    rw [collect_eq_error hfirst] at h
    cases h
    exact ⟨i, hfirst⟩

/-- A binding of a key that no other one has gives its value to it. -/
theorem get?_ofList_entries (h : (bindings.map key).Nodup) {b : Binding} (hb : b ∈ bindings) :
    (Params.ofList (bindings.map entry)).get? b.key = some (.string b.value) := by
  rw [← map_fst_entry] at h
  rw [Params.get?_ofList_of_nodup h, Params.lookup_eq_some_iff_mem h]
  exact List.mem_map_of_mem hb

/-- The order of bindings of different keys does not count. -/
theorem ofList_entries_eq_of_perm (h : (bindings.map key).Nodup) {others : List Binding}
    (horder : others.Perm bindings) :
    Params.ofList (others.map entry) = .ofList (bindings.map entry) := by
  have hothers : (others.map key).Nodup := (horder.map key).nodup_iff.2 h
  rw [← map_fst_entry] at h hothers
  apply Params.ext_get?
  intro name
  rw [Params.get?_ofList_of_nodup h, Params.get?_ofList_of_nodup hothers,
    Params.lookup_eq_of_perm h (horder.map entry)]

/-! ## The law -/

/-- Bindings are collected exactly if no key is bound twice. Then just their keys are bound,
each to its text, and in any other order the bindings come to the same. Otherwise the error
names the key that stands at the first place whose key stands at an earlier place as well. -/
theorem bindings_are_collected_unless_a_key_comes_again (bindings : List Binding) :
    ((∃ p, collect bindings = .ok p) ↔ (bindings.map key).Nodup) ∧
    (∀ p, collect bindings = .ok p →
      (∀ name, name ∈ p.keys ↔ name ∈ bindings.map key) ∧
      (∀ b ∈ bindings, p.get? b.key = some (.string b.value)) ∧
      ∀ others, others.Perm bindings → collect others = .ok p) ∧
    ∀ name, collect bindings = .error name ↔ ∃ i, FirstAgainAt (bindings.map key) i name := by
  refine ⟨?_, fun p h => ?_, fun name => collect_eq_error_iff⟩
  · simp only [collect_eq_ok_iff, exists_and_left, exists_eq, and_true]
  · obtain ⟨hkeys, rfl⟩ := collect_eq_ok_iff.1 h
    refine ⟨fun name => ?_, fun b hb => get?_ofList_entries hkeys hb, fun others horder => ?_⟩
    · rw [Params.mem_keys_ofList, map_fst_entry]
    · rw [collect_eq_ok ((horder.map key).nodup_iff.2 hkeys),
        ofList_entries_eq_of_perm hkeys horder]

-- Two keys come again. The one that came later does so first.
example : collect [⟨"a", "1"⟩, ⟨"b", "2"⟩, ⟨"b", "2"⟩, ⟨"a", "3"⟩] = .error "b" := by
  cbv

end Binding

end PathTemplate.Command
