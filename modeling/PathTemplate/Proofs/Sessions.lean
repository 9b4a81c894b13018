-- Params over a whole run of changes. At every point of a run, both the params at
-- hand and those laid aside list their keys in strict order, and all ways of
-- looking at them agree. What they bind is what the changes wrote.
import Mathlib
import PathTemplate.Params.Session
import PathTemplate.Proofs.Entries

namespace PathTemplate.Params

open Text (Before)

/-! ## Ordered maps -/

/-- The keys come in strict order, each key has one entry, and the ways to ask for a key
agree. -/
structure IsOrderedMap (p : Params) : Prop where
  keys_increase : p.keys.Pairwise Before
  nodup_keys : p.keys.Nodup
  contains_iff_get? : ∀ key, p.contains key = true ↔ ∃ value, p.get? key = some value
  contains_iff_mem : ∀ key, p.contains key = true ↔ key ∈ p.keys
  /-- A key is bound to a value exactly where it has one entry, and that with this value. -/
  only_entry : ∀ key value,
    p.get? key = some value ↔ p.entries.filter (fun e => e.1 == key) = [(key, value)]
  size_eq : p.size = p.keys.length
  isEmpty_iff : p.isEmpty = true ↔ p.size = 0

/-- Where no key comes twice, the entries of a key are the one that is looked up, or none. -/
theorem filter_key_eq {entries : List (String × Value)} (h : (entries.map Prod.fst).Nodup)
    (key : String) :
    entries.filter (fun e => e.1 == key) =
      ((entries.lookup key).map fun value => (key, value)).toList := by
  induction entries with
  | nil => rfl
  | cons entry rest ih =>
    obtain ⟨name, stored⟩ := entry
    obtain ⟨hname, hrest⟩ := List.nodup_cons.1 h
    rw [List.filter_cons, List.lookup_cons]
    by_cases hkey : key = name
    · subst hkey
      have hnone : rest.lookup key = none := lookup_eq_none_iff_not_mem.2 hname
      simp [ih hrest, hnone]
    · simp [ih hrest, beq_false_of_ne hkey, Ne.symm hkey]

theorem isOrderedMap (p : Params) : p.IsOrderedMap where
  keys_increase := p.keys_inOrder
  nodup_keys := p.nodup_keys
  contains_iff_get? key := by
    rw [contains_iff, ← isSome_get?_iff, Option.isSome_iff_exists]
  contains_iff_mem _ := contains_iff
  only_entry key value := by
    have hentries := filter_key_eq p.nodup_keys key
    rw [hentries, get?]
    cases p.entries.lookup key with
    | none => simp
    | some stored => simp
  size_eq := by
    rw [size, keys, List.length_map]
  isEmpty_iff := by
    rw [isEmpty, size, List.isEmpty_iff, List.length_eq_zero_iff]

/-! ## What a run binds -/

/-- What each key is bound to, at hand and laid aside. -/
structure Bound where
  current : String → Option Value
  saved : String → Option Value

namespace Bound

/-- At the start no key is bound. -/
def start : Bound := ⟨fun _ => none, fun _ => none⟩

/-- The keys of some entries are bound to their last values there, and the others stay as
they were. -/
def overwrite (bound : String → Option Value) (entries : List (String × Value)) :
    String → Option Value :=
  fun key => (entries.reverse.lookup key).or (bound key)

/-- What a change makes of the bindings. -/
def apply (b : Bound) : Step → Bound
  | .clear => { b with current := fun _ => none }
  | .insert key value => { b with current := overwrite b.current [(key, value)] }
  | .insertMany entries => { b with current := overwrite b.current entries }
  | .ofList entries => { b with current := overwrite (fun _ => none) entries }
  | .ofArray entries => { b with current := overwrite (fun _ => none) entries.toList }
  | .save => { b with saved := b.current }
  | .swap => ⟨b.saved, b.current⟩

/-- What a run of changes binds. -/
def run (steps : List Step) : Bound := steps.foldl apply start

end Bound

theorem get?_insertMany_eq (p : Params) (entries : List (String × Value)) :
    (p.insertMany entries).get? = Bound.overwrite p.get? entries := by
  funext key
  exact p.get?_insertMany entries key

namespace Session

/-- What the keys of a session are bound to. -/
def bound (s : Session) : Bound := ⟨s.current.get?, s.saved.get?⟩

/-- One change of a session binds what the change says. -/
theorem bound_apply (s : Session) (step : Step) : (s.apply step).bound = s.bound.apply step := by
  cases step with
  | clear => rfl
  | insert key value =>
    have hinsert := get?_insertMany_eq s.current [(key, value)]
    exact congrArg (Bound.mk · s.saved.get?) hinsert
  | insertMany entries =>
    have hmany := get?_insertMany_eq s.current entries
    exact congrArg (Bound.mk · s.saved.get?) hmany
  | ofList entries =>
    have hlist := get?_insertMany_eq empty entries
    exact congrArg (Bound.mk · s.saved.get?) hlist
  | ofArray entries =>
    have harray : (ofArray entries).get? = Bound.overwrite empty.get? entries.toList := by
      rw [ofArray_eq_ofList, ofList, get?_insertMany_eq]
    exact congrArg (Bound.mk · s.saved.get?) harray
  | save => rfl
  | swap => rfl

theorem bound_run (steps : List Step) : (run steps).bound = Bound.run steps := by
  induction steps using List.reverseRecOn with
  | nil => rfl
  | append_singleton steps step ih =>
    rw [run, List.foldl_append, Bound.run, List.foldl_append]
    exact (bound_apply _ step).trans (congrArg (Bound.apply · step) ih)

/-- Whatever changes are made, in whatever order: both the params at hand and those laid
aside list their keys in strict order, each with one entry, and they bind the keys to what
the changes wrote. -/
theorem a_session_holds_ordered_maps (steps : List Step) :
    (run steps).current.IsOrderedMap ∧ (run steps).saved.IsOrderedMap ∧
      (run steps).bound = Bound.run steps :=
  ⟨isOrderedMap _, isOrderedMap _, bound_run steps⟩

-- A key is written twice, and the params that were laid aside come back.
example : ((run [.ofList [("b", .uint 1), ("é", .absent), ("a", .uint 2)], .save, .clear,
    .insert "b" (.uint 3), .swap, .insert "b" (.uint 4)]).current.entries) =
    [("a", .uint 2), ("b", .uint 4), ("é", .absent)] := by
  cbv

end Session

end PathTemplate.Params
