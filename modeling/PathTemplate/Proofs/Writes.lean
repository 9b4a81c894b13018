-- Writes to params. Values are given to their keys one by one, in a chain, many at
-- once, or to start anew, and it is always the last value of a key that stays. So
-- writes with the same last values come to the same params, in whatever order and
-- in whatever groups they are made.
import Mathlib
import PathTemplate.Build
import PathTemplate.Proofs.Entries

namespace PathTemplate.Params

variable {writes : List (String × Value)} {key : String} {value : Value}

/-! ## The last value of a key -/

/-- The last write to the key has this value. -/
def LastWrite (writes : List (String × Value)) (key : String) (value : Value) : Prop :=
  ∃ before after, writes = before ++ (key, value) :: after ∧ key ∉ after.map Prod.fst

theorem lookup_reverse_eq_some_iff :
    writes.reverse.lookup key = some value ↔ LastWrite writes key value := by
  rw [List.lookup_eq_some_iff]
  constructor
  · rintro ⟨after, before, hwrites, hafter⟩
    refine ⟨before.reverse, after.reverse, ?_, ?_⟩
    · rw [← List.reverse_reverse writes, hwrites]
      simp
    · rw [← List.lookup_eq_none_iff, lookup_eq_none_iff_not_mem] at hafter
      rwa [List.map_reverse, List.mem_reverse]
  · rintro ⟨before, after, rfl, hafter⟩
    refine ⟨after.reverse, before.reverse, by simp, ?_⟩
    rwa [← List.lookup_eq_none_iff, lookup_eq_none_iff_not_mem, List.map_reverse, List.mem_reverse]

/-- A key that is written has a last value. -/
theorem exists_lastWrite (h : key ∈ writes.map Prod.fst) : ∃ value, LastWrite writes key value := by
  have hsome : (writes.reverse.lookup key).isSome = true := by
    rwa [lookup_isSome_iff_mem, List.map_reverse, List.mem_reverse]
  obtain ⟨value, hvalue⟩ := Option.isSome_iff_exists.1 hsome
  exact ⟨value, lookup_reverse_eq_some_iff.1 hvalue⟩

theorem get?_insertMany_of_lastWrite (h : LastWrite writes key value) (p : Params) :
    (p.insertMany writes).get? key = some value := by
  rw [get?_insertMany, lookup_reverse_eq_some_iff.2 h, Option.some_or]

theorem get?_insertMany_of_not_mem (h : key ∉ writes.map Prod.fst) (p : Params) :
    (p.insertMany writes).get? key = p.get? key := by
  have hnone : writes.reverse.lookup key = none := by
    rwa [lookup_eq_none_iff_not_mem, List.map_reverse, List.mem_reverse]
  rw [get?_insertMany, hnone, Option.none_or]

theorem insertMany_eq_of_lastWrite {others : List (String × Value)}
    (h : ∀ key value, LastWrite others key value ↔ LastWrite writes key value) (p : Params) :
    p.insertMany others = p.insertMany writes := by
  apply ext_get?
  intro key
  have hlast : others.reverse.lookup key = writes.reverse.lookup key := by
    ext value
    rw [lookup_reverse_eq_some_iff, lookup_reverse_eq_some_iff, h]
  rw [get?_insertMany, get?_insertMany, hlast]

/-! ## Ways to write -/

/-- Gives each value to its key, in turn, and answers what each key had before. -/
def exchangeMany (p : Params) : List (String × Value) → List (Option Value) × Params
  | [] => ([], p)
  | (key, value) :: rest =>
    let (old, next) := p.exchange key value
    let (olds, last) := next.exchangeMany rest
    (old :: olds, last)

theorem exchangeMany_snd (p : Params) (writes : List (String × Value)) :
    (p.exchangeMany writes).2 = p.insertMany writes := by
  induction writes generalizing p with
  | nil => rfl
  | cons entry rest ih =>
    obtain ⟨key, value⟩ := entry
    exact ih (p.insert key value)

theorem length_exchangeMany (p : Params) (writes : List (String × Value)) :
    (p.exchangeMany writes).1.length = writes.length := by
  induction writes generalizing p with
  | nil => rfl
  | cons entry rest ih =>
    obtain ⟨key, value⟩ := entry
    exact congrArg (· + 1) (ih (p.insert key value))

/-- Each write answers what its key had just before it. -/
theorem getElem?_exchangeMany (p : Params) (before after : List (String × Value)) (key : String)
    (value : Value) :
    (p.exchangeMany (before ++ (key, value) :: after)).1[before.length]? =
      some ((p.insertMany before).get? key) := by
  induction before generalizing p with
  | nil => exact congrArg some (p.exchange_fst key value)
  | cons entry rest ih =>
    obtain ⟨name, first⟩ := entry
    exact ih (p.insert name first)

theorem insertMany_append (p : Params) (first second : List (String × Value)) :
    p.insertMany (first ++ second) = (p.insertMany first).insertMany second := by
  unfold insertMany
  rw [List.foldl_append]

theorem foldl_insertMany (p : Params) (groups : List (List (String × Value))) :
    groups.foldl insertMany p = p.insertMany groups.flatten := by
  induction groups generalizing p with
  | nil => rfl
  | cons group rest ih => rw [List.foldl_cons, ih, List.flatten_cons, insertMany_append]

/-! ## The law -/

/-- All ways to write the same entries come to the same params. A key that is written has the
last value that was written to it, and the others have what they had. A write answers what its
key had just before. And where the last values are the same, so are the params and each path
that is built with them, whatever the order and the groups of the writes. -/
theorem the_last_write_to_a_key_stays (p : Params) (writes : List (String × Value)) :
    ((p.exchangeMany writes).2 = p.insertMany writes ∧
      writes.foldl (fun q e => q.insert e.1 e.2) p = p.insertMany writes ∧
      ofList writes = empty.insertMany writes ∧
      ofArray writes.toArray = empty.insertMany writes) ∧
    (∀ key ∈ writes.map Prod.fst,
      ∃ value, LastWrite writes key value ∧ (p.insertMany writes).get? key = some value) ∧
    (∀ key, key ∉ writes.map Prod.fst → (p.insertMany writes).get? key = p.get? key) ∧
    ((p.exchangeMany writes).1.length = writes.length ∧
      ∀ before key value after, writes = before ++ (key, value) :: after →
        (p.exchangeMany writes).1[before.length]? = some ((p.insertMany before).get? key)) ∧
    ∀ groups : List (List (String × Value)),
      (∀ key value, LastWrite groups.flatten key value ↔ LastWrite writes key value) →
      (groups.foldl insertMany p).entries = (p.insertMany writes).entries ∧
        ∀ s, build s (groups.foldl insertMany p) = build s (p.insertMany writes) := by
  refine ⟨⟨p.exchangeMany_snd writes, rfl, rfl, ofArray_eq_ofList writes.toArray⟩, ?_, ?_,
    ⟨p.length_exchangeMany writes, ?_⟩, ?_⟩
  · intro key h
    obtain ⟨value, hlast⟩ := exists_lastWrite h
    exact ⟨value, hlast, get?_insertMany_of_lastWrite hlast p⟩
  · intro key h
    exact get?_insertMany_of_not_mem h p
  · rintro before key value after rfl
    exact p.getElem?_exchangeMany before after key value
  · intro groups h
    have hsame : groups.foldl insertMany p = p.insertMany writes := by
      rw [foldl_insertMany]
      exact insertMany_eq_of_lastWrite h p
    rw [hsame]
    exact ⟨rfl, fun s => rfl⟩

-- The second write to a key answers what the first one wrote.
example : ((ofList [("c", .absent), ("a", .uint 1)]).exchangeMany
    [("b", .uint 2), ("a", .uint 3), ("b", .bool true)]).1 =
      [none, some (.uint 1), some (.uint 2)] := by
  cbv

end PathTemplate.Params
