-- The values for the placeholders of a template, by name. Each name has at
-- most one value, the last one that was given, and the names are in the order
-- of their bytes.
import PathTemplate.Text.Utf8
import PathTemplate.Value

namespace PathTemplate

open Text (Before before_of_not_before before_trans not_before_self)

/-! ## Entries in order -/

/-- The keys come in their order, so no key comes twice. -/
def InKeyOrder (entries : List (String × Value)) : Prop :=
  entries.Pairwise fun a b => Before a.1 b.1

structure Params where
  entries : List (String × Value)
  inKeyOrder : InKeyOrder entries

namespace Params

/-- Puts a value at its key, and answers the value that stood there before. -/
def place (key : String) (value : Value) :
    List (String × Value) → Option Value × List (String × Value)
  | [] => (none, [(key, value)])
  | entry :: rest =>
    if key = entry.1 then (some entry.2, (key, value) :: rest)
    else if Before key entry.1 then (none, (key, value) :: entry :: rest)
    else
      let (old, placed) := place key value rest
      (old, entry :: placed)

/-- What stands in the entries after a placement is the new entry or stood there
before. -/
theorem mem_place {key : String} {value : Value} {e : String × Value}
    {entries : List (String × Value)} (h : e ∈ (place key value entries).2) :
    e = (key, value) ∨ e ∈ entries := by
  induction entries with
  | nil => simpa [place] using h
  | cons entry rest ih =>
    simp only [place] at h
    split at h
    · rcases List.mem_cons.1 h with rfl | h
      · exact .inl rfl
      · exact .inr (List.mem_cons_of_mem _ h)
    · split at h
      · exact List.mem_cons.1 h
      · rcases List.mem_cons.1 h with rfl | h
        · exact .inr List.mem_cons_self
        · exact (ih h).imp_right (List.mem_cons_of_mem _)

theorem inKeyOrder_place (key : String) (value : Value) {entries : List (String × Value)}
    (h : InKeyOrder entries) : InKeyOrder (place key value entries).2 := by
  induction entries with
  | nil => exact List.pairwise_singleton _ _
  | cons entry rest ih =>
    obtain ⟨hhead, htail⟩ := List.pairwise_cons.1 h
    simp only [place]
    split
    · next heq => exact List.pairwise_cons.2 ⟨fun e he => heq ▸ hhead e he, htail⟩
    · next hne =>
      split
      · next hlt =>
        refine List.pairwise_cons.2 ⟨fun e he => ?_, h⟩
        rcases List.mem_cons.1 he with rfl | he
        · exact hlt
        · exact before_trans hlt (hhead e he)
      · next hnlt =>
        refine List.pairwise_cons.2 ⟨fun e he => ?_, ih htail⟩
        rcases mem_place he with rfl | he
        · exact before_of_not_before hne hnlt
        · exact hhead e he

/-! ## Building -/

def empty : Params := ⟨[], List.Pairwise.nil⟩

instance : EmptyCollection Params := ⟨empty⟩

instance : Inhabited Params := ⟨empty⟩

/-- Gives a value to a key, and answers the value that the key had before. -/
def exchange (p : Params) (key : String) (value : Value) : Option Value × Params :=
  let placed := place key value p.entries
  (placed.1, ⟨placed.2, inKeyOrder_place key value p.inKeyOrder⟩)

def insert (p : Params) (key : String) (value : Value) : Params := (p.exchange key value).2

def insertMany (p : Params) (entries : List (String × Value)) : Params :=
  entries.foldl (fun q e => q.insert e.1 e.2) p

def ofList (entries : List (String × Value)) : Params := empty.insertMany entries

def ofArray (entries : Array (String × Value)) : Params :=
  entries.foldl (fun q e => q.insert e.1 e.2) empty

/-! ## Looking up -/

def get? (p : Params) (key : String) : Option Value := p.entries.lookup key

/-- Whether a key has a value. An absent value counts. -/
def contains (p : Params) (key : String) : Bool := p.entries.any (·.1 == key)

def keys (p : Params) : List String := p.entries.map Prod.fst

def size (p : Params) : Nat := p.entries.length

def isEmpty (p : Params) : Bool := p.entries.isEmpty

/-- Equality of entries, one by one: the same keys, and values that are equal. -/
def entriesEqual : List (String × Value) → List (String × Value) → Bool
  | [], [] => true
  | a :: as, b :: bs => a.1 == b.1 && a.2.equals b.2 && entriesEqual as bs
  | _, _ => false

def equals (p q : Params) : Bool := entriesEqual p.entries q.entries

theorem keys_inOrder (p : Params) : p.keys.Pairwise Before :=
  List.pairwise_map.2 p.inKeyOrder

/-! ## What a key is bound to -/

/-- A placed value stands at its key, and the other keys keep theirs. -/
theorem lookup_place_self (key : String) (value : Value) (entries : List (String × Value)) :
    (place key value entries).2.lookup key = some value := by
  induction entries with
  | nil => simp [place]
  | cons entry rest ih =>
    obtain ⟨name, stored⟩ := entry
    simp only [place]
    split
    · simp
    · next hne =>
      split
      · simp
      · simpa [List.lookup_cons, beq_false_of_ne hne] using ih

theorem lookup_place_of_ne {key other : String} (h : other ≠ key) (value : Value)
    (entries : List (String × Value)) :
    (place key value entries).2.lookup other = entries.lookup other := by
  have hb : (other == key) = false := beq_false_of_ne h
  induction entries with
  | nil => simp [place, List.lookup_cons, hb]
  | cons entry rest ih =>
    obtain ⟨name, stored⟩ := entry
    simp only [place]
    split
    · next heq => simp [List.lookup_cons, hb, ← show key = name from heq]
    · split
      · simp [List.lookup_cons, hb]
      · simp [List.lookup_cons, ih]

/-- A key that comes before all keys is not among them. -/
theorem lookup_eq_none_of_before {key : String} {entries : List (String × Value)}
    (h : ∀ e ∈ entries, Before key e.1) : entries.lookup key = none := by
  rw [List.lookup_eq_none_iff]
  intro e he
  refine bne_iff_ne.2 fun heq => not_before_self key ?_
  have hlt := h e he
  rwa [← heq] at hlt

/-- The search for the place of a key passes the key, if it is there. -/
theorem place_fst {key : String} {value : Value} {entries : List (String × Value)}
    (h : InKeyOrder entries) : (place key value entries).1 = entries.lookup key := by
  induction entries with
  | nil => rfl
  | cons entry rest ih =>
    obtain ⟨name, stored⟩ := entry
    obtain ⟨hhead, htail⟩ := List.pairwise_cons.1 h
    simp only [place, List.lookup_cons]
    split
    · next heq => simp [heq]
    · next hne =>
      rw [beq_false_of_ne hne]
      split
      · next hlt =>
        exact (lookup_eq_none_of_before fun e he => before_trans hlt (hhead e he)).symm
      · exact ih htail

@[simp] theorem get?_empty (key : String) : empty.get? key = none := rfl

theorem get?_insert_self (p : Params) (key : String) (value : Value) :
    (p.insert key value).get? key = some value := lookup_place_self _ _ _

theorem get?_insert_of_ne (p : Params) {key other : String} (h : other ≠ key) (value : Value) :
    (p.insert key value).get? other = p.get? other := lookup_place_of_ne h _ _

theorem exchange_fst (p : Params) (key : String) (value : Value) :
    (p.exchange key value).1 = p.get? key := place_fst p.inKeyOrder

end Params

end PathTemplate
