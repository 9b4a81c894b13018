-- Text as the bytes that a file or a terminal gets. Positions in a template
-- are counted in these bytes, and keys are ordered by them. The order of the
-- bytes is the order of the characters.

namespace PathTemplate.Text

/-! ## Bytes -/

def bytesOf (cs : List Char) : List UInt8 := cs.flatMap String.utf8EncodeChar

def bytes (s : String) : List UInt8 := bytesOf s.toList

@[simp] theorem bytesOf_cons (c : Char) (cs : List Char) :
    bytesOf (c :: cs) = String.utf8EncodeChar c ++ bytesOf cs := rfl

@[simp] theorem bytesOf_append (a b : List Char) :
    bytesOf (a ++ b) = bytesOf a ++ bytesOf b := by
  simp [bytesOf]

theorem bytes_inj {s t : String} : bytes s = bytes t ↔ s = t := by
  refine ⟨fun h => ?_, fun h => h ▸ rfl⟩
  rw [← String.toByteArray_inj, ← String.utf8Encode_toList, ← String.utf8Encode_toList]
  exact congrArg List.toByteArray h

/-! ## Lengths -/

def byteLength (cs : List Char) : Nat := cs.foldr (fun c n => c.utf8Size + n) 0

@[simp] theorem byteLength_nil : byteLength [] = 0 := rfl

@[simp] theorem byteLength_cons (c : Char) (cs : List Char) :
    byteLength (c :: cs) = c.utf8Size + byteLength cs := rfl

@[simp] theorem byteLength_append (a b : List Char) :
    byteLength (a ++ b) = byteLength a + byteLength b := by
  induction a with
  | nil => simp
  | cons c cs ih => simp [ih, Nat.add_assoc]

theorem byteLength_pos {cs : List Char} (h : cs ≠ []) : 0 < byteLength cs := by
  obtain ⟨c, cs, rfl⟩ := List.exists_cons_of_ne_nil h
  have hc := c.utf8Size_pos
  rw [byteLength_cons]
  omega

theorem length_bytesOf (cs : List Char) : (bytesOf cs).length = byteLength cs := by
  induction cs with
  | nil => rfl
  | cons c cs ih => simp [ih]

/-! ## Cuts -/

/-- What is left of a text behind so many bytes. No text begins inside of a character. -/
def dropBytes? : Nat → List Char → Option (List Char)
  | 0, cs => some cs
  | _ + 1, [] => none
  | n + 1, c :: cs => if c.utf8Size ≤ n + 1 then dropBytes? (n + 1 - c.utf8Size) cs else none

/-- A text up to so many bytes. No text ends inside of a character. -/
def takeBytes? : Nat → List Char → Option (List Char)
  | 0, _ => some []
  | _ + 1, [] => none
  | n + 1, c :: cs =>
    if c.utf8Size ≤ n + 1 then (takeBytes? (n + 1 - c.utf8Size) cs).map (c :: ·) else none

/-- The text between two places, which are counted in bytes. -/
def between? (start stop : Nat) (cs : List Char) : Option (List Char) :=
  (dropBytes? start cs).bind (takeBytes? (stop - start))

/-- The first character takes its bytes off the length. -/
theorem exists_byteLength_cons_eq (c : Char) (cs : List Char) :
    ∃ n, byteLength (c :: cs) = n + 1 ∧ c.utf8Size ≤ n + 1 ∧
      n + 1 - c.utf8Size = byteLength cs := by
  have hpos := c.utf8Size_pos
  refine ⟨byteLength (c :: cs) - 1, ?_⟩
  rw [byteLength_cons]
  omega

theorem dropBytes?_append (a b : List Char) : dropBytes? (byteLength a) (a ++ b) = some b := by
  induction a with
  | nil => cases b <;> rfl
  | cons c cs ih =>
    obtain ⟨n, hn, hle, hsub⟩ := exists_byteLength_cons_eq c cs
    rw [hn, List.cons_append, dropBytes?, if_pos hle, hsub, ih]

theorem takeBytes?_append (a b : List Char) : takeBytes? (byteLength a) (a ++ b) = some a := by
  induction a with
  | nil => cases b <;> rfl
  | cons c cs ih =>
    obtain ⟨n, hn, hle, hsub⟩ := exists_byteLength_cons_eq c cs
    rw [hn, List.cons_append, takeBytes?, if_pos hle, hsub, ih, Option.map_some]

/-- A part is found again between its places. -/
theorem between?_append (a b c : List Char) :
    between? (byteLength a) (byteLength (a ++ b)) (a ++ b ++ c) = some b := by
  rw [between?, List.append_assoc, dropBytes?_append, Option.bind_some, byteLength_append,
    Nat.add_sub_cancel_left, takeBytes?_append]

/-! ## The bytes of a character -/

/-- What stands in front of the last digits of a number in base 64. -/
def frontDigits : Nat → Nat → Nat
  | 0, n => n
  | digits + 1, n => frontDigits digits (n / 64)

/-- A number in bytes. Its last digits in base 64 get a byte each, and the first byte gets
what stands in front of them, on top of a mark. -/
def digitBytes (mark : Nat) : Nat → Nat → List UInt8
  | 0, n => [.ofNat (n + mark)]
  | digits + 1, n => digitBytes mark digits (n / 64) ++ [.ofNat (n % 64 + 0x80)]

/-- How many bytes of a character follow the first one. -/
def furtherBytes (n : Nat) : Nat :=
  if n ≤ 0x7F then 0 else if n ≤ 0x7FF then 1 else if n ≤ 0xFFFF then 2 else 3

/-- The mark in the first byte tells how many bytes follow. No byte has the last mark, which
is a bound for the others. -/
def firstMark : Nat → Nat
  | 0 => 0
  | 1 => 0xC0
  | 2 => 0xE0
  | 3 => 0xF0
  | _ => 0xF8

def firstByte (n : Nat) : Nat := frontDigits (furtherBytes n) n + firstMark (furtherBytes n)

theorem toNat_lt (c : Char) : c.toNat < 0x110000 := by
  rcases c.valid with h | h
  · exact Nat.lt_trans h (by decide)
  · exact h.2

theorem utf8EncodeChar_eq (c : Char) :
    String.utf8EncodeChar c =
      digitBytes (firstMark (furtherBytes c.toNat)) (furtherBytes c.toNat) c.toNat := by
  have hlt := toNat_lt c
  unfold String.utf8EncodeChar furtherBytes
  rw [show c.val.toNat = c.toNat from rfl]
  generalize c.toNat = n at hlt
  dsimp only
  -- In each length the first digit has room in its byte, so it is not cut.
  split
  · rfl
  split
  · rw [Nat.mod_eq_of_lt (by omega)]
    rfl
  split
  · rw [Nat.mod_eq_of_lt (b := 16) (by omega), ← Nat.div_div_eq_div_mul n 64 64]
    rfl
  · rw [Nat.mod_eq_of_lt (b := 8) (by omega), ← Nat.div_div_eq_div_mul n 4096 64,
      ← Nat.div_div_eq_div_mul n 64 64]
    rfl

theorem exists_digitBytes_eq (mark digits n : Nat) :
    ∃ rest, digitBytes mark digits n = .ofNat (frontDigits digits n + mark) :: rest := by
  induction digits generalizing n with
  | zero => exact ⟨[], rfl⟩
  | succ digits ih =>
    obtain ⟨rest, hrest⟩ := ih (n / 64)
    rw [digitBytes, hrest]
    exact ⟨_, rfl⟩

theorem exists_utf8EncodeChar_eq (c : Char) :
    ∃ rest, String.utf8EncodeChar c = .ofNat (firstByte c.toNat) :: rest := by
  rw [utf8EncodeChar_eq]
  exact exists_digitBytes_eq _ _ _

/-! ## First bytes -/

theorem furtherBytes_mono {m n : Nat} (h : m ≤ n) : furtherBytes m ≤ furtherBytes n := by
  unfold furtherBytes
  grind

theorem firstMark_mono {j k : Nat} (h : j ≤ k) : firstMark j ≤ firstMark k := by
  unfold firstMark
  grind

theorem firstMark_le (k : Nat) : firstMark k ≤ 0xF8 := by
  unfold firstMark
  grind

/-- The first byte stays below the mark of the next length. -/
theorem firstByte_lt_firstMark {n : Nat} (h : n < 0x110000) :
    firstByte n < firstMark (furtherBytes n + 1) := by
  unfold firstByte furtherBytes
  split
  · simp only [frontDigits, firstMark]
    omega
  split
  · simp only [frontDigits, firstMark]
    omega
  split
  · simp only [frontDigits, firstMark]
    omega
  · simp only [frontDigits, firstMark]
    omega

theorem firstByte_lt {n : Nat} (h : n < 0x110000) : firstByte n < 256 :=
  Nat.lt_trans (Nat.lt_of_lt_of_le (firstByte_lt_firstMark h) (firstMark_le _)) (by decide)

/-- With more bytes behind it, the first byte is greater. -/
theorem firstByte_lt_firstByte {m n : Nat} (hm : m < 0x110000)
    (h : furtherBytes m < furtherBytes n) : firstByte m < firstByte n :=
  calc firstByte m
      < firstMark (furtherBytes m + 1) := firstByte_lt_firstMark hm
    _ ≤ firstMark (furtherBytes n) := firstMark_mono h
    _ ≤ firstByte n := Nat.le_add_left _ _

/-! ## The order of bytes and of characters -/

theorem ofNat_cons_lt {a b : Nat} (hab : a < b) (hb : b < 256) (r s : List UInt8) :
    UInt8.ofNat a :: r < UInt8.ofNat b :: s := by
  apply List.cons_lt_cons_iff.2
  left
  rw [UInt8.lt_iff_toNat_lt, UInt8.toNat_ofNat', UInt8.toNat_ofNat']
  omega

/-- Of two numbers with as many digits, the lesser one has the lesser bytes, and what stands
behind them does not matter. The numbers differ in front of the last digit, or else in it. -/
theorem digitBytes_append_lt {mark digits m n : Nat} (hmn : m < n)
    (hn : frontDigits digits n + mark < 256) (r s : List UInt8) :
    digitBytes mark digits m ++ r < digitBytes mark digits n ++ s := by
  induction digits generalizing m n r s with
  | zero => exact ofNat_cons_lt (Nat.add_lt_add_right hmn mark) hn r s
  | succ digits ih =>
    rw [digitBytes, digitBytes, List.append_assoc, List.append_assoc]
    rcases Nat.lt_or_eq_of_le (Nat.div_le_div_right (c := 64) (Nat.le_of_lt hmn)) with hlt | heq
    · exact ih hlt hn _ _
    · rw [heq]
      apply List.append_left_lt
      exact ofNat_cons_lt (by omega) (by omega) r s

/-- Of two characters, the lesser one has the lesser bytes, and what stands behind them
does not matter. Where it has fewer bytes, the first one tells. -/
theorem utf8EncodeChar_append_lt {c d : Char} (h : c < d) (r s : List UInt8) :
    String.utf8EncodeChar c ++ r < String.utf8EncodeChar d ++ s := by
  have hlt : c.toNat < d.toNat := h
  have hroom := firstByte_lt (toNat_lt d)
  rcases Nat.lt_or_eq_of_le (furtherBytes_mono (Nat.le_of_lt hlt)) with hfewer | hsame
  · obtain ⟨rest, hc⟩ := exists_utf8EncodeChar_eq c
    obtain ⟨rest', hd⟩ := exists_utf8EncodeChar_eq d
    rw [hc, hd]
    exact ofNat_cons_lt (firstByte_lt_firstByte (toNat_lt c) hfewer) hroom _ _
  · rw [utf8EncodeChar_eq, utf8EncodeChar_eq, hsame]
    exact digitBytes_append_lt hlt hroom r s

/-- Of two texts, the lesser one ends first, or has the lesser character at the first place
where they differ. -/
theorem exists_difference {a b : List Char} (h : a < b) :
    (∃ c rest, b = a ++ c :: rest) ∨
      ∃ front c d rest rest', a = front ++ c :: rest ∧ b = front ++ d :: rest' ∧ c < d := by
  induction a generalizing b with
  | nil =>
    cases b with
    | nil => exact absurd h (List.lt_irrefl _)
    | cons d ds => exact .inl ⟨d, ds, rfl⟩
  | cons c cs ih =>
    cases b with
    | nil => exact absurd h (List.not_lt_nil _)
    | cons d ds =>
      rcases List.cons_lt_cons_iff.1 h with hcd | ⟨rfl, hrest⟩
      · exact .inr ⟨[], c, d, cs, ds, rfl, rfl, hcd⟩
      · rcases ih hrest with ⟨e, rest, rfl⟩ | ⟨front, e, f, rest, rest', rfl, rfl, hef⟩
        · exact .inl ⟨e, rest, rfl⟩
        · exact .inr ⟨c :: front, e, f, rest, rest', rfl, rfl, hef⟩

theorem lt_append_cons {α : Type} [LT α] (a : List α) (x : α) (rest : List α) :
    a < a ++ x :: rest := by
  have hbehind : a ++ [] < a ++ x :: rest := List.append_left_lt (List.nil_lt_cons x rest)
  rwa [List.append_nil] at hbehind

theorem bytesOf_lt {a b : List Char} (h : a < b) : bytesOf a < bytesOf b := by
  rcases exists_difference h with ⟨c, rest, rfl⟩ | ⟨front, c, d, rest, rest', rfl, rfl, hcd⟩
  · obtain ⟨further, hc⟩ := exists_utf8EncodeChar_eq c
    rw [bytesOf_append, bytesOf_cons, hc]
    exact lt_append_cons _ _ _
  · rw [bytesOf_append, bytesOf_append]
    exact List.append_left_lt (utf8EncodeChar_append_lt hcd _ _)

/-! ## The order of keys -/

/-- The order of keys: `a` comes before `b` when its bytes do, compared from
the first byte on. -/
def Before (a b : String) : Prop := bytes a < bytes b

theorem not_before_self (a : String) : ¬ Before a a := List.lt_irrefl _

theorem before_trans {a b c : String} (h : Before a b) (h' : Before b c) : Before a c :=
  List.lt_trans h h'

/-- Of two keys that differ, one comes before the other. -/
theorem before_of_not_before {a b : String} (hne : a ≠ b) (h : ¬ Before a b) : Before b a := by
  by_cases h' : Before b a
  · exact h'
  · exact absurd (bytes_inj.1 (List.le_antisymm (List.not_lt.1 h') (List.not_lt.1 h))) hne

/-- Keys may be compared character by character. -/
theorem before_iff_lt {a b : String} : Before a b ↔ a < b := by
  refine ⟨fun h => ?_, fun h => bytesOf_lt h⟩
  by_cases hlt : a < b
  · exact hlt
  · rcases List.le_iff_lt_or_eq.1 (List.not_lt.1 hlt) with hba | heq
    · exact absurd h (List.lt_asymm (bytesOf_lt hba))
    · rw [String.toList_inj.1 heq] at h
      exact absurd h (not_before_self a)

instance (a b : String) : Decidable (Before a b) := decidable_of_iff (a < b) before_iff_lt.symm

end PathTemplate.Text
