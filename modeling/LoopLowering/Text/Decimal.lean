/-
  Decimal numerals: the digits of a number and the number of a run of digits.

  Writing uses `Nat.toDigits 10`, which has no leading zero; reading takes any run of ASCII digits.
  The two facts the readers of this library need are

    * `value_digits`     — reading undoes writing;
    * `isDigit_of_mem_digits`, `digits_ne_nil` — a written number is a non-empty run of digits.
-/

namespace LoopLowering.Text.Decimal

/-- The value of one decimal digit. -/
def digitValue (c : Char) : Nat := c.toNat - '0'.toNat

/-- The digits of `n`, most significant first and without leading zeros. -/
def digits (n : Nat) : List Char := Nat.toDigits 10 n

/-- Reads on from the value `acc` of the digits already seen. -/
def valueFrom (acc : Nat) (cs : List Char) : Nat :=
  cs.foldl (fun n c => 10 * n + digitValue c) acc

/-- The number that a run of digits denotes; leading zeros do not matter. -/
def value (cs : List Char) : Nat := valueFrom 0 cs

/-- The number a whole text denotes, if the text is a non-empty run of digits. -/
def value? (cs : List Char) : Option Nat :=
  if cs ≠ [] ∧ cs.all Char.isDigit then some (value cs) else none

/-! ## Reading undoes writing -/

theorem valueFrom_append (acc : Nat) (cs ds : List Char) :
    valueFrom acc (cs ++ ds) = valueFrom (valueFrom acc cs) ds := by
  simp [valueFrom, List.foldl_append]

theorem digitValue_digitChar {d : Nat} (h : d < 10) : digitValue d.digitChar = d :=
  Nat.toNat_digitChar_sub_48_of_lt_ten h

@[simp] theorem value_digits (n : Nat) : value (digits n) = n := by
  induction n using Nat.strongRecOn with
  | _ n ih =>
    rcases Nat.lt_or_ge n 10 with h | h
    · simp [digits, Nat.toDigits_of_lt_base h, value, valueFrom, digitValue_digitChar h]
    · have ih' := ih (n / 10) (by omega)
      rw [value, digits] at ih'
      rw [value, digits, Nat.toDigits_of_base_le (by omega) h, valueFrom_append, ih']
      simp only [valueFrom, List.foldl_cons, List.foldl_nil,
        digitValue_digitChar (Nat.mod_lt n (by omega))]
      omega

theorem digits_ne_nil (n : Nat) : digits n ≠ [] := Nat.toDigits_ne_nil

theorem isDigit_of_mem_digits {n : Nat} {c : Char} (h : c ∈ digits n) : c.isDigit = true :=
  Nat.isDigit_of_mem_toDigits (by omega) (by omega) h

@[simp] theorem value?_digits (n : Nat) : value? (digits n) = some n := by
  have h : (digits n).all Char.isDigit = true := by
    simpa using fun c hc => isDigit_of_mem_digits hc
  simp [value?, digits_ne_nil, h]

/-! ## Signs -/

/-- The text of an integer: a minus sign if it is negative, then its digits. -/
def signed (i : Int) : List Char := if i < 0 then '-' :: digits i.natAbs else digits i.natAbs

/-- The integer that a whole text denotes: at most one sign, then at least one digit. -/
def signed? (cs : List Char) : Option Int :=
  match cs with
  | '-' :: rest => (value? rest).map fun n : Nat => -(n : Int)
  | '+' :: rest => (value? rest).map Int.ofNat
  | rest => (value? rest).map Int.ofNat

theorem signed?_of_isDigit {c : Char} {rest : List Char} (h : c.isDigit = true) :
    signed? (c :: rest) = (value? (c :: rest)).map Int.ofNat := by
  unfold signed?
  split
  · rename_i e; cases e; exact absurd h (by decide)
  · rename_i e; cases e; exact absurd h (by decide)
  · rfl

@[simp] theorem signed?_signed (i : Int) : signed? (signed i) = some i := by
  have plain : ∀ n : Nat, signed? (digits n) = some (n : Int) := fun n => by
    cases h : digits n with
    | nil => exact absurd h (digits_ne_nil n)
    | cons c rest =>
      rw [signed?_of_isDigit (isDigit_of_mem_digits (n := n) (by simp [h])), ← h]
      simp
  unfold signed
  split
  · have same : -(i.natAbs : Int) = i := by omega
    simp only [signed?, value?_digits, Option.map_some, same]
  · rw [plain]; congr 1; omega

theorem digits_injective {m n : Nat} (h : digits m = digits n) : m = n := by
  rw [← value_digits m, h, value_digits]

end LoopLowering.Text.Decimal
