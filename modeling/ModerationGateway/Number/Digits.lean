/-!
# Digits

* `hexDigit?`, `hexDigit`: the value of a digit up to fifteen, and the lower-case digit of a value;
* `ofDigits`: the number that digits write in a base.
-/

namespace ModerationGateway

/-- The value of a hexadecimal digit. -/
def hexDigit? (c : Char) : Option Nat :=
  if '0' ≤ c ∧ c ≤ '9' then some (c.toNat - 48)
  else if 'a' ≤ c ∧ c ≤ 'f' then some (c.toNat - 87)
  else if 'A' ≤ c ∧ c ≤ 'F' then some (c.toNat - 55)
  else none

/-- A hexadecimal digit. -/
def isHexDigit (c : Char) : Bool := (hexDigit? c).isSome

/-- The lower-case hexadecimal digit of a number below sixteen. -/
def hexDigit (n : Nat) : Char := Nat.digitChar (n % 16)

theorem hexDigit?_hexDigit {n : Nat} (h : n < 16) : hexDigit? (hexDigit n) = some n := by
  have all : ∀ m : Fin 16, hexDigit? (hexDigit m) = some m.val := by decide +kernel
  exact all ⟨n, h⟩

/-- The number that digits write in a base. -/
def ofDigits (base : Nat) (digits : List Char) : Nat :=
  digits.foldl (fun n c => n * base + (hexDigit? c).getD 0) 0

@[simp] theorem ofDigits_nil (base : Nat) : ofDigits base [] = 0 := rfl

end ModerationGateway
