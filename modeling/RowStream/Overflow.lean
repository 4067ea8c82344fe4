import RowStream.Error
import RowStream.Number.Literal

/-! # Arithmetic in words

A sum or difference that leaves its word stops the program. What is calculated that way fails either with an
error for the caller or with the operation that overflowed. -/
namespace RowStream

/-- The operation whose result does not fit. -/
inductive Overflow
  | addition
  | subtraction
deriving Repr, DecidableEq

def Overflow.text : Overflow → String
  | .addition => "attempt to add with overflow"
  | .subtraction => "attempt to subtract with overflow"

/-- Why there is no value: an error that is handed out, or a program that has stopped. -/
inductive Failure
  | error (e : Error)
  | overflow (o : Overflow)
deriving Repr, DecidableEq

abbrev Checked (α : Type) := Except Failure α

namespace Checked
variable {α : Type}

def ofResult : Result α → Checked α
  | .ok a => .ok a
  | .error e => .error (.error e)

def ofWords : Except Overflow α → Checked α
  | .ok a => .ok a
  | .error o => .error (.overflow o)

instance : MonadLift (Except Error) (Except Failure) := ⟨ofResult⟩

instance : MonadLift (Except Overflow) (Except Failure) := ⟨ofWords⟩

@[simp] theorem ofResult_eq_ok {r : Result α} {a : α} : ofResult r = .ok a ↔ r = .ok a := by
  cases r <;> simp [ofResult]

@[simp] theorem ofResult_ne_overflow {r : Result α} {o : Overflow} : ofResult r ≠ .error (.overflow o) := by
  cases r <;> simp [ofResult]

end Checked

def addWords (a b : Nat) : Except Overflow Nat := if a + b < UInt64.size then .ok (a + b) else .error .addition

def sumWords (words : List Nat) : Except Overflow Nat := words.foldlM addWords 0

def signed (n : Nat) : Int := (BitVec.ofNat 64 n).toInt

def subtractSigned (a b : Int) : Except Overflow Int :=
  if a - b ∈ Number.Range.int64 then .ok (a - b) else .error .subtraction

end RowStream
