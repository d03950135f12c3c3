import Mathlib.Data.List.Basic

namespace Inet

structure InAddr where
  b0 : UInt8
  b1 : UInt8
  b2 : UInt8
  b3 : UInt8
deriving DecidableEq, Repr

def digit (value : Nat) : Char := Char.ofNat ('0'.toNat + value)

def octet (byte : UInt8) : List Char :=
  let value := byte.toNat
  if value < 10 then [digit value]
  else if value < 100 then [digit (value / 10), digit (value % 10)]
  else [digit (value / 100), digit (value / 10 % 10), digit (value % 10)]

def digitValue (char : Char) : Option Nat :=
  if '0' ≤ char ∧ char ≤ '9' then some (char.toNat - '0'.toNat) else none

/-- One to three decimal digits, no leading zero, at most 255. -/
def octetValue (text : List Char) : Option UInt8 := do
  let digits ← text.mapM digitValue
  let value := digits.foldl (fun total digit => total * 10 + digit) 0
  if 1 ≤ digits.length ∧ digits.length ≤ 3 ∧ value ≤ 255 ∧
      (digits.length = 1 ∨ digits.head? ≠ some 0) then
    some (UInt8.ofNat value)
  else none

def ntop (address : InAddr) : String :=
  String.ofList (List.intercalate ['.']
    [octet address.b0, octet address.b1, octet address.b2, octet address.b3])

def pton (text : String) : Option InAddr :=
  match (text.toList.splitOn '.').mapM octetValue with
  | some [b0, b1, b2, b3] => some ⟨b0, b1, b2, b3⟩
  | _ => none

theorem octet_decimal : ∀ value < 256,
    octetValue (octet (UInt8.ofNat value)) = some (UInt8.ofNat value) ∧
      '.' ∉ octet (UInt8.ofNat value) := by
  decide +kernel

theorem octetValue_octet (byte : UInt8) : octetValue (octet byte) = some byte := by
  simpa using (octet_decimal byte.toNat byte.toNat_lt).1

theorem dot_notMem_octet (byte : UInt8) : '.' ∉ octet byte := by
  simpa using (octet_decimal byte.toNat byte.toNat_lt).2

theorem pton_ntop (address : InAddr) : pton (ntop address) = some address := by
  have split : List.splitOn '.' (List.intercalate ['.']
      [octet address.b0, octet address.b1, octet address.b2, octet address.b3]) =
      [octet address.b0, octet address.b1, octet address.b2, octet address.b3] := by
    apply List.splitOn_intercalate
    · simp [dot_notMem_octet]
    · simp
  simp only [pton, ntop, String.toList_ofList, split]
  simp [octetValue_octet]

example : ntop ⟨192, 168, 1, 1⟩ = "192.168.1.1" := by decide +kernel

end Inet
