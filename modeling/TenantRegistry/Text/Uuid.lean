/-
TenantRegistry/Text/Uuid.lean

Ids of 32 hexadecimal digits in five groups.

Six bits are fixed by the format of random ids: the version, 4, in the first
digit of the third group, and the variant in the first digit of the fourth.
The others are the number that an id is made from.
-/
import TenantRegistry.Program

namespace TenantRegistry

/-- The last `count` hexadecimal digits of a number. -/
def hexDigits : Nat → Nat → List Char
  | 0, _ => []
  | count + 1, value => hexDigits count (value / 16) ++ [(value % 16).digitChar]

/-- The id made from the last 122 bits of a number. -/
def uuid (value : Nat) : String :=
  let group (count shift : Nat) : List Char := hexDigits count (value >>> shift)
  String.ofList
    (group 8 90 ++ ['-'] ++ group 4 74 ++ ['-', '4'] ++ group 3 62 ++ ['-'] ++
      hexDigits 1 (8 + (value >>> 60) % 4) ++ group 3 48 ++ ['-'] ++ group 12 0)

/-- The ids made from a number and those after it. -/
def IdSource.uuids (seed : Nat) : IdSource := ⟨fun n => uuid (seed + n), 0⟩

end TenantRegistry
