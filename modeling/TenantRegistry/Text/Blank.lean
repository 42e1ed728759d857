/-
TenantRegistry/Text/Blank.lean

Blank text.

A character is blank if it is one of the 25 white-space characters of the
Unicode standard, and a text is blank if all its characters are.  A name that
is required must not be blank.
-/
namespace TenantRegistry

/-- The runs of white-space characters, by their first and last code. -/
def blankRanges : List (Nat × Nat) :=
  [(0x9, 0xd), (0x20, 0x20), (0x85, 0x85), (0xa0, 0xa0), (0x1680, 0x1680), (0x2000, 0x200a),
    (0x2028, 0x2029), (0x202f, 0x202f), (0x205f, 0x205f), (0x3000, 0x3000)]

-- there are 25 white-space characters
example : blankRanges.foldl (fun count range => count + (range.2 + 1 - range.1)) 0 = 25 := by decide

/-- Whether a character is white space. -/
def isBlankChar (c : Char) : Bool :=
  blankRanges.any fun range => range.1 ≤ c.toNat && c.toNat ≤ range.2

/-- Whether a text has nothing but white space in it. -/
def isBlank (text : String) : Bool := text.toList.all isBlankChar

end TenantRegistry
