import BookExchange.Text.Range

/-! White space, and texts without it at their ends. -/
namespace BookExchange.Text

/-- The property `White_Space`. -/
def blankRanges : List (Nat × Nat) :=
  [(0x9, 0xD), (0x20, 0x20), (0x85, 0x85), (0xA0, 0xA0), (0x1680, 0x1680), (0x2000, 0x200A),
   (0x2028, 0x2029), (0x202F, 0x202F), (0x205F, 0x205F), (0x3000, 0x3000)]

def isBlank (c : Char) : Bool := inRanges blankRanges c.toNat

/-- The characters between the first and the last that are not white space. -/
def trimmed (cs : List Char) : List Char :=
  ((cs.dropWhile isBlank).reverse.dropWhile isBlank).reverse

def trim (s : String) : String := String.ofList (trimmed s.toList)

/-- The trimmed text, unless nothing is left of it. -/
def nonBlank? (s : String) : Option String :=
  if trim s = "" then none else some (trim s)

end BookExchange.Text
