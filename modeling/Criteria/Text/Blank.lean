/-! Blank text. The blank characters are those of the general whitespace set, with the four
information separators. A text is blank when it holds no other character.
-/

set_option autoImplicit false

namespace Criteria.Text

/-- Closed intervals of code points. -/
def blankRanges : List (Nat × Nat) :=
  [(0x09, 0x0D), (0x1C, 0x20), (0x85, 0x85), (0xA0, 0xA0), (0x1680, 0x1680), (0x2000, 0x200A),
   (0x2028, 0x2029), (0x202F, 0x202F), (0x205F, 0x205F), (0x3000, 0x3000)]

def inRanges (ranges : List (Nat × Nat)) (n : Nat) : Bool :=
  ranges.any fun r => decide (r.1 ≤ n) && decide (n ≤ r.2)

def blankChar (c : Char) : Bool := inRanges blankRanges c.toNat

def blank (s : String) : Bool := s.toList.all blankChar

@[simp] theorem blank_empty : blank "" = true := rfl

theorem blank_append (s t : String) : blank (s ++ t) = (blank s && blank t) := by
  simp [blank]

theorem blank_iff (s : String) : blank s = true ↔ ∀ c ∈ s.toList, blankChar c = true := by
  simp [blank]

end Criteria.Text
