/-!
White space in the sense of the Unicode property White_Space, and the three ways the
library removes it: at both ends, at the end only, and everywhere.
-/

namespace CallMonitor.Text

/-- Closed code point ranges of the property White_Space, twenty-five characters in all. -/
def blankRanges : List (Nat × Nat) :=
  [(0x9, 0xD), (0x20, 0x20), (0x85, 0x85), (0xA0, 0xA0), (0x1680, 0x1680), (0x2000, 0x200A),
    (0x2028, 0x2029), (0x202F, 0x202F), (0x205F, 0x205F), (0x3000, 0x3000)]

def isBlank (c : Char) : Bool :=
  blankRanges.any fun range => decide (range.1 ≤ c.toNat) && decide (c.toNat ≤ range.2)

/-- Drops the longest run at the end whose members all satisfy `p`. -/
def dropEndWhile {α : Type} (p : α → Bool) (items : List α) : List α :=
  (items.reverse.dropWhile p).reverse

def trim (text : List Char) : List Char :=
  dropEndWhile isBlank (text.dropWhile isBlank)

def strip (text : List Char) : List Char :=
  text.filter fun c => !isBlank c

def allBlank (text : List Char) : Bool :=
  text.all isBlank

theorem strip_strip (text : List Char) : strip (strip text) = strip text := by
  simp [strip, List.filter_filter]

end CallMonitor.Text
