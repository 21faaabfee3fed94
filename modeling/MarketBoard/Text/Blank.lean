import MarketBoard.Text.Ranges

/-!
White space.

* `Unicode.blanks`, `isBlank`: characters that show as nothing but room.
* `isBlank_of_isWhitespace`: core's white space is among them.
-/

namespace MarketBoard

/-- White_Space: characters that show as nothing but room. -/
def Unicode.blanks : Ranges := [
  (0x9, 0xD), (0x20, 0x20), (0x85, 0x85), (0xA0, 0xA0), (0x1680, 0x1680), (0x2000, 0x200A),
  (0x2028, 0x2029), (0x202F, 0x202F), (0x205F, 0x205F), (0x3000, 0x3000)]

example : Unicode.blanks.ascending = true := by decide

/-- A character shows as nothing but room. -/
def isBlank (c : Char) : Bool := Unicode.blanks.holds c.toNat

/-- Blank, tab, line feed and carriage return are white space. -/
theorem isBlank_of_isWhitespace {c : Char} (h : c.isWhitespace = true) : isBlank c = true := by
  simp only [Char.isWhitespace, Bool.or_eq_true, decide_eq_true_eq] at h
  rcases h with ((rfl | rfl) | rfl) | rfl <;> decide

end MarketBoard
