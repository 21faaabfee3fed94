import MarketBoard.Proofs.Table.BoxLevels
import Mathlib.Algebra.Order.Floor.Semifield
import Mathlib.Data.Rat.Floor

/-!
The bars of the levels in the depth box.

* `largestQuantity_le_iff`: the scale of the bars is the least number that is at least one and at least
  every quantity. `largestQuantity_eq_max`: it is the largest quantity, unless that is zero.
* `barLength_le`, `barLength_mono`, `barLength_eq`, `barLength_eq_floor`: bars in proportion to their
  quantities.
* `largestWord`, `barWord`: the same computed in machine words. `toNat_largestWord`, `toNat_barWord`:
  nothing overflows.
* `StyledText.blocks`: the bar of a line. `Level.IsShownBy`: how a line shows a level.
* `levelLines_inProportion`: so do the lines of the levels, one for each in their order.
-/

namespace MarketBoard

variable {levels : List Level} {l m : Level} {longest largest : Nat}

/-! ### The scale of the bars -/

/-- The largest quantity of levels, zero if there are none. -/
def topQuantity (levels : List Level) : Nat := (levels.map (·.quantity.toNat)).max?.getD 0

lemma foldl_max_le_iff (levels : List Level) (start n : Nat) :
    levels.foldl (fun m l => max m l.quantity.toNat) start ≤ n ↔
      start ≤ n ∧ ∀ l ∈ levels, l.quantity.toNat ≤ n := by
  induction levels generalizing start with
  | nil => simp
  | cons l levels ih => rw [List.foldl_cons, ih, max_le_iff, List.forall_mem_cons, and_assoc]

/-- **The scale of the bars** is at least one and at least every quantity, and no greater than that. -/
lemma largestQuantity_le_iff (levels : List Level) (n : Nat) :
    largestQuantity levels ≤ n ↔ 1 ≤ n ∧ ∀ l ∈ levels, l.quantity.toNat ≤ n := by
  have hzero : 0 ≤ n := Nat.zero_le n
  rw [largestQuantity, max_le_iff, foldl_max_le_iff, and_comm, and_iff_right hzero]

lemma largestQuantity_pos (levels : List Level) : 0 < largestQuantity levels :=
  ((largestQuantity_le_iff levels _).mp le_rfl).1

lemma le_largestQuantity (h : l ∈ levels) : l.quantity.toNat ≤ largestQuantity levels :=
  ((largestQuantity_le_iff levels _).mp le_rfl).2 l h

/-- The scale is the largest quantity, or one if that is zero. -/
lemma largestQuantity_eq_max (levels : List Level) :
    largestQuantity levels = max 1 (topQuantity levels) := by
  refine eq_of_forall_ge_iff fun n => ?_
  rw [largestQuantity_le_iff, max_le_iff, topQuantity]
  refine and_congr_right fun _ => ?_
  cases htop : (levels.map (·.quantity.toNat)).max? with
  | none =>
      obtain rfl := List.map_eq_nil_iff.mp (List.max?_eq_none_iff.mp htop)
      simp
  | some top =>
      rw [Option.getD_some, List.max?_le_iff htop, List.forall_mem_map]

/-! ### Proportion -/

/-- No bar is longer than the longest one. -/
lemma barLength_le (longest : Nat) (h : l.quantity.toNat ≤ largest) :
    barLength longest largest l ≤ longest := by
  rw [barLength]
  refine Nat.div_le_of_le_mul ?_
  exact Nat.mul_le_mul_right longest h

/-- A larger quantity never has a shorter bar. -/
lemma barLength_mono (longest largest : Nat) (h : l.quantity ≤ m.quantity) :
    barLength longest largest l ≤ barLength longest largest m :=
  Nat.div_le_div_right (Nat.mul_le_mul_right longest (UInt64.le_iff_toNat_le.mp h))

/-- The quantity of the scale has the longest bar. -/
lemma barLength_eq (longest : Nat) (hpos : 0 < largest) (h : l.quantity.toNat = largest) :
    barLength longest largest l = longest := by
  rw [barLength, h, Nat.mul_div_cancel_left longest hpos]

/-- The length of a bar is the whole part of its proportion. -/
lemma barLength_eq_floor (longest largest : Nat) (l : Level) :
    barLength longest largest l = ⌊(l.quantity.toNat * longest : ℚ) / largest⌋₊ := by
  rw [barLength, ← Nat.cast_mul, Nat.floor_div_eq_div]

/-! ### Machine words -/

/-- The scale of the bars as a word of 64 bits. -/
def largestWord (levels : List Level) : UInt64 :=
  max ((levels.map (·.quantity)).max?.getD 1) 1

/-- The length of a bar in machine words: product and quotient in 128 bits, the result in 64. -/
def barWord (longest largest quantity : UInt64) : UInt64 :=
  .ofBitVec ((quantity.toBitVec.setWidth 128 * longest.toBitVec.setWidth 128 /
    largest.toBitVec.setWidth 128).setWidth 64)

lemma toNat_largestWord (levels : List Level) :
    (largestWord levels).toNat = largestQuantity levels := by
  rw [largestQuantity_eq_max, topQuantity, largestWord, UInt64.toNat_max, max_comm]
  cases levels with
  | nil => rfl
  | cons l levels =>
      have hfold : (levels.map (·.quantity.toNat)).foldl max l.quantity.toNat =
          ((levels.map (·.quantity)).foldl max l.quantity).toNat := by
        rw [List.foldl_map, List.foldl_map]
        exact List.foldl_hom UInt64.toNat fun x m => (UInt64.toNat_max x m.quantity).symm
      rw [List.map_cons, List.map_cons, List.max?_cons', List.max?_cons', Option.getD_some,
        Option.getD_some, hfold]
      rfl

/-- A product of two words of 64 bits fits 128 bits. -/
lemma toNat_mul_lt (a b : UInt64) : a.toNat * b.toNat < 2 ^ 128 :=
  calc a.toNat * b.toNat < 2 ^ 64 * 2 ^ 64 := Nat.mul_lt_mul'' a.toNat_lt b.toNat_lt
    _ = 2 ^ 128 := by rw [← Nat.pow_add]

/-- **No bar overflows**: machine words compute its length. -/
lemma toNat_barWord (longest : UInt64) {largest : UInt64} (h : l.quantity ≤ largest) :
    (barWord longest largest l.quantity).toNat = barLength longest.toNat largest.toNat l := by
  have hwide : ∀ n : UInt64, (n.toBitVec.setWidth 128).toNat = n.toNat := fun n =>
    BitVec.toNat_setWidth_of_le (by decide)
  have hfits : barLength longest.toNat largest.toNat l < 2 ^ 64 :=
    Nat.lt_of_le_of_lt (barLength_le _ (UInt64.le_iff_toNat_le.mp h)) longest.toNat_lt
  rw [barWord, UInt64.toNat_ofBitVec, BitVec.toNat_setWidth, BitVec.toNat_udiv, BitVec.toNat_mul,
    hwide, hwide, hwide, Nat.mod_eq_of_lt (toNat_mul_lt _ _)]
  exact Nat.mod_eq_of_lt hfits

/-! ### The lines of the levels -/

/-- The blocks of a line: its bar. -/
def StyledText.blocks (t : StyledText) : Nat := t.text.count '█'

/-- The blocks of a line are those of its bar, as there are none among its numbers. -/
lemma Level.blocks_text (longest largest : Nat) (l : Level) (style : Style) :
    StyledText.blocks ⟨l.text longest largest, style⟩ = barLength longest largest l := by
  have hquantity := Decimal.isNumeral_fixedText (Decimal.isProper_ofUnits l.quantity) 4
  have hprice := Decimal.isNumeral_fixedText (Decimal.isProper_ofUnits l.price) 7
  have hascii := isAscii_depthText hquantity.isAscii hprice.isAscii
  have hnone : '█' ∉ depthText ((Decimal.ofUnits l.quantity).fixedText 4)
      ((Decimal.ofUnits l.price).fixedText 7) := fun h => absurd (hascii _ h) (by decide)
  rw [StyledText.blocks, text_eq, List.count_append, List.count_eq_zero.mpr hnone, Nat.zero_add,
    List.count_replicate_self]

/-- **How a line shows a level among levels**, where the longest bar has `longest` blocks. -/
structure Level.IsShownBy (l : Level) (levels : List Level) (side : Side) (longest : Nat)
    (line : StyledText) : Prop where
  /-- The numbers of the level, and its bar behind them. -/
  text : line.text = depthText ((Decimal.ofUnits l.quantity).fixedText 4)
    ((Decimal.ofUnits l.price).fixedText 7) ++ List.replicate line.blocks '█'
  style : line.style = side.style
  /-- The bar is in proportion to the largest quantity. -/
  blocks : line.blocks = ⌊(l.quantity.toNat * longest : ℚ) / (max 1 (topQuantity levels) : Nat)⌋₊
  le : line.blocks ≤ longest
  /-- The largest quantity has the whole bar. -/
  full : 0 < topQuantity levels → l.quantity.toNat = topQuantity levels → line.blocks = longest
  /-- Machine words compute the bar: nothing is divided by zero, the product fits 128 bits and the
  quotient 64. -/
  words : ∀ width : UInt64, width.toNat = longest →
    largestWord levels ≠ 0 ∧ l.quantity.toNat * width.toNat < 2 ^ 128 ∧
      (barWord width (largestWord levels) l.quantity).toNat = line.blocks

lemma Level.isShownBy_text (h : l ∈ levels) (side : Side) (longest : Nat) :
    l.IsShownBy levels side longest ⟨l.text longest (largestQuantity levels), side.style⟩ where
  text := by
    rw [blocks_text]
    exact l.text_eq _ _
  style := rfl
  blocks := by rw [blocks_text, barLength_eq_floor, largestQuantity_eq_max]
  le := by
    rw [blocks_text]
    exact barLength_le longest (le_largestQuantity h)
  full hpos htop := by
    rw [blocks_text, largestQuantity_eq_max, max_eq_right hpos]
    exact barLength_eq longest hpos htop
  words width hwidth := by
    have hword : l.quantity ≤ largestWord levels := by
      rw [UInt64.le_iff_toNat_le, toNat_largestWord]
      exact le_largestQuantity h
    have hpos : 0 < (largestWord levels).toNat := by
      rw [toNat_largestWord]
      exact largestQuantity_pos levels
    refine ⟨?_, toNat_mul_lt _ _, ?_⟩
    · intro hzero
      rw [hzero] at hpos
      exact Nat.lt_irrefl 0 hpos
    · rw [blocks_text, toNat_barWord width hword, hwidth, toNat_largestWord]

/-- **Bars are in proportion to the quantities, and bounded.** There is a line for each level, in the
order of the levels, and it shows the level: its quantity, its price, and a bar of
`⌊quantity * longest / max 1 top⌋` blocks, where `top` is the largest quantity. That is at most
`longest`, and exactly so much for every level of the largest quantity unless that is zero. A larger
quantity never has a shorter bar than a smaller one. -/
theorem levelLines_inProportion (levels : List Level) (side : Side) (longest : Nat) :
    let lines := levelLines levels side longest
    lines.length = levels.length ∧
      (∀ (i : Nat) (l : Level), levels[i]? = some l →
        ∃ line, lines[i]? = some line ∧ l.IsShownBy levels side longest line) ∧
      ∀ (i j : Nat) (l m : Level) (line other : StyledText), levels[i]? = some l →
        lines[i]? = some line → levels[j]? = some m → lines[j]? = some other →
        l.quantity ≤ m.quantity → line.blocks ≤ other.blocks := by
  intro lines
  have hlines (i : Nat) : lines[i]? = levels[i]?.map fun l =>
      ⟨l.text longest (largestQuantity levels), side.style⟩ := List.getElem?_map
  refine ⟨List.length_map _, fun i l hl => ?_, fun i j l m line other hl hline hm hother hlm => ?_⟩
  · refine ⟨_, ?_, Level.isShownBy_text (List.mem_of_getElem? hl) side longest⟩
    rw [hlines, hl, Option.map_some]
  · rw [hlines, hl, Option.map_some, Option.some.injEq] at hline
    rw [hlines, hm, Option.map_some, Option.some.injEq] at hother
    rw [← hline, ← hother, Level.blocks_text, Level.blocks_text]
    exact barLength_mono _ _ hlm

/-- The largest quantity that can be received has the whole bar, a half of it half a bar. -/
theorem levelLines_inProportion_largest :
    let largest := UInt64.ofNat (2 ^ 64 - 1)
    let half := UInt64.ofNat (2 ^ 63)
    let levels : List Level := [⟨3, 0⟩, ⟨2, largest⟩, ⟨1, half⟩]
    let lines := levelLines levels .ask 6
    (∃ line other, lines[1]? = some line ∧ lines[2]? = some other ∧ other.blocks ≤ line.blocks ∧
      line.blocks = 6 ∧ (barWord 6 (largestWord levels) largest).toNat = 6) ∧
      lines.map (·.blocks) = [0, 6, 3] := by
  intro largest half levels lines
  obtain ⟨-, hshown, hmono⟩ := levelLines_inProportion levels .ask 6
  obtain ⟨line, hline, hlargest⟩ := hshown 1 ⟨2, largest⟩ rfl
  obtain ⟨other, hother, -⟩ := hshown 2 ⟨1, half⟩ rfl
  have hfull : line.blocks = 6 := hlargest.full (by decide) (by decide)
  have hle := hmono 2 1 ⟨1, half⟩ ⟨2, largest⟩ other line rfl hother rfl hline (by decide)
  exact ⟨⟨line, other, hline, hother, hle, hfull, (hlargest.words 6 rfl).2.2.trans hfull⟩,
    by decide +kernel⟩

end MarketBoard
