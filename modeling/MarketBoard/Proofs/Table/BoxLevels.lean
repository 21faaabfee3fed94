import MarketBoard.Proofs.Decimal.Numeral
import MarketBoard.Proofs.Table.BoxPlace

/-!
The levels of a book in the depth box.

* `Rect.halfX`, `Rect.halfWidth`: the half of the box that belongs to a side.
* `DepthBox.getElem?_halfLine`: simple text in a half, cell by cell.
* `Window.cell?_half`, `Window.spells_half`: the lines of a half in a frame.
* `Level.depthText`: quantity and price of a level in words, `Level.length_depthText_le`: it fits half of
  every box on a screen of 80 columns.
* `Canvas.levels_in_box`: each line of a half shows the level in its place, with both numbers whole.
-/

namespace MarketBoard

/-! ### The halves of a box -/

namespace Rect

/-- The cells of the half of a side: between the two edges, and one more on the left if they cannot be
halved. -/
def halfWidth (r : Rect) : Side → Nat
  | .bid => (r.width - 2 + 1) / 2
  | .ask => (r.width - 2) / 2

/-- The first cell of the half of a side. -/
def halfX (r : Rect) : Side → Nat
  | .bid => r.x + 1
  | .ask => r.x + 1 + r.halfWidth .bid

end Rect

/-- The title of the half of a side. -/
def Side.title : Side → String
  | .bid => "BIDS"
  | .ask => "ASKS"

namespace DepthBox

/-- The lines of the half of a side, its title first. -/
def sideLines (b : DepthBox) : Side → List StyledText
  | .bid => heading "BIDS" :: b.left
  | .ask => heading "ASKS" :: b.right

/-- Simple text in a half: a character in each cell, and blanks behind the last one. -/
lemma getElem?_halfLine {t : StyledText} (h : IsSimple t.text) {width x : Nat} (hx : x < width) :
    (halfLine width t)[x]? =
      some (match t.text[x]? with
        | some c => (Cell.blank.withSymbol [c]).styled t.style
        | none => .blank) := by
  have hall : (clusters t.text).filter (·.width ≤ width) = t.text.map ([·]) := by
    rw [clusters_of_simple h, List.filter_eq_self]
    intro k hk
    obtain ⟨c, hc, rfl⟩ := List.mem_map.mp hk
    rw [(h c hc).2]
    exact decide_eq_true (by omega)
  have hcut : IsSimple (t.text.take width) := fun c hc => h c (List.mem_of_mem_take hc)
  have hcluster : clusterAt? ((t.text.take width).map ([·])) x = t.text[x]?.map ([·]) := by
    rw [clusterAt?_of_simple hcut, List.getElem?_take, if_pos hx]
  rw [halfLine, hall, Line.getElem?_place _ _ _ _ (by rw [Line.length_blank]),
    Line.getElem?_blank hx, fitting_map_of_simple h, Option.map_some]
  cases hc : t.text[x]? with
  | none =>
      rw [hc] at hcluster
      rw [written_blank_of_none hcluster]
  | some c =>
      rw [hc] at hcluster
      rw [written_of_some hcluster]

/-- A line between the edges of a box has a line of each half. -/
lemma getElem?_line_half (b : DepthBox) (r : Rect) (side : Side) {i x : Nat} (hi : i + 2 < r.height)
    (hx : x < r.halfWidth side) :
    (b.line r.width r.height (1 + i))[r.halfX side + x - r.x]? =
      (halfLineAt (b.sideLines side) i (r.halfWidth side))[x]? := by
  obtain ⟨n, hn⟩ : ∃ n, r.width = n + 2 := by
    refine ⟨r.width - 2, ?_⟩
    cases side <;> simp only [Rect.halfWidth] at hx <;> omega
  have hbid : r.halfWidth .bid = (n + 1) / 2 := by
    rw [Rect.halfWidth, hn, Nat.add_sub_cancel]
  have hask : r.halfWidth .ask = n - (n + 1) / 2 := by
    rw [Rect.halfWidth, hn, Nat.add_sub_cancel]
    omega
  have hline : b.line r.width r.height (1 + i) =
      { symbol := ['│'] } :: b.innerLine i n ++ [{ symbol := ['│'] }] := by
    rw [hn, line, if_neg (by omega), if_neg (by omega), Nat.add_sub_cancel_left]
  have hinner : (b.innerLine i n).length = n := by
    simp only [innerLine, List.length_append, length_halfLineAt]
    omega
  rw [hline, List.cons_append]
  cases side with
  | bid =>
      have hcell : r.halfX .bid + x - r.x = x + 1 := by
        rw [Rect.halfX]
        omega
      rw [hcell, List.getElem?_cons_succ, List.getElem?_append_left (by omega), innerLine, hbid,
        List.getElem?_append_left (by rw [length_halfLineAt]; omega)]
      rfl
  | ask =>
      have hcell : r.halfX .ask + x - r.x = (n + 1) / 2 + x + 1 := by
        rw [Rect.halfX, hbid]
        omega
      rw [hcell, List.getElem?_cons_succ, List.getElem?_append_left (by omega), innerLine, hask,
        List.getElem?_append_right (by rw [length_halfLineAt]; omega), length_halfLineAt,
        Nat.add_sub_cancel_left]
      rfl

end DepthBox

/-- **The lines of a half in a frame**: below the upper edge of the box, from the title of the half on. -/
lemma Window.cell?_half {w : Window} {b : DepthBox} {base : Grid} (hbase : base.IsRect)
    (hbox : w.box = some b) {r : Rect}
    (hplace : Rect.forRows? b.rows base.width base.height = some r) (side : Side) {i x : Nat}
    (hi : i + 2 < r.height) (hx : x < r.halfWidth side) :
    (w.compose base).cell? (r.halfX side + x) (r.y + 1 + i) =
      (DepthBox.halfLineAt (b.sideLines side) i (r.halfWidth side))[x]? := by
  have hcovers : r.Covers (r.halfX side + x) (r.y + 1 + i) := by
    constructor
    · cases side <;> simp only [Rect.halfX, Rect.halfWidth] at hx ⊢ <;> omega
    · omega
  have hy : r.y + 1 + i - r.y = 1 + i := by omega
  rw [(cell?_compose hbase hbox hplace _ _).1 hcovers, hy]
  exact b.getElem?_line_half r side hi hx

/-- The cells of a line from column `x` on have the characters of a text, one after another. -/
def Grid.Spells (g : Grid) (x y : Nat) (text : List Char) : Prop :=
  ∀ i (h : i < text.length), (g.cell? (x + i) y).map Cell.symbol = some [text[i]]

/-- A line of a half spells the beginning of its text for which it has room. -/
lemma Window.spells_half {w : Window} {b : DepthBox} {base : Grid} (hbase : base.IsRect)
    (hbox : w.box = some b) {r : Rect}
    (hplace : Rect.forRows? b.rows base.width base.height = some r) {side : Side} {i : Nat}
    {t : StyledText} (hline : (b.sideLines side)[i]? = some t) (hsimple : IsSimple t.text)
    {text : List Char} (hhead : text <+: t.text) (hi : i + 2 < r.height)
    (hroom : text.length ≤ r.halfWidth side) :
    (w.compose base).Spells (r.halfX side) (r.y + 1 + i) text := by
  intro x hx
  have hchar : t.text[x]? = some text[x] := List.prefix_iff_getElem?.mp hhead x hx
  have hxr : x < r.halfWidth side := Nat.lt_of_lt_of_le hx hroom
  rw [cell?_half hbase hbox hplace side hi hxr, DepthBox.halfLineAt, hline]
  dsimp only
  rw [DepthBox.getElem?_halfLine hsimple hxr, hchar]
  rfl

/-! ### Levels in words -/

/-- Quantity and price as they stand in a line, each at the right end of a field. -/
def Level.depthText (quantity price : List Char) : List Char :=
  padLeft 12 quantity ++ ' ' :: padLeft 14 price ++ [' ']

namespace Level

/-- A level in words begins with its quantity and its price. -/
lemma text_eq (longest largest : Nat) (l : Level) :
    l.text longest largest =
      depthText ((Decimal.ofUnits l.quantity).fixedText 4) ((Decimal.ofUnits l.price).fixedText 7) ++
        List.replicate (barLength longest largest l) '█' := by
  simp [text, depthText, Decimal.columnText, quantityPlaces, pricePlaces]

/-- **Both numbers of a level fit into 39 cells**, with a blank behind them. -/
lemma length_depthText_le (l : Level) :
    (depthText ((Decimal.ofUnits l.quantity).fixedText 4)
      ((Decimal.ofUnits l.price).fixedText 7)).length ≤ 39 := by
  have hquantity := Decimal.length_fixedText_ofUnits_le l.quantity (show 0 < 4 by decide)
  have hprice := Decimal.length_fixedText_ofUnits_le l.price (show 0 < 7 by decide)
  simp only [depthText, List.length_append, List.length_cons, List.length_nil, length_padLeft]
  omega

lemma isAscii_depthText {quantity price : List Char} (hquantity : IsAscii quantity)
    (hprice : IsAscii price) : IsAscii (depthText quantity price) := by
  have hblank : ∀ n, IsAscii (List.replicate n ' ') := fun n => isAscii_replicate n (by decide)
  have hone : IsAscii [' '] := hblank 1
  exact (((hblank _).append hquantity).append (hone.append ((hblank _).append hprice))).append hone

lemma isSimple_text (longest largest : Nat) (l : Level) : IsSimple (l.text longest largest) := by
  have hquantity := Decimal.isNumeral_fixedText (Decimal.isProper_ofUnits l.quantity) 4
  have hprice := Decimal.isNumeral_fixedText (Decimal.isProper_ofUnits l.price) 7
  rw [text_eq]
  refine IsSimple.append ?_ (isSimple_replicate _ (by decide +kernel))
  exact (isAscii_depthText hquantity.isAscii hprice.isAscii).isSimple

end Level

/-! ### The levels of a frame -/

/-- The box of a book has a line for each level, in the order of the book. -/
lemma Overlay.exists_box?_shown (key : Key) (book : Book) :
    ∃ b, (Overlay.shown key book).box? = some b ∧ ∀ side,
      b.sideLines side = DepthBox.heading side.title :: levelLines (book.side side) side longestBar := by
  refine ⟨_, rfl, fun side => ?_⟩
  cases side <;> rfl

/-- Half of a box on a screen of 80 columns or more has 39 cells. -/
lemma Rect.le_halfWidth {rows width height : Nat} (h : 80 ≤ width) {r : Rect}
    (hplace : forRows? rows width height = some r) (side : Side) : 39 ≤ r.halfWidth side := by
  obtain ⟨hbox, -, -, -⟩ := forRows?_eq_some hplace
  have hwidest : widestBox = 136 := rfl
  cases side <;> simp only [halfWidth] <;> omega

/-- **The levels of a book in its box.** A book with at most 65532 levels on each side has a box. On a
screen of 80 columns or more, a line of a half of the box that is not cut off by the lower edge shows the
level that stands in its place in the book, below the title of the half: its quantity, rounded half to
even to four places, and its price, rounded to seven, both whole and inside of the half, with a blank
behind the price. Below the last level the half is blank. -/
theorem Canvas.levels_in_box (c : Canvas) (s : Store) (v : View) {key : Key} {book : Book}
    (hshown : v.overlay = .shown key book) {base : Grid} (hbase : base.IsRect)
    (hwidth : 80 ≤ base.width) :
    ∃ b, v.overlay.box? = some b ∧
      ((∀ side, (book.side side).length ≤ 65532) →
        ∃ r, Rect.forRows? b.rows base.width base.height = some r) ∧
      ∀ r, Rect.forRows? b.rows base.width base.height = some r →
        let frame := (c.window v s).compose base
        ∀ side : Side,
          (2 < r.height → frame.Spells (r.halfX side) (r.y + 1) side.title.toList) ∧
          (∀ i l, (book.side side)[i]? = some l → i + 3 < r.height →
            ∃ n m quantity price,
              IsNearestEven (l.quantity.toNat / 10 ^ 8 * 10 ^ 4) n ∧ IsNumeral 4 n quantity ∧
              IsNearestEven (l.price.toNat / 10 ^ 8 * 10 ^ 7) m ∧ IsNumeral 7 m price ∧
              (Level.depthText quantity price).length ≤ r.halfWidth side ∧
              frame.Spells (r.halfX side) (r.y + 2 + i) (Level.depthText quantity price)) ∧
          ∀ i, (book.side side)[i]? = none → i + 3 < r.height → ∀ x < r.halfWidth side,
            frame.cell? (r.halfX side + x) (r.y + 2 + i) = some .blank := by
  obtain ⟨b, hbook, hlines⟩ := Overlay.exists_box?_shown key book
  have hbox : (c.window v s).box = some b := by rw [window, hshown, hbook]
  refine ⟨b, by rw [hshown, hbook], fun hlevels => ?_, fun r hplace => ?_⟩
  · have hplaceable : v.overlay.isPlaceable = true := by
      refine Overlay.isPlaceable_of_le fun key' book' hshown' => ?_
      obtain ⟨rfl, rfl⟩ := Overlay.shown.inj (hshown.symm.trans hshown')
      exact hlevels
    rw [Overlay.isPlaceable, hshown, hbook, Option.all_some] at hplaceable
    exact (b.exists_place_iff _ _).mpr hplaceable
  intro frame side
  have hhalf : 39 ≤ r.halfWidth side := Rect.le_halfWidth hwidth hplace side
  have hlevel : ∀ i, (b.sideLines side)[i + 1]? = (book.side side)[i]?.map fun l =>
      ⟨l.text longestBar (largestQuantity (book.side side)), side.style⟩ := by
    intro i
    rw [hlines, List.getElem?_cons_succ, levelLines, List.getElem?_map]
  have hy : ∀ i, r.y + 2 + i = r.y + 1 + (i + 1) := fun i => by omega
  refine ⟨fun hheight => ?_, fun i l hl hi => ?_, fun i hnone hi x hx => ?_⟩
  · have htitle : IsAscii side.title.toList ∧ side.title.toList.length = 4 := by
      cases side <;> decide
    have hfirst : (b.sideLines side)[0]? = some (DepthBox.heading side.title) := by rw [hlines]; rfl
    exact Window.spells_half hbase hbox hplace hfirst htitle.1.isSimple (List.prefix_refl _) hheight
      (show side.title.toList.length ≤ r.halfWidth side by omega)
  · have hquantity := (Decimal.ofUnits l.quantity).isNearestEven_round 4
    have hprice := (Decimal.ofUnits l.price).isNearestEven_round 7
    rw [Decimal.value_ofUnits] at hquantity hprice
    have hroom := Nat.le_trans l.length_depthText_le hhalf
    refine ⟨_, _, _, _, hquantity, Decimal.isNumeral_fixedText (Decimal.isProper_ofUnits _) 4, hprice,
      Decimal.isNumeral_fixedText (Decimal.isProper_ofUnits _) 7, hroom, ?_⟩
    have hline := hlevel i
    rw [hl] at hline
    rw [hy]
    exact Window.spells_half hbase hbox hplace hline (l.isSimple_text _ _)
      ⟨_, (l.text_eq _ _).symm⟩ (show i + 1 + 2 < r.height by omega) hroom
  · have hline := hlevel i
    rw [hnone] at hline
    rw [hy]
    refine (Window.cell?_half hbase hbox hplace side (show i + 1 + 2 < r.height by omega) hx).trans ?_
    rw [DepthBox.halfLineAt, hline]
    exact Line.getElem?_blank hx

/-- The largest level that can be received, in the narrower half of a box on a screen of 80 columns: its
text leaves one cell between its numbers and the edge. -/
theorem Canvas.levels_in_box_largest :
    let largest : Level := ⟨UInt64.ofNat (2 ^ 64 - 1), UInt64.ofNat (2 ^ 64 - 1)⟩
    let book : Book := ⟨[⟨1, 1⟩], [largest]⟩
    let v := { View.ofSize 80 7 with overlay := .shown ⟨"A", 1⟩ book }
    let base := Grid.blank 80 7
    let frame :=
      ((Canvas.ofTerminal (.ofDevice (.blank 80 7)) 3).window v (.empty .trades)).compose base
    v.overlay = .shown ⟨"A", 1⟩ book ∧ base.IsRect ∧ 80 ≤ base.width ∧
      (∃ n m quantity price,
        IsNearestEven (largest.quantity.toNat / 10 ^ 8 * 10 ^ 4) n ∧ IsNumeral 4 n quantity ∧
        IsNearestEven (largest.price.toNat / 10 ^ 8 * 10 ^ 7) m ∧ IsNumeral 7 m price ∧
        frame.Spells 40 3 (Level.depthText quantity price)) ∧
      (frame.lines[3]?.map fun line => (line.drop 40).map Cell.symbol) =
        some ("184467440737.0955 184467440737.0955162 │".toList.map ([·])) := by
  intro largest book v base frame
  have hshown : v.overlay = .shown ⟨"A", 1⟩ book := rfl
  have hbase : base.IsRect := Grid.isRect_blank _ _
  have hwidth : 80 ≤ base.width := Nat.le_refl 80
  obtain ⟨b, hbox, -, hbody⟩ :=
    (Canvas.ofTerminal (.ofDevice (.blank 80 7)) 3).levels_in_box (.empty .trades) v hshown hbase hwidth
  have hplace : Rect.forRows? b.rows 80 7 = some ⟨0, 1, 80, 4⟩ := by
    rw [← Option.some.inj hbox]
    decide
  obtain ⟨n, m, quantity, price, hn, hquantity, hm, hprice, -, hspells⟩ :=
    (hbody _ hplace .ask).2.1 0 largest rfl (by decide)
  exact ⟨hshown, hbase, hwidth, ⟨n, m, quantity, price, hn, hquantity, hm, hprice, hspells⟩,
    by decide +kernel⟩

end MarketBoard
