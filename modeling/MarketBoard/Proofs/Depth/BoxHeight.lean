import MarketBoard.Proofs.Board.Stopping
import MarketBoard.Proofs.Board.Redraw
import MarketBoard.Proofs.Depth.Accepted

/-!
How high the box of a received book is.

* `Book.rowsOf`: the lines that a book wants, `Book.rows_box?`: those are the rows of its box.
* `boxHeight?_of_le`, `Rect.forRows?_eq_none`: the height of a box whose rows and frame can be counted in
  16 bits, and no box for rows that cannot.
* `Canvas.stopped_refresh_shown`: the books with which drawing ends the program.
* `Book.box_height`: the box of every book that comes in a frame, and the books with which drawing ends
  the program. `Book.box_overflow`: a book of 65533 levels is one of them.
-/

namespace MarketBoard

namespace Book

/-- The lines that a book wants: those of its longer side, but at least one. -/
def rowsOf (b : Book) : Nat := max 1 (max b.bids.length b.asks.length)

/-- The box of a book has these rows. -/
lemma rows_box? (book : Book) (key : Key) :
    ∃ b, (Overlay.shown key book).box? = some b ∧ b.rows = book.rowsOf := by
  refine ⟨_, rfl, ?_⟩
  simp only [DepthBox.rows, levelLines, List.length_map, side, rowsOf]
  exact Nat.max_comm _ _

/-- The lines of a book that fits a frame are counted in 16 bits. -/
lemma rowsOf_lt {b : Book} (h : b.bids.length + b.asks.length ≤ 65535) : b.rowsOf < UInt16.size := by
  simp only [rowsOf, UInt16.size]
  omega

end Book

/-! ### The height by the number of rows -/

/-- Rows that can be counted together with the frame and the titles all have room if the screen has. -/
lemma boxHeight?_of_le {rows screenHeight : Nat} (hpos : 1 ≤ rows) (hrows : rows ≤ 65532)
    (hheight : 5 ≤ screenHeight) :
    boxHeight? rows screenHeight = some (min (rows + 3) (screenHeight - 2)) := by
  rw [boxHeight?, wantedLines?_of_le hrows, Option.map_some]
  exact congrArg some (by omega)

/-- Of the rows that are counted whole, the last three have no lines. -/
lemma wantedLines?_eq_none_iff {rows : Nat} (hlt : rows < UInt16.size) :
    wantedLines? rows = none ↔ 65532 < rows := by
  rw [(wantedLines?_eq rows).1, Nat.mod_eq_of_lt hlt, UInt16.size]
  omega

/-- Too many rows have no place on a screen of any size. -/
lemma Rect.forRows?_eq_none {rows : Nat} (hlt : rows < UInt16.size) (hrows : 65532 < rows)
    (width height : Nat) : Rect.forRows? rows width height = none := by
  rw [Rect.forRows?, boxHeight?, (wantedLines?_eq_none_iff hlt).mpr hrows, Option.map_none,
    Option.map_none]

/-- **Drawing a book ends the program** if the terminal comes as far as putting the frame together and
the book has too many levels on a side, and not otherwise. -/
lemma Canvas.stopped_refresh_shown {c : Canvas} {v : View} (s : Store) {key : Key} {book : Book}
    (hshown : v.overlay = .shown key book) (hlt : book.rowsOf < UInt16.size)
    (hgoes : c.stopped = false) (hdraw : c.terminal.composes = true) :
    (c.refresh v s).stopped = true ↔ 65532 < book.rowsOf := by
  obtain ⟨b, hbox, hrows⟩ := book.rows_box? key
  have hplaceable : v.overlay.isPlaceable = (wantedLines? book.rowsOf).isSome := by
    rw [Overlay.isPlaceable, hshown, hbox, Option.all_some, DepthBox.isPlaceable, hrows]
  rw [Canvas.stopped_refresh, hgoes, hdraw, hplaceable, Bool.false_or, Bool.true_and,
    Bool.not_eq_true', Option.isSome_eq_false_iff, Option.isNone_iff_eq_none]
  exact wantedLines?_eq_none_iff hlt

namespace Book

/-- **The height of the box of a received book.** On a screen of five lines or more, the box of a book
that was decoded from a payload within a frame has as many lines as its longer side has levels, and
three more for frame and titles, or two less than the screen if that is fewer, if its longer side has at
most 65532 levels. The levels themselves are counted without being cut off, but frame and titles can only
be added to 65532 of them: a book with a side of 65533 levels or more has no box, and drawing it ends the
program as soon as the terminal comes as far as putting the frame together. No other book does. -/
theorem box_height {payload : List UInt8} (hframe : payload.length ≤ Frame.maxLength) {book : Book}
    (hdecode : Book.decode payload = .ok book) (key : Key) {height : Nat} (hheight : 5 ≤ height) :
    ∃ b, (Overlay.shown key book).box? = some b ∧
      let n := max 1 (max book.bids.length book.asks.length)
      b.rows = n ∧ b.rows % UInt16.size = n ∧ (n + 3 < UInt16.size ↔ n ≤ 65532) ∧
        (n ≤ 65532 → ∀ width, ∃ r, Rect.forRows? b.rows width height = some r ∧
          r.height = min (n + 3) (height - 2)) ∧
        (65532 < n → ∀ width, Rect.forRows? b.rows width height = none) ∧
        ∀ (c : Canvas) (v : View) (s : Store), v.overlay = .shown key book → c.stopped = false →
          c.terminal.composes = true → ((c.refresh v s).stopped = true ↔ 65532 < n) := by
  obtain ⟨b, hbox, hrows⟩ := book.rows_box? key
  have hlevels : book.bids.length + book.asks.length ≤ 65535 :=
    exists_encode_iff.mp ⟨payload, decode_eq_ok_iff.mp hdecode, hframe⟩
  have hlt : book.rowsOf < UInt16.size := rowsOf_lt hlevels
  have hpos : 1 ≤ book.rowsOf := Nat.le_max_left _ _
  refine ⟨b, hbox, hrows, ?_, ?_, fun hle width => ?_, fun hgt width => ?_,
    fun c v s hshown hgoes hdraw => Canvas.stopped_refresh_shown s hshown hlt hgoes hdraw⟩
  · rw [hrows]
    exact Nat.mod_eq_of_lt hlt
  · rw [rowsOf] at hlt
    simp only [UInt16.size] at *
    omega
  · rw [Rect.forRows?, hrows, boxHeight?_of_le hpos hle hheight, Option.map_some]
    exact ⟨_, rfl, rfl⟩
  · rw [hrows]
    exact Rect.forRows?_eq_none hlt hgt width height

/-- A book of the largest side for which there is a box with all levels on a screen that is high enough:
on one of 65535 lines the box is as high as the screen allows. -/
theorem box_height_tall :
    let book : Book := ⟨List.replicate 65532 ⟨1, 1⟩, [⟨2, 1⟩]⟩
    ∃ payload, payload.length ≤ Frame.maxLength ∧ Book.decode payload = .ok book ∧ 5 ≤ 65535 ∧
      ∃ b r, (Overlay.shown ⟨"A", 1⟩ book).box? = some b ∧
        Rect.forRows? b.rows 80 65535 = some r ∧ r.height = 65533 := by
  intro book
  have hbids : book.bids.length = 65532 := List.length_replicate
  have hasks : book.asks.length = 1 := rfl
  -- the levels are counted, not written out
  clear_value book
  have hlevels : book.bids.length + book.asks.length ≤ 65535 := by omega
  obtain ⟨payload, hencode, hframe⟩ := exists_encode_iff.mpr hlevels
  have hdecode := decode_eq_ok_iff.mpr hencode
  obtain ⟨b, hbox, -, -, -, hplace, -⟩ := box_height hframe hdecode ⟨"A", 1⟩ (by decide : 5 ≤ 65535)
  rw [hbids, hasks] at hplace
  obtain ⟨r, hr, hheight⟩ := hplace (by decide) 80
  exact ⟨payload, hframe, hdecode, by decide, b, r, hbox, hr, hheight⟩

/-- **A book that ends the program**: with 65533 levels on a side the lines of the box are too many for
16 bits, so that there is no box of eight lines on a screen of ten, and a board that waits for the book
ends when it comes. -/
theorem box_overflow :
    let key : Key := ⟨"A", 1⟩
    let book : Book := ⟨List.replicate 65533 ⟨1, 1⟩, []⟩
    let waiting := (Board.opened (.blank 60 10) 3 .trades).run
      [.message (.trade ⟨key, 100000000, 200000000⟩), .command .toggleDepth]
    (∃ payload, payload.length ≤ Frame.maxLength ∧ Book.decode payload = .ok book) ∧
      max 1 (max book.bids.length book.asks.length) = 65533 ∧ min (65533 + 3) (10 - 2) = 8 ∧
      (∃ b, (Overlay.shown key book).box? = some b ∧ UInt16.size ≤ b.rows + 3 ∧
        Rect.forRows? b.rows 60 10 = none) ∧
      waiting.view.overlay = .pending key ∧ waiting.canvas.stopped = false ∧
      (waiting.deliver key (.ok book)).canvas.stopped = true := by
  intro key book waiting
  have hbids : book.bids.length = 65533 := List.length_replicate
  have hasks : book.asks.length = 0 := rfl
  have hrowsOf : book.rowsOf = 65533 := by simp [rowsOf, hbids, hasks]
  have hworks : (Device.blank 60 10).Works := fun _ _ => rfl
  have hcurrent : waiting.IsCurrent := (Board.isCurrent_opened hworks 3 .trades).run _
  have hdraw : waiting.canvas.terminal.composes = true := hcurrent.current.shows.toIsReady.composes
  have hpending : waiting.view.overlay = .pending key := by decide +kernel
  have hgoes : waiting.canvas.stopped = false := by decide +kernel
  clear_value book waiting
  have hlevels : book.bids.length + book.asks.length ≤ 65535 := by omega
  obtain ⟨payload, hencode, hframe⟩ := exists_encode_iff.mpr hlevels
  obtain ⟨b, hbox, hrows⟩ := book.rows_box? key
  rw [hrowsOf] at hrows
  refine ⟨⟨payload, hframe, decode_eq_ok_iff.mpr hencode⟩, hrowsOf, rfl,
    ⟨b, hbox, by simp [hrows, UInt16.size], ?_⟩, hpending, hgoes, ?_⟩
  · rw [hrows]
    exact Rect.forRows?_eq_none (by decide) (by decide) 60 10
  · rw [Board.deliver, if_pos hpending]
    exact (Canvas.stopped_refresh_shown waiting.store rfl (by rw [hrowsOf]; decide) hgoes hdraw).mpr
      (by rw [hrowsOf]; decide)

end Book

end MarketBoard
