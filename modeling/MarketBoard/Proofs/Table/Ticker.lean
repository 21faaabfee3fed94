import MarketBoard.Proofs.Canvas.Drawing
import MarketBoard.Proofs.Decimal.Numeral
import MarketBoard.Proofs.Instrument.Label
import MarketBoard.Proofs.Table.Columns
import MarketBoard.Proofs.Text.Cells

/-!
The labels in the table.

* `fitting_ellipsize_of_le`, `fitting_ellipsize_of_lt`, `fitting_ellipsize_isHead`: what a room shows of a
  shortened text, by the cells of the text and the number of its characters.
* `Key.isVisible_label`: the label of a symbol whose characters have a width of their own.
* `Canvas.ticker_of_drawRow`: what the first column shows of a label. `Canvas.ticker_without_tilde`: a
  label of wide characters that is cut with nothing to tell so.
-/

namespace MarketBoard

/-! ### Shortened texts -/

section

variable {text : List Char} {room : Nat}

/-- A room shows the first clusters of a text, and not all of them if they take more cells. -/
lemma IsVisible.exists_fitting_append (h : IsVisible text) (room : Nat) :
    ∃ rest, clusters text = fitting room (clusters text) ++ rest ∧
      (cellsOf (clusters text) ≤ room ↔ rest = []) := by
  obtain ⟨hfits, rest, hhead, hnext⟩ := isCut_fitting room (clusters text)
  have hall : (clusters text).filter (0 < ·.width) = clusters text := by
    rw [List.filter_eq_self]
    exact fun k hk => decide_eq_true (h.width_pos k hk)
  rw [hall] at hhead
  have hcells := congrArg cellsOf hhead
  rw [cellsOf_append] at hcells
  refine ⟨rest, hhead, ?_⟩
  cases rest with
  | nil =>
      rw [cellsOf_nil] at hcells
      exact iff_of_true (by omega) rfl
  | cons k rest =>
      have := hnext k rfl
      rw [cellsOf_cons] at hcells
      exact iff_of_false (by omega) (List.cons_ne_nil k rest)

/-- What is missing of a text with more cells has characters. -/
lemma IsVisible.exists_flatten_fitting_append (h : IsVisible text) (hcells : room < cellsOf (clusters text)) :
    ∃ c rest, (fitting room (clusters text)).flatten ++ c :: rest = text := by
  obtain ⟨rest, hhead, hrest⟩ := h.exists_fitting_append room
  cases rest with
  | nil => exact absurd (hrest.mpr rfl) (Nat.not_le.mpr hcells)
  | cons k rest =>
      have hk : k ∈ clusters text := by
        rw [hhead]
        exact List.mem_append_right _ List.mem_cons_self
      obtain ⟨c, tail, rfl⟩ := List.exists_cons_of_ne_nil (isChain_of_mem_clusters hk).1
      refine ⟨c, tail ++ rest.flatten, ?_⟩
      have hflat := congrArg List.flatten hhead
      rw [flatten_clusters, List.flatten_append, List.flatten_cons] at hflat
      exact hflat.symm

/-- **A text that has room is shown.** -/
lemma fitting_ellipsize_of_le (h : IsVisible text) (hcells : cellsOf (clusters text) ≤ room) :
    fitting room (clusters (ellipsize text room)) = clusters text := by
  have hlength := length_le_cellsOf h
  obtain ⟨rest, hhead, hrest⟩ := h.exists_fitting_append room
  rw [hrest.mp hcells, List.append_nil] at hhead
  rw [ellipsize, if_pos (by omega), ← hhead]

/-- **A text of more characters than there are cells** is shown up to a tilde, if that has room. -/
lemma fitting_ellipsize_of_lt (h : IsVisible text) (hlong : room < text.length)
    (hcells : cellsOf (clusters (text.take (room - 1))) < room) :
    fitting room (clusters (ellipsize text room)) = clusters (text.take (room - 1) ++ ['~']) := by
  have htilde : IsAscii ['~'] := by decide
  have hvisible : IsVisible (text.take (room - 1) ++ ['~']) := (h.take _).append htilde.isVisible
  obtain ⟨rest, hhead, hrest⟩ := hvisible.exists_fitting_append room
  rw [hrest.mp, List.append_nil] at hhead
  · rw [ellipsize, if_neg (by omega), ← hhead]
  · rw [cellsOf_clusters_concat (h.take _) (htilde _ (List.mem_singleton_self _))]
    omega

/-- **Any other text is cut**: a head of it is shown and nothing else. -/
lemma fitting_ellipsize_isHead (h : IsVisible text) (hcells : room < cellsOf (clusters text))
    (hwide : text.length ≤ room ∨ room ≤ cellsOf (clusters (text.take (room - 1)))) :
    (fitting room (clusters (ellipsize text room))).flatten <+: text ∧
      (fitting room (clusters (ellipsize text room))).flatten ≠ text := by
  by_cases hlong : text.length ≤ room
  · rw [ellipsize, if_pos hlong]
    obtain ⟨last, rest, hlast⟩ := h.exists_flatten_fitting_append hcells
    refine ⟨⟨_, hlast⟩, fun heq => ?_⟩
    rw [heq] at hlast
    simp at hlast
  · -- the tilde is the last character, and at least this one is not shown
    have htilde : IsAscii ['~'] := by decide
    have hroom : room < cellsOf (clusters (text.take (room - 1) ++ ['~'])) := by
      rw [cellsOf_clusters_concat (h.take _) (htilde _ (List.mem_singleton_self _))]
      omega
    rw [ellipsize, if_neg hlong]
    obtain ⟨last, rest, hlast⟩ :=
      ((h.take (room - 1)).append htilde.isVisible).exists_flatten_fitting_append hroom
    have hhead : (fitting room (clusters (text.take (room - 1) ++ ['~']))).flatten <+:
        text.take (room - 1) := by
      rcases List.prefix_concat_iff.mp ⟨_, hlast⟩ with hall | hhead
      · rw [hall] at hlast
        simp at hlast
      · exact hhead
    refine ⟨hhead.trans (List.take_prefix _ _), fun heq => ?_⟩
    have hlength := hhead.length_le
    rw [heq, List.length_take] at hlength
    omega

end

/-! ### Labels -/

/-- A slash in place of a hyphen is the only new character. -/
lemma mem_slashed {text : List Char} {c : Char} (h : c ∈ slashed text) : c ∈ text ∨ c = '/' := by
  have hslashed : IsSlashed text (slashed text) := isSlashed_iff.mpr rfl
  generalize slashed text = result at h hslashed
  cases hslashed with
  | keep => exact .inl h
  | turn _ back =>
      rcases List.mem_append.mp h with hc | hc
      · exact .inl (List.mem_append_left _ hc)
      · rcases List.mem_cons.mp hc with rfl | hc
        · exact .inr rfl
        · exact .inl (List.mem_append_right _ (List.mem_cons_of_mem _ hc))

/-- **Labels**: as their symbols, they have no character without a width. -/
lemma Key.isVisible_label {k : Key} (h : IsVisible k.symbol.toList) : IsVisible k.label.toList := by
  rw [label, String.toList_ofList, labelChars]
  refine IsVisible.append (fun c hc => ?_) (IsAscii.isVisible ?_)
  · rcases mem_slashed hc with hc | rfl
    · exact h c hc
    · decide
  · have hpoint : IsAscii ['.'] := by decide
    exact hpoint.append (isAscii_of_isDigit (isWhole_digits _).digits)

/-! ### The first column -/

/-- **What the first column shows of a label.** The label of an instrument, behind an asterisk if it is
marked, is shown as a whole if it takes at most 20 cells. If it has more than 20 characters and the first
19 of them take at most 19 cells, these are shown and a tilde behind them. In every other case, as lengths
are counted in characters and the room in cells, a head of the label is shown, and nothing tells that
it was cut. An instrument of a store carries the label of its key (`Store.IsSound`). -/
theorem Canvas.ticker_of_drawRow (c : Canvas) (v : View) (clearing : Bool) {i : Instrument}
    (hrow : c.hasRow i.row = true) (hlabel : i.label = i.key.label)
    (hsymbol : ∀ d ∈ i.key.symbol.toList, charWidth d = 1 ∨ charWidth d = 2) :
    let text := (if i.marked then ['*'] else []) ++ i.key.label.toList
    ∃ cells shown, (c.drawRow i v clearing).pad[i.row]? = some cells ∧
      Line.Displays cells .ticker shown ∧
      (cellsOf (clusters text) ≤ 20 → shown = clusters text) ∧
      (20 < text.length → cellsOf (clusters (text.take 19)) ≤ 19 →
        shown = clusters (text.take 19 ++ ['~'])) ∧
      (20 < cellsOf (clusters text) →
        text.length ≤ 20 ∨ 19 < cellsOf (clusters (text.take 19)) →
        shown.flatten <+: text ∧ shown.flatten ≠ text) := by
  intro text
  have hvisible : IsVisible text := by
    refine IsVisible.append ?_ (Key.isVisible_label fun d hd => ?_)
    · split <;> decide
    · have := hsymbol d hd
      omega
  have hshown : i.clustersIn .ticker = fitting 20 (clusters (ellipsize text 20)) := by
    have htext : i.fullText .ticker = text := by
      cases hmarked : i.marked <;> simp [Instrument.fullText, hlabel, text, hmarked]
    rw [Instrument.clustersIn, Instrument.cellText, htext]
    rfl
  refine ⟨_, _, c.getElem?_drawRow_self hrow v clearing, i.displays_line _ _ _, ?_⟩
  rw [hshown]
  exact ⟨fitting_ellipsize_of_le hvisible,
    fun hlong hcells => fitting_ellipsize_of_lt hvisible hlong (Nat.lt_succ_of_le hcells),
    fitting_ellipsize_isHead hvisible⟩

/-- A marked label with a wide character behind the place where it is cut. -/
theorem Canvas.ticker_of_drawRow_marked :
    let i := { Instrument.fresh ⟨"EURUSDT-PERPETUAL-金", 12⟩ 1 with marked := true }
    let c := Canvas.ofTerminal (.ofDevice (.blank 40 5)) 3
    c.hasRow i.row = true ∧ i.label = i.key.label ∧
      (∀ d ∈ i.key.symbol.toList, charWidth d = 1 ∨ charWidth d = 2) ∧
      ∃ cells shown, (c.drawRow i (.ofSize 40 5) false).pad[i.row]? = some cells ∧
        Line.Displays cells .ticker shown ∧ shown.flatten = "*EURUSDT/PERPETUAL-~".toList := by
  intro i c
  have hrow : c.hasRow i.row = true := by decide +kernel
  have hwidths : i.key.symbol.toList.all (fun d => charWidth d = 1 ∨ charWidth d = 2) = true := by
    decide +kernel
  have hsymbol : ∀ d ∈ i.key.symbol.toList, charWidth d = 1 ∨ charWidth d = 2 :=
    fun d hd => of_decide_eq_true (List.all_eq_true.mp hwidths d hd)
  obtain ⟨cells, shown, hcells, hdisplays, -, htilde, -⟩ :=
    c.ticker_of_drawRow (.ofSize 40 5) false hrow rfl hsymbol
  refine ⟨hrow, rfl, hsymbol, cells, shown, hcells, hdisplays, ?_⟩
  rw [htilde (by decide +kernel) (by decide +kernel), flatten_clusters]
  decide +kernel

/-- **A label that is cut with nothing to tell so.** Fourteen characters are not too many for 20 cells,
but twelve of them are wide, and there is room for ten. -/
theorem Canvas.ticker_without_tilde :
    let i := Instrument.fresh ⟨"一一一一一一一一一一一一", 1⟩ 1
    let c := Canvas.ofTerminal (.ofDevice (.blank 40 5)) 3
    i.key.symbol.toList.map charWidth = List.replicate 12 2 ∧
      cellsOf (clusters i.label.toList) = 26 ∧
      ∃ cells, (c.drawRow i (.ofSize 40 5) false).pad[i.row]? = some cells ∧
        ∀ cell ∈ cells, '~' ∉ cell.symbol := by
  intro i c
  exact ⟨by decide +kernel, by decide +kernel, i.line true 0, by decide +kernel, by decide +kernel⟩

end MarketBoard
