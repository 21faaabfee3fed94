import MarketBoard.Screen.Line
import Mathlib.Tactic.Lemma

/-!
Text in a line, cell by cell.

* `fitting`: the clusters of a text that a room shows. `IsCut` says which these are: from the first
  on, without those of no width, as many as there is room for (`isCut_fitting`).
* `clusterAt?`: the cluster that begins at a cell.
* `Line.getElem?_write`, `Line.getElem?_restyle`, `Line.getElem?_cover`: a changed line is read cell by
  cell from the line before.
* `IsSimple`, `clusters_of_simple`, `fitting_of_simple`: simple text is shown character by character.
  Printable ASCII is simple (`IsAscii.isSimple`).
-/

namespace MarketBoard

/-! ### The clusters that are shown -/

/-- The cells that clusters take together. -/
def cellsOf : List Cluster → Nat
  | [] => 0
  | k :: rest => k.width + cellsOf rest

@[simp] lemma cellsOf_nil : cellsOf [] = 0 := rfl

@[simp] lemma cellsOf_cons (k : Cluster) (ks : List Cluster) :
    cellsOf (k :: ks) = k.width + cellsOf ks := rfl

/-- The clusters of a text that are put into a room: those of no width are left out, and the first
one without room ends the text. -/
def fitting : Nat → List Cluster → List Cluster
  | _, [] => []
  | room, k :: rest =>
    if k.width = 0 then fitting room rest
    else if room < k.width then []
    else k :: fitting (room - k.width) rest

/-- **What a room shows of a text**: the clusters that have a width, from the first on, and as many of
them as there is room for. -/
structure IsCut (ks : List Cluster) (room : Nat) (shown : List Cluster) : Prop where
  fits : cellsOf shown ≤ room
  isHead : ∃ rest, ks.filter (0 < ·.width) = shown ++ rest ∧
    ∀ k ∈ rest.head?, room < cellsOf shown + k.width

/-- The clusters that are put into a room are those that it shows. -/
lemma isCut_fitting (room : Nat) (ks : List Cluster) : IsCut ks room (fitting room ks) := by
  fun_induction fitting room ks with
  | case1 => exact ⟨Nat.zero_le _, [], rfl, by simp⟩
  | case2 room k rest hzero ih =>
      obtain ⟨hfits, tail, hfilter, hnext⟩ := ih
      exact ⟨hfits, tail, by simpa [hzero] using hfilter, hnext⟩
  | case3 room k rest hpos hroom =>
      have hwidth : 0 < k.width := Nat.pos_of_ne_zero hpos
      refine ⟨Nat.zero_le _, k :: rest.filter (0 < ·.width), by simp [hwidth], ?_⟩
      simpa using hroom
  | case4 room k rest hpos hroom ih =>
      obtain ⟨hfits, tail, hfilter, hnext⟩ := ih
      have hwidth : 0 < k.width := Nat.pos_of_ne_zero hpos
      refine ⟨?_, tail, by simp [hwidth, hfilter], fun k' hk' => ?_⟩
      · rw [cellsOf_cons]
        omega
      · have := hnext k' hk'
        rw [cellsOf_cons]
        omega

/-- The cluster that begins at a cell, clusters being put into the cells from the first one on. -/
def clusterAt? : List Cluster → Nat → Option Cluster
  | [], _ => none
  | k :: rest, x =>
    if x = 0 then some k
    else if x < k.width then none
    else clusterAt? rest (x - k.width)

/-- A cluster begins at one of the cells that all of them take, if none is without width. -/
lemma lt_cellsOf_of_clusterAt? {ks : List Cluster} (hks : ∀ k ∈ ks, 0 < k.width) {x : Nat}
    {k : Cluster} (h : clusterAt? ks x = some k) : x < cellsOf ks := by
  fun_induction clusterAt? ks x with
  | case1 => simp at h
  | case2 k' rest =>
      have := hks k' List.mem_cons_self
      rw [cellsOf_cons]
      omega
  | case3 => simp at h
  | case4 k' rest x _ _ ih =>
      have := ih (fun j hj => hks j (List.mem_cons_of_mem k' hj)) h
      rw [cellsOf_cons]
      omega

/-- What is shown has a width. -/
lemma IsCut.width_pos {ks shown : List Cluster} {room : Nat} (h : IsCut ks room shown) :
    ∀ k ∈ shown, 0 < k.width := by
  obtain ⟨-, rest, hfilter, -⟩ := h
  intro k hk
  have hmem : k ∈ ks.filter (0 < ·.width) := hfilter ▸ List.mem_append_left rest hk
  simpa using (List.mem_filter.mp hmem).2

/-- A cell with clusters over it: the symbol of the cluster that begins there in the given style, a
plain blank where a wide one goes on, and the cell itself behind all of them. -/
def written (style : Style) (ks : List Cluster) (x : Nat) (c : Cell) : Cell :=
  match clusterAt? ks x with
  | some k => (c.withSymbol k).styled style
  | none => if x < cellsOf ks then .blank else c

lemma written_of_some {ks : List Cluster} {x : Nat} {k : Cluster} (h : clusterAt? ks x = some k)
    (style : Style) (c : Cell) : written style ks x c = (c.withSymbol k).styled style := by
  rw [written, h]

/-- A blank stays blank where no cluster begins. -/
lemma written_blank_of_none {ks : List Cluster} {x : Nat} (h : clusterAt? ks x = none)
    (style : Style) : written style ks x .blank = .blank := by
  simp [written, h]

@[simp] lemma written_nil (style : Style) (x : Nat) : written style [] x = id := rfl

/-- Behind the cells of the first cluster a cell is what the other clusters make of it. -/
lemma written_cons (style : Style) (k : Cluster) (rest : List Cluster) (x : Nat) (c : Cell) :
    written style (k :: rest) x c =
      if x = 0 then (c.withSymbol k).styled style
      else if x < k.width then .blank
      else written style rest (x - k.width) c := by
  rw [written, clusterAt?, cellsOf_cons]
  by_cases hzero : x = 0
  · rw [if_pos hzero, if_pos hzero]
  · rw [if_neg hzero, if_neg hzero]
    by_cases hin : x < k.width
    · rw [if_pos hin, if_pos hin]
      exact if_pos (Nat.lt_add_right _ hin)
    · have hcells : x < k.width + cellsOf rest ↔ x - k.width < cellsOf rest := by omega
      simp only [if_neg hin, hcells]
      rfl

/-- The cells behind all clusters stay as they are. -/
lemma written_of_le {ks : List Cluster} (hks : ∀ k ∈ ks, 0 < k.width) {x : Nat}
    (hx : cellsOf ks ≤ x) (style : Style) (c : Cell) : written style ks x c = c := by
  rw [written]
  split
  · next k hk => exact absurd (lt_cellsOf_of_clusterAt? hks hk) (Nat.not_lt.mpr hx)
  · exact if_neg (Nat.not_lt.mpr hx)

/-! ### Lines cell by cell -/

namespace Line

/-- **Clusters are put into cells**: each cell is what the clusters over it make of it. -/
lemma getElem?_place (style : Style) (ks : List Cluster) (room : Nat) (cells : Line)
    (hroom : room ≤ cells.length) (x : Nat) :
    (place style ks room cells)[x]? = cells[x]?.map (written style (fitting room ks) x) := by
  fun_induction place style ks room cells generalizing x with
  | case1 room cells => simp [fitting]
  | case2 room cells k rest hzero ih => rw [ih hroom, fitting, if_pos hzero]
  | case3 room cells k rest hpos hwide =>
      rw [fitting, if_neg hpos, if_pos hwide]
      simp
  | case4 room k rest hpos hwide => rfl
  | case5 k rest room hpos hwide c after ih =>
      rw [List.length_cons] at hroom
      have hlength : ((after.take (k.width - 1)).map fun _ => Cell.blank).length = k.width - 1 := by
        rw [List.length_map, List.length_take]
        omega
      rw [fitting, if_neg hpos, if_neg hwide]
      -- the first cell has the symbol, the others of a wide one are blank, the rest is put behind it
      cases x with
      | zero => simp [written_cons]
      | succ x =>
          rw [List.getElem?_cons_succ, List.getElem?_cons_succ]
          by_cases hin : x + 1 < k.width
          · rw [List.getElem?_append_left (by omega), List.getElem?_map, List.getElem?_take,
              if_pos (by omega)]
            exact congrArg (Option.map · after[x]?) (funext fun c => by simp [written_cons, hin])
          · have hindex : k.width - 1 + (x - (k.width - 1)) = x := by omega
            have hshift : x - (k.width - 1) = x + 1 - k.width := by omega
            rw [List.getElem?_append_right (by omega), hlength, ih (by rw [List.length_drop]; omega),
              List.getElem?_drop, hindex]
            refine congrArg (Option.map · after[x]?) (funext fun c => ?_)
            simp [written_cons, hin, hshift]

/-- **Text is written into a line**: the cells before it stay, each other one is what the clusters over
it make of it. -/
lemma getElem?_write {cells : Line} {x room : Nat} (hroom : x + room ≤ cells.length)
    (text : List Char) (style : Style) (y : Nat) :
    (cells.write x room text style)[y]? =
      if y < x then cells[y]?
      else cells[y]?.map (written style (fitting room (clusters text)) (y - x)) := by
  have hmin : min room (cells.length - x) = room := by omega
  have hlength : (cells.take x).length = x := by
    rw [List.length_take]
    omega
  rw [write, hmin]
  split
  · next hy => rw [List.getElem?_append_left (by omega), List.getElem?_take, if_pos hy]
  · next hy =>
    have hindex : x + (y - x) = y := by omega
    rw [List.getElem?_append_right (by omega), hlength,
      getElem?_place _ _ _ _ (by rw [List.length_drop]; omega), List.getElem?_drop, hindex]

/-- A text stays in its room. -/
lemma getElem?_write_of_not_mem {cells : Line} {x room : Nat} (hroom : x + room ≤ cells.length)
    (text : List Char) (style : Style) {y : Nat} (hy : ¬ (x ≤ y ∧ y < x + room)) :
    (cells.write x room text style)[y]? = cells[y]? := by
  rw [getElem?_write hroom]
  split
  · rfl
  · next hyx =>
    have hcut := isCut_fitting room (clusters text)
    have hbehind : cellsOf (fitting room (clusters text)) ≤ y - x := by
      have := hcut.fits
      omega
    have hsame : written style (fitting room (clusters text)) (y - x) = id :=
      funext fun c => written_of_le hcut.width_pos hbehind style c
    rw [hsame, Option.map_id_fun, id]

/-- A stretch of a line gets a new look, the rest stays. -/
lemma getElem?_restyle {cells : Line} {x width : Nat} (hwidth : x + width ≤ cells.length)
    (style : Style) (y : Nat) :
    (cells.restyle x width style)[y]? =
      if x ≤ y ∧ y < x + width then cells[y]?.map (·.styled style) else cells[y]? := by
  have hhead : (cells.take x).length = x := by
    rw [List.length_take]
    omega
  have hmiddle : (((cells.drop x).take width).map (·.styled style)).length = width := by
    rw [List.length_map, List.length_take, List.length_drop]
    omega
  rw [restyle]
  by_cases hbefore : y < x
  · rw [List.append_assoc, List.getElem?_append_left (by omega), List.getElem?_take, if_pos hbefore,
      if_neg (by omega)]
  · by_cases hin : y < x + width
    · rw [List.getElem?_append_left (by rw [List.length_append]; omega),
        List.getElem?_append_right (by omega), hhead, List.getElem?_map, List.getElem?_take,
        if_pos (by omega), List.getElem?_drop, if_pos ⟨by omega, hin⟩, Nat.add_sub_cancel' (by omega)]
    · rw [List.getElem?_append_right (by rw [List.length_append]; omega), List.length_append, hhead,
        hmiddle, List.getElem?_drop, if_neg (by omega), Nat.add_sub_cancel' (by omega)]

/-- The upper line shows where there is one, the lower one behind it. -/
lemma getElem?_cover (below above : Line) {x : Nat} (hx : x < below.length) :
    (below.cover above)[x]? = (above[x]?).or below[x]? := by
  have hlength : (above.take below.length).length = min below.length above.length :=
    List.length_take
  rw [cover]
  by_cases hin : x < above.length
  · rw [List.getElem?_append_left (by omega), List.getElem?_take, if_pos hx,
      List.getElem?_eq_getElem hin, Option.some_or]
  · rw [List.getElem?_append_right (by omega), List.getElem?_drop,
      List.getElem?_eq_none (Nat.not_lt.mp hin), Option.none_or, hlength,
      show above.length + (x - min below.length above.length) = x by omega]

@[simp] lemma getElem?_blank {width x : Nat} (hx : x < width) :
    (blank width)[x]? = some Cell.blank := by
  rw [blank, List.getElem?_replicate, if_pos hx]

end Line

/-! ### Simple characters -/

/-- **Simple text**: each character is a cluster of its own, whatever stands beside it, and takes one
cell. -/
def IsSimple (text : List Char) : Prop := ∀ c ∈ text, Joining.of c = .other ∧ Cluster.width [c] = 1

lemma IsSimple.append {text more : List Char} (h : IsSimple text) (h' : IsSimple more) :
    IsSimple (text ++ more) :=
  List.forall_mem_append.mpr ⟨h, h'⟩

lemma isSimple_replicate (n : Nat) {c : Char} (hc : Joining.of c = .other ∧ Cluster.width [c] = 1) :
    IsSimple (List.replicate n c) := by
  intro d hd
  rw [List.eq_of_mem_replicate hd]
  exact hc

/-- A simple character behind another one begins a cluster of its own. -/
lemma clustersFrom_of_simple {text : List Char} (h : IsSimple text) (before : List Cluster) (c : Char) :
    clustersFrom before [c] (.start .other) text = before.reverse ++ [c] :: text.map ([·]) := by
  induction text generalizing before c with
  | nil => simp [clustersFrom]
  | cons d rest ih =>
      have hother : Joining.of d = .other := (h d List.mem_cons_self).1
      have hparts : (Context.start .other).joins .other = false := rfl
      rw [clustersFrom]
      simp only [hother, hparts, Bool.false_eq_true, if_false]
      rw [ih fun e he => h e (List.mem_cons_of_mem d he)]
      simp

/-- **Simple text is cut into its characters.** -/
lemma clusters_of_simple {text : List Char} (h : IsSimple text) : clusters text = text.map ([·]) := by
  cases text with
  | nil => rfl
  | cons c rest =>
      rw [clusters, (h c List.mem_cons_self).1,
        clustersFrom_of_simple fun d hd => h d (List.mem_cons_of_mem c hd)]
      rfl

/-- **A room shows as many simple characters as it has cells.** -/
lemma fitting_map_of_simple {text : List Char} (h : IsSimple text) (room : Nat) :
    fitting room (text.map ([·])) = (text.take room).map ([·]) := by
  induction text generalizing room with
  | nil => simp [fitting]
  | cons c rest ih =>
      have hwidth := (h c List.mem_cons_self).2
      rw [List.map_cons, fitting, if_neg (by omega), hwidth]
      cases room with
      | zero => rfl
      | succ room =>
          rw [if_neg (by omega), Nat.add_sub_cancel, ih fun d hd => h d (List.mem_cons_of_mem c hd)]
          rfl

/-- **Simple text that has room is shown as it is.** -/
lemma fitting_of_simple {text : List Char} (h : IsSimple text) {room : Nat}
    (hroom : text.length ≤ room) : fitting room (clusters text) = text.map ([·]) := by
  rw [clusters_of_simple h, fitting_map_of_simple h, List.take_of_length_le hroom]

/-- Every cell has a character of its own. -/
lemma clusterAt?_of_simple {text : List Char} (h : IsSimple text) (x : Nat) :
    clusterAt? (text.map ([·])) x = text[x]?.map ([·]) := by
  induction text generalizing x with
  | nil => rfl
  | cons c rest ih =>
      have hwidth := (h c List.mem_cons_self).2
      cases x with
      | zero => rfl
      | succ x =>
          rw [List.map_cons, clusterAt?, if_neg (by omega), hwidth, if_neg (by omega),
            Nat.add_sub_cancel, ih fun d hd => h d (List.mem_cons_of_mem c hd),
            List.getElem?_cons_succ]

/-! ### Printable ASCII -/

/-- Every character is printable ASCII. -/
def IsAscii (text : List Char) : Prop := ∀ c ∈ text, 0x20 ≤ c.toNat ∧ c.toNat < 0x7F

instance (text : List Char) : Decidable (IsAscii text) := List.decidableBAll _ text

lemma IsAscii.append {text more : List Char} (h : IsAscii text) (h' : IsAscii more) :
    IsAscii (text ++ more) := by
  intro c hc
  rcases List.mem_append.mp hc with hc | hc
  · exact h c hc
  · exact h' c hc

lemma isAscii_replicate (n : Nat) {c : Char} (hc : 0x20 ≤ c.toNat ∧ c.toNat < 0x7F) :
    IsAscii (List.replicate n c) := by
  intro d hd
  rw [List.eq_of_mem_replicate hd]
  exact hc

/-- A character of printable ASCII takes one cell. -/
lemma Cluster.width_of_ascii {c : Char} (hc : 0x20 ≤ c.toNat ∧ c.toNat < 0x7F) :
    Cluster.width [c] = 1 :=
  textWidth_of_ascii (by simpa using hc)

/-- **Printable ASCII is simple.** -/
lemma IsAscii.isSimple {text : List Char} (h : IsAscii text) : IsSimple text :=
  fun c hc => ⟨Joining.of_ascii (h c hc).1 (h c hc).2, Cluster.width_of_ascii (h c hc)⟩

end MarketBoard
