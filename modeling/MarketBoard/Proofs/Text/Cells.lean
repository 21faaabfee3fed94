import MarketBoard.Proofs.Screen.Writing
import Mathlib.Data.List.Chain

/-!
Text whose characters have a width of their own takes a cell for each of them.

Some characters together take fewer cells than one by one: letters that melt together, and a modifier with
the emoji before it. Letters only melt together across the border of two clusters, and a modifier has two
cells to begin with, so that within a cluster none is missing.

* `IsVisible`: every character has a width of its own.
* `of_bounds`, `of_holds`: what is true of all characters of a range, of the ranges of a table.
* `Sequence.Opens`, `Sequence.spare`: the sequences that such text begins, and the cells that they have to
  spare. `Sequence.opens_before`: what one more character makes of them.
* `Joins`, `isChain_of_mem_clusters`: which characters are neighbours in a cluster.
* `length_le_cellsOf`: such text has at most as many characters as its clusters have cells.
* `cellsOf_clusters_concat`: one more character of printable ASCII takes one more cell.
-/

namespace MarketBoard

/-- Every character of the text has a width of its own. -/
def IsVisible (text : List Char) : Prop := ∀ c ∈ text, 0 < charWidth c

instance (text : List Char) : Decidable (IsVisible text) := List.decidableBAll _ text

lemma IsVisible.append {text more : List Char} (h : IsVisible text) (h' : IsVisible more) :
    IsVisible (text ++ more) :=
  List.forall_mem_append.mpr ⟨h, h'⟩

lemma IsVisible.take {text : List Char} (h : IsVisible text) (n : Nat) : IsVisible (text.take n) :=
  fun c hc => h c (List.mem_of_mem_take hc)

lemma IsAscii.isVisible {text : List Char} (h : IsAscii text) : IsVisible text := by
  intro c hc
  rw [charWidth_of_ascii (h c hc).1 (h c hc).2]
  exact Nat.one_pos

/-! ### Characters in tables -/

/-- What is true of all code points of a range is true of a character within it. -/
lemma of_bounds {P : Char → Prop} {first last : Nat}
    (h : ∀ n ∈ List.range' first (last + 1 - first), P (Char.ofNat n)) {c : Char}
    (hlow : first ≤ c.toNat) (hhigh : c.toNat ≤ last) : P c := by
  have hmem : c.toNat ∈ List.range' first (last + 1 - first) := by
    rw [List.mem_range'_1]
    omega
  have hc := h _ hmem
  rwa [Char.ofNat_toNat] at hc

/-- What is true of all characters of a table is true of a character that it holds. -/
lemma of_holds {P : Char → Prop} {r : Ranges} (hr : r.ascending = true)
    (h : ∀ range ∈ r, ∀ n ∈ List.range' range.1 (range.2 + 1 - range.1), P (Char.ofNat n)) {c : Char}
    (hc : r.holds c.toNat = true) : P c := by
  obtain ⟨range, hrange, hlow, hhigh⟩ := (Ranges.holds_iff hr _).mp hc
  exact of_bounds (h range hrange) hlow hhigh

/-- Characters of no width have none. -/
lemma charWidth_eq_zero_of_holds {c : Char} (h : Unicode.widthless.holds c.toNat = true) :
    charWidth c = 0 := by
  have hascending : Unicode.widthless.ascending = true := by decide +kernel
  have hfirst : ∀ range ∈ Unicode.widthless, 0xAD ≤ range.1 := by decide +kernel
  have hsign : Unicode.widthless.holds 0x17D8 = false := by decide +kernel
  obtain ⟨range, hrange, hlow, -⟩ := (Ranges.holds_iff hascending _).mp h
  have hlow : 0xAD ≤ c.toNat := Nat.le_trans (hfirst range hrange) hlow
  have hne : c.toNat ≠ 0x17D8 := by
    intro heq
    rw [heq, hsign] at h
    cases h
  simp only [charWidth]
  rw [if_neg (by omega), if_neg (by omega), if_neg hne, if_pos h]

/-- A character with a width of its own lies outside of every range without width. -/
lemma outside_of_mem {c : Char} (hc : 0 < charWidth c) {first last : Nat}
    (hmem : (first, last) ∈ Unicode.widthless) : c.toNat < first ∨ last < c.toNat := by
  by_contra hin
  have hascending : Unicode.widthless.ascending = true := by decide +kernel
  have hnone : charWidth c = 0 := charWidth_eq_zero_of_holds
    ((Ranges.holds_iff hascending _).mpr ⟨_, hmem, by omega, by omega⟩)
  omega

/-- A character with a width of its own is neither the line feed nor a joiner, a selector or another
sign that only has to do with its neighbours. -/
lemma special_ne {c : Char} (hc : 0 < charWidth c) :
    c.toNat ≠ 0x0A ∧ c.toNat ≠ zeroWidthJoiner ∧ c.toNat ≠ 0xFE0E ∧ c.toNat ≠ 0xFE0F ∧
      c.toNat ≠ 0x17D2 ∧ Sequence.isIgnorable c.toNat = false := by
  have hfeed : c.toNat ≠ 0x0A := by
    intro h
    simp [charWidth, h] at hc
  have hmarks := outside_of_mem hc (show (0x300, 0x36F) ∈ _ by decide +kernel)
  have hvowels := outside_of_mem hc (show (0x17B4, 0x17B5) ∈ _ by decide +kernel)
  have hkhmer := outside_of_mem hc (show (0x17C9, 0x17D3) ∈ _ by decide +kernel)
  have hmongolian := outside_of_mem hc (show (0x180B, 0x180F) ∈ _ by decide +kernel)
  have hjoiners := outside_of_mem hc (show (0x200B, 0x200F) ∈ _ by decide +kernel)
  have hselectors := outside_of_mem hc (show (0xFE00, 0xFE0F) ∈ _ by decide +kernel)
  have htags := outside_of_mem hc (show (0xE0000, 0xE0FFF) ∈ _ by decide +kernel)
  refine ⟨hfeed, ?_, by omega, by omega, by omega, ?_⟩
  · rw [zeroWidthJoiner]
    omega
  · simp only [Sequence.isIgnorable, Bool.or_eq_false_iff, Bool.and_eq_false_iff,
      decide_eq_false_iff_not]
    omega

/-! ### Neighbours in a cluster -/

/-- What is known of two neighbours in a cluster: only a sign that belongs to what follows it joins a
character of no joining class. -/
def Joins (c d : Char) : Prop := Joining.of d = .other → Joining.of c = .prepended

lemma Context.last_of_joins {ctx : Context} (h : ctx.joins .other = true) : ctx.last = .prepended := by
  obtain ⟨last, pictograph, oddRegional, consonant, linked⟩ := ctx
  cases last <;> first | rfl | exact absurd h Bool.false_ne_true

/-- The clusters of the rest of a text keep what is known of neighbours. -/
lemma isChain_of_mem_clustersFrom {text : List Char} {c : Char} {current : Cluster} {ctx : Context}
    (hctx : ctx.last = Joining.of c) (hcurrent : (current.reverse ++ [c]).IsChain Joins) :
    ∀ k ∈ clustersFrom [] (c :: current) ctx text, k ≠ [] ∧ k.IsChain Joins := by
  induction text generalizing c current ctx with
  | nil => simpa [clustersFrom] using hcurrent
  | cons d rest ih =>
      rw [clustersFrom]
      split
      · next hjoins =>
        refine ih rfl ?_
        rw [List.reverse_cons, List.append_assoc]
        refine List.isChain_append_cons_cons.mpr ⟨hcurrent, fun hd => ?_, List.isChain_singleton d⟩
        rw [hd] at hjoins
        exact hctx ▸ Context.last_of_joins hjoins
      · rw [clustersFrom_eq_append]
        intro k hk
        rcases List.mem_append.mp hk with hk | hk
        · simp only [List.reverse_cons, List.reverse_nil, List.nil_append, List.mem_singleton] at hk
          subst hk
          exact ⟨by simp, by simpa using hcurrent⟩
        · exact ih rfl (List.isChain_singleton d) k hk

/-- **The clusters of a text** are not empty, and neighbours in them join. -/
lemma isChain_of_mem_clusters {text : List Char} {k : Cluster} (hk : k ∈ clusters text) :
    k ≠ [] ∧ k.IsChain Joins := by
  cases text with
  | nil => cases hk
  | cons c rest => exact isChain_of_mem_clustersFrom rfl (List.isChain_singleton c) k hk

/-! ### The cells of a cluster -/

namespace Sequence

/-- **What text begins whose characters have a width of their own.** No joiner stands in it; and if the
sequence is a letter that others melt together with, this letter stands at the front and has no joining
class. -/
def Opens : Sequence → List Char → Prop
  | plain, _ | emoji, _ | modifier, _ | regional, _ | regionals, _ | lamed false, _ | ya false, _ => True
  | subscript, _ => True
  | alef, c :: _ | consonant false, c :: _ | tone, c :: _ | orkhon, c :: _ => Joining.of c = .other
  | _, _ => False

/-- The cells that a sequence can give to the character before it: a modifier has one more than it
needs. -/
def spare : Sequence → Nat
  | modifier => 1
  | _ => 0

/-- What a character begins that has a width of its own. -/
lemma opens_ofChar {c : Char} (hc : 0 < charWidth c) (rest : List Char) :
    (ofChar c).Opens (c :: rest) ∧ 1 + (ofChar c).spare ≤ charWidth c := by
  let P : Sequence → Prop := fun s => s.Opens (c :: rest) ∧ 1 + s.spare ≤ charWidth c
  have hletter : ∀ {first last : Nat},
      (∀ n ∈ List.range' first (last + 1 - first), Joining.of (Char.ofNat n) = .other) →
      first ≤ c.toNat → c.toNat ≤ last → Joining.of c = .other :=
    fun h => of_bounds (P := (Joining.of · = .other)) h
  show P (ofChar c)
  refine iteInduction (motive := P) (fun hfeed => absurd hfeed (special_ne hc).1) fun _ => ?_
  refine iteInduction (motive := P) (fun _ => ⟨trivial, hc⟩) fun _ => ?_
  refine iteInduction (motive := P) (fun _ => ⟨trivial, hc⟩) fun _ => ?_
  refine iteInduction (motive := P) (fun hmodifier => ?_) fun _ => ?_
  · simp only [isEmojiModifier, Bool.and_eq_true, decide_eq_true_eq] at hmodifier
    have hwidth : charWidth c = 2 :=
      of_bounds (P := (charWidth · = 2)) (by decide +kernel) hmodifier.1 hmodifier.2
    exact ⟨trivial, hwidth.ge⟩
  refine iteInduction (motive := P) (fun _ => ⟨trivial, hc⟩) fun _ => ?_
  refine iteInduction (motive := P) (fun halef => ⟨?_, hc⟩) fun _ => ?_
  · exact of_holds (P := (Joining.of · = .other)) (by decide +kernel) (by decide +kernel) halef
  refine iteInduction (motive := P) (fun _ => ⟨trivial, hc⟩) fun _ => ?_
  refine iteInduction (motive := P) (fun _ => ⟨trivial, hc⟩) fun _ => ?_
  refine iteInduction (motive := P) (fun hconsonant => ⟨?_, hc⟩) fun _ => ?_
  · simp only [isTifinaghConsonant, Bool.or_eq_true, Bool.and_eq_true, decide_eq_true_eq] at hconsonant
    rcases hconsonant with h | h
    · exact hletter (by decide +kernel) h.1 h.2
    · exact hletter (by decide +kernel) h.ge h.le
  refine iteInduction (motive := P) (fun htone => ⟨?_, hc⟩) fun _ => ?_
  · simp only [Bool.and_eq_true, decide_eq_true_eq] at htone
    exact hletter (by decide +kernel) htone.1 htone.2
  refine iteInduction (motive := P) (fun horkhon => ⟨?_, hc⟩) fun _ => ?_
  · exact hletter (by decide +kernel) horkhon.ge horkhon.le
  exact iteInduction (motive := P) (fun _ => ⟨trivial, hc⟩) fun _ => ⟨trivial, hc⟩

/-- A sign that belongs to what follows it is none of the letters that take others in. -/
lemma not_melts {c : Char} (hc : Joining.of c = .prepended) :
    Unicode.lams.holds c.toNat = false ∧ c.toNat ≠ 0x2D7F ∧ c.toNat ≠ 0x10C32 ∧
      ¬ (0xA4F8 ≤ c.toNat ∧ c.toNat ≤ 0xA4FB) := by
  refine ⟨?_, fun h => ?_, fun h => ?_, fun h => ?_⟩
  · rw [Bool.eq_false_iff]
    intro h
    exact of_holds (P := (Joining.of · ≠ .prepended)) (by decide +kernel) (by decide +kernel) h hc
  · exact of_bounds (P := (Joining.of · ≠ .prepended)) (by decide +kernel) h.ge h.le hc
  · exact of_bounds (P := (Joining.of · ≠ .prepended)) (by decide +kernel) h.ge h.le hc
  · exact of_bounds (P := (Joining.of · ≠ .prepended)) (by decide +kernel) h.1 h.2 hc

/-- **How a character with a width of its own goes into what follows it in a cluster**: not at all, as
the emoji before a modifier, or as half of a flag. -/
lemma join?_cases {s : Sequence} {c : Char} {rest : List Char} (hs : s.Opens rest)
    (hc : 0 < charWidth c) (hjoins : ∀ d ∈ rest.head?, Joins c d) :
    s.join? c = none ∨ s = .modifier ∧ s.join? c = some (0, .emoji) ∨
      s.join? c = some (1, .regionals) := by
  obtain ⟨hfeed, hjoiner, -, -, hcoeng, -⟩ := special_ne hc
  cases s with
  | plain => exact .inl rfl
  | emoji => exact .inl (if_neg hjoiner)
  | modifier =>
      by_cases hbase : Unicode.modifierBases.holds c.toNat = true
      · exact .inr (.inl ⟨rfl, if_pos hbase⟩)
      · exact .inl ((if_neg hbase).trans (if_neg hjoiner))
  | regional =>
      by_cases hflag : isRegionalIndicator c.toNat = true
      · exact .inr (.inr (if_pos hflag))
      · exact .inl (if_neg hflag)
  | regionals =>
      by_cases hflag : isRegionalIndicator c.toNat = true
      · exact .inr (.inr (if_pos hflag))
      · exact .inl ((if_neg hflag).trans (if_neg hjoiner))
  | alef =>
      cases rest with
      | nil => exact hs.elim
      | cons d tail =>
          have hlam := (not_melts (hjoins d rfl hs)).1
          have hclear : isTransparent c.toNat = false := by
            rw [isTransparent, Bool.and_eq_false_iff]
            refine .inl (Bool.eq_false_iff.mpr fun h => ?_)
            exact hc.ne' (charWidth_eq_zero_of_holds h)
          exact .inl (by simp [join?, hlam, hclear])
  | lamed joiner =>
      cases joiner with
      | false => exact .inl rfl
      | true => exact hs.elim
  | ya joiner =>
      cases joiner with
      | false => exact .inl rfl
      | true => exact hs.elim
  | consonant joiner =>
      cases joiner with
      | true => exact hs.elim
      | false =>
          cases rest with
          | nil => exact hs.elim
          | cons d tail => exact .inl (if_neg (not_melts (hjoins d rfl hs)).2.1)
  | tone =>
      cases rest with
      | nil => exact hs.elim
      | cons d tail =>
          have htone := (not_melts (hjoins d rfl hs)).2.2.2
          exact .inl (if_neg (by simpa using htone))
  | orkhon =>
      cases rest with
      | nil => exact hs.elim
      | cons d tail => exact .inl (if_neg (not_melts (hjoins d rfl hs)).2.2.1)
  | subscript => exact .inl (if_neg hcoeng)
  | _ => exact hs.elim

/-- **One more character in front**: it has a cell, and what it begins has as many to spare as it should. -/
lemma opens_before {s : Sequence} {c : Char} {rest : List Char} (hs : s.Opens rest)
    (hc : 0 < charWidth c) (hjoins : ∀ d ∈ rest.head?, Joins c d) :
    (s.before c).2.Opens (c :: rest) ∧
      1 + ((s.before c).2.spare : Int) ≤ (s.before c).1 + s.spare := by
  obtain ⟨-, hjoiner, -, -, -, hignorable⟩ := special_ne hc
  have hbefore : s.before c = (s.join? c).getD (charWidth c, ofChar c) := by
    simp [before, hjoiner, hignorable]
  rw [hbefore]
  rcases join?_cases hs hc hjoins with hnone | ⟨rfl, hemoji⟩ | hflag
  · obtain ⟨hopens, hwidth⟩ := opens_ofChar hc rest
    rw [hnone, Option.getD_none]
    refine ⟨hopens, ?_⟩
    dsimp only
    omega
  · rw [hemoji]
    exact ⟨trivial, Int.le_refl 1⟩
  · rw [hflag]
    refine ⟨trivial, ?_⟩
    simp only [Option.getD_some, spare]
    omega

end Sequence

/-- Without selectors only the sequence matters. -/
lemma Sequel.before_of_sequence {c : Char} (hc : 0 < charWidth c) (s : Sequence) :
    ({ sequence := s } : Sequel).before c = ((s.before c).1, { sequence := (s.before c).2 }) := by
  obtain ⟨-, -, htext, hemoji, -, -⟩ := special_ne hc
  simp [before, withoutEmoji, beforeText, withoutText, htext, hemoji]

/-- **Text in which neighbours join** begins what it should, and has a cell for each character. -/
lemma measure_of_isChain {text : List Char} (hvisible : IsVisible text) (hchain : text.IsChain Joins) :
    ∃ s : Sequence, (measure text).2 = { sequence := s } ∧ s.Opens text ∧
      (text.length : Int) + s.spare ≤ (measure text).1 := by
  induction text with
  | nil => exact ⟨.plain, rfl, trivial, Int.le_refl 0⟩
  | cons c rest ih =>
      have hc := hvisible c List.mem_cons_self
      obtain ⟨hjoins, hrest⟩ := List.isChain_cons.mp hchain
      obtain ⟨s, hsequel, hopens, hlength⟩ :=
        ih (fun d hd => hvisible d (List.mem_cons_of_mem c hd)) hrest
      have hmeasure : measure (c :: rest) =
          ((measure rest).1 + (s.before c).1, { sequence := (s.before c).2 }) := by
        have hstep : measure (c :: rest) = ((measure rest).1 + ((measure rest).2.before c).1,
          ((measure rest).2.before c).2) := rfl
        rw [hstep, hsequel, Sequel.before_of_sequence hc]
      obtain ⟨hopens, hspare⟩ := Sequence.opens_before hopens hc hjoins
      refine ⟨(s.before c).2, by rw [hmeasure], hopens, ?_⟩
      rw [hmeasure, List.length_cons]
      push_cast
      omega

section

variable {text : List Char} {k : Cluster}

lemma IsVisible.of_mem_clusters (h : IsVisible text) (hk : k ∈ clusters text) : IsVisible k := by
  intro c hc
  refine h c ?_
  rw [← flatten_clusters text]
  exact List.mem_flatten_of_mem hk hc

/-- **A cluster of such text** has at least as many cells as characters. -/
lemma length_le_measure (h : IsVisible text) (hk : k ∈ clusters text) :
    (k.length : Int) ≤ (measure k).1 := by
  obtain ⟨s, -, -, hlength⟩ :=
    measure_of_isChain (h.of_mem_clusters hk) (isChain_of_mem_clusters hk).2
  omega

/-- No cluster of such text is left out for want of a width. -/
lemma IsVisible.width_pos (h : IsVisible text) : ∀ k ∈ clusters text, 0 < k.width := by
  intro k hk
  have hlength := length_le_measure h hk
  have hne := List.length_pos_of_ne_nil (isChain_of_mem_clusters hk).1
  rw [Cluster.width, textWidth]
  omega

/-- **Text whose characters have a width of their own** has at most as many characters as cells. -/
lemma length_le_cellsOf (h : IsVisible text) : text.length ≤ cellsOf (clusters text) := by
  have hsum : ∀ ks : List Cluster, (∀ k ∈ ks, k.length ≤ k.width) → ks.flatten.length ≤ cellsOf ks := by
    intro ks hks
    induction ks with
    | nil => exact Nat.le_refl 0
    | cons k ks ih =>
        have hfirst := hks k List.mem_cons_self
        have hrest := ih fun j hj => hks j (List.mem_cons_of_mem k hj)
        rw [List.flatten_cons, List.length_append, cellsOf_cons]
        omega
  have hclusters : ∀ k ∈ clusters text, k.length ≤ k.width := by
    intro k hk
    have hlength := length_le_measure h hk
    rw [Cluster.width, textWidth]
    omega
  have htext := hsum _ hclusters
  rwa [flatten_clusters] at htext

end

/-! ### One more character -/

lemma cellsOf_append (ks more : List Cluster) : cellsOf (ks ++ more) = cellsOf ks + cellsOf more := by
  induction ks with
  | nil => simp
  | cons k ks ih =>
      rw [List.cons_append, cellsOf_cons, cellsOf_cons, ih]
      omega

/-- A character of printable ASCII takes a cell behind every text. -/
lemma measure_concat {c : Char} (hc : 0x20 ≤ c.toNat ∧ c.toNat < 0x7F) (text : List Char) :
    (measure (text ++ [c])).1 = (measure text).1 + 1 ∧
      (measure (text ++ [c])).2 = (measure text).2 := by
  induction text with
  | nil =>
      have hone : measure [c] = (0 + (({} : Sequel).before c).1, (({} : Sequel).before c).2) := rfl
      rw [List.nil_append, hone, Sequel.before_of_ascii hc.1 hc.2]
      exact ⟨rfl, rfl⟩
  | cons d rest ih =>
      have hstep : ∀ text, measure (d :: text) = ((measure text).1 + ((measure text).2.before d).1,
        ((measure text).2.before d).2) := fun _ => rfl
      rw [List.cons_append, hstep, hstep, ih.2]
      refine ⟨?_, rfl⟩
      dsimp only
      omega

/-- A character at the end of a text is a cluster of its own, or belongs to the last one. -/
lemma clusters_concat (text : List Char) (c : Char) :
    clusters (text ++ [c]) = clusters text ++ [[c]] ∨
      ∃ ks k, clusters text = ks ++ [k] ∧ clusters (text ++ [c]) = ks ++ [k ++ [c]] := by
  have hrest : ∀ (rest : List Char) (current : Cluster) (ctx : Context),
      clustersFrom [] current ctx (rest ++ [c]) = clustersFrom [] current ctx rest ++ [[c]] ∨
        ∃ ks k, clustersFrom [] current ctx rest = ks ++ [k] ∧
          clustersFrom [] current ctx (rest ++ [c]) = ks ++ [k ++ [c]] := by
    intro rest
    induction rest with
    | nil =>
        intro current ctx
        simp only [List.nil_append, clustersFrom]
        split
        · exact .inr ⟨[], current.reverse, rfl, by simp⟩
        · exact .inl rfl
    | cons d rest ih =>
        intro current ctx
        rw [List.cons_append, clustersFrom, clustersFrom]
        split
        · exact ih _ _
        · rw [clustersFrom_eq_append [current.reverse] [d] _ (rest ++ [c]),
            clustersFrom_eq_append [current.reverse] [d] _ rest]
          rcases ih [d] (Context.start (Joining.of d)) with h | ⟨ks, k, hks, hk⟩
          · exact .inl (by rw [h, List.append_assoc])
          · exact .inr ⟨_, k, by rw [hks, ← List.append_assoc], by rw [hk, ← List.append_assoc]⟩
  cases text with
  | nil => exact .inl rfl
  | cons d rest => exact hrest rest _ _

/-- **One more character of printable ASCII takes one more cell.** -/
lemma cellsOf_clusters_concat {text : List Char} (h : IsVisible text) {c : Char}
    (hc : 0x20 ≤ c.toNat ∧ c.toNat < 0x7F) :
    cellsOf (clusters (text ++ [c])) = cellsOf (clusters text) + 1 := by
  rcases clusters_concat text c with hown | ⟨ks, k, hks, hlast⟩
  · rw [hown, cellsOf_append, cellsOf_cons, Cluster.width_of_ascii hc, cellsOf_nil]
  · have hlength := length_le_measure h (k := k) (by rw [hks]; simp)
    have hwidth : Cluster.width (k ++ [c]) = Cluster.width k + 1 := by
      rw [Cluster.width, Cluster.width, textWidth, textWidth, (measure_concat hc k).1]
      omega
    rw [hks, hlast, cellsOf_append, cellsOf_append, cellsOf_cons, cellsOf_cons, hwidth]
    omega

end MarketBoard
