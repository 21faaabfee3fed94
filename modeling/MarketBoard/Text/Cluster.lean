import MarketBoard.Text.Cluster.Property
import MarketBoard.Text.Width

/-!
Text as it is placed into cells: by user-perceived characters, each a cluster of one or more code
points.

* `Joining.of`: what a code point does at its borders.
* `Context`: what is known of an unfinished cluster; `Context.joins` tells whether it goes on.
* `clusters`: a text cut where no rule of the Unicode standard keeps two code points together.
* `Cluster.width`: the cells that a cluster takes.
* `flatten_clusters`: cutting loses nothing.
-/

namespace MarketBoard

/-- A user-perceived character. -/
abbrev Cluster := List Char

/-- The cells that a cluster takes. -/
def Cluster.width (k : Cluster) : Nat := textWidth k

/-! ### Borders -/

/-- What a code point does at its borders. -/
inductive Joining where
  | carriageReturn | lineFeed | control | extending | linker | joiner | nonJoiner | spacing
  | prepended | regional | leading | vowel | trailing | openSyllable | closedSyllable | consonant
  | pictograph | other
deriving DecidableEq, Repr

/-- The joining class of a code point. -/
def Joining.of (c : Char) : Joining :=
  let n := c.toNat
  if n = 0x0D then carriageReturn
  else if n = 0x0A then lineFeed
  else if n < 0x20 then control
  else if n < 0x7F then other
  else if n < 0xA0 then control
  else if n = zeroWidthJoiner then joiner
  else if n = 0x200C then nonJoiner
  else if Unicode.linkers.holds n then linker
  else if Unicode.extending.holds n || isEmojiModifier n then extending
  else if Unicode.spacing.holds n then spacing
  else if Unicode.prepended.holds n then prepended
  else if Unicode.controls.holds n then control
  else if isRegionalIndicator n then regional
  else if 0x1100 ≤ n ∧ n ≤ 0x115F ∨ 0xA960 ≤ n ∧ n ≤ 0xA97C then leading
  else if 0x1160 ≤ n ∧ n ≤ 0x11A7 ∨ 0xD7B0 ≤ n ∧ n ≤ 0xD7C6 ∨ n = 0x16D63 ∨
      0x16D67 ≤ n ∧ n ≤ 0x16D6A then vowel
  else if 0x11A8 ≤ n ∧ n ≤ 0x11FF ∨ 0xD7CB ≤ n ∧ n ≤ 0xD7FB then trailing
  else if 0xAC00 ≤ n ∧ n ≤ 0xD7A3 then
    if (n - 0xAC00) % 28 = 0 then openSyllable else closedSyllable
  else if Unicode.consonants.holds n then consonant
  else if Unicode.pictographs.holds n then pictograph
  else other

/-- Printable ASCII joins nothing of its own. -/
theorem Joining.of_ascii {c : Char} (low : 0x20 ≤ c.toNat) (high : c.toNat < 0x7F) :
    Joining.of c = .other := by
  have h₁ : c.toNat ≠ 0x0D := by omega
  have h₂ : c.toNat ≠ 0x0A := by omega
  simp [Joining.of, h₁, h₂, Nat.not_lt.2 low, high]

/-- Marks and joiners, all of which belong to the code point before them. -/
def Joining.extends : Joining → Bool
  | extending | linker | joiner | nonJoiner => true
  | _ => false

/-- Marks and joiners that may stand within a conjunct. -/
def Joining.keepsConjunct : Joining → Bool
  | extending | linker | joiner => true
  | _ => false

/-! ### Clusters -/

/-- What is known of an unfinished cluster. -/
structure Context where
  /-- The class of its last code point. -/
  last : Joining
  /-- It ends in a pictograph with nothing but marks and joiners behind it. -/
  pictograph : Bool
  /-- It ends in an odd number of regional indicators. -/
  oddRegional : Bool
  /-- It ends in a consonant with nothing but marks and joiners behind it. -/
  consonant : Bool
  /-- One of the marks behind the consonant links it to another one. -/
  linked : Bool
deriving DecidableEq, Repr

namespace Context

/-- The context after the first code point of a cluster. -/
def start (j : Joining) : Context :=
  ⟨j, j == .pictograph, j == .regional, j == .consonant, false⟩

/-- The context after one more code point. -/
def extend (ctx : Context) (j : Joining) : Context where
  last := j
  pictograph := j == .pictograph || (j.extends && ctx.pictograph)
  oddRegional := j == .regional && !ctx.oddRegional
  consonant := j == .consonant || (j.keepsConjunct && ctx.consonant)
  linked := j.keepsConjunct && ctx.consonant && (ctx.linked || j == .linker)

/-- The next code point belongs to the cluster. -/
def joins (ctx : Context) (j : Joining) : Bool :=
  match ctx.last, j with
  | .carriageReturn, .lineFeed => true
  | .carriageReturn, _ | .lineFeed, _ | .control, _ => false
  | _, .carriageReturn | _, .lineFeed | _, .control => false
  | _, .extending | _, .linker | _, .joiner | _, .nonJoiner | _, .spacing => true
  | .prepended, _ => true
  | .leading, .leading | .leading, .vowel | .leading, .openSyllable | .leading, .closedSyllable => true
  | .openSyllable, .vowel | .openSyllable, .trailing | .vowel, .vowel | .vowel, .trailing => true
  | .closedSyllable, .trailing | .trailing, .trailing => true
  | _, .consonant => ctx.linked
  | .joiner, .pictograph => ctx.pictograph
  | .regional, .regional => ctx.oddRegional
  | _, _ => false

end Context

/-- Cuts the rest of a text, given the clusters before it, last first, and the cluster that is being
put together, its last code point first. -/
def clustersFrom (before : List Cluster) (current : Cluster) (ctx : Context) :
    List Char → List Cluster
  | [] => (current.reverse :: before).reverse
  | c :: rest =>
    let j := Joining.of c
    if ctx.joins j then clustersFrom before (c :: current) (ctx.extend j) rest
    else clustersFrom (current.reverse :: before) [c] (Context.start j) rest

/-- The clusters of a text. -/
def clusters : List Char → List Cluster
  | [] => []
  | c :: rest => clustersFrom [] [c] (Context.start (Joining.of c)) rest

/-- The clusters found before stay in front. -/
theorem clustersFrom_eq_append (before : List Cluster) (current : Cluster) (ctx : Context)
    (text : List Char) :
    clustersFrom before current ctx text = before.reverse ++ clustersFrom [] current ctx text := by
  induction text generalizing before current ctx with
  | nil => simp [clustersFrom]
  | cons c rest ih =>
    simp only [clustersFrom]
    split
    · rw [ih]
    · rw [ih (current.reverse :: before), ih [current.reverse]]
      simp

/-- The rest of a text is not changed by being cut. -/
theorem flatten_clustersFrom (current : Cluster) (ctx : Context) (text : List Char) :
    (clustersFrom [] current ctx text).flatten = current.reverse ++ text := by
  induction text generalizing current ctx with
  | nil => simp [clustersFrom]
  | cons c rest ih =>
    simp only [clustersFrom]
    split
    · rw [ih]
      simp
    · rw [clustersFrom_eq_append, List.flatten_append, ih]
      simp

/-- The clusters of a text, one after another, are the text. -/
theorem flatten_clusters (text : List Char) : (clusters text).flatten = text := by
  cases text with
  | nil => rfl
  | cons c rest => simp [clusters, flatten_clustersFrom]

end MarketBoard
