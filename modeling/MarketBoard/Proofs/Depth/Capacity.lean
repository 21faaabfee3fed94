import MarketBoard.Proofs.Depth.Accepted
import MarketBoard.Proofs.Settings.Numbers

/-!
Which books come through a depth channel.

* `Book.carry`: a book is encoded, written, read and decoded. `CarryError`: where this fails.
* `Book.excess`: the first limit that a book passes; `Book.carry_of_lt`: nothing of it is written then.
* `Book.carry_of_le`: every other book comes through, whatever pieces the channel moves.
* `Book.deep`: a book of so many levels on each side that honours a request for them.
* `Book.carried_iff`: the exact capacity, and the requests that may ask for more.
-/

namespace MarketBoard

/-- Where a book was lost on its way. -/
inductive CarryError where
  /-- It has no payload. -/
  | unencodable (cause : EncodeError)
  /-- Its frame was not written. -/
  | unwritten (cause : FrameError)
  /-- No frame was read. -/
  | unread (cause : FrameError)
  /-- What was read is no book. -/
  | undecodable (cause : DecodeError)
deriving DecidableEq, Repr

namespace Book

/-- The number of levels of both sides. -/
def depth (b : Book) : Nat := b.bids.length + b.asks.length

/-- **Carries a book through a channel**: its frame is written into the sink, and what was written is
handed out in the pieces that `grant` allows. The sink tells which bytes were written. -/
def carry (b : Book) (sink : Sink) (grant : Nat → Nat → Nat) : Except CarryError Book × Sink :=
  match b.encode with
  | .error e => (.error (.unencodable e), sink)
  | .ok payload =>
    match Frame.write payload sink with
    | (.error e, after) => (.error (.unwritten e), after)
    | (.ok _, after) =>
      match (Frame.read { rest := after.taken.drop sink.taken.length, grant }).1 with
      | .error e => (.error (.unread e), after)
      | .ok received =>
        match Book.decode received with
        | .error e => (.error (.undecodable e), after)
        | .ok book => (.ok book, after)

/-- The first limit that a book of too many levels passes: each side has a count of 16 bits, and the
whole has to fit a frame. -/
def excess (b : Book) : CarryError :=
  if 65535 < b.bids.length then .unencodable (.tooManyLevels .bids b.bids.length)
  else if 65535 < b.asks.length then .unencodable (.tooManyLevels .asks b.asks.length)
  else .unwritten (.oversized (5 + 16 * b.depth) (2 ^ 20))

/-! ### Below and above the limit -/

section

variable {b : Book} {sink : Sink} {grant : Nat → Nat → Nat}

/-- **A book within the limit comes through**, whatever pieces the channel moves. -/
lemma carry_of_le (hdepth : b.depth ≤ 65535) (hsink : sink.Flows)
    (hgrant : ∀ reads room, 0 < room → 0 < grant reads room) :
    (b.carry sink grant).1 = .ok b := by
  obtain ⟨payload, hencode, hlength⟩ := exists_encode_iff.mpr hdepth
  obtain ⟨writes, hwrite⟩ := Frame.write_eq hsink hlength
  have hsource : ({ rest := Frame.encode payload, grant } : Source).Flows := ⟨hgrant, rfl⟩
  have hread := (Frame.read_eq_ok_iff hsource).mpr ⟨hlength, List.prefix_refl _⟩
  rw [carry, hencode]
  dsimp only
  rw [hwrite]
  dsimp only
  rw [List.drop_left' rfl, hread]
  dsimp only
  rw [decode_eq_ok_iff.mpr hencode]

/-- **A book beyond the limit is refused by the sender**, and nothing of it is written. -/
lemma carry_of_lt (hdepth : 65535 < b.depth) : b.carry sink grant = (.error b.excess, sink) := by
  rw [depth] at hdepth
  cases hencode : b.encode with
  | error e =>
      rw [carry, hencode, excess]
      obtain ⟨hbids, rfl⟩ | ⟨hbids, hasks, rfl⟩ := encode_eq_error_iff.mp hencode
      · rw [if_pos hbids]
      · rw [if_neg (Nat.not_lt.mpr hbids), if_pos hasks]
  | ok payload =>
      obtain ⟨bids, asks, hbids, hasks, -⟩ := encode_eq_ok_iff.mp hencode
      obtain ⟨hbids, -⟩ := Writer.levels_eq_ok_iff.mp hbids
      obtain ⟨hasks, -⟩ := Writer.levels_eq_ok_iff.mp hasks
      have hlength := length_of_encode hencode
      have hlimit : Frame.maxLength = 2 ^ 20 := rfl
      have hlong : Frame.maxLength < payload.length := by omega
      -- two sides with counts of 16 bits are far below the largest length that can be reported
      have hmin : min payload.length (UInt32.size - 1) = 5 + 16 * b.depth := by
        rw [hlength, depth]
        exact Nat.min_eq_left (by simp [UInt32.size]; omega)
      rw [carry, hencode, excess, if_neg (by omega), if_neg (by omega)]
      dsimp only
      rw [Frame.write_of_maxLength_lt sink hlong, hmin, hlimit]

/-- A channel that moves its bytes carries the books within the limit. -/
lemma carry_eq_ok_iff (hsink : sink.Flows)
    (hgrant : ∀ reads room, 0 < room → 0 < grant reads room) :
    (b.carry sink grant).1 = .ok b ↔ b.depth ≤ 65535 := by
  refine ⟨fun hcarry => Nat.not_lt.mp fun hdepth => ?_, fun hdepth => carry_of_le hdepth hsink hgrant⟩
  rw [carry_of_lt hdepth] at hcarry
  exact absurd hcarry (by simp)

end

/-! ### Books that honour a request -/

/-- Neighbours stand in a relation if all levels do. -/
lemma neighbours_of_pairwise {rel : UInt64 → UInt64 → Bool} {levels : List Level}
    (h : levels.Pairwise fun l m => rel l.price m.price = true) : neighbours rel levels = true := by
  induction levels with
  | nil => rfl
  | cons l rest ih =>
      obtain ⟨hfirst, hrest⟩ := List.pairwise_cons.mp h
      cases rest with
      | nil => rfl
      | cons m rest =>
          have hnext : rel l.price m.price = true := hfirst m List.mem_cons_self
          simpa [neighbours, hnext] using ih hrest

/-- A book of so many levels on each side, of one unit each, and no price stands on both sides. -/
def deep (n : Nat) : Book where
  bids := (List.range n).reverse.map fun i => ⟨UInt64.ofNat i, 1⟩
  asks := (List.range n).map fun i => ⟨UInt64.ofNat (n + i), 1⟩

/-- It has twice as many levels. -/
lemma depth_deep (n : Nat) : (deep n).depth = 2 * n := by
  simp [depth, deep]
  omega

/-- **It honours a request for so many levels.** -/
lemma honours_deep (key : Key) (maxLevels : UInt16) :
    (deep maxLevels.toNat).Honours ⟨key, maxLevels⟩ := by
  have hfits := maxLevels.toNat_lt
  have hlt {i j : Nat} (hij : i < j) (hj : j < 2 ^ 17) : UInt64.ofNat i < UInt64.ofNat j := by
    rw [UInt64.lt_iff_toNat_lt, UInt64.toNat_ofNat', UInt64.toNat_ofNat']
    omega
  have hbids : neighbours (fun p q => p > q) (deep maxLevels.toNat).bids = true := by
    refine neighbours_of_pairwise ?_
    rw [deep, List.pairwise_map, List.pairwise_reverse]
    refine List.pairwise_lt_range.imp_of_mem fun _ hj hij => ?_
    have hj := List.mem_range.mp hj
    exact decide_eq_true (hlt hij (by omega))
  have hasks : neighbours (fun p q => p < q) (deep maxLevels.toNat).asks = true := by
    refine neighbours_of_pairwise ?_
    rw [deep, List.pairwise_map]
    refine List.pairwise_lt_range.imp_of_mem fun _ hj hij => ?_
    have hj := List.mem_range.mp hj
    exact decide_eq_true (hlt (by omega) (by omega))
  exact ⟨by simp [deep], by simp [deep], by rw [isOrdered, hbids, hasks]; rfl⟩

/-- **Requests for 32768 levels or more**, and no others, are honoured by books beyond the limit. -/
lemma exists_honours_iff (key : Key) (maxLevels : UInt16) :
    (∃ book : Book, book.Honours ⟨key, maxLevels⟩ ∧ 65535 < book.depth) ↔ 32768 ≤ maxLevels := by
  rw [UInt16.le_iff_toNat_le]
  constructor
  · rintro ⟨book, ⟨hbids, hasks, -⟩, hdepth⟩
    have hlevels : book.depth = book.bids.length + book.asks.length := rfl
    show 32768 ≤ maxLevels.toNat
    dsimp only at hbids hasks
    omega
  · intro hmany
    refine ⟨_, honours_deep key maxLevels, ?_⟩
    have hmany : 32768 ≤ maxLevels.toNat := hmany
    rw [depth_deep]
    omega

/-! ### The capacity -/

/-- **The exact capacity of a depth channel.**
A channel that moves its bytes, in whatever pieces, carries a book if and only if it has at most 65535
levels altogether. A larger one is refused on the sending side and no byte of it is written: because of
its bids if they alone are more than 65535, else because of its asks if they are, and else because the
whole is too long for a frame. Any number of levels but zero can be asked for on the command line, and
for 32768 or more, and only for these, there are books that honour the request and cannot be carried. -/
theorem carried_iff :
    (∀ (b : Book) (sink : Sink) (grant : Nat → Nat → Nat), sink.Flows →
      (∀ reads room, 0 < room → 0 < grant reads room) →
        ((b.carry sink grant).1 = .ok b ↔ b.depth ≤ 65535)) ∧
    (∀ (b : Book) (sink : Sink) (grant : Nat → Nat → Nat), 65535 < b.depth →
      b.carry sink grant = (.error b.excess, sink)) ∧
    ∀ maxLevels : UInt16, 0 < maxLevels →
      (∃ settings, Settings.ofArguments ["--max-levels", toString maxLevels.toNat] = .ok settings ∧
        settings.maxLevels = maxLevels) ∧
      ∀ key, (∃ book : Book, book.Honours ⟨key, maxLevels⟩ ∧ 65535 < book.depth) ↔
        32768 ≤ maxLevels :=
  ⟨fun _ _ _ hsink hgrant => carry_eq_ok_iff hsink hgrant, fun _ _ _ hdepth => carry_of_lt hdepth,
    fun maxLevels hpos => ⟨Settings.ofArguments_maxLevels hpos,
      fun key => exists_honours_iff key maxLevels⟩⟩

/-- A book through a channel that moves one byte at a time, two books that pass a limit, and a number of
levels for which there are more of them. -/
theorem carried_iff_pieces :
    let sink : Sink := { answer := fun _ _ _ => .ok 1 }
    let grant : Nat → Nat → Nat := fun _ _ => 1
    let small : Book := ⟨[⟨2, 1⟩, ⟨1, 5⟩], [⟨3, 4⟩]⟩
    let long : Book := ⟨List.replicate 65536 ⟨1, 1⟩, []⟩
    let wide : Book := ⟨List.replicate 40000 ⟨1, 1⟩, List.replicate 30000 ⟨2, 1⟩⟩
    (small.carry sink grant).1 = .ok small ∧
    long.carry sink grant = (.error (.unencodable (.tooManyLevels .bids 65536)), sink) ∧
    wide.carry sink grant = (.error (.unwritten (.oversized 1120005 1048576)), sink) ∧
    ∃ settings, Settings.ofArguments ["--max-levels", "32768"] = .ok settings ∧
      settings.maxLevels = 32768 := by
  intro sink grant small long wide
  have hsink : sink.Flows := ⟨fun _ _ _ _ => ⟨1, Nat.one_pos, rfl⟩, rfl⟩
  -- the levels are counted, not written out
  have hlong : 65535 < long.depth ∧ long.excess = .unencodable (.tooManyLevels .bids 65536) := by
    simp only [long, excess, depth, List.length_replicate]
    decide
  have hwide : 65535 < wide.depth ∧ wide.excess = .unwritten (.oversized 1120005 1048576) := by
    simp only [wide, excess, depth, List.length_replicate]
    decide
  obtain ⟨hcarried, hrefused, hasked⟩ := carried_iff
  refine ⟨(hcarried small sink grant hsink fun _ _ _ => Nat.one_pos).mpr (by decide), ?_, ?_, ?_⟩
  · rw [hrefused long sink grant hlong.1, hlong.2]
  · rw [hrefused wide sink grant hwide.1, hwide.2]
  · exact (hasked 32768 (by decide)).1

end Book

end MarketBoard
