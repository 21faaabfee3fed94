import MarketBoard.Proofs.Board.Run
import MarketBoard.Proofs.Store.Market

/-!
The store of a board, and the market data that it holds after a run of the board.

* `Board.store_step`, `Board.store_run`: whatever happens to a board, its store takes the same messages,
  and a command, which brings none, sorts it or turns a mark in it (`Board.store_obey`).
* `Board.store_put`: every input of the board is a run of its store.
* `Board.market_of_run`: the market data of an instrument is determined by its own messages.
-/

namespace MarketBoard.Board

/-! ### The store in a run of the board -/

/-- Moving the cursor, up and down or across, leaves the store alone. -/
@[simp] lemma store_moveTo (b : Board) (row : Nat) : (b.moveTo row).store = b.store := by
  rw [moveTo]
  split <;> rfl

@[simp] lemma store_moveToColumn (b : Board) (column : Nat) :
    (b.moveToColumn column).store = b.store := rfl

/-- Opening or closing the box leaves the store alone. -/
@[simp] lemma store_toggleDepth (b : Board) : b.toggleDepth.2.store = b.store := by
  rw [toggleDepth]
  split
  · rfl
  · split <;> rfl

/-- Outcomes of requests leave the store alone. -/
@[simp] lemma store_deliver (b : Board) (key : Key) (outcome : Except DepthError Book) :
    (b.deliver key outcome).store = b.store := by
  unfold deliver
  split
  · cases outcome <;> rfl
  · rfl

/-- A message is applied to the store. -/
@[simp] lemma store_receive (b : Board) (m : Message) : (b.receive m).store = b.store.apply m :=
  rfl

/-- Turning the mark at the cursor turns it in the store or, where there is no instrument, nothing. -/
lemma store_toggleMark (b : Board) :
    b.toggleMark.store = b.store ∨ b.toggleMark.store = b.store.toggleMark b.view.row := by
  rw [toggleMark_eq]
  split
  · exact .inl rfl
  · exact .inr rfl

/-- A command runs nothing, a sort or a mark on the store. -/
lemma store_obey (b : Board) (c : Command) : b.store.Takes [] (b.obey c).2.store := by
  have hstays : b.store.Takes [] b.store := Store.Takes.refl b.store
  refine obey_induction (P := fun b' => b.store.Takes [] b'.store) c hstays
    (fun _ => ?_) (fun descending => ⟨[.sort descending], rfl, rfl⟩) ?_ (fun row => ?_)
    (fun _ => hstays) hstays
  · rwa [store_toggleDepth]
  · obtain h | h := b.store_toggleMark
    · rwa [h]
    · exact ⟨[.mark b.view.row], h, rfl⟩
  · rwa [store_moveTo]

/-- Whatever reaches a board, its store goes through a run of its own. -/
lemma store_put (b : Board) (i : Input) : ∃ more, (b.put i).2.store = b.store.run more := by
  cases i with
  | start => exact ⟨[], rfl⟩
  | message m => exact ⟨[.message m], b.store_receive m⟩
  | command c =>
      obtain ⟨more, hmore, -⟩ := b.store_obey c
      exact ⟨more, hmore⟩
  | outcome key result => exact ⟨[], b.store_deliver key result⟩
  | resizeTerminal width height => exact ⟨[], rfl⟩

/-- The message that arrives in a step. -/
def Step.message? : Step → Option Message
  | .message m => some m
  | .command _ => none
  | .outcome _ _ => none
  | .resized _ _ => none

/-- The messages that arrive in a run. -/
def messages (steps : List Step) : List Message := steps.filterMap Step.message?

lemma messages_cons (t : Step) (rest : List Step) :
    messages (t :: rest) = t.message?.toList ++ messages rest := by
  simp only [messages, List.filterMap_eq_flatMap_toList, List.flatMap_cons]

/-- **A step of the board is a run of its store** with the message that arrives, if one does. -/
lemma store_step (b : Board) (t : Step) : b.store.Takes t.message?.toList (b.step t).store := by
  cases t with
  | message m => exact ⟨[.message m], b.store_receive m, rfl⟩
  | command c => exact b.store_obey c
  | outcome key result => exact ⟨[], b.store_deliver key result, rfl⟩
  | resized width height => exact Store.Takes.refl b.store

/-- **A run of the board is a run of its store** with the same messages. -/
lemma store_run (b : Board) (steps : List Step) :
    b.store.Takes (messages steps) (b.run steps).store := by
  induction steps generalizing b with
  | nil => exact Store.Takes.refl b.store
  | cons t rest ih =>
      rw [messages_cons]
      exact (b.store_step t).trans (ih (b.step t))

/-- A new board has an empty store. -/
lemma store_opened (d : Device) (rows : Nat) (policy : Recoloring) :
    (opened d rows policy).store = .empty policy := rfl

/-! ### Market data -/

/-- **The market data of an instrument depends on its own messages alone.**
After every run of a board, on any device, an instrument has the data that the messages about it
determine, and without such messages there is no instrument. So two boards of one policy agree on an
instrument as soon as they received the same messages about it, whatever else they received between
them and whatever was sorted, marked, moved or asked for. -/
theorem market_of_run (policy : Recoloring) (d : Device) (rows : Nat) (steps : List Step) (k : Key) :
    ((opened d rows policy).run steps).store.market? k =
        Market.ofHistory? policy (about k (messages steps)) ∧
      ∀ (d' : Device) (rows' : Nat) (steps' : List Step),
        about k (messages steps') = about k (messages steps) →
          ((opened d' rows' policy).run steps').store.market? k =
            ((opened d rows policy).run steps).store.market? k := by
  have hrun : ∀ (d : Device) (rows : Nat) (steps : List Step),
      ((opened d rows policy).run steps).store.market? k =
        Market.ofHistory? policy (about k (messages steps)) := by
    intro d rows steps
    obtain ⟨more, hstore, hmessages⟩ := (opened d rows policy).store_run steps
    rw [hstore, store_opened, Store.market?_run, hmessages]
  refine ⟨hrun d rows steps, fun d' rows' steps' hsame => ?_⟩
  rw [hrun d' rows' steps', hrun d rows steps, hsame]

/-- Two trades of one instrument and a quote that settles its trend: with a trade of another
instrument, a sort and a mark between them the data is the same as without. -/
theorem market_of_run_mixed :
    let k : Key := ⟨"A", 1⟩
    let first : Step := .message (.trade ⟨k, 500000000, 7⟩)
    let second : Step := .message (.trade ⟨k, 400000000, 2⟩)
    let quote : Step := .message (.quote ⟨k, 3, 4, 5, 6⟩)
    let other : Step := .message (.trade ⟨⟨"A", 2⟩, 9, 9⟩)
    let plain := [first, second, quote]
    let mixed := [first, other, .command .down, .command .toggleMark, second,
      .command .sortDescending, quote, .command .toggleDepth]
    about k (messages mixed) = about k (messages plain) ∧
      ((opened (.blank 20 5) 3 .quotesAndTrades).run mixed).store.market? k =
        ((opened (.blank 30 4) 9 .quotesAndTrades).run plain).store.market? k ∧
      ((opened (.blank 30 4) 9 .quotesAndTrades).run plain).store.market? k =
        some ⟨.ofUnits 3, .ofUnits 4, .ofUnits 5, .ofUnits 6, .ofUnits 400000000,
          .ofUnits 400000000, .ofUnits 2, .ofUnits 9, 3, .down⟩ := by
  intro k first second quote other plain mixed
  have hsame : about k (messages mixed) = about k (messages plain) := by decide
  obtain ⟨hdata, hagree⟩ := market_of_run .quotesAndTrades (.blank 30 4) 9 plain k
  exact ⟨hsame, hagree (.blank 20 5) 3 mixed hsame, hdata.trans (by decide)⟩

end MarketBoard.Board
