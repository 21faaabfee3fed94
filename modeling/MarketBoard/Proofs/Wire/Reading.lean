import MarketBoard.Wire.Payload
import Mathlib.Tactic.Lemma

/-!
Reading and writing the parts of a payload: a reader takes off the front of the bytes exactly what the
writer of the same part writes.

* `Reader.Takes`: a reader takes a value off the front of bytes and leaves a rest; `takes_bind`,
  `takes_map` and `takes_pure` follow it through readers that are put together.
* `takes_take`, `takes_number` and the words: parts of a fixed size.
* `takes_text`, `takes_key`, `takes_levels`: parts behind a count, against `Writer.text`, `Writer.key`
  and `Writer.levels`.
* `Writer.text_eq_error_iff`, `Writer.levels_eq_error_iff`: the only failures of writing.
* `payload_eq_ok_iff`: a whole payload.
-/

namespace MarketBoard

/-! ### Writing -/

namespace Writer

/-- The size of a text is the number of its bytes in UTF-8. -/
lemma length_toUTF8 (s : String) : s.toUTF8.data.toList.length = s.utf8ByteSize := rfl

/-- A text is written exactly if its length fits 16 bits. -/
lemma text_eq_ok_iff {field : Field} {s : String} {w : List UInt8} :
    text field s = .ok w ↔ s.utf8ByteSize ≤ 65535 ∧
      w = BigEndian.toBytes 2 s.utf8ByteSize ++ s.toUTF8.data.toList := by
  rw [text, length_toUTF8]
  split
  · next h => simp [pure, Except.pure, Nat.le_of_lt_succ h, eq_comm]
  · next h =>
    have hlong : ¬ s.utf8ByteSize ≤ 65535 := Nat.not_le.mpr (Nat.not_lt.mp h)
    simp [throw, throwThe, MonadExceptOf.throw, hlong]

/-- A text fails to be written exactly if its length does not fit, and then with this length. -/
lemma text_eq_error_iff {field : Field} {s : String} {e : EncodeError} :
    text field s = .error e ↔ 65535 < s.utf8ByteSize ∧ e = .textTooLong field s.utf8ByteSize := by
  rw [text, length_toUTF8]
  split
  · next h =>
    have hfits : ¬ 65535 < s.utf8ByteSize := Nat.not_lt.mpr (Nat.le_of_lt_succ h)
    simp [pure, Except.pure, hfits]
  · next h =>
    have hlong : 65535 < s.utf8ByteSize := Nat.not_lt.mp h
    simp [throw, throwThe, MonadExceptOf.throw, hlong, eq_comm]

/-- Levels are written exactly if their count fits 16 bits. -/
lemma levels_eq_ok_iff {field : Field} {ls : List Level} {w : List UInt8} :
    levels field ls = .ok w ↔ ls.length ≤ 65535 ∧
      w = BigEndian.toBytes 2 ls.length ++ ls.flatMap level := by
  rw [levels]
  split
  · next h => simp [pure, Except.pure, Nat.le_of_lt_succ h, eq_comm]
  · next h =>
    have hlong : ¬ ls.length ≤ 65535 := Nat.not_le.mpr (Nat.not_lt.mp h)
    simp [throw, throwThe, MonadExceptOf.throw, hlong]

/-- Levels fail to be written exactly if their count does not fit, and then with this count. -/
lemma levels_eq_error_iff {field : Field} {ls : List Level} {e : EncodeError} :
    levels field ls = .error e ↔ 65535 < ls.length ∧ e = .tooManyLevels field ls.length := by
  rw [levels]
  split
  · next h =>
    have hfits : ¬ 65535 < ls.length := Nat.not_lt.mpr (Nat.le_of_lt_succ h)
    simp [pure, Except.pure, hfits]
  · next h =>
    have hlong : 65535 < ls.length := Nat.not_lt.mp h
    simp [throw, throwThe, MonadExceptOf.throw, hlong, eq_comm]

/-- The bytes of a key are those of its symbol and of its source. -/
lemma key_eq_ok_iff {k : Key} {w : List UInt8} :
    key k = .ok w ↔ ∃ symbol, text .key k.symbol = .ok symbol ∧ w = symbol ++ word32 k.source := by
  rw [key]
  cases text .key k.symbol <;> simp [bind, Except.bind, pure, Except.pure, eq_comm]

/-- Only the symbol of a key can fail to be written. -/
lemma key_eq_error_iff {k : Key} {e : EncodeError} :
    key k = .error e ↔ text .key k.symbol = .error e := by
  rw [key]
  cases text .key k.symbol <;> simp [bind, Except.bind, pure, Except.pure]

/-- A level has sixteen bytes. -/
@[simp] lemma length_level (l : Level) : (level l).length = 16 := by
  simp [level, word64]

/-- Levels have sixteen bytes each. -/
lemma length_flatMap_level (ls : List Level) : (ls.flatMap level).length = ls.length * 16 := by
  induction ls with
  | nil => rfl
  | cons l ls ih =>
      rw [List.flatMap_cons, List.length_append, ih, length_level, List.length_cons]
      omega

end Writer

/-! ### Readers that are put together -/

namespace Reader

variable {α β : Type}

/-- **The reader takes `a` off the front of the bytes** and leaves the rest. -/
def Takes (reader : Reader α) (bytes : List UInt8) (a : α) (rest : List UInt8) : Prop :=
  StateT.run reader bytes = .ok (a, rest)

variable {bytes rest : List UInt8}

/-- One reader after the other. -/
lemma takes_bind {reader : Reader α} {next : α → Reader β} {b : β} :
    (reader >>= next).Takes bytes b rest ↔
      ∃ a mid, reader.Takes bytes a mid ∧ (next a).Takes mid b rest := by
  simp only [Takes, StateT.run_bind]
  cases StateT.run reader bytes with
  | error e => simp [bind, Except.bind]
  | ok found =>
      obtain ⟨a, mid⟩ := found
      constructor
      · exact fun h => ⟨a, mid, rfl, h⟩
      · rintro ⟨a', mid', hfound, h⟩
        obtain ⟨rfl, rfl⟩ := Prod.mk.inj (Except.ok.inj hfound)
        exact h

lemma takes_pure {a b : α} : (pure a : Reader α).Takes bytes b rest ↔ a = b ∧ bytes = rest := by
  show (Except.ok (a, bytes) : Except DecodeError (α × List UInt8)) = .ok (b, rest) ↔ _
  rw [Except.ok.injEq, Prod.mk.injEq]

lemma takes_map {reader : Reader α} {f : α → β} {b : β} :
    (f <$> reader).Takes bytes b rest ↔ ∃ a, reader.Takes bytes a rest ∧ f a = b := by
  rw [map_eq_pure_bind, takes_bind]
  simp [takes_pure]

lemma not_takes_throw {e : DecodeError} {a : α} : ¬ (throw e : Reader α).Takes bytes a rest := by
  simp [Takes, throw, throwThe, MonadExceptOf.throw, StateT.run, StateT.lift, bind, Except.bind]

/-! ### Parts of a fixed size -/

/-- The next bytes, as many as are asked for. -/
lemma takes_take {field : Field} {count : Nat} {w : List UInt8} :
    (take field count).Takes bytes w rest ↔ w.length = count ∧ bytes = w ++ rest := by
  rw [Takes, StateT.run, take]
  split
  · next hshort =>
    rw [List.length_take] at hshort
    constructor
    · intro h
      exact absurd h (by simp)
    · rintro ⟨rfl, rfl⟩
      simp at hshort
  · next hlong =>
    rw [List.length_take] at hlong
    constructor
    · intro h
      obtain ⟨rfl, rfl⟩ := Prod.mk.inj (Except.ok.inj h)
      exact ⟨by rw [List.length_take]; omega, (List.take_append_drop count bytes).symm⟩
    · rintro ⟨rfl, rfl⟩
      simp

/-- A number, in as many bytes as are asked for. -/
lemma takes_number {field : Field} {count n : Nat} :
    (number field count).Takes bytes n rest ↔
      n < BigEndian.limit count ∧ bytes = BigEndian.toBytes count n ++ rest := by
  rw [number, takes_map]
  simp only [takes_take]
  constructor
  · rintro ⟨w, ⟨rfl, rfl⟩, rfl⟩
    exact ⟨BigEndian.ofBytes_lt w, by rw [BigEndian.toBytes_ofBytes]⟩
  · rintro ⟨hn, rfl⟩
    refine ⟨_, ⟨BigEndian.length_toBytes count n, rfl⟩, ?_⟩
    rw [BigEndian.ofBytes_toBytes, Nat.mod_eq_of_lt hn]

/-- A byte. -/
lemma takes_word8 {field : Field} {n : UInt8} :
    (word8 field).Takes bytes n rest ↔ bytes = n :: rest := by
  rw [word8, takes_map]
  simp only [takes_number]
  constructor
  · rintro ⟨n, ⟨-, rfl⟩, rfl⟩
    simp [BigEndian.toBytes]
  · rintro rfl
    exact ⟨n.toNat, ⟨n.toNat_lt, by simp [BigEndian.toBytes]⟩, UInt8.ofNat_toNat⟩

/-- Two bytes. -/
lemma takes_word16 {field : Field} {n : UInt16} :
    (word16 field).Takes bytes n rest ↔ bytes = Writer.word16 n ++ rest := by
  rw [word16, takes_map]
  simp only [takes_number, Writer.word16]
  constructor
  · rintro ⟨n, ⟨hn, rfl⟩, rfl⟩
    rw [UInt16.toNat_ofNat_of_lt' hn]
  · rintro rfl
    exact ⟨n.toNat, ⟨n.toNat_lt, rfl⟩, UInt16.ofNat_toNat⟩

/-- Four bytes. -/
lemma takes_word32 {field : Field} {n : UInt32} :
    (word32 field).Takes bytes n rest ↔ bytes = Writer.word32 n ++ rest := by
  rw [word32, takes_map]
  simp only [takes_number, Writer.word32]
  constructor
  · rintro ⟨n, ⟨hn, rfl⟩, rfl⟩
    rw [UInt32.toNat_ofNat_of_lt' hn]
  · rintro rfl
    exact ⟨n.toNat, ⟨n.toNat_lt, rfl⟩, UInt32.ofNat_toNat⟩

/-- Eight bytes. -/
lemma takes_word64 {field : Field} {n : UInt64} :
    (word64 field).Takes bytes n rest ↔ bytes = Writer.word64 n ++ rest := by
  rw [word64, takes_map]
  simp only [takes_number, Writer.word64]
  constructor
  · rintro ⟨n, ⟨hn, rfl⟩, rfl⟩
    rw [UInt64.toNat_ofNat_of_lt' hn]
  · rintro rfl
    exact ⟨n.toNat, ⟨n.toNat_lt, rfl⟩, UInt64.ofNat_toNat⟩

/-- The one tag that may stand here. -/
lemma takes_expect {tag : UInt8} {u : Unit} :
    (expect tag).Takes bytes u rest ↔ bytes = tag :: rest := by
  rw [expect, takes_bind]
  simp only [takes_word8]
  constructor
  · rintro ⟨got, mid, rfl, h⟩
    split at h
    · next htag =>
      obtain ⟨-, rfl⟩ := takes_pure.mp h
      rw [htag]
    · exact absurd h not_takes_throw
  · rintro rfl
    refine ⟨tag, rest, rfl, ?_⟩
    rw [if_pos rfl]
    exact takes_pure.mpr ⟨rfl, rfl⟩

/-! ### Texts and keys -/

/-- Bytes are a text exactly if they are the bytes of this text in UTF-8. -/
lemma fromUTF8?_eq_some_iff {w : List UInt8} {s : String} :
    String.fromUTF8? ⟨w.toArray⟩ = some s ↔ w = s.toUTF8.data.toList := by
  constructor
  · intro h
    rw [String.fromUTF8?] at h
    split at h
    · obtain rfl := Option.some.inj h
      rfl
    · exact absurd h (by simp)
  · rintro rfl
    exact dif_pos s.isValidUTF8

/-- A text: no other bytes are read as this text, and it is read off its own. -/
lemma takes_text {field : Field} {s : String} :
    (text field).Takes bytes s rest ↔
      ∃ w, Writer.text field s = .ok w ∧ bytes = w ++ rest := by
  rw [text, takes_bind]
  simp only [takes_bind, takes_number, takes_take, Writer.text_eq_ok_iff]
  constructor
  · rintro ⟨length, mid, ⟨hlength, rfl⟩, w, mid', ⟨rfl, rfl⟩, h⟩
    split at h
    · next s' hs =>
      obtain ⟨rfl, rfl⟩ := takes_pure.mp h
      obtain rfl := fromUTF8?_eq_some_iff.mp hs
      exact ⟨_, ⟨Nat.le_of_lt_succ hlength, rfl⟩, by rw [Writer.length_toUTF8, List.append_assoc]⟩
    · exact absurd h not_takes_throw
  · rintro ⟨w, ⟨hlength, rfl⟩, rfl⟩
    refine ⟨s.utf8ByteSize, s.toUTF8.data.toList ++ rest,
      ⟨Nat.lt_succ_of_le hlength, List.append_assoc _ _ _⟩, s.toUTF8.data.toList, rest,
      ⟨Writer.length_toUTF8 s, rfl⟩, ?_⟩
    rw [fromUTF8?_eq_some_iff.mpr rfl]
    exact takes_pure.mpr ⟨rfl, rfl⟩

/-- A key. -/
lemma takes_key {k : Key} :
    key.Takes bytes k rest ↔ ∃ w, Writer.key k = .ok w ∧ bytes = w ++ rest := by
  rw [key, takes_bind]
  simp only [takes_bind, takes_text, takes_word32, takes_pure, Writer.key_eq_ok_iff]
  constructor
  · rintro ⟨s, mid, ⟨w, hw, rfl⟩, source, mid', rfl, rfl, rfl⟩
    exact ⟨_, ⟨w, hw, rfl⟩, (List.append_assoc _ _ _).symm⟩
  · rintro ⟨-, ⟨w, hw, rfl⟩, rfl⟩
    exact ⟨k.symbol, _, ⟨w, hw, List.append_assoc _ _ _⟩, k.source, _, rfl, rfl, rfl⟩

/-! ### Levels -/

/-- The check that promised bytes are there consumes nothing. -/
lemma takes_require {field : Field} {count : Nat} {u : Unit} :
    (require field count).Takes bytes u rest ↔ count ≤ bytes.length ∧ bytes = rest := by
  rw [Takes, StateT.run, require]
  rw [List.length_take]
  split
  · next hshort =>
    have hnot : ¬ count ≤ bytes.length := by omega
    simp [hnot]
  · next hlong =>
    have hle : count ≤ bytes.length := by omega
    simp [hle]

/-- The loop over the levels, one after the other, behind those it has read before. -/
lemma takes_levelsOnto {field : Field} {count : Nat} {before ls : List Level} :
    (levelsOnto field count before).Takes bytes ls rest ↔
      ∃ more : List Level, more.length = count ∧ ls = before.reverse ++ more ∧
        bytes = more.flatMap Writer.level ++ rest := by
  induction count generalizing before bytes with
  | zero =>
      rw [levelsOnto, takes_pure]
      constructor
      · rintro ⟨rfl, rfl⟩
        exact ⟨[], rfl, (List.append_nil _).symm, rfl⟩
      · rintro ⟨more, hmore, rfl, rfl⟩
        obtain rfl := List.length_eq_zero_iff.mp hmore
        exact ⟨(List.append_nil _).symm, rfl⟩
  | succ count ih =>
      rw [levelsOnto, takes_bind]
      simp only [takes_bind, takes_word64, ih]
      constructor
      · rintro ⟨price, mid, rfl, quantity, mid', rfl, more, rfl, rfl, rfl⟩
        exact ⟨⟨price, quantity⟩ :: more, rfl, by simp, by simp [Writer.level]⟩
      · rintro ⟨more, hmore, rfl, rfl⟩
        obtain ⟨l, more, rfl⟩ := List.exists_cons_of_length_eq_add_one hmore
        refine ⟨l.price, _, ?_, l.quantity, _, rfl, more, Nat.succ.inj hmore, ?_, rfl⟩
        · simp [Writer.level]
        · simp

/-- **Levels**: the check of the bytes that the count promises refuses nothing that the loop would
read. -/
lemma takes_levels {field : Field} {ls : List Level} :
    (levels field).Takes bytes ls rest ↔
      ∃ w, Writer.levels field ls = .ok w ∧ bytes = w ++ rest := by
  rw [levels, takes_bind]
  simp only [takes_bind, takes_number, takes_require, takes_levelsOnto, Writer.levels_eq_ok_iff]
  constructor
  · -- the loop has found the levels, so what the check says is not needed
    rintro ⟨count, mid, ⟨hcount, rfl⟩, -, -, ⟨-, rfl⟩, more, rfl, rfl, rfl⟩
    exact ⟨_, ⟨Nat.le_of_lt_succ hcount, rfl⟩, (List.append_assoc _ _ _).symm⟩
  · rintro ⟨-, ⟨hcount, rfl⟩, rfl⟩
    refine ⟨ls.length, _, ⟨Nat.lt_succ_of_le hcount, List.append_assoc _ _ _⟩, (), _, ⟨?_, rfl⟩, ls,
      rfl, rfl, rfl⟩
    rw [List.length_append, Writer.length_flatMap_level]
    exact Nat.le_add_right _ _

/-! ### Whole payloads -/

/-- A whole payload is read exactly if no byte is left. -/
lemma payload_eq_ok_iff {reader : Reader α} {a : α} :
    reader.payload bytes = .ok a ↔ bytes ≠ [] ∧ reader.Takes bytes a [] := by
  rw [payload, run, Takes]
  cases bytes with
  | nil => simp [throw, throwThe, MonadExceptOf.throw]
  | cons b bytes =>
      cases StateT.run reader (b :: bytes) with
      | error e => simp [bind, Except.bind]
      | ok found =>
          obtain ⟨a', left⟩ := found
          cases left <;>
            simp [bind, Except.bind, pure, Except.pure, throw, throwThe, MonadExceptOf.throw]

end Reader

end MarketBoard
