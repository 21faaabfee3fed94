/-!
Numbers as bytes, most significant byte first.

* `BigEndian.limit`: the numbers below it fit a count of bytes.
* `BigEndian.toBytes`: a number as a fixed count of bytes.
* `BigEndian.ofBytes`: the number that bytes stand for.
* `ofBytes_toBytes`, `toBytes_ofBytes`: each undoes the other, for numbers that fit the count.
-/

namespace MarketBoard.BigEndian

/-- The first number that does not fit so many bytes. -/
def limit (count : Nat) : Nat := Nat.pow 256 count

@[simp] theorem limit_zero : limit 0 = 1 := rfl

/-- One more byte goes 256 times as far. -/
theorem limit_succ (count : Nat) : limit (count + 1) = limit count * 256 := rfl

theorem limit_pos (count : Nat) : 0 < limit count := Nat.pow_pos (by decide)

/-- The lowest `count` bytes of a number, most significant first. -/
def toBytes : Nat → Nat → List UInt8
  | 0, _ => []
  | count + 1, n => UInt8.ofNat (n / limit count) :: toBytes count n

/-- The number that the bytes stand for. -/
def ofBytes (bytes : List UInt8) : Nat :=
  bytes.foldl (fun n b => n * 256 + b.toNat) 0

/-- A number has exactly as many bytes as it is given. -/
@[simp] theorem length_toBytes (count n : Nat) : (toBytes count n).length = count := by
  induction count with
  | zero => rfl
  | succ count ih => simp [toBytes, ih]

/-- Bytes that follow a number scale it up and add their own. -/
theorem foldl_eq (bytes : List UInt8) (n : Nat) :
    bytes.foldl (fun n b => n * 256 + b.toNat) n = n * limit bytes.length + ofBytes bytes := by
  unfold ofBytes
  induction bytes generalizing n with
  | nil => simp
  | cons b bs ih =>
    simp only [List.foldl_cons, List.length_cons]
    rw [ih (n * 256 + b.toNat), ih (0 * 256 + b.toNat), limit_succ, Nat.add_mul, Nat.zero_mul,
      Nat.zero_add, Nat.mul_assoc, Nat.mul_comm 256, Nat.add_assoc]

/-- The first byte counts for the most. -/
theorem ofBytes_cons (b : UInt8) (bs : List UInt8) :
    ofBytes (b :: bs) = b.toNat * limit bs.length + ofBytes bs := by
  have h := foldl_eq bs (0 * 256 + b.toNat)
  simpa [ofBytes] using h

/-- A count of bytes bounds the number. -/
theorem ofBytes_lt (bytes : List UInt8) : ofBytes bytes < limit bytes.length := by
  induction bytes with
  | nil => simp [ofBytes]
  | cons b bs ih =>
    have hb : b.toNat < 256 := b.toNat_lt
    have hm : b.toNat * limit bs.length + limit bs.length ≤ 256 * limit bs.length := by
      rw [← Nat.succ_mul]
      exact Nat.mul_le_mul_right _ hb
    rw [ofBytes_cons, List.length_cons, limit_succ, Nat.mul_comm (limit bs.length)]
    omega

/-- Reading what was written gives the number, as far as it fits. -/
theorem ofBytes_toBytes (count n : Nat) : ofBytes (toBytes count n) = n % limit count := by
  induction count with
  | zero => simp [toBytes, ofBytes, Nat.mod_one]
  | succ count ih =>
    have h : n % limit (count + 1) = n % limit count + limit count * (n / limit count % 256) :=
      Nat.mod_pow_succ
    rw [toBytes, ofBytes_cons, ih, length_toBytes, UInt8.toNat_ofNat', h, Nat.add_comm, Nat.mul_comm]

/-- Writing what was read gives the bytes. -/
theorem toBytes_ofBytes (bytes : List UInt8) : toBytes bytes.length (ofBytes bytes) = bytes := by
  induction bytes with
  | nil => rfl
  | cons b bs ih =>
    have hb : b.toNat < 256 := b.toNat_lt
    have hlow : ∀ count n m : Nat, toBytes count (n * limit count + m) = toBytes count m := by
      intro count
      induction count with
      | zero => intros; rfl
      | succ count ih =>
        intro n m
        have hs : n * limit (count + 1) + m = n * 256 * limit count + m := by
          rw [limit_succ, Nat.mul_assoc, Nat.mul_comm 256]
        simp only [toBytes]
        rw [hs, ih (n * 256) m, Nat.mul_comm (n * 256), Nat.mul_add_div (limit_pos _)]
        congr 1
        apply UInt8.toNat_inj.1
        simp only [UInt8.toNat_ofNat']
        omega
    rw [List.length_cons, toBytes, ofBytes_cons, hlow, ih, Nat.mul_comm,
      Nat.mul_add_div (limit_pos _), Nat.div_eq_of_lt (ofBytes_lt bs), Nat.add_zero,
      UInt8.ofNat_toNat]

end MarketBoard.BigEndian
