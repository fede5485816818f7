import ShuffleWatch.Address

/-!
# Words of the contract

The thirty-two bytes in which the contract keeps and logs each value. A number
fills them from the right, high bytes first, and so does an address. Only the
last twenty bytes of an address are looked at.

* `toNat_ofNat`, `toAddress_ofAddress`: what is put into a word is found there;
* `ofNat_toNat`: every word is that of its number.
-/

namespace ShuffleWatch.Contract

/-- The lowest `k` bytes of `n`, high bytes first. -/
def bigEndian : Nat → Nat → List UInt8
  | 0, _ => []
  | k + 1, n => bigEndian k (n / 256) ++ [UInt8.ofNat n]

/-- The number that the bytes write, high bytes first. -/
def number (bs : List UInt8) : Nat := bs.foldl (fun n b => 256 * n + b.toNat) 0

theorem length_bigEndian (k n : Nat) : (bigEndian k n).length = k := by
  induction k generalizing n with
  | zero => rfl
  | succ k ih => simp [bigEndian, ih]

theorem number_append_singleton (bs : List UInt8) (b : UInt8) :
    number (bs ++ [b]) = 256 * number bs + b.toNat := by
  simp [number]

theorem number_bigEndian (k n : Nat) : number (bigEndian k n) = n % Nat.pow 256 k := by
  induction k generalizing n with
  | zero => exact (Nat.mod_one n).symm
  | succ k ih =>
    have hpow : Nat.pow 256 (k + 1) = 256 * Nat.pow 256 k := Nat.mul_comm _ _
    rw [bigEndian, number_append_singleton, ih, hpow, Nat.mod_mul, UInt8.toNat_ofNat']
    omega

theorem bigEndian_number {k : Nat} {bs : List UInt8} (h : bs.length = k) :
    bigEndian k (number bs) = bs := by
  -- The last byte comes off first, as the remainder of the number.
  induction k generalizing bs with
  | zero => exact (List.eq_nil_of_length_eq_zero h).symm
  | succ k ih =>
    have hne : bs ≠ [] := List.ne_nil_of_length_eq_add_one h
    obtain ⟨init, last, rfl⟩ : ∃ init last, bs = init ++ [last] :=
      ⟨_, _, (List.dropLast_concat_getLast hne).symm⟩
    have hlast := last.toNat_lt
    have hdiv : (256 * number init + last.toNat) / 256 = number init := by omega
    have hbyte : UInt8.ofNat (256 * number init + last.toNat) = last := by
      rw [← UInt8.toNat_inj, UInt8.toNat_ofNat']
      omega
    rw [List.length_append, List.length_singleton] at h
    rw [bigEndian, number_append_singleton, hdiv, hbyte, ih (Nat.succ.inj h)]

/-- Thirty-two bytes. -/
structure Word where
  bytes : List UInt8
  length_bytes : bytes.length = 32
  deriving DecidableEq

namespace Word

/-- The word of these bytes, if they are thirty-two. -/
def ofBytes? (bs : List UInt8) : Option Word :=
  if h : bs.length = 32 then some ⟨bs, h⟩ else none

/-- The word at the front of the data, which may be longer. -/
def first? (data : List UInt8) : Option Word := ofBytes? (data.take 32)

/-- The number in the word. -/
def toNat (w : Word) : Nat := number w.bytes

/-- The word with this number in it. -/
def ofNat (n : Nat) : Word := ⟨bigEndian 32 n, length_bigEndian 32 n⟩

/-- The address in the word. -/
def toAddress (w : Word) : Address := ⟨w.bytes.drop 12, by rw [List.length_drop, w.length_bytes]⟩

/-- The word with this address in it. -/
def ofAddress (a : Address) : Word :=
  ⟨List.replicate 12 0 ++ a.bytes, by
    rw [List.length_append, List.length_replicate, a.length_bytes]⟩

/-- The lowest byte of the word. -/
def lowByte (w : Word) : UInt8 := UInt8.ofNat w.toNat

theorem toNat_ofNat {n : Nat} (h : n < Nat.pow 256 32) : (ofNat n).toNat = n := by
  rw [toNat, ofNat, number_bigEndian]
  exact Nat.mod_eq_of_lt h

theorem ofNat_toNat (w : Word) : ofNat w.toNat = w := by
  obtain ⟨bs, h⟩ := w
  simp only [ofNat, toNat, Word.mk.injEq]
  exact bigEndian_number h

theorem toAddress_ofAddress (a : Address) : (ofAddress a).toAddress = a := by
  obtain ⟨bs, h⟩ := a
  simp only [toAddress, ofAddress, Address.mk.injEq]
  exact List.drop_left' List.length_replicate

theorem first?_bytes (w : Word) : first? w.bytes = some w := by
  have h : w.bytes.take 32 = w.bytes := List.take_of_length_le (Nat.le_of_eq w.length_bytes)
  rw [first?, h]
  exact dif_pos w.length_bytes

end Word

end ShuffleWatch.Contract
