/-!
# Hexadecimal text

Bytes written as pairs of hexadecimal digits, the high half first, and numbers
written in base sixteen or less. Digits are read in either case and written in lower
case.

* `bytes?_ofBytes`: written bytes are read back.
-/

namespace ShuffleWatch.Text.Hex

/-- The value of a hexadecimal digit, in either case. -/
def digit? (c : Char) : Option Nat :=
  if '0' ≤ c ∧ c ≤ '9' then some (c.toNat - '0'.toNat)
  else if 'a' ≤ c ∧ c ≤ 'f' then some (c.toNat - 'a'.toNat + 10)
  else if 'A' ≤ c ∧ c ≤ 'F' then some (c.toNat - 'A'.toNat + 10)
  else none

/-- `c` is a hexadecimal digit. -/
def isDigit (c : Char) : Bool := (digit? c).isSome

/-- The lowercase digit of value `n`, for `n` below sixteen. -/
def digit (n : Nat) : Char := Nat.digitChar n

/-- The bytes that pairs of digits spell, high half first. -/
def bytes? : List Char → Option (List UInt8)
  | [] => some []
  | [_] => none
  | hi :: lo :: rest => do
    let h ← digit? hi
    let l ← digit? lo
    let bs ← bytes? rest
    return UInt8.ofNat (16 * h + l) :: bs

/-- The pairs of lowercase digits that spell the bytes. -/
def ofBytes (bs : List UInt8) : List Char :=
  bs.flatMap fun b => [digit (b.toNat / 16), digit (b.toNat % 16)]

/-- The number that the digits write in base sixteen; no digit at all writes zero. -/
def number? (cs : List Char) : Option Nat :=
  cs.foldlM (fun n c => (digit? c).map (16 * n + ·)) 0

/-- The number that the digits write in a base of at most sixteen. -/
def inBase? (base : Nat) (cs : List Char) : Option Nat :=
  cs.foldlM (fun n c => ((digit? c).filter (· < base)).map (base * n + ·)) 0

/-- The digits of `n` in base sixteen, without leading zeros. -/
def ofNat (n : Nat) : List Char := Nat.toDigits 16 n

theorem digit?_digit {n : Nat} (h : n < 16) : digit? (digit n) = some n := by
  have : ∀ m : Fin 16, digit? (digit m) = some m.val := by decide
  exact this ⟨n, h⟩

/-- Only digits spell bytes. -/
theorem exists_digit_of_mem_ofBytes {c : Char} {bs : List UInt8} (h : c ∈ ofBytes bs) :
    ∃ n < 16, c = digit n := by
  obtain ⟨b, _, hc⟩ := List.mem_flatMap.1 h
  have hb : b.toNat < 256 := b.toNat_lt
  rcases List.mem_cons.1 hc with rfl | hc
  · exact ⟨b.toNat / 16, by omega, rfl⟩
  · obtain rfl := List.mem_singleton.1 hc
    exact ⟨b.toNat % 16, by omega, rfl⟩

/-- A digit is one of the characters `0` to `9`, `a` to `f` and `A` to `F`. -/
theorem toNat_of_isDigit {c : Char} (h : isDigit c = true) :
    0x30 ≤ c.toNat ∧ c.toNat ≤ 0x39 ∨ 0x61 ≤ c.toNat ∧ c.toNat ≤ 0x66 ∨
      0x41 ≤ c.toNat ∧ c.toNat ≤ 0x46 := by
  rw [isDigit, digit?] at h
  -- The ranges of the digits, the lower case letters and the upper case letters.
  split at h
  · rename_i hc
    exact .inl hc
  · split at h
    · rename_i hc
      exact .inr (.inl hc)
    · split at h
      · rename_i hc
        exact .inr (.inr hc)
      · cases h

theorem not_isWhitespace_of_isDigit {c : Char} (h : isDigit c = true) :
    c.isWhitespace = false := by
  refine Bool.eq_false_iff.2 fun hspace => ?_
  simp only [Char.isWhitespace, Bool.or_eq_true, decide_eq_true_eq] at hspace
  rcases hspace with ((rfl | rfl) | rfl) | rfl <;> cases h

theorem utf8Size_of_isDigit {c : Char} (h : isDigit c = true) : c.utf8Size = 1 := by
  have hc : c.toNat ≤ 127 := by
    have := toNat_of_isDigit h
    omega
  exact Char.utf8Size_eq_one_iff.2 hc

/-- Only digits are read as bytes. -/
theorem isDigit_of_bytes? {cs : List Char} {bs : List UInt8} (h : bytes? cs = some bs) :
    ∀ c ∈ cs, isDigit c = true := by
  fun_induction bytes? cs generalizing bs with
  | case1 => exact nofun
  | case2 => cases h
  | case3 hi lo rest ih =>
    simp only [Option.bind_eq_bind, Option.bind_eq_some_iff] at h
    obtain ⟨_, hhi, _, hlo, _, hrest, -⟩ := h
    exact List.forall_mem_cons.2 ⟨Option.isSome_of_mem hhi,
      List.forall_mem_cons.2 ⟨Option.isSome_of_mem hlo, ih hrest⟩⟩

theorem bytes?_ofBytes (bs : List UInt8) : bytes? (ofBytes bs) = some bs := by
  induction bs with
  | nil => rfl
  | cons b bs ih =>
    have hb : b.toNat < 256 := b.toNat_lt
    have hi : digit? (digit (b.toNat / 16)) = some (b.toNat / 16) := digit?_digit (by omega)
    have lo : digit? (digit (b.toNat % 16)) = some (b.toNat % 16) := digit?_digit (by omega)
    have hb' : UInt8.ofNat (16 * (b.toNat / 16) + b.toNat % 16) = b := by
      rw [Nat.div_add_mod, UInt8.ofNat_toNat]
    change bytes? (digit (b.toNat / 16) :: digit (b.toNat % 16) :: ofBytes bs) = _
    simp only [bytes?, hi, lo, ih, Option.bind_eq_bind, Option.bind_some, Option.pure_def, hb']

theorem length_ofBytes (bs : List UInt8) : (ofBytes bs).length = 2 * bs.length := by
  induction bs with
  | nil => rfl
  | cons b bs ih =>
    have ih' : (bs.flatMap fun b => [digit (b.toNat / 16), digit (b.toNat % 16)]).length =
        2 * bs.length := ih
    simp [ofBytes, ih']
    omega

/-- Bytes spelled by `n` pairs of digits are `n`. -/
theorem length_of_bytes? {cs : List Char} {bs : List UInt8} (h : bytes? cs = some bs) :
    cs.length = 2 * bs.length := by
  fun_induction bytes? cs generalizing bs with
  | case1 => simp_all
  | case2 => simp at h
  | case3 hi lo rest ih =>
    simp only [Option.bind_eq_bind, Option.bind_eq_some_iff, Option.pure_def,
      Option.some.injEq] at h
    obtain ⟨_, _, _, _, bs', hbs', rfl⟩ := h
    have := ih hbs'
    simp [this]
    omega

end ShuffleWatch.Text.Hex
