import Mathlib.Data.List.Basic
import Mathlib.Data.List.Induction
import Mathlib.Data.List.TakeWhile
import ShuffleWatch.Text.Blank
import ShuffleWatch.Text.Decimal
import ShuffleWatch.Text.Hex

/-!
# Spelling

What the digits of a text spell, said apart from the readers: decimal digits spell a
number (`Decimal.Spells`), pairs of hexadecimal digits spell bytes (`Hex.Spells`), and a
body may stand between blanks (`Pads`). The readers find what is spelled, and nothing
else (`Decimal.natural?_eq_some_iff`, `Hex.bytes?_eq_some_iff`, `pads_iff`). Bytes have
one spelling in lower case, so two spellings are of the same bytes when they agree up to
the case of their digits (`Hex.Spells.eq_iff`).
-/

namespace ShuffleWatch.Text

/-! ## Blanks -/

/-- The text is this body, perhaps between blanks. -/
def Pads (body cs : List Char) : Prop :=
  ∃ left right, (∀ c ∈ left, isBlank c = true) ∧ (∀ c ∈ right, isBlank c = true) ∧
    cs = left ++ body ++ right

variable {cs body : List Char}

theorem pads_trim (cs : List Char) : Pads (trim cs) cs := by
  let rest := cs.dropWhile isBlank
  have hrest : rest = trim cs ++ (rest.reverse.takeWhile isBlank).reverse := by
    rw [trim, trimRight, ← List.reverse_append, List.takeWhile_append_dropWhile,
      List.reverse_reverse]
  refine ⟨cs.takeWhile isBlank, (rest.reverse.takeWhile isBlank).reverse,
    fun _ => List.mem_takeWhile_imp, fun c hc => ?_, ?_⟩
  · exact List.mem_takeWhile_imp (List.mem_reverse.1 hc)
  · rw [List.append_assoc, ← hrest, List.takeWhile_append_dropWhile]

/-- A body without blanks is what is left of a text that is trimmed. -/
theorem pads_iff (hbody : ∀ c ∈ body, isBlank c = false) : Pads body cs ↔ trim cs = body := by
  constructor
  · rintro ⟨left, right, hleft, hright, rfl⟩
    rw [List.append_assoc, trim_append_left hleft, trim_append hright, trim_of_forall hbody]
  · rintro rfl
    exact pads_trim cs

/-! ## Decimal digits -/

namespace Decimal

/-- The digits, by their values. -/
def numerals : List Char := ['0', '1', '2', '3', '4', '5', '6', '7', '8', '9']

/-- The character is the digit of this value. -/
def HasValue (c : Char) (d : Nat) : Prop := numerals[d]? = some c

instance (c : Char) (d : Nat) : Decidable (HasValue c d) := inferInstanceAs (Decidable (_ = _))

/-- The digits, of which there is one at least, spell the number. -/
inductive Spells : List Char → Nat → Prop
  | digit {c : Char} {d : Nat} (hc : HasValue c d) : Spells [c] d
  | snoc {ds : List Char} {c : Char} {n d : Nat} (hds : Spells ds n) (hc : HasValue c d) :
    Spells (ds ++ [c]) (10 * n + d)

variable {c : Char} {d n : Nat} {ds : List Char}

theorem HasValue.isDigit (h : HasValue c d) : c.isDigit = true ∧ c.toNat - '0'.toNat = d := by
  obtain ⟨hd, rfl⟩ := List.getElem?_eq_some_iff.1 h
  have hall : ∀ i : Fin 10,
      (numerals.get i).isDigit = true ∧ (numerals.get i).toNat - '0'.toNat = i := by decide
  exact hall ⟨d, hd⟩

theorem hasValue_of_isDigit (h : c.isDigit = true) : HasValue c (c.toNat - '0'.toNat) := by
  simp only [Char.isDigit, Bool.and_eq_true, decide_eq_true_eq, ge_iff_le] at h
  have hlow : 48 ≤ c.toNat := h.1
  have hhigh : c.toNat ≤ 57 := h.2
  have hall : ∀ i : Fin 10, HasValue (Char.ofNat (48 + i)) i := by decide
  have hc := hall ⟨c.toNat - 48, by omega⟩
  rwa [Nat.add_sub_cancel' hlow, Char.ofNat_toNat] at hc

theorem Spells.ne_nil (h : Spells ds n) : ds ≠ [] := by
  cases h <;> simp

theorem Spells.isDigit (h : Spells ds n) : ∀ c ∈ ds, c.isDigit = true := by
  induction h with
  | digit hc => exact List.forall_mem_singleton.2 hc.isDigit.1
  | snoc _ hc ih =>
    exact List.forall_mem_append.2 ⟨ih, List.forall_mem_singleton.2 hc.isDigit.1⟩

theorem Spells.ofDigitChars (h : Spells ds n) : Nat.ofDigitChars 10 ds 0 = n := by
  induction h with
  | digit hc => rw [Nat.ofDigitChars_cons, Nat.ofDigitChars_nil, hc.isDigit.2]; omega
  | snoc _ hc ih =>
    rw [Nat.ofDigitChars_append, ih, Nat.ofDigitChars_cons, Nat.ofDigitChars_nil, hc.isDigit.2]

theorem spells_ofDigitChars (hne : ds ≠ []) (h : ∀ c ∈ ds, c.isDigit = true) :
    Spells ds (Nat.ofDigitChars 10 ds 0) := by
  induction ds using List.reverseRecOn with
  | nil => exact absurd rfl hne
  | append_singleton ds c ih =>
    obtain ⟨hds, hc⟩ := List.forall_mem_append.1 h
    have hvalue := hasValue_of_isDigit (hc c List.mem_cons_self)
    rw [Nat.ofDigitChars_append, Nat.ofDigitChars_cons, Nat.ofDigitChars_nil]
    rcases eq_or_ne ds [] with rfl | hne'
    · rw [Nat.ofDigitChars_nil, Nat.mul_zero, Nat.zero_add]
      exact .digit hvalue
    · exact .snoc (ih hne' hds) hvalue

/-- A number is read when digits spell it. -/
theorem natural?_eq_some_iff : natural? ds = some n ↔ Spells ds n := by
  rw [natural?, Option.ite_none_right_eq_some, Option.some_inj, List.all_eq_true]
  constructor
  · rintro ⟨⟨hne, hdigits⟩, rfl⟩
    exact spells_ofDigitChars hne hdigits
  · exact fun h => ⟨⟨h.ne_nil, h.isDigit⟩, h.ofDigitChars⟩

/-- A number of 64 bits is read when digits spell it. -/
theorem word?_eq_some_iff {w : UInt64} : word? ds = some w ↔ Spells ds w.toNat := by
  rw [word?, naturalBelow?, Option.map_eq_some_iff]
  constructor
  · rintro ⟨n, hn, rfl⟩
    rw [Option.filter_eq_some_iff, natural?_eq_some_iff, decide_eq_true_eq] at hn
    rw [UInt64.toNat_ofNat_of_lt' hn.2]
    exact hn.1
  · intro h
    refine ⟨w.toNat, ?_, UInt64.ofNat_toNat⟩
    rw [natural?_eq_some_iff.2 h]
    exact Option.filter_some_pos (decide_eq_true w.toNat_lt_size)

end Decimal

/-! ## Hexadecimal digits -/

namespace Hex

/-- The digits in lower case, by their values. -/
def lower : List Char :=
  ['0', '1', '2', '3', '4', '5', '6', '7', '8', '9', 'a', 'b', 'c', 'd', 'e', 'f']

/-- The digits in upper case, by their values. -/
def upper : List Char :=
  ['0', '1', '2', '3', '4', '5', '6', '7', '8', '9', 'A', 'B', 'C', 'D', 'E', 'F']

/-- The character is the digit of this value, in either case. -/
def HasValue (c : Char) (d : Nat) : Prop := lower[d]? = some c ∨ upper[d]? = some c

instance (c : Char) (d : Nat) : Decidable (HasValue c d) := inferInstanceAs (Decidable (_ ∨ _))

/-- The pairs of digits spell the bytes in order, the high half of each first. -/
inductive Spells : List Char → List UInt8 → Prop
  | nil : Spells [] []
  | cons {hi lo : Char} {h l : Nat} {b : UInt8} {cs : List Char} {bs : List UInt8}
    (hhi : HasValue hi h) (hlo : HasValue lo l) (hb : b.toNat = 16 * h + l)
    (hcs : Spells cs bs) : Spells (hi :: lo :: cs) (b :: bs)

variable {c : Char} {d : Nat} {cs ds : List Char} {bs es : List UInt8}

theorem HasValue.lt (h : HasValue c d) : d < 16 := by
  rcases h with h | h <;> exact (List.getElem?_eq_some_iff.1 h).1

/-- What holds of each digit in lower case and of each in upper case holds of a digit. -/
theorem HasValue.induction {P : Char → Nat → Prop} (h : HasValue c d)
    (hlower : ∀ i : Fin 16, P (lower.get i) i) (hupper : ∀ i : Fin 16, P (upper.get i) i) :
    P c d := by
  rcases h with h | h
  · obtain ⟨hd, rfl⟩ := List.getElem?_eq_some_iff.1 h
    exact hlower ⟨d, hd⟩
  · obtain ⟨hd, rfl⟩ := List.getElem?_eq_some_iff.1 h
    exact hupper ⟨d, hd⟩

theorem HasValue.digit?_eq (h : HasValue c d) : digit? c = some d :=
  h.induction (P := fun c d => digit? c = some d) (by decide) (by decide)

theorem HasValue.isBlank_eq (h : HasValue c d) : isBlank c = false :=
  h.induction (P := fun c _ => isBlank c = false) (by decide) (by decide)

theorem HasValue.toLower_eq (h : HasValue c d) : c.toLower = digit d :=
  h.induction (P := fun c d => c.toLower = digit d) (by decide) (by decide)

theorem digit?_eq_some_iff : digit? c = some d ↔ HasValue c d := by
  refine ⟨fun h => ?_, HasValue.digit?_eq⟩
  have hc : c.toNat < 128 := by
    have := toNat_of_isDigit (Option.isSome_of_mem h)
    omega
  have hall : ∀ i : Fin 128, ∀ d ∈ digit? (Char.ofNat i), HasValue (Char.ofNat i) d := by decide
  have hvalue := hall ⟨c.toNat, hc⟩ d
  rw [Char.ofNat_toNat] at hvalue
  exact hvalue h

/-- Bytes are read when pairs of digits spell them. -/
theorem bytes?_eq_some_iff : bytes? cs = some bs ↔ Spells cs bs := by
  constructor
  · intro h
    fun_induction bytes? cs generalizing bs with
    | case1 =>
      cases h
      exact .nil
    | case2 => cases h
    -- Two digits are below 256 together, so that the byte does not wrap around.
    | case3 hi lo rest ih =>
      simp only [Option.bind_eq_bind, Option.bind_eq_some_iff, Option.pure_def,
        Option.some.injEq] at h
      obtain ⟨h, hhi, l, hlo, bs, hrest, rfl⟩ := h
      rw [digit?_eq_some_iff] at hhi hlo
      refine .cons hhi hlo (UInt8.toNat_ofNat_of_lt' ?_) (ih hrest)
      have := hhi.lt
      have := hlo.lt
      rw [UInt8.size]
      omega
  · intro h
    induction h with
    | nil => rfl
    | cons hhi hlo hb _ ih =>
      rw [bytes?, hhi.digit?_eq, hlo.digit?_eq, ih]
      simp only [Option.bind_eq_bind, Option.bind_some, Option.pure_def]
      rw [← hb, UInt8.ofNat_toNat]

theorem spells_ofBytes (bs : List UInt8) : Spells (ofBytes bs) bs :=
  bytes?_eq_some_iff.1 (bytes?_ofBytes bs)

theorem exists_hasValue_iff : (∃ d, HasValue c d) ↔ c ∈ lower ++ upper := by
  rw [List.mem_append, List.mem_iff_getElem?, List.mem_iff_getElem?, ← exists_or]
  rfl

/-- Digits spell bytes when their number is even. -/
theorem exists_spells (h : ∀ c ∈ cs, c ∈ lower ++ upper) {k : Nat} (hk : cs.length = 2 * k) :
    ∃ bs, Spells cs bs ∧ bs.length = k := by
  induction k generalizing cs with
  | zero =>
    rw [List.eq_nil_of_length_eq_zero hk]
    exact ⟨[], .nil, rfl⟩
  | succ k ih =>
    -- The digits are taken in pairs, with none left over as their number is even.
    match cs, hk with
    | hi :: lo :: cs, hk =>
      simp only [List.forall_mem_cons, ← exists_hasValue_iff] at h
      obtain ⟨⟨h, hhi⟩, ⟨l, hlo⟩, hcs⟩ := h
      simp only [List.length_cons] at hk
      obtain ⟨bs, hbs, hlength⟩ := ih (fun c hc => exists_hasValue_iff.1 (hcs c hc)) (by omega)
      have := hhi.lt
      have := hlo.lt
      have hb : (UInt8.ofNat (16 * h + l)).toNat = 16 * h + l :=
        UInt8.toNat_ofNat_of_lt' (by rw [UInt8.size]; omega)
      exact ⟨_ :: bs, .cons hhi hlo hb hbs, congrArg Nat.succ hlength⟩

theorem Spells.mem (h : Spells cs bs) : ∀ c ∈ cs, c ∈ lower ++ upper := by
  induction h with
  | nil => exact nofun
  | cons hhi hlo _ _ ih =>
    exact List.forall_mem_cons.2 ⟨exists_hasValue_iff.1 ⟨_, hhi⟩,
      List.forall_mem_cons.2 ⟨exists_hasValue_iff.1 ⟨_, hlo⟩, ih⟩⟩

/-- In lower case, bytes are spelled in one way. -/
theorem Spells.map_toLower (h : Spells cs bs) : cs.map Char.toLower = ofBytes bs := by
  induction h with
  | nil => rfl
  | @cons hi lo h l b cs bs hhi hlo hb _ ih =>
    have hl := hlo.lt
    have hhigh : b.toNat / 16 = h := by omega
    have hlow : b.toNat % 16 = l := by omega
    rw [List.map_cons, List.map_cons, hhi.toLower_eq, hlo.toLower_eq, ih, ofBytes, ofBytes,
      List.flatMap_cons, hhigh, hlow]
    rfl

/-- Two spellings are of the same bytes when they agree up to the case of their digits. -/
theorem Spells.eq_iff (hcs : Spells cs bs) (hds : Spells ds es) :
    bs = es ↔ cs.map Char.toLower = ds.map Char.toLower := by
  rw [hcs.map_toLower, hds.map_toLower]
  refine ⟨congrArg ofBytes, fun h => Option.some.inj ?_⟩
  rw [← bytes?_ofBytes bs, h, bytes?_ofBytes]

end Hex

end ShuffleWatch.Text
