/-!
# Blank characters

The characters that may surround a value in a line of text, and the removal of
those at both ends. They are the 25 characters with the Unicode property
`White_Space`; the other invisible characters, like the zero-width space or the
byte order mark, are not among them.
-/

namespace ShuffleWatch.Text

/-- `c` has the Unicode property `White_Space`. -/
def isBlank (c : Char) : Bool :=
  let n := c.toNat
  (0x09 ≤ n && n ≤ 0x0D) || n == 0x20 || n == 0x85 || n == 0xA0 || n == 0x1680 ||
    (0x2000 ≤ n && n ≤ 0x200A) || n == 0x2028 || n == 0x2029 || n == 0x202F || n == 0x205F ||
    n == 0x3000

/-- The text without the blanks at its end. -/
def trimRight (cs : List Char) : List Char := (cs.reverse.dropWhile isBlank).reverse

/-- The text without the blanks at its two ends. -/
def trim (cs : List Char) : List Char := trimRight (cs.dropWhile isBlank)

theorem not_isBlank_of_isDigit {c : Char} (h : c.isDigit) : isBlank c = false := by
  simp only [Char.isDigit, Bool.and_eq_true, decide_eq_true_eq, ge_iff_le] at h
  have h₀ : 48 ≤ c.toNat := h.1
  have h₁ : c.toNat ≤ 57 := h.2
  simp [isBlank]
  omega

/-- Blanks before a text make no difference, when it is trimmed. -/
theorem trim_append_left {bs : List Char} (hbs : ∀ c ∈ bs, isBlank c = true) (cs : List Char) :
    trim (bs ++ cs) = trim cs := by
  rw [trim, List.dropWhile_append_of_pos hbs, trim]

theorem trimRight_append {cs bs : List Char} (hbs : ∀ c ∈ bs, isBlank c = true) :
    trimRight (cs ++ bs) = trimRight cs := by
  rw [trimRight, List.reverse_append, List.dropWhile_append_of_pos, trimRight]
  exact fun c hc => hbs c (List.mem_reverse.1 hc)

/-- Blanks behind a text make no difference, when it is trimmed. -/
theorem trim_append {cs bs : List Char} (hbs : ∀ c ∈ bs, isBlank c = true) :
    trim (cs ++ bs) = trim cs := by
  rw [trim, trim, List.dropWhile_append]
  split
  · rename_i hempty
    have hbs' : (bs ++ []).dropWhile isBlank = [] := List.dropWhile_append_of_pos hbs
    rw [List.append_nil] at hbs'
    rw [hbs', List.isEmpty_iff.1 hempty]
  · exact trimRight_append hbs

/-- A text with no blank at either end is kept as it is. -/
theorem trim_of_ends {a : Char} {cs : List Char} (ha : isBlank a = false)
    (hz : ∀ z ∈ (a :: cs).getLast?, isBlank z = false) : trim (a :: cs) = a :: cs := by
  have hl : (a :: cs).dropWhile isBlank = a :: cs := by simp [List.dropWhile, ha]
  rw [trim, hl, trimRight]
  obtain ⟨init, z, hcs⟩ := List.eq_nil_or_concat (a :: cs) |>.resolve_left (by simp)
  have hz' := hz z (by simp [hcs])
  simp [hcs, hz']

/-- A text without blanks is kept as it is. -/
theorem trim_of_forall {cs : List Char} (h : ∀ c ∈ cs, isBlank c = false) : trim cs = cs := by
  cases cs with
  | nil => rfl
  | cons a cs =>
    exact trim_of_ends (h a List.mem_cons_self) fun z hz => h z (List.mem_of_getLast? hz)

end ShuffleWatch.Text
