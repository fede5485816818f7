import ShuffleWatch.Json.Writer
import ShuffleWatch.Proofs.Json.Extent
import ShuffleWatch.Text.Decimal

/-!
# What is written in JSON is read back

A value is written as a text without control characters, and the reader takes up just
that text and finds the value again, as long as no number goes on behind it (`Encodes`).
By induction on the value, following the writer, so it is for every value
(`encodes_write`), broken strings included. A whole text is therefore read back
(`read?_write`), and it is a line that needs no trimming (`trim_write`).
-/

namespace ShuffleWatch.Json

open Text

variable {body body' rest after : List Char} {c : Char} {n : Nat} {ns : List Nat}

/-! ## Strings -/

theorem escaped?_of_escapeLetter? {e : Char} (h : escapeLetter? c = some e) :
    escaped? e = some c ∧ e ≠ 'u' ∧ 0x20 ≤ e.toNat := by
  rw [escapeLetter?.eq_def] at h
  split at h
  case h_8 => cases h
  all_goals
    cases h
    exact ⟨rfl, by decide, by decide⟩

/-- A control character is written as its number. -/
theorem number?_control (h : n < 0x20) :
    Hex.number? ['0', '0', Hex.digit (n / 16), Hex.digit (n % 16)] = some n := by
  have : ∀ m : Fin 0x20,
      Hex.number? ['0', '0', Hex.digit (m.val / 16), Hex.digit (m.val % 16)] = some m.val := by
    decide
  exact this ⟨n, h⟩

/-- What a character is written as stands for its code point. -/
theorem codePoints?_escape (c : Char) (h : codePoints? rest = some (ns, after)) :
    codePoints? (escape c ++ rest) = some (c.toNat :: ns, after) := by
  rw [escape]
  cases hletter : escapeLetter? c with
  | some e =>
    obtain ⟨hescaped, hu, -⟩ := escaped?_of_escapeLetter? hletter
    have hunicode := codePoints?.eq_4 e rest fun _ _ _ _ _ he => absurd he hu
    simp [hunicode, hescaped, h]
  | none =>
    -- There is no letter for `c`. It is written by its number if
    -- it is a control character, and as it is otherwise.
    by_cases hcontrol : c.toNat < 0x20
    · simp [codePoints?, number?_control hcontrol, hcontrol, h]
    · have hquote : c ≠ '"' := fun hc => by
        rw [hc] at hletter
        cases hletter
      have hbackslash : c ≠ '\\' := fun hc => by
        rw [hc] at hletter
        cases hletter
      have hplain := codePoints?.eq_5 c rest hquote
        (fun _ _ _ _ _ hc => absurd hc hbackslash) fun _ _ hc => absurd hc hbackslash
      simp [hplain, hcontrol, hbackslash, h]

theorem codePoints?_flatMap_escape (cs : List Char) (rest : List Char) :
    codePoints? (cs.flatMap escape ++ '"' :: rest) = some (cs.map Char.toNat, rest) := by
  induction cs with
  | nil => exact codePoints?.eq_2 rest
  | cons c cs ih =>
    rw [List.flatMap_cons, List.append_assoc]
    exact codePoints?_escape c ih

/-- No character is half of a surrogate pair. -/
theorem not_isSurrogate (c : Char) :
    isHighSurrogate c.toNat = false ∧ isLowSurrogate c.toNat = false := by
  have hvalid : c.toNat < 0xD800 ∨ 0xDFFF < c.toNat ∧ c.toNat < 0x110000 := c.valid
  simp only [isHighSurrogate, isLowSurrogate, Bool.and_eq_false_iff, decide_eq_false_iff_not]
  omega

theorem joinSurrogates?_map_toNat (cs : List Char) :
    joinSurrogates? (cs.map Char.toNat) = some cs := by
  induction cs with
  | nil => rfl
  | cons c cs ih =>
    obtain ⟨hhigh, hlow⟩ := not_isSurrogate c
    cases cs with
    | nil => simp [joinSurrogates?, hhigh, hlow]
    | cons d cs =>
      rw [List.map_cons] at ih
      simp [joinSurrogates?, hhigh, hlow, ih]

theorem isPlain_escape (c : Char) : ∀ d ∈ escape c, 0x20 ≤ d.toNat := by
  have hdigit : ∀ m : Fin 16, 0x20 ≤ (Hex.digit m).toNat := by decide
  rw [escape]
  cases hletter : escapeLetter? c with
  | some e => simp [(escaped?_of_escapeLetter? hletter).2.2]
  | none =>
    by_cases hcontrol : c.toNat < 0x20
    · have hhigh := hdigit ⟨c.toNat / 16, by omega⟩
      have hlow := hdigit ⟨c.toNat % 16, by omega⟩
      simp [hcontrol, hhigh, hlow]
    · simpa [hcontrol] using Nat.not_lt.1 hcontrol

/-- A string in quotes is read back, and is written without control characters. -/
theorem exists_quote_eq (key : Option String) :
    ∃ body, quote key = '"' :: body ∧ (∀ c ∈ body, 0x20 ≤ c.toNat) ∧
      ∀ rest, stringBody? (body ++ rest) = some (key, rest) := by
  cases key with
  | none => exact ⟨_, rfl, by simp, fun _ => rfl⟩
  | some s =>
    refine ⟨s.toList.flatMap escape ++ ['"'], rfl, fun c hc => ?_, fun rest => ?_⟩
    · rcases List.mem_append.1 hc with hc | hc
      · obtain ⟨d, -, hc⟩ := List.mem_flatMap.1 hc
        exact isPlain_escape d c hc
      · rw [List.mem_singleton.1 hc]
        decide
    · rw [List.append_assoc, stringBody?, List.singleton_append, codePoints?_flatMap_escape,
        Option.map_some, joinSurrogates?_map_toNat, Option.map_some, String.ofList_toList]

/-! ## Numbers -/

/-- No number goes on with this text. -/
def EndsNumber (after : List Char) : Prop :=
  (∀ c ∈ after.head?, c.isDigit = false) ∧ continuesNumber after = false

theorem endsNumber_nil : EndsNumber [] := ⟨nofun, rfl⟩

theorem endsNumber_cons (hdigit : c.isDigit = false) (hcontinues : continuesNumber [c] = false)
    (after : List Char) : EndsNumber (c :: after) :=
  ⟨fun _ hd => Option.some.inj hd ▸ hdigit, hcontinues⟩

/-- A number is written with a digit in front, which is a zero only for zero. -/
theorem exists_digits_eq_cons (n : Nat) :
    ∃ d ds, Decimal.digits n = d :: ds ∧ d.isDigit = true ∧ (d = '0' → n = 0) := by
  induction n using Nat.strongRecOn with
  | ind n ih =>
    rw [Decimal.digits, Nat.toDigits_eq_if (by decide)]
    split
    · rename_i hlt
      exact ⟨n.digitChar, [], rfl, by simpa [Nat.isDigit_digitChar] using hlt, by simp⟩
    · obtain ⟨d, ds, hds, hdigit, hzero⟩ := ih (n / 10) (by omega)
      rw [Decimal.digits] at hds
      refine ⟨d, _, by rw [hds, List.cons_append], hdigit, fun hd => ?_⟩
      have := hzero hd
      omega

theorem integerPart?_digits (n : Nat) (h : EndsNumber after) :
    integerPart? (Decimal.digits n ++ after) = some (Decimal.digits n, after) := by
  by_cases hn : n = 0
  · subst hn
    rfl
  · obtain ⟨d, ds, hds, -, hzero⟩ := exists_digits_eq_cons n
    have hne : ∀ rest, Decimal.digits n ++ after = '0' :: rest → False := fun rest heq => by
      rw [hds, List.cons_append] at heq
      exact hn (hzero (List.cons.inj heq).1)
    rw [integerPart?.eq_2 _ hne]
    exact digits?_append (Decimal.digits_ne_nil n) (fun _ => Decimal.isDigit_of_mem_digits) h.1

theorem unsigned?_digits (n : Nat) (h : EndsNumber after) :
    unsigned? (Decimal.digits n ++ after) = some (natural n, after) := by
  rw [unsigned?_eq (integerPart?_digits n h), h.2, Decimal.digits, Nat.ofDigitChars_ten_toDigits]
  rfl

theorem number?_digits (n : Nat) (h : EndsNumber after) :
    number? (Decimal.digits n ++ after) = some (natural n, after) := by
  obtain ⟨d, ds, hds, hdigit, -⟩ := exists_digits_eq_cons n
  have hminus : ∀ rest, Decimal.digits n ++ after = '-' :: rest → False := fun rest heq => by
    rw [hds, List.cons_append] at heq
    rw [(List.cons.inj heq).1] at hdigit
    cases hdigit
  rw [number?.eq_2 _ hminus, unsigned?_digits n h]

/-- The number that stands for all others is read as one of them. -/
theorem number?_minus_one (h : EndsNumber after) :
    number? (['-', '1'] ++ after) = some (otherNumber, after) := by
  have hone : unsigned? ('1' :: after) = some (natural 1, after) := unsigned?_digits 1 h
  change (unsigned? ('1' :: after)).map _ = _
  rw [hone]
  rfl

/-! ## Values -/

section Encodes

variable {α β γ : Type} {a : α} {b : β} {d : γ}
  {read : Reading α} {read' : Reading β} {read'' : Reading γ}

/-- The text has no control characters in it, and the reader takes up all of it and finds
    `a`, if there is more fuel than there are characters and no number goes on behind it. -/
structure Encodes (read : Reading α) (body : List Char) (a : α) : Prop where
  isPlain : ∀ c ∈ body, 0x20 ≤ c.toNat
  reads : ∀ n after, body.length < n → EndsNumber after → read n (body ++ after) = some (a, after)

/-- A text that is read with a unit of fuel. -/
theorem Encodes.of_forall (hplain : ∀ c ∈ body, 0x20 ≤ c.toNat)
    (h : ∀ n after, EndsNumber after → read (n + 1) (body ++ after) = some (a, after)) :
    Encodes read body a :=
  ⟨hplain, fun | m + 1, after, _, hafter => h m after hafter⟩

/-- A character in front of what two readers read one after the other. -/
theorem Encodes.cons_trans (h : Encodes read body a) (h' : Encodes read' body' b)
    (hc : 0x20 ≤ c.toNat) (hends : ∀ after, EndsNumber (body' ++ after))
    (hread : ∀ {n cs next after}, read n cs = some (a, next) → read' n next = some (b, after) →
      read'' (n + 1) (c :: cs) = some (d, after)) :
    Encodes read'' (c :: body ++ body') d where
  isPlain := by
    simpa [hc, or_imp, forall_and] using ⟨h.isPlain, h'.isPlain⟩
  reads
    -- The whole has one character more than its parts, which pays for the fuel of reading it.
    | m + 1, after, hm, hafter => by
      simp only [List.length_cons, List.length_append] at hm
      have hfirst := h.reads m (body' ++ after) (by omega) (hends after)
      have hsecond := h'.reads m after (by omega) hafter
      rw [List.append_assoc, List.cons_append]
      exact hread hfirst hsecond

/-- A key, a colon and a value. -/
theorem encodes_member {j : Json} (key : Option String) (h : Encodes value? body j) :
    Encodes member? (quote key ++ ':' :: body) (key, j) := by
  obtain ⟨text, hquote, hplain, htext⟩ := exists_quote_eq key
  rw [hquote]
  constructor
  case isPlain =>
    intro c hc
    rcases List.mem_append.1 hc with hc | hc
    · exact List.forall_mem_cons.2 ⟨by decide, hplain⟩ c hc
    · exact List.forall_mem_cons.2 ⟨by decide, h.isPlain⟩ c hc
  case reads =>
    -- The key ends with its quote, and the value is read with the fuel that remains.
    rintro (_ | m) after hm hafter
    · cases hm
    simp only [List.cons_append, List.length_cons, List.length_append] at hm
    rw [List.append_assoc, List.cons_append]
    exact member?_quote (htext _) (skipGap_cons (c := ':') rfl _)
      (h.reads m after (by omega) hafter)

end Encodes

theorem endsNumber_writeItems (js : List Json) (after : List Char) :
    EndsNumber (writeItems js ++ after) := by
  cases js <;> rw [writeItems] <;> exact endsNumber_cons rfl rfl _

theorem endsNumber_writeMembers (ms : List (Option String × Json)) (after : List Char) :
    EndsNumber (writeMembers ms ++ after) := by
  rcases ms with _ | ⟨⟨k, j⟩, ms⟩ <;> rw [writeMembers] <;> exact endsNumber_cons rfl rfl _

mutual

/-- A value is read from what it is written as. -/
theorem encodes_write : ∀ j : Json, Encodes value? j.write j
  | null => .of_forall (by simp [write]) fun _ _ _ => rfl
  | bool true => .of_forall (by simp [write]) fun _ _ _ => rfl
  | bool false => .of_forall (by simp [write]) fun _ _ _ => rfl
  -- Numbers are the values that need a character after them to end.
  | natural n => .of_forall
      (fun c hc => Nat.le_trans (by decide)
        (Char.isDigit_iff_toNat.1 (Decimal.isDigit_of_mem_digits hc)).1)
      fun _ _ hafter => value?_number (number?_digits n hafter)
  | otherNumber => .of_forall (by simp [write]) fun _ _ hafter =>
      value?_number (number?_minus_one hafter)
  | string key => by
    obtain ⟨text, hquote, hplain, htext⟩ := exists_quote_eq key
    rw [write, hquote]
    exact .of_forall (List.forall_mem_cons.2 ⟨by decide, hplain⟩) fun _ _ _ =>
      value?_quote (htext _)
  | array [] => .of_forall (by simp [write]) fun _ _ _ => rfl
  | array (j :: js) => by
    rw [write]
    exact (encodes_write j).cons_trans (encodes_writeItems js) (by decide)
      (endsNumber_writeItems js) value?_array
  | object [] => .of_forall (by simp [write]) fun _ _ _ => rfl
  | object ((k, j) :: ms) => by
    rw [write]
    exact (encodes_member k (encodes_write j)).cons_trans (encodes_writeMembers ms) (by decide)
      (endsNumber_writeMembers ms) value?_object

/-- Further items are read from what they are written as. -/
theorem encodes_writeItems : ∀ js : List Json, Encodes items? (writeItems js) js
  | [] => .of_forall (by simp [writeItems]) fun _ _ _ => rfl
  | j :: js => by
    rw [writeItems]
    exact (encodes_write j).cons_trans (encodes_writeItems js) (by decide)
      (endsNumber_writeItems js) items?_comma

/-- Further members are read from what they are written as. -/
theorem encodes_writeMembers :
    ∀ ms : List (Option String × Json), Encodes members? (writeMembers ms) ms
  | [] => .of_forall (by simp [writeMembers]) fun _ _ _ => rfl
  | (k, j) :: ms => by
    rw [writeMembers]
    exact (encodes_member k (encodes_write j)).cons_trans (encodes_writeMembers ms) (by decide)
      (endsNumber_writeMembers ms) members?_comma

end

/-! ## Whole texts -/

/-- A value is read back from what it is written as. -/
theorem read?_write (j : Json) : read? j.write = some j := by
  have hvalue := (encodes_write j).reads _ [] (Nat.lt_succ_self _) endsNumber_nil
  rw [List.append_nil] at hvalue
  rw [read?, hvalue]
  rfl

theorem parse?_render (j : Json) : parse? j.render = some j := by
  rw [parse?, render, String.toList_ofList, read?_write]

/-! ## Lines -/

/-- What is written begins neither with a blank nor with `#`. -/
theorem exists_write_eq_cons (j : Json) :
    ∃ c rest, j.write = c :: rest ∧ isBlank c = false ∧ c ≠ '#' := by
  -- The first character of a value tells its kind. None of them is a blank or a hash.
  cases j with
  | null => exact ⟨_, _, rfl, rfl, by decide⟩
  | bool b => cases b <;> exact ⟨_, _, rfl, rfl, by decide⟩
  | natural n =>
    obtain ⟨d, ds, hds, hdigit, -⟩ := exists_digits_eq_cons n
    refine ⟨d, ds, hds, not_isBlank_of_isDigit hdigit, fun hd => ?_⟩
    rw [hd] at hdigit
    cases hdigit
  | otherNumber => exact ⟨_, _, rfl, rfl, by decide⟩
  | string key =>
    obtain ⟨rest, hquote, -⟩ := exists_quote_eq key
    exact ⟨_, _, hquote, rfl, by decide⟩
  | array js => cases js <;> exact ⟨_, _, rfl, rfl, by decide⟩
  | object ms => rcases ms with _ | ⟨⟨k, j⟩, ms⟩ <;> exact ⟨_, _, rfl, rfl, by decide⟩

/-- What is written does not end in a blank. -/
theorem isSolid_write (j : Json) : IsSolid j.write := by
  have hvalue := (encodes_write j).reads _ [] (Nat.lt_succ_self _) endsNumber_nil
  obtain ⟨body, hbody, hsolid, -⟩ := (isLocal _).1 hvalue
  rw [List.append_nil, List.append_nil] at hbody
  rwa [hbody]

/-- There is nothing to be trimmed of what is written. -/
theorem trim_write (j : Json) : trim j.write = j.write := by
  obtain ⟨c, rest, hwrite, hc, -⟩ := exists_write_eq_cons j
  obtain ⟨z, hlast, hz⟩ := isSolid_write j
  rw [hwrite] at hlast ⊢
  exact trim_of_ends hc fun y hy => Option.some.inj (hlast.symm.trans hy) ▸ hz

/-- What is written contains no control characters, and so no line ends. -/
theorem not_mem_write (j : Json) (hc : c.toNat < 0x20) : c ∉ j.write := fun hmem =>
  Nat.not_lt.2 ((encodes_write j).isPlain c hmem) hc

end ShuffleWatch.Json
