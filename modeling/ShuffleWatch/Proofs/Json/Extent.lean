import Mathlib.Data.List.DropRight
import ShuffleWatch.Json.Reader
import ShuffleWatch.Text.Blank

/-!
# The extent of a JSON value

A reader takes up the front of a text, its body, and leaves the rest. It looks no
further than the first character of the rest, and a unit of fuel for each character of
the body and one more are enough (`Spans`). By induction on the fuel, all that is read
is read in this way (`isLocal`). As a body does not end in a blank, a whole text can be
trimmed before it is read (`read?_trim`).
-/

namespace ShuffleWatch.Json

open Text

variable {cs bs ds gap after body : List Char} {c : Char} {n : Nat} {j : Json}

/-! ## Gaps -/

theorem isBlank_of_isGap (h : isGap c = true) : isBlank c = true := by
  simp only [isGap, Bool.or_eq_true, beq_iff_eq] at h
  rcases h with ((rfl | rfl) | rfl) | rfl <;> decide

theorem isGap_eq_false_of_isBlank (h : isBlank c = false) : isGap c = false :=
  Bool.eq_false_iff.2 fun hgap => Bool.false_ne_true (h.symm.trans (isBlank_of_isGap hgap))

/-- A text is a gap and what comes after it. -/
theorem exists_append_skipGap (cs : List Char) :
    ∃ gap, (∀ c ∈ gap, isGap c = true) ∧ cs = gap ++ skipGap cs :=
  ⟨cs.takeWhile isGap, fun _ => List.mem_takeWhile_imp, List.takeWhile_append_dropWhile.symm⟩

theorem skipGap_append (h : ∀ c ∈ gap, isGap c = true) (cs : List Char) :
    skipGap (gap ++ cs) = skipGap cs :=
  List.dropWhile_append_of_pos h

theorem skipGap_cons (h : isGap c = false) (cs : List Char) : skipGap (c :: cs) = c :: cs :=
  List.dropWhile_cons_of_neg (ne_true_of_eq_false h)

/-! ## Ends -/

/-- The text does not end in a blank. -/
def IsSolid (cs : List Char) : Prop := ∃ c, cs.getLast? = some c ∧ isBlank c = false

/-- What comes after a value is left out, or begins as before. -/
def Resumes (after after' : List Char) : Prop := after' = [] ∨ after'.head? = after.head?

theorem isSolid_singleton (h : isBlank c = false) : IsSolid [c] := ⟨c, rfl, h⟩

theorem IsSolid.append_left (h : IsSolid body) (cs : List Char) : IsSolid (cs ++ body) := by
  obtain ⟨c, hlast, hc⟩ := h
  exact ⟨c, by rw [List.getLast?_append, hlast, Option.some_or], hc⟩

theorem IsSolid.cons (h : IsSolid body) (c : Char) : IsSolid (c :: body) := h.append_left [c]

theorem IsSolid.ne_nil (h : IsSolid body) : body ≠ [] := by
  rintro rfl
  obtain ⟨c, hlast, -⟩ := h
  cases hlast

/-- A body may be followed by an exponent, or by nothing. -/
theorem IsSolid.append (h : IsSolid body) (hbs : bs = [] ∨ IsSolid bs) : IsSolid (body ++ bs) := by
  rcases hbs with rfl | hbs
  · rwa [List.append_nil]
  · exact hbs.append_left body

theorem resumes_append (h : body ≠ []) (after after' : List Char) :
    Resumes (body ++ after) (body ++ after') := by
  cases body with
  | nil => exact absurd rfl h
  | cons c body => exact .inr rfl

theorem Resumes.append {after' : List Char} (h : Resumes after after') (body : List Char) :
    Resumes (body ++ after) (body ++ after') := by
  cases body with
  | nil => exact h
  | cons c body => exact .inr rfl

theorem Resumes.ne_cons {after' : List Char} (h : Resumes after after')
    (hne : ∀ rest, after = c :: rest → False) (rest : List Char) (heq : after' = c :: rest) :
    False := by
  subst heq
  rcases h with hnil | hhead
  · cases hnil
  · obtain ⟨tail, rfl⟩ := List.head?_eq_some_iff.1 hhead.symm
    exact hne tail rfl

/-- A text that does not begin with such characters does not resume with one. -/
theorem Resumes.head {p : Char → Bool} {after' : List Char} (h : Resumes after after')
    (hafter : ∀ c ∈ after.head?, p c = false) : ∀ c ∈ after'.head?, p c = false := by
  rcases h with rfl | hhead
  · exact nofun
  · rwa [hhead]

/-! ## Strings -/

/-- The body of a string goes up to its closing quote, whatever follows that. -/
theorem codePoints?_eq_some {ns : List Nat} (h : codePoints? cs = some (ns, after)) :
    ∃ body, cs = body ++ '"' :: after ∧
      ∀ after', codePoints? (body ++ '"' :: after') = some (ns, after') := by
  induction cs using codePoints?.induct generalizing ns with
  | case1 => simp [codePoints?] at h
  | case2 rest =>
    simp only [codePoints?, Option.some.injEq, Prod.mk.injEq] at h
    obtain ⟨rfl, rfl⟩ := h
    exact ⟨[], rfl, fun after' => by simp [codePoints?]⟩
  | case3 a b c d rest ih =>
    simp [codePoints?, Option.bind_eq_some_iff] at h
    obtain ⟨n, hn, ns', hrest, rfl⟩ := h
    obtain ⟨body, rfl, hbody⟩ := ih hrest
    exact ⟨_ :: _ :: _ :: _ :: _ :: _ :: body, rfl, fun after' => by simp [codePoints?, hn, hbody]⟩
  | case4 e rest hunicode ih =>
    simp [codePoints?.eq_4 e rest hunicode, Option.bind_eq_some_iff] at h
    obtain ⟨c, hc, ns', hrest, rfl⟩ := h
    obtain ⟨body, rfl, hbody⟩ := ih hrest
    -- The letter is no `u`, or it would begin an escape by number further on.
    have hu : e ≠ 'u' := by
      rintro rfl
      cases hc
    refine ⟨_ :: _ :: body, rfl, fun after' => ?_⟩
    simp [codePoints?.eq_4 e _ fun _ _ _ _ _ he => absurd he hu, hc, hbody]
  | case5 c rest hquote hunicode hescape hcontrol ih =>
    simp [codePoints?.eq_5 c rest hquote hunicode hescape, hcontrol] at h
  | case6 c rest hquote hunicode hescape hplain ih =>
    simp [codePoints?.eq_5 c rest hquote hunicode hescape, hplain, Option.bind_eq_some_iff] at h
    obtain ⟨ns', hrest, rfl⟩ := h
    obtain ⟨body, rfl, hbody⟩ := ih hrest
    have hbackslash : c ≠ '\\' := fun hc => hplain (.inr hc)
    refine ⟨_ :: body, rfl, fun after' => ?_⟩
    simp [codePoints?.eq_5 c _ hquote (fun _ _ _ _ _ hc => absurd hc hbackslash)
      fun _ _ hc => absurd hc hbackslash, hplain, hbody]

theorem stringBody?_eq_some {text : Option String} (h : stringBody? cs = some (text, after)) :
    ∃ body, cs = body ++ '"' :: after ∧
      ∀ after', stringBody? (body ++ '"' :: after') = some (text, after') := by
  simp only [stringBody?, Option.map_eq_some_iff, Prod.mk.injEq] at h
  obtain ⟨⟨ns, rest⟩, hpoints, rfl, rfl⟩ := h
  obtain ⟨body, hcs, hbody⟩ := codePoints?_eq_some hpoints
  exact ⟨body, hcs, fun after' => by rw [stringBody?, hbody]; rfl⟩

/-! ## Numbers -/

theorem digits?_append (hne : ds ≠ []) (hdigits : ∀ d ∈ ds, d.isDigit = true)
    (hafter : ∀ c ∈ after.head?, c.isDigit = false) : digits? (ds ++ after) = some (ds, after) := by
  have hnone : after.takeWhile Char.isDigit = [] ∧ after.dropWhile Char.isDigit = after := by
    cases after with
    | nil => exact ⟨rfl, rfl⟩
    | cons c after =>
      have hc : ¬ c.isDigit = true := ne_true_of_eq_false (hafter c rfl)
      exact ⟨List.takeWhile_cons_of_neg hc, List.dropWhile_cons_of_neg hc⟩
  rw [digits?, List.takeWhile_append_of_pos hdigits, List.dropWhile_append_of_pos hdigits, hnone.1,
    hnone.2, List.append_nil]
  cases ds with
  | nil => exact absurd rfl hne
  | cons d ds => rfl

theorem digits?_eq_some (h : digits? cs = some (ds, after)) :
    cs = ds ++ after ∧ ds ≠ [] ∧ (∀ d ∈ ds, d.isDigit = true) ∧
      ∀ c ∈ after.head?, c.isDigit = false := by
  rw [digits?] at h
  split at h
  · cases h
  · rename_i hds
    simp only [Option.some.injEq, Prod.mk.injEq] at h
    obtain ⟨rfl, rfl⟩ := h
    refine ⟨List.takeWhile_append_dropWhile.symm, hds, fun _ => List.mem_takeWhile_imp,
      fun c hc => ?_⟩
    have := List.head?_dropWhile_not Char.isDigit cs
    rw [Option.mem_def.1 hc] at this
    exact this

/-- Digits are solid, and are read alike if what comes after them begins alike. -/
theorem digits?_resumes (h : digits? cs = some (ds, after)) :
    cs = ds ++ after ∧ IsSolid ds ∧
      ∀ after', Resumes after after' → digits? (ds ++ after') = some (ds, after') := by
  obtain ⟨hcs, hne, hdigits, hafter⟩ := digits?_eq_some h
  obtain ⟨d, hd⟩ := Option.ne_none_iff_exists'.1 (mt List.getLast?_eq_none_iff.1 hne)
  exact ⟨hcs, ⟨d, hd, not_isBlank_of_isDigit (hdigits d (List.mem_of_getLast? hd))⟩,
    fun after' hresumes => digits?_append hne hdigits (hresumes.head hafter)⟩

theorem integerPart?_resumes (h : integerPart? cs = some (ds, after)) :
    cs = ds ++ after ∧ IsSolid ds ∧
      ∀ after', Resumes after after' → integerPart? (ds ++ after') = some (ds, after') := by
  rw [integerPart?.eq_def] at h
  split at h
  · simp only [Option.some.injEq, Prod.mk.injEq] at h
    obtain ⟨rfl, rfl⟩ := h
    exact ⟨rfl, isSolid_singleton rfl, fun _ _ => rfl⟩
  · rename_i hzero
    obtain ⟨rfl, hsolid, hresumes⟩ := digits?_resumes h
    refine ⟨rfl, hsolid, fun after' hafter => ?_⟩
    rw [integerPart?.eq_2 _ ((resumes_append hsolid.ne_nil after after').ne_cons hzero),
      hresumes after' hafter]

/-- A text is a sign, which may be left out, and what comes after it. -/
theorem exists_append_skipSign (cs : List Char) :
    ∃ sign, cs = sign ++ skipSign cs ∧
      ∀ bs, Resumes (skipSign cs) bs → skipSign (sign ++ bs) = bs := by
  rw [skipSign.eq_def]
  split
  · exact ⟨['+'], rfl, fun _ _ => rfl⟩
  · exact ⟨['-'], rfl, fun _ _ => rfl⟩
  · rename_i hplus hminus
    exact ⟨[], rfl, fun bs h => skipSign.eq_3 bs (h.ne_cons hplus) (h.ne_cons hminus)⟩

theorem digits?_skipSign_resumes (h : (digits? (skipSign cs)).map (·.2) = some after) :
    ∃ body, cs = body ++ after ∧ IsSolid body ∧ ∀ after', Resumes after after' →
      (digits? (skipSign (body ++ after'))).map (·.2) = some after' := by
  obtain ⟨⟨ds, _⟩, hdigits, rfl⟩ := Option.map_eq_some_iff.1 h
  obtain ⟨hskip, hsolid, hresumes⟩ := digits?_resumes hdigits
  obtain ⟨sign, hcs, hsign⟩ := exists_append_skipSign cs
  rw [hskip] at hcs hsign
  refine ⟨sign ++ ds, by rw [hcs, List.append_assoc], hsolid.append_left sign,
    fun after' hafter => ?_⟩
  rw [List.append_assoc, hsign _ (resumes_append hsolid.ne_nil _ _), hresumes after' hafter]
  rfl

/-- An exponent is solid, if there is one, and is read alike if what comes after it
    begins alike. -/
theorem skipExponent?_resumes (h : skipExponent? cs = some after) :
    ∃ body, cs = body ++ after ∧
      (body = [] ∧ (∀ rest, cs ≠ 'e' :: rest) ∧ (∀ rest, cs ≠ 'E' :: rest) ∨ IsSolid body) ∧
      ∀ after', Resumes after after' → skipExponent? (body ++ after') = some after' := by
  rw [skipExponent?.eq_def] at h
  split at h
  · obtain ⟨body, rfl, hsolid, hresumes⟩ := digits?_skipSign_resumes h
    exact ⟨'e' :: body, rfl, .inr (hsolid.cons _), hresumes⟩
  · obtain ⟨body, rfl, hsolid, hresumes⟩ := digits?_skipSign_resumes h
    exact ⟨'E' :: body, rfl, .inr (hsolid.cons _), hresumes⟩
  · -- There is no exponent, nor does one begin after a text that resumes this one.
    rename_i hlower hupper
    cases h
    exact ⟨[], rfl, .inl ⟨rfl, hlower, hupper⟩, fun after' hafter =>
      skipExponent?.eq_3 after' (hafter.ne_cons hlower) (hafter.ne_cons hupper)⟩

/-- What follows the integer part of a number is solid, and is read alike if what comes
    after it begins alike. -/
theorem skipFraction?_skipExponent?_resumes (hcontinues : continuesNumber cs = true)
    (h : (skipFraction? cs).bind skipExponent? = some after) :
    ∃ body, cs = body ++ after ∧ IsSolid body ∧ ∀ after', Resumes after after' →
      continuesNumber (body ++ after') = true ∧
      (skipFraction? (body ++ after')).bind skipExponent? = some after' := by
  obtain ⟨mid, hfraction, hexponent⟩ := Option.bind_eq_some_iff.1 h
  obtain ⟨exponent, rfl, hends, hexponent'⟩ := skipExponent?_resumes hexponent
  -- Either part may be left out, but not both: something continues the number.
  rw [skipFraction?.eq_def] at hfraction
  split at hfraction
  · obtain ⟨⟨ds, _⟩, hdigits, rfl⟩ := Option.map_eq_some_iff.1 hfraction
    obtain ⟨rfl, hsolid, hresumes⟩ := digits?_resumes hdigits
    refine ⟨'.' :: (ds ++ exponent), by rw [List.cons_append, List.append_assoc],
      (hsolid.append (hends.imp_left And.left)).cons _, fun after' hafter => ⟨rfl, ?_⟩⟩
    rw [List.cons_append, List.append_assoc, skipFraction?, hresumes _ (hafter.append exponent)]
    exact hexponent' after' hafter
  · rename_i hdot
    cases hfraction
    rcases hends with ⟨rfl, hlower, hupper⟩ | hsolid
    · exfalso
      rw [List.nil_append] at *
      cases after with
      | nil => cases hcontinues
      | cons c after =>
        simp only [continuesNumber, Bool.or_eq_true, beq_iff_eq] at hcontinues
        rcases hcontinues with (rfl | rfl) | rfl
        · exact hdot after rfl
        · exact hlower after rfl
        · exact hupper after rfl
    · refine ⟨exponent, rfl, hsolid, fun after' hafter => ⟨?_, ?_⟩⟩
      · obtain ⟨c, exponent, rfl⟩ := List.exists_cons_of_ne_nil hsolid.ne_nil
        exact hcontinues
      · rw [skipFraction?.eq_2 _ ((hafter.append exponent).ne_cons hdot)]
        exact hexponent' after' hafter

theorem unsigned?_eq (h : integerPart? cs = some (ds, after)) :
    unsigned? cs = if continuesNumber after then
      ((skipFraction? after).bind skipExponent?).map fun rest => (otherNumber, rest)
    else some (natural (Nat.ofDigitChars 10 ds 0), after) := by
  rw [unsigned?, h]
  change (if _ then (_ : Option _).bind _ else _) = _
  rw [Option.map_eq_bind]
  rfl

theorem continuesNumber_congr (h : cs.head? = bs.head?) :
    continuesNumber cs = continuesNumber bs := by
  cases cs <;> cases bs <;> simp_all [continuesNumber]

theorem unsigned?_resumes (h : unsigned? cs = some (j, after)) :
    ∃ body, cs = body ++ after ∧ IsSolid body ∧
      ∀ after', Resumes after after' → unsigned? (body ++ after') = some (j, after') := by
  obtain ⟨⟨ds, rest⟩, hinteger, -⟩ := Option.bind_eq_some_iff.1 h
  rw [unsigned?_eq hinteger] at h
  obtain ⟨rfl, hsolid, hresumes⟩ := integerPart?_resumes hinteger
  -- Whether the number goes on after its integer part is seen from the
  -- next character, and a text that resumes has the same one or none.
  split at h
  · rename_i hcontinues
    obtain ⟨_, hskip, heq⟩ := Option.map_eq_some_iff.1 h
    cases heq
    obtain ⟨body, rfl, hbody, hskip'⟩ := skipFraction?_skipExponent?_resumes hcontinues hskip
    refine ⟨ds ++ body, (List.append_assoc _ _ _).symm, hbody.append_left ds,
      fun after' hafter => ?_⟩
    obtain ⟨hcontinues', hafter'⟩ := hskip' after' hafter
    rw [List.append_assoc, unsigned?_eq (hresumes _ (hafter.append body)), if_pos hcontinues',
      hafter']
    rfl
  · rename_i hcontinues
    cases h
    refine ⟨ds, rfl, hsolid, fun after' hafter => ?_⟩
    have hcontinues' : ¬ continuesNumber after' = true := by
      rcases hafter with rfl | hhead
      · exact Bool.false_ne_true
      · rwa [continuesNumber_congr hhead]
    rw [unsigned?_eq (hresumes _ hafter), if_neg hcontinues']

theorem number?_resumes (h : number? cs = some (j, after)) :
    ∃ body, cs = body ++ after ∧ IsSolid body ∧
      ∀ after', Resumes after after' → number? (body ++ after') = some (j, after') := by
  rw [number?.eq_def] at h
  split at h
  · obtain ⟨⟨_, _⟩, hunsigned, heq⟩ := Option.map_eq_some_iff.1 h
    cases heq
    obtain ⟨body, rfl, hsolid, hresumes⟩ := unsigned?_resumes hunsigned
    refine ⟨'-' :: body, rfl, hsolid.cons _, fun after' hafter => ?_⟩
    rw [List.cons_append, number?, hresumes after' hafter]
    rfl
  · rename_i hminus
    obtain ⟨body, rfl, hsolid, hresumes⟩ := unsigned?_resumes h
    refine ⟨body, rfl, hsolid, fun after' hafter => ?_⟩
    rw [number?.eq_2 _ ((hafter.append body).ne_cons hminus), hresumes after' hafter]

theorem number?_head {p : Json × List Char} (h : number? cs = some p) :
    ∃ c rest, cs = c :: rest ∧ (c = '-' ∨ c.isDigit = true) := by
  cases cs with
  | nil => cases h
  | cons c rest =>
    refine ⟨c, rest, rfl, or_iff_not_imp_left.2 fun hminus => ?_⟩
    rw [number?.eq_2 _ fun _ hc => hminus (List.cons.inj hc).1] at h
    by_contra hdigit
    -- Neither a zero nor another digit comes first, so that there is no integer part.
    have hzero : ∀ tail, c :: rest = '0' :: tail → False := by
      rintro tail hc
      cases hc
      exact hdigit rfl
    rw [unsigned?, integerPart?.eq_2 _ hzero, digits?, List.takeWhile_cons_of_neg hdigit] at h
    cases h

/-! ## Values -/

section Spans

variable {α β γ : Type} {a : α} {b : β} {d : γ}

/-- A reader that spends fuel: what it reads at the front of a text, and the text after
    it. -/
abbrev Reading (α : Type) := Nat → List Char → Option (α × List Char)

variable {read : Reading α} {read' : Reading β} {read'' : Reading γ}

/-- What is read at the front of a text takes up a solid body, needs no more than a unit of
    fuel for each of its characters and one more, and does not depend on how the text goes
    on, as long as it goes on alike. -/
def Spans (read : Reading α) (cs : List Char) (a : α) (after : List Char) : Prop :=
  ∃ body, cs = body ++ after ∧ IsSolid body ∧ ∀ n after', body.length < n →
    Resumes after after' → read n (body ++ after') = some (a, after')

/-- All that is read with so much fuel is read in this way. -/
def IsLocal (read : Reading α) (n : Nat) : Prop :=
  ∀ {cs a after}, read n cs = some (a, after) → Spans read cs a after

/-- A gap in front belongs to the body. -/
theorem Spans.of_skipGap (hread : ∀ n cs, read n (skipGap cs) = read n cs)
    (h : Spans read (skipGap cs) a after) : Spans read cs a after := by
  obtain ⟨body, hskip, hsolid, hresumes⟩ := h
  obtain ⟨gap, hgap, hcs⟩ := exists_append_skipGap cs
  refine ⟨gap ++ body, by rw [hcs, hskip, List.append_assoc], hsolid.append_left gap,
    fun n after' hn hafter => ?_⟩
  rw [List.length_append] at hn
  rw [List.append_assoc, ← hread, skipGap_append hgap, hread]
  exact hresumes n after' (by omega) hafter

/-- A body that is read alike whatever comes after it. -/
theorem spans_of_forall (body : List Char) (hsolid : IsSolid body)
    (h : ∀ n after', read (n + 1) (body ++ after') = some (a, after')) (after : List Char) :
    Spans read (body ++ after) a after :=
  ⟨body, rfl, hsolid, fun | m + 1, after', _, _ => h m after'⟩

/-- A character in front of what two readers read one after the other. -/
theorem Spans.cons_trans (h : Spans read cs a bs) (h' : Spans read' bs b after)
    (hread : ∀ {n cs next after}, read n cs = some (a, next) → read' n next = some (b, after) →
      read'' (n + 1) (c :: cs) = some (d, after)) : Spans read'' (c :: cs) d after := by
  obtain ⟨body, rfl, -, hresumes⟩ := h
  obtain ⟨body', rfl, hsolid, hresumes'⟩ := h'
  refine ⟨c :: (body ++ body'), by simp, (hsolid.append_left body).cons c,
    fun | m + 1, after', hm, hafter => ?_⟩
  simp only [List.length_cons, List.length_append] at hm
  have hfirst := hresumes m _ (by omega) (hafter.append body')
  rw [List.cons_append, List.append_assoc]
  exact hread hfirst (hresumes' m after' (by omega) hafter)

/-- An opening bracket, a gap and the closing bracket. -/
theorem spans_of_skipGap {z : Char} (h : skipGap cs = z :: after) (hz : isBlank z = false)
    (hread : ∀ {n cs after}, skipGap cs = z :: after → read (n + 1) (c :: cs) = some (a, after)) :
    Spans read (c :: cs) a after := by
  obtain ⟨gap, hgap, hcs⟩ := exists_append_skipGap cs
  rw [hcs, h, List.append_cons, ← List.cons_append]
  refine spans_of_forall _ (((isSolid_singleton hz).append_left gap).cons c) (fun n after' => ?_) _
  rw [List.cons_append, List.append_assoc]
  apply hread
  rw [skipGap_append hgap]
  exact skipGap_cons (isGap_eq_false_of_isBlank hz) after'

end Spans

/-! ### The parts of a value -/

section Parts

variable {js : List Json} {key : Option String} {member : Option String × Json}
  {members : List (Option String × Json)} {next rest : List Char}

theorem items?_comma (hvalue : value? n cs = some (j, next))
    (hitems : items? n next = some (js, after)) :
    items? (n + 1) (',' :: cs) = some (j :: js, after) := by
  simp [items?, skipGap_cons (c := ',') rfl, hvalue, hitems]

theorem members?_comma (hmember : member? n cs = some (member, next))
    (hmembers : members? n next = some (members, after)) :
    members? (n + 1) (',' :: cs) = some (member :: members, after) := by
  simp [members?, skipGap_cons (c := ',') rfl, hmember, hmembers]

theorem member?_quote (hkey : stringBody? cs = some (key, next))
    (hcolon : skipGap next = ':' :: rest) (hvalue : value? n rest = some (j, after)) :
    member? (n + 1) ('"' :: cs) = some ((key, j), after) := by
  simp [member?, skipGap_cons (c := '"') rfl, hkey, hcolon, hvalue]

theorem value?_quote (hbody : stringBody? cs = some (key, after)) :
    value? (n + 1) ('"' :: cs) = some (string key, after) := by
  simp [value?, skipGap_cons (c := '"') rfl, hbody]

/-- No value begins with a closing bracket. -/
theorem value?_bracket (h : skipGap cs = ']' :: rest) : value? n cs = none := by
  rw [← value?_skipGap, h]
  cases n <;> rfl

theorem member?_brace (h : skipGap cs = '\x7d' :: rest) : member? n cs = none := by
  rw [← member?_skipGap, h]
  cases n <;> rfl

theorem value?_array_nil (h : skipGap cs = ']' :: after) :
    value? (n + 1) ('[' :: cs) = some (array [], after) := by
  simp [value?, skipGap_cons (c := '[') rfl, h]

theorem value?_object_nil (h : skipGap cs = '\x7d' :: after) :
    value? (n + 1) ('\x7b' :: cs) = some (object [], after) := by
  simp [value?, skipGap_cons (c := '\x7b') rfl, h]

theorem value?_array (hvalue : value? n cs = some (j, next))
    (hitems : items? n next = some (js, after)) :
    value? (n + 1) ('[' :: cs) = some (array (j :: js), after) := by
  -- The reader looks for a closing bracket first.
  have hopen : ∀ rest, skipGap cs ≠ ']' :: rest := fun rest h => by
    rw [value?_bracket h] at hvalue
    cases hvalue
  simp [value?, skipGap_cons (c := '[') rfl, hvalue, hitems]

theorem value?_object (hmember : member? n cs = some (member, next))
    (hmembers : members? n next = some (members, after)) :
    value? (n + 1) ('\x7b' :: cs) = some (object (member :: members), after) := by
  have hopen : ∀ rest, skipGap cs ≠ '\x7d' :: rest := fun rest h => by
    rw [member?_brace h] at hmember
    cases hmember
  simp [value?, skipGap_cons (c := '\x7b') rfl, hmember, hmembers]

/-- Only numbers begin with a sign or a digit. -/
theorem value?_number {p : Json × List Char} (h : number? cs = some p) :
    value? (n + 1) cs = some p := by
  obtain ⟨c, rest, rfl, hc⟩ := number?_head h
  have hnot : ∀ d rest', d ≠ '-' → d.isDigit = false → c :: rest = d :: rest' → False := by
    rintro d rest' hminus hdigit heq
    cases heq
    exact hc.elim hminus fun hd => Bool.false_ne_true (hdigit.symm.trans hd)
  have hgap : isGap c = false := isGap_eq_false_of_isBlank (hc.elim (fun h => h ▸ rfl)
    not_isBlank_of_isDigit)
  rw [value?, skipGap_cons hgap]
  split
  -- In all cases but the last the first character is one that begins no number.
  all_goals first
    | exact h
    | rename_i heq
      exact (hnot _ _ (by decide) rfl heq).elim

end Parts

/-! ### One unit of fuel -/

theorem isLocal_items?_succ (hvalue : IsLocal value? n) (hitems : IsLocal items? n) :
    IsLocal items? (n + 1) := by
  intro cs js after h
  refine .of_skipGap items?_skipGap ?_
  rw [items?] at h
  -- An array ends here, or another item follows, read with the fuel that is left.
  split at h
  · rename_i hskip
    cases h
    rw [hskip]
    exact spans_of_forall [']'] (isSolid_singleton rfl) (fun _ _ => rfl) _
  · rename_i hskip
    obtain ⟨⟨j, next⟩, hj, h'⟩ := Option.bind_eq_some_iff.1 h
    obtain ⟨⟨js', _⟩, hjs, heq⟩ := Option.bind_eq_some_iff.1 h'
    cases heq
    rw [hskip]
    exact (hvalue hj).cons_trans (hitems hjs) items?_comma
  · cases h

theorem isLocal_members?_succ (hmember : IsLocal member? n) (hmembers : IsLocal members? n) :
    IsLocal members? (n + 1) := by
  intro cs members after h
  refine .of_skipGap members?_skipGap ?_
  rw [members?] at h
  split at h
  · rename_i hskip
    cases h
    rw [hskip]
    exact spans_of_forall ['\x7d'] (isSolid_singleton rfl) (fun _ _ => rfl) _
  · rename_i hskip
    obtain ⟨⟨member, next⟩, hm, h'⟩ := Option.bind_eq_some_iff.1 h
    obtain ⟨⟨members', _⟩, hms, heq⟩ := Option.bind_eq_some_iff.1 h'
    cases heq
    rw [hskip]
    exact (hmember hm).cons_trans (hmembers hms) members?_comma
  · cases h

theorem isLocal_member?_succ (hvalue : IsLocal value? n) : IsLocal member? (n + 1) := by
  intro cs member after h
  refine .of_skipGap member?_skipGap ?_
  rw [member?] at h
  split at h
  · rename_i hskip
    obtain ⟨⟨key, next⟩, hkey, h'⟩ := Option.bind_eq_some_iff.1 h
    dsimp only at h'
    split at h'
    · rename_i hcolon
      obtain ⟨⟨j, _⟩, hj, heq⟩ := Option.bind_eq_some_iff.1 h'
      cases heq
      obtain ⟨text, rfl, htext⟩ := stringBody?_eq_some hkey
      obtain ⟨gap, hgap, hnext⟩ := exists_append_skipGap next
      obtain ⟨body, rfl, hsolid, hresumes⟩ := hvalue hj
      rw [hcolon] at hnext
      subst hnext
      rw [hskip]
      -- The extent of a member: its key, the gap before the
      -- colon, and the value, which may resume.
      refine ⟨'"' :: (text ++ '"' :: (gap ++ ':' :: body)), by simp,
        ((((hsolid.cons _).append_left gap).cons _).append_left text).cons _, ?_⟩
      rintro (_ | m) after' hm hafter
      · exact absurd hm (Nat.not_lt_zero _)
      simp only [List.length_cons, List.length_append] at hm
      have hcolon' : skipGap (gap ++ ':' :: (body ++ after')) = ':' :: (body ++ after') := by
        rw [skipGap_append hgap, skipGap_cons rfl]
      simp only [List.cons_append, List.append_assoc]
      exact member?_quote (htext _) hcolon' (hresumes m after' (by omega) hafter)
    · cases h'
  · cases h

theorem isLocal_value?_succ (hvalue : IsLocal value? n) (hitems : IsLocal items? n)
    (hmember : IsLocal member? n) (hmembers : IsLocal members? n) : IsLocal value? (n + 1) := by
  intro cs j after h
  refine .of_skipGap value?_skipGap ?_
  rw [value?] at h
  -- The cases of the reader: three words, a string, an array, an object, and a number.
  split at h
  case h_1 hskip =>
    cases h
    rw [hskip]
    exact spans_of_forall ['n', 'u', 'l', 'l'] ⟨_, rfl, rfl⟩ (fun _ _ => rfl) _
  case h_2 hskip =>
    cases h
    rw [hskip]
    exact spans_of_forall ['t', 'r', 'u', 'e'] ⟨_, rfl, rfl⟩ (fun _ _ => rfl) _
  case h_3 hskip =>
    cases h
    rw [hskip]
    exact spans_of_forall ['f', 'a', 'l', 's', 'e'] ⟨_, rfl, rfl⟩ (fun _ _ => rfl) _
  case h_4 hskip =>
    obtain ⟨⟨text, _⟩, htext, heq⟩ := Option.map_eq_some_iff.1 h
    cases heq
    obtain ⟨body, rfl, hresumes⟩ := stringBody?_eq_some htext
    rw [hskip, List.append_cons, ← List.cons_append]
    refine spans_of_forall _ (((isSolid_singleton rfl).append_left body).cons _)
      (fun m after' => ?_) _
    rw [List.cons_append, List.append_assoc]
    exact value?_quote (hresumes after')
  case h_5 hskip =>
    rw [hskip]
    split at h
    · rename_i hclose
      cases h
      exact spans_of_skipGap hclose rfl value?_array_nil
    · obtain ⟨⟨j, next⟩, hj, h'⟩ := Option.bind_eq_some_iff.1 h
      obtain ⟨⟨js, _⟩, hjs, heq⟩ := Option.bind_eq_some_iff.1 h'
      cases heq
      exact (hvalue hj).cons_trans (hitems hjs) value?_array
  case h_6 hskip =>
    rw [hskip]
    split at h
    · rename_i hclose
      cases h
      exact spans_of_skipGap hclose rfl value?_object_nil
    · obtain ⟨⟨member, next⟩, hm, h'⟩ := Option.bind_eq_some_iff.1 h
      obtain ⟨⟨members, _⟩, hms, heq⟩ := Option.bind_eq_some_iff.1 h'
      cases heq
      exact (hmember hm).cons_trans (hmembers hms) value?_object
  case h_7 =>
    obtain ⟨body, hcs, hsolid, hresumes⟩ := number?_resumes h
    exact ⟨body, hcs, hsolid, fun
      | m + 1, after', _, hafter => value?_number (hresumes after' hafter)⟩

/-- Readers are local, whatever the fuel. -/
theorem isLocal (n : Nat) :
    IsLocal value? n ∧ IsLocal items? n ∧ IsLocal member? n ∧ IsLocal members? n := by
  induction n with
  | zero => exact ⟨nofun, nofun, nofun, nofun⟩
  | succ n ih =>
    obtain ⟨hvalue, hitems, hmember, hmembers⟩ := ih
    exact ⟨isLocal_value?_succ hvalue hitems hmember hmembers, isLocal_items?_succ hvalue hitems,
      isLocal_member?_succ hvalue, isLocal_members?_succ hmember hmembers⟩

/-! ## Trimming -/

/-- A value begins after a gap with a character that is neither blank nor `#`. -/
theorem value?_head {p : Json × List Char} (h : value? n cs = some p) :
    ∃ c rest, skipGap cs = c :: rest ∧ isBlank c = false ∧ c ≠ '#' := by
  cases n with
  | zero => cases h
  | succ n =>
    rw [value?] at h
    -- Only a number is not told by its first character alone.
    split at h
    case h_7 =>
      obtain ⟨c, rest, hskip, hc⟩ := number?_head h
      refine ⟨c, rest, hskip, ?_⟩
      rcases hc with rfl | hdigit
      · exact ⟨rfl, by decide⟩
      · exact ⟨not_isBlank_of_isDigit hdigit, fun hhash => by subst hhash; cases hdigit⟩
    all_goals
      rename_i hskip
      exact ⟨_, _, hskip, rfl, by decide⟩

/-- A text that writes a value writes the same when it is trimmed, and does not begin with
    `#` then. -/
theorem read?_trim (h : read? cs = some j) :
    read? (trim cs) = some j ∧ ∃ c rest, trim cs = c :: rest ∧ c ≠ '#' := by
  obtain ⟨⟨j', after⟩, hvalue, h'⟩ := Option.bind_eq_some_iff.1 h
  dsimp only at h'
  split at h'
  · rename_i hafter
    cases h'
    obtain ⟨c, rest, hskip, hc, hhash⟩ := value?_head hvalue
    rw [← value?_skipGap] at hvalue
    obtain ⟨body, hbody, hsolid, hresumes⟩ := (isLocal _).1 hvalue
    obtain ⟨d, rest', rfl⟩ := List.exists_cons_of_ne_nil hsolid.ne_nil
    obtain rfl : c = d := (List.cons.inj (hskip.symm.trans hbody)).1
    have hblank : ∀ c ∈ after, isBlank c = true := fun c hc =>
      isBlank_of_isGap (List.dropWhile_eq_nil_iff.1 hafter c hc)
    -- All that is trimmed is the gap before the body, and what comes after it.
    have htrim : trim cs = c :: rest' := by
      obtain ⟨gap, hgap, hcs⟩ := exists_append_skipGap cs
      obtain ⟨z, hz, hsolid⟩ := hsolid
      rw [hcs, hbody, trim_append_left fun c hc => isBlank_of_isGap (hgap c hc),
        trim_append hblank]
      exact trim_of_ends hc fun y hy => Option.some.inj (hz.symm.trans hy) ▸ hsolid
    have hread := hresumes _ [] (Nat.lt_succ_self _) (.inl rfl)
    rw [List.append_nil] at hread
    exact ⟨by rw [htrim, read?, hread]; rfl, c, rest', htrim, hhash⟩
  · cases h'

end ShuffleWatch.Json
