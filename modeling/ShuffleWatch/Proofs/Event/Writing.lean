import ShuffleWatch.Event.Written
import ShuffleWatch.Proofs.Address.Grammar

/-!
# The form of written events

A written event names its kind and writes its game as a decimal number, perhaps after a
plus sign and between blanks (`GameId.Presents`). What address there has to be depends on
the kind (`EventKind.Takes`). Exactly such writings are read, as the event of this kind,
game and address, and an event that is written down is read back (`event_iff_takes`).
-/

namespace ShuffleWatch

open Text

/-! ## Identifiers -/

namespace GameId

variable {cs ds : List Char} {g : GameId} {n : Nat}

/-- The text is this number in decimal, perhaps after one plus sign, perhaps between
    blanks. -/
def Presents (cs : List Char) (n : Nat) : Prop :=
  ∃ plus ∈ [[], ['+']], ∃ ds, Pads (plus ++ ds) cs ∧ Decimal.Spells ds n

/-- A text is a plus sign, which may be left out, and what comes after it. -/
theorem exists_plus_append (cs : List Char) :
    ∃ plus ∈ [[], ['+']], cs = plus ++ withoutPlus cs := by
  rw [withoutPlus.eq_def]
  split
  · exact ⟨['+'], by decide, rfl⟩
  · exact ⟨[], by decide, rfl⟩

/-- No digit is taken for a sign. -/
theorem withoutPlus_append {plus : List Char} (hplus : plus ∈ [[], ['+']])
    (hds : ∀ c ∈ ds, c.isDigit = true) : withoutPlus (plus ++ ds) = ds := by
  simp only [List.mem_cons, List.not_mem_nil, or_false] at hplus
  rcases hplus with rfl | rfl
  · rw [List.nil_append, withoutPlus.eq_def]
    split
    · exact absurd (hds '+' List.mem_cons_self) (by decide)
    · rfl
  · rfl

theorem read?_eq_some_iff : read? cs = some g ↔ Presents cs g.val.toNat := by
  rw [read?, Option.map_eq_some_iff]
  constructor
  · rintro ⟨w, hw, rfl⟩
    obtain ⟨plus, hplus, htrim⟩ := exists_plus_append (trim cs)
    exact ⟨plus, hplus, _, htrim ▸ pads_trim cs, Decimal.word?_eq_some_iff.1 hw⟩
  · rintro ⟨plus, hplus, ds, hpads, hds⟩
    -- Neither a sign nor a digit is a blank, so that trimming leaves them.
    have hsign : ∀ plus ∈ [[], ['+']], ∀ c ∈ plus, isBlank c = false := by
      simp [isBlank]
    have hblank : ∀ c ∈ plus ++ ds, isBlank c = false := List.forall_mem_append.2
      ⟨hsign plus hplus, fun c hc => not_isBlank_of_isDigit (hds.isDigit c hc)⟩
    refine ⟨g.val, ?_, rfl⟩
    rw [(pads_iff hblank).1 hpads, withoutPlus_append hplus hds.isDigit]
    exact Decimal.word?_eq_some_iff.2 hds

theorem exists_read?_iff :
    (∃ g, read? cs = some g) ↔ ∃ n, n < UInt64.size ∧ Presents cs n := by
  simp only [read?_eq_some_iff]
  constructor
  · rintro ⟨g, hg⟩
    exact ⟨_, g.val.toNat_lt_size, hg⟩
  · rintro ⟨n, hn, h⟩
    exact ⟨⟨UInt64.ofNat n⟩, by rwa [UInt64.toNat_ofNat_of_lt' hn]⟩

end GameId

/-! ## Kinds -/

/-- The address that an event of this kind has when this one is written. A rematch has
    none, whatever is written, and the winner of a game may be left out. -/
def EventKind.Takes : EventKind → Option String → Option Address → Prop
  | .rematch, _, who => who = none
  | .ended, none, who => who = none
  | _, none, _ => False
  | _, some text, who => ∃ a, Address.parse text = .ok a ∧ who = some a

theorem EventKind.ofName?_eq_some_iff {name : String} {k : EventKind} :
    ofName? name = some k ↔ name = k.name := by
  constructor
  · intro h
    have hname := List.find?_some h
    exact (beq_iff_eq.1 hname).symm
  · rintro rfl
    exact ofName?_name k

/-- The defect is found in the writing that it quotes. -/
def EventDefect.Quotes (w : WrittenEvent) : EventDefect → Prop
  | unknownName name => name = w.name
  | missingAddress name => name = w.name ∧ w.address = none
  | badGameId text => text = w.gameId
  | badAddress text => w.address = some text

theorem map_eq_ok_iff {ε α β : Type} {f : α → β} {x : Except ε α} {b : β} :
    x.map f = .ok b ↔ ∃ a, x = .ok a ∧ f a = b := by
  cases x <;> simp [Except.map]

theorem map_eq_error_iff {ε α β : Type} {f : α → β} {x : Except ε α} {err : ε} :
    x.map f = .error err ↔ x = .error err := by
  cases x <;> simp [Except.map]

namespace WrittenEvent

variable {w : WrittenEvent} {e : Event} {g : GameId} {k : EventKind} {d : EventDefect}

/-! ## Addresses -/

theorem requiredAddress_eq_ok_iff {a : Address} :
    w.requiredAddress = .ok a ↔ ∃ text, w.address = some text ∧ Address.parse text = .ok a := by
  rw [requiredAddress]
  rcases w.address with _ | text
  · simp
  · simp only [Option.some.injEq, exists_eq_left', Address.parse_eq_ok_iff]
    rcases Address.read? text.toList with _ | b <;> simp

theorem requiredAddress_quotes (h : w.requiredAddress = .error d) : d.Quotes w := by
  rw [requiredAddress] at h
  rcases hw : w.address with _ | text
  · rw [hw] at h
    cases h
    exact ⟨rfl, hw⟩
  · rw [hw] at h
    dsimp only at h
    split at h <;> cases h
    exact hw

/-- The kinds that need an address take the one that is required. -/
theorem takes_iff_requiredAddress {who : Option Address} (hrematch : k ≠ .rematch)
    (hended : k ≠ .ended) :
    k.Takes w.address who ↔ ∃ a, w.requiredAddress = .ok a ∧ who = some a := by
  simp only [requiredAddress_eq_ok_iff]
  cases k <;> rcases w.address with _ | text <;> simp_all [EventKind.Takes]

/-- A winner may be left out, but what is written has to be an address. -/
theorem takes_iff_optionalAddress {who : Option Address} :
    EventKind.ended.Takes w.address who ↔ w.optionalAddress = .ok who := by
  rw [optionalAddress]
  rcases hw : w.address with _ | text
  · simp [EventKind.Takes, eq_comm]
  · rw [Option.isSome_some, if_pos rfl, map_eq_ok_iff]
    simp only [EventKind.Takes, requiredAddress_eq_ok_iff, hw, Option.some_inj, exists_eq_left',
      @eq_comm _ who]

/-! ## Events -/

/-- What is written makes an event of the kind in the game, with the address that the kind
    takes. -/
theorem eventOf_eq_ok_iff :
    w.eventOf g k = .ok e ↔ e.kind = k ∧ e.game = g ∧ k.Takes w.address e.address? := by
  cases k with
  | created | joined | shuffled =>
    rw [eventOf, map_eq_ok_iff, takes_iff_requiredAddress (by simp) (by simp)]
    cases e <;> simp [Event.kind, Event.game, Event.address?, and_comm, @eq_comm _ g]
  | ended =>
    rw [eventOf, map_eq_ok_iff, takes_iff_optionalAddress]
    cases e <;> simp [Event.kind, Event.game, Event.address?, and_comm, @eq_comm _ g]
  | rematch =>
    rw [eventOf]
    cases e <;> simp [Event.kind, Event.game, Event.address?, EventKind.Takes, eq_comm]

/-- An address that the kind takes makes an event. -/
theorem exists_eventOf_iff : (∃ e, w.eventOf g k = .ok e) ↔ ∃ who, k.Takes w.address who := by
  cases k with
  | created | joined | shuffled =>
    simp [eventOf, map_eq_ok_iff, takes_iff_requiredAddress]
  | ended => simp [eventOf, map_eq_ok_iff, takes_iff_optionalAddress]
  | rematch => simp [eventOf, EventKind.Takes]

theorem eventOf_quotes (h : w.eventOf g k = .error d) : d.Quotes w := by
  cases k with
  | created | joined | shuffled => exact requiredAddress_quotes (map_eq_error_iff.1 h)
  | ended =>
    have hd := map_eq_error_iff.1 h
    rw [optionalAddress] at hd
    split at hd
    · exact requiredAddress_quotes (map_eq_error_iff.1 hd)
    · cases hd
  | rematch => cases h

theorem event?_eq_ok_iff :
    w.event? = .ok e ↔ w.name = e.kind.name ∧
      GameId.Presents w.gameId.toList e.game.val.toNat ∧ e.kind.Takes w.address e.address? := by
  rw [← EventKind.ofName?_eq_some_iff, ← GameId.read?_eq_some_iff, event?]
  rcases EventKind.ofName? w.name with _ | k
  · simp
  · rcases GameId.read? w.gameId.toList with _ | g
    · simp
    · dsimp only
      rw [eventOf_eq_ok_iff]
      grind

theorem event?_quotes (h : w.event? = .error d) : d.Quotes w := by
  rw [event?] at h
  split at h
  · cases h
    rfl
  · split at h
    · cases h
      rfl
    · exact eventOf_quotes h

theorem exists_event?_iff :
    (∃ e, w.event? = .ok e) ↔ ∃ k : EventKind, w.name = k.name ∧
      (∃ n, n < UInt64.size ∧ GameId.Presents w.gameId.toList n) ∧
      ∃ who, k.Takes w.address who := by
  simp only [← EventKind.ofName?_eq_some_iff, ← GameId.exists_read?_iff, event?]
  rcases EventKind.ofName? w.name with _ | k
  · simp
  · rcases GameId.read? w.gameId.toList with _ | g
    · simp
    · simp [exists_eventOf_iff]

theorem event_eq_ok_iff : w.event = .ok e ↔ w.event? = .ok e := by
  rw [event]
  cases w.event? <;> simp [Except.mapError]

theorem event_eq_error_iff {err : Error} :
    w.event = .error err ↔ ∃ d, w.event? = .error d ∧ err = .malformedEvent d := by
  rw [event]
  cases w.event? <;> simp [Except.mapError, eq_comm]

/-- A writing is read when its name is that of a kind, its game is a number of 64 bits, and
    its address is one that the kind takes; what is read is the event of this kind, game and
    address. All other writings are malformed events, for the sake of something they say.
    The writing of an event in its canonical form is read as this event. -/
theorem event_iff_takes (w : WrittenEvent) :
    ((∃ e, w.event = .ok e) ↔ ∃ k : EventKind, w.name = k.name ∧
      (∃ n, n < UInt64.size ∧ GameId.Presents w.gameId.toList n) ∧
      ∃ who, k.Takes w.address who) ∧
    (∀ e, w.event = .ok e ↔ w.name = e.kind.name ∧
      GameId.Presents w.gameId.toList e.game.val.toNat ∧ e.kind.Takes w.address e.address?) ∧
    (∀ err, w.event = .error err → ∃ d : EventDefect, err = .malformedEvent d ∧ d.Quotes w) ∧
    ∀ e : Event, event ⟨e.kind.name, toString e.game.val.toNat, e.address?.map Address.render⟩ =
      .ok e := by
  refine ⟨?_, fun e => ?_, fun err h => ?_, fun e => ?_⟩
  · simp only [event_eq_ok_iff]
    exact exists_event?_iff
  · rw [event_eq_ok_iff, event?_eq_ok_iff]
  · obtain ⟨d, hd, rfl⟩ := event_eq_error_iff.1 h
    exact ⟨d, rfl, event?_quotes hd⟩
  · have hgame : toString e.game.val.toNat = e.game.render := Nat.toString_eq_ofList_toDigits
    rw [hgame]
    exact event_ofEvent e

/-- A winner in upper case, in a game written with a sign and a leading zero; and a game
    whose number is too great. -/
theorem event_iff_takes_signed :
    event ⟨"GameEnded", "\t+07 ", some "0XABABABABABABABABABABABABABABABABABABABAB"⟩ =
      .ok (.ended ⟨7⟩ (some (.fill 0xab))) ∧
    ∃ d : EventDefect, event ⟨"Rematch", "18446744073709551616", some "nobody"⟩ =
      .error (.malformedEvent d) ∧ d.Quotes ⟨"Rematch", "18446744073709551616", some "nobody"⟩ := by
  constructor
  · refine ((event_iff_takes _).2.1 _).2 ⟨rfl, ⟨['+'], by decide, ['0', '7'], ?_, ?_⟩, ?_⟩
    · exact ⟨['\t'], [' '], List.forall_mem_singleton.2 rfl, List.forall_mem_singleton.2 rfl,
        by decide +kernel⟩
    · exact .snoc (.digit (d := 0) (by decide)) (d := 7) (by decide)
    · refine ⟨.fill 0xab, ?_, rfl⟩
      decide +kernel
  · -- The number is too large by one. Nothing is asked of the address of a rematch.
    have h : event ⟨"Rematch", "18446744073709551616", some "nobody"⟩ =
        .error (.malformedEvent (.badGameId "18446744073709551616")) := by decide +kernel
    obtain ⟨d, hd, hquotes⟩ := (event_iff_takes _).2.2.1 _ h
    exact ⟨d, hd ▸ h, hquotes⟩

end WrittenEvent

end ShuffleWatch
