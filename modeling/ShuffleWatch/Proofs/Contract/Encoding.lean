import ShuffleWatch.Contract.Log

/-!
# What is read off the log of an event

A log of the contract is decoded in three steps: it has a position, its topics
and data are those of an event in some game, and the number of that game is
one that the client has an id for. Each step undoes a part of
`Contract.Log.write`.

* `Contract.kindOf?_eq_some_iff`: the kind of a log is told by its signature,
  and by nothing else;
* `Contract.Log.content?_write`: of what the contract writes, the number of the
  game and the event are read back, except that nobody has won where the
  address zero has;
* `Contract.Log.decode_write`: whether a log decodes depends on its game alone;
* `Contract.Log.decode_undoes_write`: the log of an entry decodes to that
  entry, and logs that miss a part or have a foreign one to none.
-/

namespace ShuffleWatch

namespace Contract

/-! ## Signatures -/

/-- The number of a signature fits into a word. -/
theorem signatureNumber_lt (k : EventKind) : k.signatureNumber < Nat.pow 256 32 := by
  cases k <;> decide

theorem toNat_signature (k : EventKind) : (signature k).toNat = k.signatureNumber :=
  Word.toNat_ofNat (signatureNumber_lt k)

theorem kindOf?_signature (k : EventKind) : kindOf? (signature k) = some k := by
  rw [kindOf?, toNat_signature]
  cases k <;> rfl

/-- Logs of a kind are told by its signature, and no others are of that kind. -/
theorem kindOf?_eq_some_iff {topic : Word} {k : EventKind} :
    kindOf? topic = some k ↔ topic = signature k := by
  refine ⟨fun h => ?_, fun h => h ▸ kindOf?_signature k⟩
  have hnumber : k.signatureNumber = topic.toNat := by simpa using List.find?_some h
  rw [signature, hnumber, Word.ofNat_toNat]

theorem kindOf?_eq_none_iff {topic : Word} :
    kindOf? topic = none ↔ ∀ k, topic ≠ signature k := by
  simp [Option.eq_none_iff_forall_ne_some, kindOf?_eq_some_iff]

namespace Log

variable {l : Log} {p : Position}

/-! ## The content of what is written -/

/-- The event as it is read off its log, in another game. A winner that is the address
    zero is nobody. -/
def readIn : Event → GameId → Event
  | .created _ who => (.created · who)
  | .joined _ who => (.joined · who)
  | .shuffled _ who => (.shuffled · who)
  | .ended _ winner => (.ended · (somebody? (winner.getD .zero)))
  | .rematch _ => .rematch

/-- An event is read as it was written, unless it has the address zero as its winner. -/
theorem readIn_game_eq_iff {e : Event} :
    readIn e e.game = e ↔ ∀ g, e ≠ .ended g (some .zero) := by
  cases e with
  | created g who | joined g who | shuffled g who | rematch g => simp [readIn, Event.game]
  | ended g winner =>
    cases winner with
    | none => simp [readIn, Event.game, somebody?]
    | some who =>
      by_cases hwho : who = .zero <;> simp [readIn, Event.game, somebody?, hwho]

/-- From the log of an event, the number of its game and the event are read. -/
theorem content?_write (block : Option UInt64) (index : Option Nat) {n : Nat} (e : Event)
    (hn : n < Nat.pow 256 32) : (write block index n e).content? = some (n, readIn e) := by
  cases e with
  | created | joined | shuffled | ended | rematch =>
    simp [content?, write, furtherTopics, dataOf, Event.kind, kindOf?_signature,
      Word.first?_bytes, Word.toAddress_ofAddress, Word.toNat_ofNat hn, readIn]

/-- There is no content behind a topic that is no signature. -/
theorem content?_eq_none {topic : Word} (hfirst : l.topics.head? = some topic)
    (hforeign : ∀ k, topic ≠ signature k) : l.content? = none := by
  obtain ⟨others, htopics⟩ := List.head?_eq_some_iff.1 hfirst
  rw [content?, htopics]
  cases others with
  | nil => rfl
  | cons game others => simp [kindOf?_eq_none_iff.2 hforeign]

/-! ## Decoding -/

theorem position?_eq_none_iff : l.position? = none ↔ l.block = none ∨ l.index = none := by
  rw [position?]
  cases l.block <;> cases l.index <;> simp

/-- A log that is not in a block yet is no entry, whatever is in it. -/
theorem decode_of_position?_eq_none (h : l.position? = none) : l.decode = .error .pending := by
  rw [decode, h]

/-- A log without content is no entry. -/
theorem decode_of_content?_eq_none (hp : l.position? = some p) (h : l.content? = none) :
    l.decode = .error (.undecodable p) := by
  simp only [decode, hp, h]

/-- The log of an event decodes if its game has an id. -/
theorem decode_write (block : UInt64) (index : Nat) {n : Nat} (e : Event)
    (hn : n < Nat.pow 256 32) :
    (write (some block) (some index) n e).decode =
      if n < UInt64.size then .ok ⟨⟨block, UInt64.ofNat index⟩, readIn e ⟨UInt64.ofNat n⟩⟩
      else .error (.gameIdOutOfRange n) := by
  have hposition : (write (some block) (some index) n e).position? =
      some ⟨block, UInt64.ofNat index⟩ := rfl
  simp only [decode, hposition, content?_write _ _ e hn]

/-- The log of an entry decodes, to that entry up to a winner that is the address zero. -/
theorem decode_ofEntry (entry : Entry) :
    (ofEntry entry).decode = .ok ⟨entry.position, readIn entry.event entry.event.game⟩ := by
  have hlt : entry.event.game.val.toNat < UInt64.size := entry.event.game.val.toNat_lt_size
  rw [ofEntry, decode_write _ _ _ (Nat.lt_trans hlt (by decide)), if_pos hlt,
    UInt64.ofNat_toNat, UInt64.ofNat_toNat]

/-- Decoding undoes what the contract writes: the log of an entry decodes to that entry
    exactly if its event has not the address zero as its winner. A log is malformed if its
    game has a number of more than 64 bits, if it has no block or no index, and if its
    first topic is the signature of no kind of event. -/
theorem decode_undoes_write :
    (∀ entry : Entry, (ofEntry entry).decode = .ok entry ↔
      ∀ g, entry.event ≠ .ended g (some .zero)) ∧
    (∀ (block : UInt64) (index n : Nat) (e : Event), UInt64.size ≤ n → n < Nat.pow 256 32 →
      (write (some block) (some index) n e).decode = .error (.gameIdOutOfRange n)) ∧
    (∀ l : Log, l.block = none ∨ l.index = none → l.decode = .error .pending) ∧
    ∀ (l : Log) (p : Position) (topic : Word), l.position? = some p →
      l.topics.head? = some topic → (∀ k, topic ≠ signature k) →
      l.decode = .error (.undecodable p) := by
  refine ⟨fun entry => ?roundTrip, fun block index n e hsize hn => ?game,
    fun l h => ?pending, fun l p topic hp hfirst hforeign => ?foreign⟩
  case roundTrip =>
    rw [decode_ofEntry, ← readIn_game_eq_iff, Except.ok.injEq]
    exact ⟨congrArg Entry.event, fun h => by rw [h]⟩
  -- The number fits into a word of the log, but not into the identifier of a game.
  case game => rw [decode_write block index e hn, if_neg (Nat.not_lt.2 hsize)]
  case pending => exact decode_of_position?_eq_none (position?_eq_none_iff.2 h)
  case foreign => exact decode_of_content?_eq_none hp (content?_eq_none hfirst hforeign)

/-- The log of a shuffle in the seventh game decodes to that shuffle. It is malformed once
    its game has the number two to the sixty-four, its block is missing, or its signature is
    a word of no kind. -/
theorem decode_undoes_write_shuffled :
    let shuffle : Entry := ⟨⟨100, 3⟩, .shuffled ⟨7⟩ .zero⟩
    let l := Log.ofEntry shuffle
    l.decode = .ok shuffle ∧
      (write (some 100) (some 3) UInt64.size shuffle.event).decode =
        .error (.gameIdOutOfRange UInt64.size) ∧
      { l with block := none }.decode = .error .pending ∧
      { l with topics := [Word.ofNat 0x99] }.decode = .error (.undecodable ⟨100, 3⟩) :=
  ⟨(decode_undoes_write.1 _).2 (fun _ => Event.noConfusion),
    decode_undoes_write.2.1 _ _ _ _ (Nat.le_refl _) (by decide),
    decode_undoes_write.2.2.1 _ (.inl rfl),
    decode_undoes_write.2.2.2 _ _ (.ofNat 0x99) rfl rfl (by
      simp only [← kindOf?_eq_none_iff]
      decide)⟩

end Log

end Contract

end ShuffleWatch
