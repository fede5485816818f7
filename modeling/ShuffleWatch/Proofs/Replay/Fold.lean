import ShuffleWatch.Proofs.Replay.Noise

/-!
# Replays as folds

A replay of a file is a fold over its lines, in which nothing is published or delivered
(`Tally.take`). A line counts three times: as a line of the file, which is how an unreadable one
is named; as an event, which is logged in the block of that number; and as an event in writing,
after which the session is shown. The replay and the fold stay in step (`Tally.InStep`), since
what the feed delivers after a line is what follows from that line, and nothing else
(`Tally.InStep.exists_take`):

* `Text.isSplit_splitLines`: the lines of a file are the bytes between its line feeds;
* `replay_eq_fold`: what is replayed is the fold, if the lines are texts, and otherwise the
  first line that is none.
-/

namespace ShuffleWatch

/-! ## The lines of a file -/

namespace Text

/-- The bytes, split at the line feeds. What comes after the last of them is a line unless it is
    empty. -/
inductive IsSplit : List UInt8 → List (List UInt8) → Prop
  | nil : IsSplit [] []
  | last {line : List UInt8} : line ≠ [] → lineFeed ∉ line → IsSplit line [line]
  | cons {line bytes : List UInt8} {rest : List (List UInt8)} : lineFeed ∉ line →
      IsSplit bytes rest → IsSplit (line ++ lineFeed :: bytes) (line :: rest)

theorem isSplit_splitLines (bytes : List UInt8) : IsSplit bytes (splitLines bytes) := by
  induction bytes using line_induction lineFeed with
  | nil => exact .nil
  | last line hne hline =>
    rw [splitLines_of_not_mem hne hline]
    exact .last hne hline
  | step line rest hline ih =>
    rw [splitLines_append hline]
    exact .cons hline ih

/-- There is only one way to split the bytes. -/
theorem IsSplit.eq_splitLines {bytes : List UInt8} {raw : List (List UInt8)}
    (h : IsSplit bytes raw) : raw = splitLines bytes := by
  induction h with
  | nil => rfl
  | last hne hline => exact (splitLines_of_not_mem hne hline).symm
  | cons hline _ ih => rw [splitLines_append hline, ih]

/-- The first line that is no text is the one that is named. -/
theorem decodeLines_eq_error {before after : List (List UInt8)} {line : List UInt8} (number : Nat)
    (hbefore : ∀ l ∈ before, decode? l ≠ none) (hline : decode? line = none) :
    decodeLines number (before ++ line :: after) = .error (number + before.length) := by
  induction before generalizing number with
  | nil =>
    rw [List.nil_append, decodeLines, hline]
    rfl
  | cons l before ih =>
    obtain ⟨hl, hbefore⟩ := List.forall_mem_cons.1 hbefore
    obtain ⟨text, htext⟩ := Option.ne_none_iff_exists'.1 hl
    rw [List.cons_append, decodeLines, htext]
    dsimp only
    rw [ih (number + 1) hbefore, Except.map, List.length_cons, Nat.add_right_comm, Nat.add_assoc]

end Text

open Replay

/-! ## The fold -/

/-- What has come of the lines of a file so far. -/
structure Tally where
  session : Session
  /-- The number of events, of whatever game. -/
  events : Nat
  /-- The session after each line with an event in writing. -/
  snapshots : List Snapshot
  /-- The actions that the client has to take. -/
  actions : List Action
  /-- The number of lines that were no events. -/
  malformed : Nat

namespace Tally

/-- At the beginning the status is adopted. -/
def start (s : Session) (initial : Status) : Tally where
  session := (s.seed initial).1
  events := 0
  snapshots := []
  actions := (s.seed initial).2.toList
  malformed := 0

/-- Takes in a line. The event on it is logged at the start of the block of its number, and the
    status is adopted anew after each rematch. -/
def take (initial : Status) (t : Tally) (l : String) : Tally :=
  match content? l with
  | none => t
  | some text =>
    match written? text with
    | none => { t with malformed := t.malformed + 1 }
    | some w =>
      match w.event with
      | .error _ => { t with
          malformed := t.malformed + 1
          snapshots := t.snapshots ++ [t.session.snapshot none] }
      | .ok event =>
        let p := Position.blockStart (.ofNat (t.events + 1))
        let (s, action) := t.session.digest initial (.entry ⟨p, event⟩)
        { t with
          session := s
          events := t.events + 1
          snapshots := t.snapshots ++ [s.snapshot none]
          actions := t.actions ++ action.toList }

/-- What follows from an event in writing: an entry, or why there is none. -/
def item (t : Tally) (w : WrittenEvent) : Item :=
  match w.event with
  | .ok event => .entry ⟨.blockStart (.ofNat (t.events + 1)), event⟩
  | .error error => .fault (.malformedEvent (.misread error))

/-- A replay has produced what the fold has. -/
structure Agrees (t : Tally) (r : Replay) : Prop where
  session_eq : r.session = t.session
  snapshots_eq : r.snapshots = t.snapshots
  actions_eq : r.actions = t.actions
  malformed_eq : r.malformed = t.malformed

end Tally

/-- A replay on a chain is in step with the fold: it has produced the same, the last block is
    that of the last event, and nothing waits in the feed. -/
structure Tally.InStep (t : Tally) (c : Chain) (r : Replay) : Prop where
  agrees : t.Agrees r
  lastBlock_eq : c.lastBlock.toNat = t.events
  isIdle : c.IsIdle 0 .everything

/-- Nothing waits in the feed, and if the event in writing is published, the item is all that
    the feed delivers. -/
def Chain.DeliversOnly (c : Chain) (feed : Nat) (w : WrittenEvent) (item : Item) : Prop :=
  c.next feed = (c, .pending) ∧
    ∃ d, (c.publishWritten w).1.next feed = (d, .item item) ∧ d.next feed = (d, .pending)

/-- The chain after these lines, if the events in writing on them are published one after the
    other, and the feed is looked at after each. -/
def Chain.afterLines (feed : Nat) : Chain → List (Option WrittenEvent) → Chain
  | c, [] => c
  | c, none :: rest => afterLines feed c rest
  | c, some w :: rest => afterLines feed ((c.publishWritten w).1.next feed).1 rest

/-- The chain on which a replay publishes, after these lines. -/
def Replay.chainAfter (lines : List (Option WrittenEvent)) : Chain :=
  ((Chain.empty.subscribe .everything).1.next 0).1.afterLines 0 lines

variable {s : Session} {initial : Status} {c : Chain} {r : Replay} {t : Tally} {l : String}
  {ls : List String} {w : WrittenEvent} {event : Event} {error : Error}

/-! ## Taking in a line -/

namespace Tally

theorem take_of_blank (h : content? l = none) : t.take initial l = t := by
  rw [take, h]

theorem take_of_unwritten {text : List Char} (h : content? l = some text)
    (hw : written? text = none) : t.take initial l = { t with malformed := t.malformed + 1 } := by
  rw [take, h]
  dsimp only
  rw [hw]

theorem take_of_error (h : writing? l = some w) (hw : w.event = .error error) :
    t.take initial l = { t with
      malformed := t.malformed + 1
      snapshots := t.snapshots ++ [t.session.snapshot none] } := by
  obtain ⟨text, htext, hwritten⟩ := Option.bind_eq_some_iff.1 h
  rw [take, htext]
  dsimp only
  rw [hwritten]
  dsimp only
  rw [hw]

theorem take_of_event (h : writing? l = some w) (hw : w.event = .ok event) :
    t.take initial l =
      let digested := t.session.digest initial (.entry ⟨.blockStart (.ofNat (t.events + 1)), event⟩)
      { t with
        session := digested.1
        events := t.events + 1
        snapshots := t.snapshots ++ [digested.1.snapshot none]
        actions := t.actions ++ digested.2.toList } := by
  obtain ⟨text, htext, hwritten⟩ := Option.bind_eq_some_iff.1 h
  rw [take, htext]
  dsimp only
  rw [hwritten]
  dsimp only
  rw [hw]

theorem item_of_error (hw : w.event = .error error) :
    t.item w = .fault (.malformedEvent (.misread error)) := by
  rw [item, hw]

theorem item_of_event (hw : w.event = .ok event) :
    t.item w = .entry ⟨.blockStart (.ofNat (t.events + 1)), event⟩ := by
  rw [item, hw]

end Tally

theorem Replay.writings_cons {text : List Char} (h : content? l = some text) :
    writings (l :: ls) = written? text :: writings ls := by
  rw [writings, List.filterMap_cons_some h, List.map_cons]
  rfl

/-- An entry counts as an event, whatever comes of it. -/
theorem Replay.malformed_receive_entry (r : Replay) (initial : Status) (e : Entry) :
    (r.receive initial (.entry e)).malformed = r.malformed := by
  have hentry : (r.session.receive (.entry e)).2 ≠ .malformed := by
    simp [Session.receive_eq_malformed_iff]
  rw [receive]
  rcases hreceive : r.session.receive (.entry e) with ⟨s, verdict⟩
  rw [hreceive] at hentry
  cases verdict with
  | malformed => exact absurd rfl hentry
  | _ => rfl

/-- A line counts as an event if there is one on it. -/
theorem Tally.events_take (initial : Status) (t : Tally) (l : String) :
    (t.take initial l).events = t.events + (eventOn? l).toList.length := by
  -- A line counts as an event in one of the four cases only.
  cases hl : content? l with
  | none =>
    rw [take_of_blank hl, eventOn?_of_unwritten (writing?_of_blank hl)]
    rfl
  | some text =>
    have hwriting : writing? l = written? text := writing?_of_content hl
    cases hw : written? text with
    | none =>
      rw [take_of_unwritten hl hw, eventOn?_of_unwritten (hwriting.trans hw)]
      rfl
    | some w =>
      rw [hw] at hwriting
      cases he : w.event with
      | error error =>
        rw [take_of_error hwriting he, eventOn?_of_error hwriting he]
        rfl
      | ok event =>
        rw [take_of_event hwriting he, eventOn?_of_event hwriting he]
        rfl

theorem Tally.events_foldl (initial : Status) (t : Tally) (ls : List String) :
    (ls.foldl (take initial) t).events = t.events + (ls.filterMap eventOn?).length := by
  induction ls generalizing t with
  | nil => rfl
  | cons l ls ih =>
    rw [List.foldl_cons, ih, events_take, List.filterMap_cons, Nat.add_assoc]
    cases eventOn? l with
    | none => rw [Option.toList_none, List.length_nil, Nat.zero_add]
    | some event => rw [Option.toList_some, List.length_singleton, List.length_cons, Nat.add_comm 1]

namespace Tally.Agrees

/-- What follows from an event in writing comes to the same in a replay and in the fold. -/
theorem receive (h : t.Agrees r) (initial : Status) (hl : writing? l = some w) :
    (t.take initial l).Agrees (r.receive initial (t.item w)) := by
  cases hw : w.event with
  | error error =>
    rw [take_of_error hl hw, item_of_error hw]
    refine ⟨h.session_eq, ?_, h.actions_eq, congrArg (· + 1) h.malformed_eq⟩
    change (r.session.snapshot none :: r.shown).reverse = _
    rw [List.reverse_cons, ← h.session_eq, ← h.snapshots_eq]
    rfl
  | ok event =>
    rw [take_of_event hl hw, item_of_event hw]
    obtain ⟨hsession, hsnapshots, hactions⟩ := receive_eq r initial
      (.entry ⟨.blockStart (.ofNat (t.events + 1)), event⟩)
    rw [h.session_eq] at hsession hsnapshots hactions
    exact ⟨hsession, by rw [hsnapshots, h.snapshots_eq], by rw [hactions, h.actions_eq],
      (malformed_receive_entry r initial _).trans h.malformed_eq⟩

/-- A line without an event in writing is at most counted. -/
theorem miss (h : t.Agrees r) {text : List Char} (hl : content? l = some text)
    (hw : written? text = none) : (t.take initial l).Agrees r.miss := by
  rw [take_of_unwritten hl hw]
  exact ⟨h.session_eq, h.snapshots_eq, h.actions_eq, congrArg (· + 1) h.malformed_eq⟩

end Tally.Agrees

namespace Tally.InStep

/-- What the feed delivers after a line with an event in writing is what follows from it. -/
theorem exists_next (h : t.InStep c r) (initial : Status) (hl : writing? l = some w)
    (hroom : (eventOn? l).isSome = true → t.events + 1 < UInt64.size) :
    ∃ d, (c.publishWritten w).1.next 0 = (d, .item (t.item w)) ∧
      (t.take initial l).InStep d (r.receive initial (t.item w)) := by
  have hagrees := h.agrees.receive initial hl
  cases hw : w.event with
  | error error =>
    obtain ⟨d, hnext, hidle, hblock⟩ := h.isIdle.next_of_error hw
    rw [Tally.item_of_error hw] at hagrees ⊢
    refine ⟨d, hnext, hagrees, ?_, hidle⟩
    rw [hblock, h.lastBlock_eq, Tally.take_of_error hl hw]
  | ok event =>
    have hevent : (eventOn? l).isSome = true := by
      rw [eventOn?_of_event hl hw]
      rfl
    -- The tally counts the events, and the chain has given a block to each of them.
    have hroom' : c.lastBlock.toNat + 1 < UInt64.size := by
      rw [h.lastBlock_eq]
      exact hroom hevent
    obtain ⟨d, hnext, hidle, hblock⟩ := h.isIdle.next_of_event hw hroom'
    have hsucc : UInt64.ofNat (t.events + 1) = c.lastBlock + 1 := by
      rw [← h.lastBlock_eq, UInt64.ofNat_add, UInt64.ofNat_toNat]
      rfl
    rw [Tally.item_of_event hw, hsucc] at hagrees ⊢
    refine ⟨d, hnext, hagrees, ?_, hidle⟩
    rw [hblock, h.lastBlock_eq, Tally.take_of_event hl hw]

/-- A line that is taken in leaves a replay in step with the fold, if there is a block for the
    event on it. -/
theorem exists_take (h : t.InStep c r) (initial : Status)
    (hroom : (eventOn? l).isSome = true → t.events + 1 < UInt64.size) :
    ∃ c' r', (t.take initial l).InStep c' r' ∧
      (∀ ls, c.afterLines 0 (writings (l :: ls)) = c'.afterLines 0 (writings ls) ∧
        onChain initial 0 c r (writings (l :: ls)) = onChain initial 0 c' r' (writings ls)) ∧
      ∀ w, writing? l = some w → c.DeliversOnly 0 w (t.item w) := by
  cases hl : content? l with
  | none =>
    have hwriting : writing? l = none := writing?_of_blank hl
    refine ⟨c, r, by rwa [Tally.take_of_blank hl], fun ls => ?_, fun w hw => ?_⟩
    · rw [writings, List.filterMap_cons_none hl]
      exact ⟨rfl, rfl⟩
    · cases hwriting.symm.trans hw
  | some text =>
    have hwriting : writing? l = written? text := writing?_of_content hl
    cases hw : written? text with
    | none =>
      refine ⟨c, r.miss, ⟨h.agrees.miss hl hw, ?_, h.isIdle⟩, fun ls => ?_, fun w hw' => ?_⟩
      · rw [h.lastBlock_eq, Tally.take_of_unwritten hl hw]
      · rw [writings_cons hl, hw, onChain]
        exact ⟨rfl, rfl⟩
      · cases (hwriting.trans hw).symm.trans hw'
    -- Only a written event reaches the chain. Its feed delivers one item and is empty again.
    | some w =>
      obtain ⟨d, hnext, hstep⟩ := h.exists_next initial (hwriting.trans hw) hroom
      refine ⟨d, _, hstep, fun ls => ?_, fun w' hw' => ?_⟩
      · rw [writings_cons hl, hw, onChain, Chain.afterLines, hnext]
        exact ⟨rfl, rfl⟩
      · cases (hwriting.trans hw).symm.trans hw'
        exact ⟨h.isIdle.next_eq, d, hnext, hstep.isIdle.next_eq⟩

/-- A replay stays in step with the fold, up to the event for which there is no block, if the
    lines have as many. -/
theorem exists_read (h : t.InStep c r) (initial : Status) (ls : List String) :
    ∃ read rest, ls = read ++ rest ∧
      (rest = [] ∨ ∃ l rest', rest = l :: rest' ∧ (eventOn? l).isSome = true ∧
        (read.foldl (Tally.take initial) t).events + 1 = UInt64.size) ∧
      ∀ before after, read = before ++ after →
        (before.foldl (Tally.take initial) t).InStep (c.afterLines 0 (writings before))
          (onChain initial 0 c r (writings before)) ∧
        onChain initial 0 c r (writings ls) =
          onChain initial 0 (c.afterLines 0 (writings before))
            (onChain initial 0 c r (writings before)) (writings (after ++ rest)) ∧
        ∀ l after' w, after = l :: after' → writing? l = some w →
          (c.afterLines 0 (writings before)).DeliversOnly 0 w
            ((before.foldl (Tally.take initial) t).item w) := by
  -- By induction on the lines, from any chain and replay that are in step with the fold: they
  -- stay so with each line, until there is no block for the event on one.
  induction ls generalizing c r t with
  | nil =>
    refine ⟨[], [], rfl, .inl rfl, fun before after hread => ?_⟩
    obtain ⟨rfl, rfl⟩ := List.append_eq_nil_iff.1 hread.symm
    exact ⟨h, rfl, fun l after' w hafter => by cases hafter⟩
  | cons l ls ih =>
    by_cases hroom : (eventOn? l).isSome = true → t.events + 1 < UInt64.size
    · obtain ⟨c', r', hstep, htake, hdelivers⟩ := h.exists_take initial hroom
      obtain ⟨read, rest, rfl, hrest, hread⟩ := ih hstep
      refine ⟨l :: read, rest, rfl, hrest, fun before after hsplit => ?_⟩
      cases before with
      | nil =>
        obtain rfl : l :: read = after := hsplit
        refine ⟨h, rfl, fun l' after' w hafter hw => ?_⟩
        cases hafter
        exact hdelivers w hw
      | cons l' before =>
        -- The lines after the first lead on from the chain and the replay that it leads to.
        obtain ⟨rfl, htail⟩ := List.cons.inj hsplit
        rw [(htake before).1, (htake before).2, (htake _).2]
        exact hread before after htail
    · rw [Classical.not_imp, Nat.not_lt] at hroom
      obtain ⟨hevent, hfull⟩ := hroom
      have hlast := c.lastBlock.toNat_lt_size
      rw [h.lastBlock_eq] at hlast
      refine ⟨[], l :: ls, rfl, .inr ⟨l, ls, rfl, hevent, Nat.le_antisymm hlast hfull⟩,
        fun before after hread => ?_⟩
      obtain ⟨rfl, rfl⟩ := List.append_eq_nil_iff.1 hread.symm
      exact ⟨h, rfl, fun l after' w hafter => by cases hafter⟩

/-- An event for which there is no block ends a replay. -/
theorem onChain_of_full (h : t.InStep c r) (hevent : (eventOn? l).isSome = true)
    (hfull : t.events + 1 = UInt64.size) (ls : List String) :
    onChain initial 0 c r (writings (l :: ls)) = r := by
  obtain ⟨event, hevent⟩ := Option.isSome_iff_exists.1 hevent
  obtain ⟨w, hl, hw⟩ := Option.bind_eq_some_iff.1 hevent
  obtain ⟨text, htext, hwritten⟩ := Option.bind_eq_some_iff.1 hl
  -- No block is left for the event, so that it is not
  -- published and the feed has nothing to deliver.
  have hpublish : (c.publishWritten w).1 = c := by
    cases he : w.event with
    | error error =>
      rw [he] at hw
      cases hw
    | ok e =>
      have hnone : ¬c.lastBlock.toNat + 1 < UInt64.size := by
        rw [h.lastBlock_eq, hfull]
        exact Nat.lt_irrefl _
      rw [Chain.publishWritten, he]
      dsimp only
      rw [Chain.publish, if_neg hnone]
  rw [writings_cons htext, hwritten, onChain, hpublish, h.isIdle.next_eq]

end Tally.InStep

/-- At the beginning a replay is in step with the fold. -/
theorem Tally.inStep_start (s : Session) (initial : Status) :
    (Tally.start s initial).InStep ((Chain.empty.subscribe .everything).1.next 0).1
      (Replay.start initial s) where
  agrees := ⟨rfl, rfl, (start_eq initial s).2.2, rfl⟩
  lastBlock_eq := rfl
  isIdle := Chain.isIdle_subscribe_empty .everything

/-! ## Files -/

/-- A replay is a fold over the lines of the file. The lines are the bytes between the line
    feeds, without a carriage return at their end. If one of them is no text, the first such line
    is named. Otherwise the replay has produced what the fold has, up to the event for which
    there is no block, if the file has as many. And so it is with the lines before any of them,
    from which the replay goes on: on the chain to which they lead, nothing waits in the feed
    before the event in writing on the next line is published, and then it delivers what follows
    from that event, and nothing else. -/
theorem replay_eq_fold (s : Session) (initial : Status) {bytes : List UInt8}
    {raw : List (List UInt8)} (hraw : Text.IsSplit bytes raw) :
    (∀ before line after, raw.map Text.dropReturn = before ++ line :: after →
      (∀ l ∈ before, Text.decode? l ≠ none) → Text.decode? line = none →
      replay s initial bytes = .error ⟨before.length + 1⟩ ∧
      UnreadableLine.message ⟨before.length + 1⟩ =
        "failed to read line " ++ Text.Decimal.render (before.length + 1)) ∧
    ∀ ls : List String, (raw.map Text.dropReturn).map Text.decode? = ls.map some →
      ∃ r read rest, replay s initial bytes = .ok r ∧ ls = read ++ rest ∧
        (rest = [] ∨ ∃ l rest', rest = l :: rest' ∧ (eventOn? l).isSome = true ∧
          (read.filterMap eventOn?).length + 1 = UInt64.size) ∧
        (read.foldl (Tally.take initial) (.start s initial)).Agrees r ∧
        ∀ before after, read = before ++ after →
          (before.foldl (Tally.take initial) (.start s initial)).Agrees
            (ofLines s initial (writings before)) ∧
          r = onChain initial 0 (chainAfter (writings before))
            (ofLines s initial (writings before)) (writings (after ++ rest)) ∧
          ∀ l after' w, after = l :: after' → writing? l = some w →
            (chainAfter (writings before)).DeliversOnly 0 w
              ((before.foldl (Tally.take initial) (.start s initial)).item w) := by
  rw [hraw.eq_splitLines]
  refine ⟨fun before line after hlines hbefore hline => ⟨?_, rfl⟩, fun ls hls => ?_⟩
  · have herror : Text.decodeLines 1 (Text.lines bytes) = .error (before.length + 1) := by
      rw [Text.lines, hlines, Text.decodeLines_eq_error 1 hbefore hline, Nat.add_comm]
    rw [replay, readFile, herror]
    rfl
  · have hreplay : replay s initial bytes = .ok (ofLines s initial (writings ls)) := by
      rw [replay, readFile_eq (Text.decodeLines_eq_ok_iff.2 hls)]
      rfl
    obtain ⟨read, rest, hsplit, hrest, hread⟩ :=
      (Tally.inStep_start s initial).exists_read initial ls
    refine ⟨_, read, rest, hreplay, hsplit, ?_, ?_, fun before after hbefore => ?_⟩
    · rw [Tally.events_foldl] at hrest
      rwa [show (Tally.start s initial).events = 0 from rfl, Nat.zero_add] at hrest
    · -- What was read ends the file, or an event ends the replay there.
      obtain ⟨hstep, hsame, -⟩ := hread read [] (List.append_nil read).symm
      have hend : ofLines s initial (writings ls) = ofLines s initial (writings read) := by
        refine hsame.trans ?_
        rcases hrest with rfl | ⟨l, rest', rfl, hevent, hfull⟩
        · rfl
        · exact hstep.onChain_of_full hevent hfull rest'
      exact hend ▸ hstep.agrees
    · obtain ⟨hstep, hsame, hdelivers⟩ := hread before after hbefore
      exact ⟨hstep.agrees, hsame, hdelivers⟩

/-- The third line of a file is no text, after a blank line and a comment. In the file after it,
    two lines are no events, and the joiner is asked after a rematch, which is the second of
    three events. -/
theorem replay_eq_fold_rematch :
    ∃ (s : Session) (ls : List String) (r : Replay),
      Session.create ⟨7⟩ ⟨.fill 0xc1, .fill 0x01⟩ (some (.fill 0x01)) = .ok s ∧
      replay s .shuffling (Text.file [" ", "# later"] ++ 0xff :: Text.lineFeed :: Text.file ls) =
        .error ⟨3⟩ ∧
      replay s .shuffling (Text.file ls) = .ok r ∧
      r.malformed = 2 ∧ r.snapshots.length = 4 ∧ r.actions = [.shuffle ⟨7⟩ .joiner] ∧
      r.session.floor = some ⟨2, 0⟩ ∧ r.session.creatorShuffle = some ⟨3, 0⟩ ∧
      (chainAfter (writings (ls.take 4))).DeliversOnly 0 ⟨"Rematch", "7", none⟩
        (.entry ⟨⟨2, 0⟩, .rematch ⟨7⟩⟩) := by
  let ls := ["# later", "Rematch", "[\"Shuffle\",\"7\",null]", "[\"Rematch\",\"8\"]",
    "[\"Rematch\",\"7\"]",
    "[\"ShuffleDeck\",\"7\",\"0xc1c1c1c1c1c1c1c1c1c1c1c1c1c1c1c1c1c1c1c1\"]"]
  let s := Session.fresh ⟨7⟩ ⟨.fill 0xc1, .fill 0x01⟩ .joiner
  let head := Text.file [" ", "# later"]
  have hs : Session.create ⟨7⟩ ⟨.fill 0xc1, .fill 0x01⟩ (some (.fill 0x01)) = .ok s := rfl
  have hends : (ls.map fun l => String.ofList (Text.chomp l.toList)) = ls := by decide +kernel
  have hlines : Text.decodeLines 1 (Text.lines (Text.file ls)) = .ok ls := by
    rw [Text.decodeLines_lines_file (by decide +kernel), hends]
  have hhead : Text.decodeLines 1 (Text.lines head) = .ok [" ", "# later"] := by
    rw [Text.decodeLines_lines_file (by decide +kernel)]
    decide +kernel
  -- The lines before the one that is no text can be decoded,
  -- as they were read in the file by themselves.
  have hreadable : ∀ l ∈ Text.lines head, Text.decode? l ≠ none := by
    intro l hl hnone
    have hmem : Text.decode? l ∈ (Text.lines head).map Text.decode? := List.mem_map_of_mem hl
    rw [Text.decodeLines_eq_ok_iff.1 hhead, hnone] at hmem
    simp at hmem
  obtain ⟨hunreadable, -⟩ := replay_eq_fold s .shuffling
    (Text.isSplit_splitLines (head ++ 0xff :: Text.lineFeed :: Text.file ls))
  obtain ⟨herror, -⟩ := hunreadable (Text.lines head) [0xff] (Text.lines (Text.file ls))
    (by decide +kernel) hreadable (by decide +kernel)
  rw [show (Text.lines head).length + 1 = 3 by decide +kernel] at herror
  obtain ⟨-, hreads⟩ := replay_eq_fold s .shuffling (Text.isSplit_splitLines (Text.file ls))
  obtain ⟨r, read, rest, hreplay, hsplit, hrest, hagrees, hdelivers⟩ :=
    hreads ls (Text.decodeLines_eq_ok_iff.1 hlines)
  have hread : read = ls := by
    rcases hrest with rfl | ⟨-, -, -, -, hfull⟩
    · rw [hsplit, List.append_nil]
    · have hevents := List.length_filterMap_le eventOn? read
      have hlength : 6 = read.length + rest.length := by rw [← List.length_append, ← hsplit]; rfl
      rw [UInt64.size] at hfull
      omega
  subst hread
  obtain ⟨-, -, hdelivers⟩ := hdelivers (ls.take 4) (ls.drop 4) rfl
  have hitem : ((ls.take 4).foldl (Tally.take .shuffling) (.start s .shuffling)).item
      ⟨"Rematch", "7", none⟩ = .entry ⟨⟨2, 0⟩, .rematch ⟨7⟩⟩ := by
    decide +kernel
  exact ⟨s, ls, r, hs, herror, hreplay, hagrees.malformed_eq.trans (by decide +kernel),
    (congrArg List.length hagrees.snapshots_eq).trans (by decide +kernel),
    hagrees.actions_eq.trans (by decide +kernel),
    (congrArg Session.floor hagrees.session_eq).trans (by decide +kernel),
    (congrArg Session.creatorShuffle hagrees.session_eq).trans (by decide +kernel),
    hitem ▸ hdelivers _ _ _ rfl (by decide +kernel)⟩

end ShuffleWatch
