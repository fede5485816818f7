import ShuffleWatch.Proofs.Replay.Direct
import ShuffleWatch.Proofs.Text.Files
import ShuffleWatch.Proofs.Watch.Attendance

/-!
# Replays and live watches

A replay shows what a live watch would have shown. The watch follows a chain on which
the same events are published, and is run until it waits after each of them
(`Watch.rehearsal`). The two go about it differently: the watch has a feed of its game
alone, holds requests back until that has caught up, and reads the status from the
chain after a rematch. But what they make of an item that both feeds deliver is the
same (`Session.digest`), and an item of another game changes nothing. So a step of the
one is a step of the other (`InStep.publishWritten`), they stay in step
(`InStep.rehearse`), and in the end the replay of a file is the rehearsal of its events
(`rehearsal_of_replay`).
-/

namespace ShuffleWatch

namespace Watch

/-- Publishes written events one after the other, runs the watch until it waits after
    each of them, takes the actions and asks for a snapshot: the answers, and all the
    actions. It ends when there is no block left for an event. -/
def rehearse : Watch → List WrittenEvent → List (Except NoReply Reply) × List Action
  | _, [] => ([], [])
  | w, e :: es =>
    if (w.access.chain.publishWritten e).2 = .noBlockLeft then ([], [])
    else
      let u := (w.accept (.happen (.publishWritten e))).settle
      let (v, reply) := (u.accept .takeActions).ask .snapshot
      let (replies, actions) := v.rehearse es
      (reply :: replies, u.outlet.queue ++ actions)

/-- Starts the watch, and then publishes written events one after the other: the answers
    to a request for a snapshot after each of them, and all the actions. -/
def rehearsal (w : Watch) (es : List WrittenEvent) : List (Except NoReply Reply) × List Action :=
  let u := (w.accept .start).settle
  let (replies, actions) := (u.accept .takeActions).rehearse es
  (replies, u.outlet.queue ++ actions)

end Watch

variable {s : Session}

/-! ## In step -/

/-- A watch and a replay are in step: their sessions are the same, nothing waits in
    their feeds, and their chains will log the next event at the same position. -/
structure InStep (initial : Status) (w : Watch) (feed : Nat) (c : Chain) (mirror : Nat)
    (r : Replay) : Prop where
  session_eq : w.session = r.session
  attends : w.Attends feed initial
  isDrained : w.IsDrained
  idle : w.access.chain.IsIdle feed w.filter
  mirror_idle : c.IsIdle mirror .everything
  lastBlock_eq : w.access.chain.lastBlock = c.lastBlock

namespace InStep

variable {initial : Status} {w : Watch} {feed mirror : Nat} {c : Chain} {r : Replay}

/-- A written event that is published keeps a watch and a replay in step: both digest the
    item that comes of it. -/
theorem publishWritten (h : InStep initial w feed c mirror r) {e : WrittenEvent}
    (hleft : (c.publishWritten e).2 ≠ .noBlockLeft) :
    ∃ item d u v, (c.publishWritten e).1.next mirror = (d, .item item) ∧
      d.lastBlock = (c.publishWritten e).1.lastBlock ∧
      (w.accept (.happen (.publishWritten e))).settle = u ∧
      (u.accept .takeActions).ask .snapshot =
        (v, .ok (.shown ((r.session.digest initial item).1.snapshot none))) ∧
      u.outlet.queue = (r.session.digest initial item).2.toList ∧
      InStep initial v feed d mirror (r.receive initial item) := by
  rw [ne_eq, Chain.publishWritten_eq_noBlockLeft_iff] at hleft
  obtain ⟨item, hoffer⟩ := Option.ne_none_iff_exists'.1 hleft
  obtain ⟨d, hnext, hmirror, hblock, -⟩ :=
    h.mirror_idle.undergo_of_some (h := .publishWritten e) nofun hoffer
  rw [← Chain.offered?_congr h.lastBlock_eq] at hoffer
  -- The feed of the watch is offered the same item, as both chains have come to the same block.
  obtain ⟨u, hsettle, hu, hidle, hblock', hsession, houtlet⟩ :=
    h.attends.digest_publishWritten h.isDrained h.idle hoffer
  rw [h.session_eq] at hsession houtlet
  obtain ⟨mailbox, hask, hasked⟩ := hu.takeActions.ask_snapshot hidle
  have hdrained := h.isDrained.takeActions houtlet
  have hshown : (u.accept .takeActions).session.snapshot none =
      (r.session.digest initial item).1.snapshot none := congrArg (Session.snapshot · none) hsession
  rw [hshown] at hask
  refine ⟨item, d, u, _, hnext, hblock, hsettle, hask, by rw [houtlet], ?_, hasked,
    ⟨hdrained.queue_eq, hdrained.isOpen_eq, hdrained.capacity_pos⟩, hidle, hmirror, ?_⟩
  · rw [(Replay.receive_eq r initial item).1]
    exact hsession
  · rw [hblock]
    exact hblock'.trans (Chain.lastBlock_publishWritten_congr h.lastBlock_eq)

/-- A watch and a replay that are in step show the same and ask for the same actions. -/
theorem rehearse (h : InStep initial w feed c mirror r) (es : List WrittenEvent) :
    ∃ shown actions,
      (Replay.onChain initial mirror c r (es.map some)).snapshots = r.snapshots ++ shown ∧
      (Replay.onChain initial mirror c r (es.map some)).actions = r.actions ++ actions ∧
      w.rehearse es = (shown.map fun snapshot => .ok (.shown snapshot), actions) ∧
      (c.lastBlock.toNat + es.length < UInt64.size → shown.length = es.length) := by
  induction es generalizing w c r with
  | nil => exact ⟨[], [], by simp [Replay.onChain], by simp [Replay.onChain], rfl, fun _ => rfl⟩
  | cons e es ih =>
    -- Both chains are in the same block, and so run out of blocks at the same event.
    have hleft : (w.access.chain.publishWritten e).2 = .noBlockLeft ↔
        (c.publishWritten e).2 = .noBlockLeft := by
      rw [Chain.publishWritten_eq_noBlockLeft_iff, Chain.publishWritten_eq_noBlockLeft_iff,
        Chain.offered?_congr h.lastBlock_eq]
    rw [List.map_cons, Replay.onChain, Watch.rehearse]
    by_cases hnone : (c.publishWritten e).2 = .noBlockLeft
    · have hidle : (c.publishWritten e).1.IsIdle mirror .everything :=
        h.mirror_idle.undergo_of_none (h := .publishWritten e) (by simp)
          (Chain.publishWritten_eq_noBlockLeft_iff.1 hnone)
      rw [hidle.next_eq, if_pos (hleft.2 hnone)]
      refine ⟨[], [], by simp, by simp, rfl, fun hroom => ?_⟩
      rw [List.length_cons] at hroom
      exact absurd hnone (Chain.lastBlock_publishWritten_le (by omega)).1
    · obtain ⟨item, d, u, v, hnext, hblock, hsettle, hask, houtlet, hstep⟩ := h.publishWritten hnone
      obtain ⟨shown, actions, hshown, hactions, hrest, hlength⟩ := ih hstep
      obtain ⟨-, hsnapshots, hrequests⟩ := Replay.receive_eq r initial item
      rw [hnext, if_neg (mt hleft.1 hnone), hsettle]
      dsimp only
      rw [hask, hrest, hshown, hactions, hsnapshots, hrequests, houtlet]
      refine ⟨_ :: shown, _ ++ actions, List.append_assoc _ _ _, List.append_assoc _ _ _, rfl,
        fun hroom => ?_⟩
      rw [List.length_cons] at hroom
      have hle := (Chain.lastBlock_publishWritten_le (c := c) (w := e) (by omega)).2
      rw [List.length_cons, List.length_cons, hlength (by rw [hblock]; omega)]

end InStep

/-! ## From the start -/

/-- A watch that is started on a new chain adopts the status, and attends to its feed. -/
theorem Watch.settle_start {game : GameId} {players : Players} {self : Option Address}
    (h : Session.create game players self = .ok s) (initial : Status) (backoff : Backoff)
    (capacity : Nat) (draws : List UInt64) :
    ∃ v, ((Watch.create s backoff (Chain.empty.setStatus game initial) (.ofCapacity capacity)
        draws).accept .start).settle = v ∧ v.Attends 0 initial ∧
      v.access.chain.IsIdle 0 v.filter ∧ v.access.chain.lastBlock = 0 ∧
      v.session = (s.seed initial).1 ∧
      v.outlet = { Outlet.ofCapacity capacity with queue := (s.seed initial).2.toList } := by
  obtain ⟨role, -, rfl⟩ := Session.create_eq_ok h
  let s := Session.fresh game players role
  let w := (Watch.create s backoff (Chain.empty.setStatus game initial) (.ofCapacity capacity)
    draws).accept .start
  have hstatus : w.access.chain.statusOf w.session.game = some initial := if_pos rfl
  have hconnect := Watch.connect_eq (w := w) rfl rfl hstatus
  have hgame : (s.awaitBacklog.seed initial).1.game = game := Session.game_perform (.seed initial)
  have hattends : w.connect.Attends 0 initial := by
    rw [hconnect]
    exact ⟨rfl, rfl, Session.seed_awaitBacklog_snd, rfl, rfl, rfl, rfl, if_pos hgame⟩
  have hdrained : w.connect.IsDrained := by
    rw [hconnect]
    exact ⟨rfl, rfl, Nat.lt_of_lt_of_le Nat.zero_lt_one (Nat.le_max_right _ _)⟩
  -- Nothing but the mark at the end of an empty history waits in the new feed.
  let d := ((w.access.chain.subscribe w.filter).1.next 0).1
  have hnext : w.connect.access.chain.next 0 = (d, .item .caughtUp) := by
    rw [hconnect]
    rfl
  have hidle : d.IsIdle 0 w.filter :=
    ⟨⟨0, w.filter, [], 1 + liveCapacity, true⟩, rfl, rfl, rfl, rfl, Nat.add_pos_left Nat.one_pos _⟩
  have hfilter : w.connect.filter = w.filter := by
    rw [hconnect]
    exact congrArg (fun game => Filter.mk (some game) _) hgame
  have hstatus' : d.statusOf = w.connect.access.chain.statusOf := by
    rw [hconnect]
    rfl
  have hlost : (w.connect.session.receive .caughtUp).2 ≠ .disconnected := by
    rw [ne_eq, Session.receive_eq_disconnected_iff]
    exact nofun
  obtain ⟨v, n, hrests, hn, hv, hchain, hsession, houtlet⟩ :=
    hattends.restsAfter_take hdrained hnext (hfilter ▸ hidle) hstatus' hlost
  have hquiet : s.takeAction = (s, none) := by cases role <;> rfl
  have hdigest : w.connect.session.digest initial .caughtUp = s.seed initial := by
    rw [hconnect]
    exact Session.digest_caughtUp_seed_awaitBacklog rfl hquiet
  rw [hdigest] at hsession houtlet
  have hfilter' : v.filter = w.filter := by
    rw [Watch.filter, hsession]
    exact congrArg (fun game => Filter.mk (some game) _) (Session.game_perform (.seed initial))
  have hrests' : Watch.RestsAfter v (n + 1) w :=
    .step (Watch.step?_of_connecting rfl rfl rfl) hrests
  refine ⟨v, hrests'.settle_eq (by omega), hv, ?_, ?_, hsession, ?_⟩
  · rw [hchain, hfilter']
    exact hidle
  · rw [hchain]
    rfl
  · rw [houtlet, hconnect]
    rfl

/-- So it gets in step with a replay on a chain of its own. -/
theorem exists_inStep {game : GameId} {players : Players} {self : Option Address}
    (h : Session.create game players self = .ok s) (initial : Status) (backoff : Backoff)
    (capacity : Nat) (draws : List UInt64) :
    ∃ u, ((Watch.create s backoff (Chain.empty.setStatus game initial) (.ofCapacity capacity)
        draws).accept .start).settle = u ∧
      u.outlet.queue = (Replay.start initial s).actions ∧
      InStep initial (u.accept .takeActions) 0 ((Chain.empty.subscribe .everything).1.next 0).1 0
        (Replay.start initial s) := by
  obtain ⟨v, hsettle, hv, hidle, hblock, hsession, houtlet⟩ :=
    Watch.settle_start h initial backoff capacity draws
  obtain ⟨hstart, -, hactions⟩ := Replay.start_eq initial s
  let w := Watch.create s backoff Chain.empty (.ofCapacity capacity) draws
  -- The rehearsal sets the status on chain and the replay
  -- does not, yet both sessions have adopted it.
  have hdrained : w.IsDrained :=
    ⟨rfl, rfl, Nat.lt_of_lt_of_le Nat.zero_lt_one (Nat.le_max_right _ _)⟩
  exact ⟨v, hsettle, by rw [houtlet, hactions], hsession.trans hstart.symm, hv.takeActions,
    hdrained.takeActions houtlet, hidle, Chain.isIdle_subscribe_empty .everything, hblock⟩

/-- What a live watch of a new chain shows and asks for is what a replay shows and asks
    for. -/
theorem rehearsal_eq {game : GameId} {players : Players} {self : Option Address}
    (h : Session.create game players self = .ok s) (initial : Status) (backoff : Backoff)
    (capacity : Nat) (draws : List UInt64) (es : List WrittenEvent) :
    (Watch.create s backoff (Chain.empty.setStatus game initial) (.ofCapacity capacity)
        draws).rehearsal es =
      ((Replay.ofLines s initial (es.map some)).snapshots.map fun shown => .ok (.shown shown),
        (Replay.ofLines s initial (es.map some)).actions) ∧
    (es.length < UInt64.size →
      (Replay.ofLines s initial (es.map some)).snapshots.length = es.length) := by
  obtain ⟨u, hsettle, houtlet, hstep⟩ := exists_inStep h initial backoff capacity draws
  obtain ⟨shown, actions, hshown, hactions, hrehearse, hlength⟩ := hstep.rehearse es
  obtain ⟨-, hstart, -⟩ := Replay.start_eq initial s
  -- From the start on the two go in step, the feed of the
  -- replay being empty as that of the watch is.
  have hreplay : Replay.ofLines s initial (es.map some) = Replay.onChain initial 0
      ((Chain.empty.subscribe .everything).1.next 0).1 (Replay.start initial s) (es.map some) := rfl
  have hlast : ((Chain.empty.subscribe .everything).1.next 0).1.lastBlock.toNat = 0 := rfl
  rw [hlast, Nat.zero_add] at hlength
  rw [hreplay, Watch.rehearsal, hsettle]
  dsimp only
  rw [hrehearse, houtlet, hshown, hactions, hstart]
  exact ⟨rfl, hlength⟩

/-- The replay of a file, each line of which is an event in JSON, agrees with a live
    watch of the same session. The watch is started on a new chain, which reports for its
    game the initial status of the replay throughout, and is run until it waits after
    each of the events is published. It shows the same after each event, and asks for the
    same actions in the same order. -/
theorem rehearsal_of_replay {game : GameId} {players : Players} {self : Option Address}
    (h : Session.create game players self = .ok s) (initial : Status) (backoff : Backoff)
    (capacity : Nat) (draws : List UInt64) {ls : List String} {es : List WrittenEvent}
    (hlines : ∀ l ∈ ls, '\n' ∉ l.toList)
    (hevents : List.Forall₂ (fun l e => Replay.written? l.toList = some e) ls es) :
    ∃ r, replay s initial (Text.file ls) = .ok r ∧
      (Watch.create s backoff (Chain.empty.setStatus game initial) (.ofCapacity capacity)
        draws).rehearsal es = (r.snapshots.map fun shown => .ok (.shown shown), r.actions) ∧
      (ls.length < UInt64.size → r.snapshots.length = ls.length) := by
  -- Every line is written as an event, hence none of them is blank or a comment.
  have hwritten : (ls.filterMap Replay.content?).map Replay.written? = es.map some := by
    clear hlines
    induction hevents with
    | nil => rfl
    | @cons l e ls es hline _ ih =>
      obtain ⟨cs, hcs, he⟩ := Option.bind_eq_some_iff.1 (Replay.content?_bind_written? hline)
      rw [List.filterMap_cons, hcs]
      exact congrArg₂ List.cons he ih
  obtain ⟨hagree, hlength⟩ := rehearsal_eq h initial backoff capacity draws es
  refine ⟨Replay.ofLines s initial (es.map some), ?_, hagree, ?_⟩
  · rw [replay, Replay.readFile_file hlines, hwritten]
    rfl
  · rw [hevents.length_eq]
    exact hlength

/-- The joiner is asked to shuffle before and after a rematch, with an undecodable event
    and one of another game in between. -/
theorem rehearsal_of_replay_rematch :
    ∃ (s : Session) (r : Replay) (ls : List String) (es : List WrittenEvent) (w : Watch),
      Session.create ⟨7⟩ ⟨.fill 0xc1, .fill 0x01⟩ (some (.fill 0x01)) = .ok s ∧
      replay s .shuffling (Text.file ls) = .ok r ∧
      w.rehearsal es = (r.snapshots.map fun shown => .ok (.shown shown), r.actions) ∧
      r.snapshots.length = 5 ∧ r.actions = [.shuffle ⟨7⟩ .joiner, .shuffle ⟨7⟩ .joiner] := by
  let creator := "0xc1c1c1c1c1c1c1c1c1c1c1c1c1c1c1c1c1c1c1c1"
  let ls := ["[\"ShuffleDeck\",\"7\",\"0xc1c1c1c1c1c1c1c1c1c1c1c1c1c1c1c1c1c1c1c1\"]",
    "[\"Shuffle\",\"7\",null]", " [\"Rematch\",\"8\"]", "[\"Rematch\",\"7\"] ",
    "[\"ShuffleDeck\",\"7\",\"0xc1c1c1c1c1c1c1c1c1c1c1c1c1c1c1c1c1c1c1c1\"]\r"]
  let es : List WrittenEvent := [⟨"ShuffleDeck", "7", some creator⟩, ⟨"Shuffle", "7", none⟩,
    ⟨"Rematch", "8", none⟩, ⟨"Rematch", "7", none⟩, ⟨"ShuffleDeck", "7", some creator⟩]
  have hs : Session.create ⟨7⟩ ⟨.fill 0xc1, .fill 0x01⟩ (some (.fill 0x01)) =
      .ok (Session.fresh ⟨7⟩ ⟨.fill 0xc1, .fill 0x01⟩ .joiner) := rfl
  have hlines : ∀ l ∈ ls, '\n' ∉ l.toList := by decide +kernel
  have hevents : List.Forall₂ (fun l e => Replay.written? l.toList = some e) ls es := by
    refine .cons ?_ (.cons ?_ (.cons ?_ (.cons ?_ (.cons ?_ .nil)))) <;> decide +kernel
  obtain ⟨r, hreplay, hagree, hlength⟩ := rehearsal_of_replay hs .shuffling
    (.ofRange 1000000 1000000) 4 [] hlines hevents
  refine ⟨_, r, ls, es, _, hs, hreplay, hagree, hlength (by decide), ?_⟩
  have hactions := congrArg Prod.snd hagree
  rw [← show _ = r.actions from hactions]
  decide +kernel

end ShuffleWatch
