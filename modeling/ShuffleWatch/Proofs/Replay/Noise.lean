import Mathlib.Data.List.ReduceOption
import ShuffleWatch.Proofs.Replay.Direct
import ShuffleWatch.Proofs.Session.Placement
import ShuffleWatch.Proofs.Session.Verdicts
import ShuffleWatch.Proofs.Text.Deletion

/-!
# Noise in a file

Much of what is on the lines of a file says nothing to a session (`Session.IsNoise`): blank
lines and comments, what is no event, the events of other games, and those that name
strangers. A replay of the file without such lines is in parallel with the replay of the
file (`InParallel`). An event is logged in an earlier block by the former, if lines with
events were deleted before it, but in both of them it comes after all the others, so the
same comes of it (`InParallel.takeLine`); and nothing comes of a line that is deleted
(`Replay.takeLine_of_isNoise`). So the two replays ask for the same actions, and show the same after
each line that both of them have (`replay_deleteLines`).
-/

namespace ShuffleWatch

open Text (deleteFrom deleteFrom_sublist deleteLines)

namespace Replay

/-- What is written on the line, if it is an event in writing. -/
def writing? (l : String) : Option WrittenEvent := (content? l).bind written?

/-- The event on the line, if there is one. -/
def eventOn? (l : String) : Option Event := (writing? l).bind (·.event.toOption)

/-- What a replay reads on the lines. -/
def writings (ls : List String) : List (Option WrittenEvent) :=
  (ls.filterMap content?).map written?

/-- What becomes of a session with a line, where the last event is in this block, and the
    action that the client has to take. -/
def takeLine (initial : Status) (block : Nat) (s : Session) (l : String) :
    Session × Option Action :=
  match eventOn? l with
  | some event => s.digest initial (.entry ⟨.blockStart (.ofNat (block + 1)), event⟩)
  | none => (s, none)

/-- The block of the last event after a line, where this is the one before it. -/
def blockAfter (block : Nat) (l : String) : Nat := block + (eventOn? l).toList.length

/-- What a replay shows after each of the lines, or that it shows nothing after it. -/
def shownOn (initial : Status) : Nat → Session → List String → List (Option Snapshot)
  | _, _, [] => []
  | block, s, l :: ls =>
    let t := (takeLine initial block s l).1
    ((writing? l).map fun _ => t.snapshot none) :: shownOn initial (blockAfter block l) t ls

/-- The actions that a replay asks for on the lines. -/
def requestedOn (initial : Status) : Nat → Session → List String → List Action
  | _, _, [] => []
  | block, s, l :: ls =>
    let (t, action) := takeLine initial block s l
    action.toList ++ requestedOn initial (blockAfter block l) t ls

end Replay

open Replay

/-- A line that says nothing to the session. -/
inductive Session.IsNoise (s : Session) (l : String) : Prop
  | blank (h : Text.trim l.toList = [])
  | comment {cs : List Char} (h : Text.trim l.toList = '#' :: cs)
  | unwritten {cs : List Char} (h : content? l = some cs) (hw : written? cs = none)
  | undecodable {w : WrittenEvent} {error : Error} (h : writing? l = some w)
      (hw : w.event = .error error)
  | otherGame {event : Event} (h : eventOn? l = some event) (hgame : event.game ≠ s.game)
  | stranger {event : Event} (h : eventOn? l = some event)
      (hstranger : event.NamesStranger s.players)

/-- Two sessions in parallel: they differ in nothing but positions, are about the game and
    the players of the session `s₀`, and have recorded nothing after the given blocks. -/
structure InParallel (s₀ : Session) (block block' : Nat) (s t : Session) : Prop where
  unplaced_eq : s.unplaced = t.unplaced
  game_eq : s.game = s₀.game
  players_eq : s.players = s₀.players
  isWithin : s.IsWithin block
  isWithin' : t.IsWithin block'
  le : block' ≤ block

variable {s s₀ t : Session} {initial : Status} {block block' number : Nat} {l : String}
  {ls : List String} {gone : Nat → Bool} {cs : List Char} {w : WrittenEvent} {event : Event}

/-! ## Taking in a line -/

namespace Replay

theorem eventOn?_of_unwritten (h : writing? l = none) : eventOn? l = none := by
  rw [eventOn?, h, Option.bind_none]

theorem eventOn?_of_error {error : Error} (h : writing? l = some w) (hw : w.event = .error error) :
    eventOn? l = none := by
  rw [eventOn?, h, Option.bind_some, hw, Except.toOption]

theorem eventOn?_of_event (h : writing? l = some w) (hw : w.event = .ok event) :
    eventOn? l = some event := by
  rw [eventOn?, h, Option.bind_some, hw, Except.toOption]

theorem writing?_of_blank (h : content? l = none) : writing? l = none := by
  rw [writing?, h, Option.bind_none]

theorem writing?_of_content (h : content? l = some cs) : writing? l = written? cs := by
  rw [writing?, h, Option.bind_some]

theorem takeLine_of_none (h : eventOn? l = none) : takeLine initial block s l = (s, none) := by
  rw [takeLine, h]

theorem takeLine_of_some (h : eventOn? l = some event) :
    takeLine initial block s l =
      s.digest initial (.entry ⟨.blockStart (.ofNat (block + 1)), event⟩) := by
  rw [takeLine, h]

theorem takeLine_frame (initial : Status) (block : Nat) (s : Session) (l : String) :
    (takeLine initial block s l).1.game = s.game ∧
      (takeLine initial block s l).1.players = s.players := by
  rcases h : eventOn? l with _ | event
  · rw [takeLine_of_none h]
    exact ⟨rfl, rfl⟩
  · rw [takeLine_of_some h]
    exact ⟨Session.game_digest, Session.players_digest⟩

/-- Nothing becomes of a session with noise. -/
theorem takeLine_of_isNoise (h : s₀.IsNoise l) (hgame : s.game = s₀.game)
    (hplayers : s.players = s₀.players) : takeLine initial block s l = (s, none) := by
  cases h with
  | blank h =>
    have hcontent : content? l = none := by rw [content?, h]
    exact takeLine_of_none (eventOn?_of_unwritten (writing?_of_blank hcontent))
  | comment h =>
    have hcontent : content? l = none := by
      rw [content?, h]
      rfl
    exact takeLine_of_none (eventOn?_of_unwritten (writing?_of_blank hcontent))
  | unwritten h hw =>
    exact takeLine_of_none (eventOn?_of_unwritten ((writing?_of_content h).trans hw))
  | undecodable h hw => exact takeLine_of_none (eventOn?_of_error h hw)
  | otherGame h hne =>
    rw [takeLine_of_some h]
    exact Session.digest_of_ne_game (hgame ▸ hne)
  | @stranger event h hstranger =>
    -- The event is filtered, be it as one of a stranger or for its position.
    have hfiltered : s.filtered? ⟨.blockStart (.ofNat (block + 1)), event⟩ ≠ none := fun hnone => by
      have haccept := (Session.filtered?_eq_none_iff.1 hnone).2.2
      rw [hplayers, Players.accept_eq_false_iff.2 hstranger] at haccept
      cases haccept
    obtain ⟨why, hwhy⟩ := Option.ne_none_iff_exists'.1 hfiltered
    rw [takeLine_of_some h]
    exact Session.digest_of_filtered hwhy

theorem isWithin_takeLine (h : s.IsWithin block) (hroom : blockAfter block l < UInt64.size) :
    (takeLine initial block s l).1.IsWithin (blockAfter block l) := by
  rw [blockAfter] at *
  rcases hl : eventOn? l with _ | event
  · rw [takeLine_of_none hl]
    exact h
  · rw [hl] at hroom
    rw [takeLine_of_some hl]
    exact h.digest hroom

/-- What becomes of a session with a line does not depend on the block. -/
theorem unplaced_takeLine (initial : Status) (h : s.IsWithin block)
    (hroom : blockAfter block l < UInt64.size) (block' : Nat) :
    (takeLine initial block s l).1.unplaced = (takeLine initial block' s.unplaced l).1.unplaced ∧
    (takeLine initial block s l).2 = (takeLine initial block' s.unplaced l).2 := by
  rw [blockAfter] at hroom
  rcases hl : eventOn? l with _ | event
  · rw [takeLine_of_none hl, takeLine_of_none hl]
    exact ⟨rfl, rfl⟩
  · rw [hl] at hroom
    rw [takeLine_of_some hl, takeLine_of_some hl]
    exact Session.unplaced_digest (h (block + 1) (Nat.lt_succ_self _) hroom)

/-! ## Taking in lines -/

/-- What a replay does with the first of the lines. -/
theorem directFrom_cons (initial : Status) (block : Nat) (r : Replay) (l : String)
    (ls : List String) :
    ∃ u, directFrom initial block r (writings (l :: ls)) =
        directFrom initial (blockAfter block l) u (writings ls) ∧
      u.session = (takeLine initial block r.session l).1 ∧
      u.actions = r.actions ++ (takeLine initial block r.session l).2.toList ∧
      u.snapshots = r.snapshots ++
        ((writing? l).map fun _ =>
          (takeLine initial block r.session l).1.snapshot none).toList := by
  rw [blockAfter]
  -- The line is blank, or says nothing that is written as
  -- an event, or cannot be decoded, or has an event.
  rcases hcontent : content? l with _ | cs
  · have hwriting := writing?_of_blank hcontent
    have hevent := eventOn?_of_unwritten hwriting
    rw [takeLine_of_none hevent, writings, List.filterMap_cons_none hcontent, hevent, hwriting]
    exact ⟨r, rfl, rfl, (List.append_nil _).symm, (List.append_nil _).symm⟩
  have hwriting := writing?_of_content hcontent
  rw [writings, List.filterMap_cons_some hcontent, List.map_cons, ← writings, hwriting]
  rcases hw : written? cs with _ | w
  · have hevent := eventOn?_of_unwritten (hwriting.trans hw)
    rw [takeLine_of_none hevent, hevent]
    exact ⟨r.miss, rfl, rfl, (List.append_nil _).symm, (List.append_nil _).symm⟩
  rw [directFrom]
  rcases he : w.event with error | event
  · have hevent := eventOn?_of_error (hwriting.trans hw) he
    rw [takeLine_of_none hevent, hevent]
    exact ⟨r.miss.display, rfl, rfl, (List.append_nil _).symm, List.reverse_cons⟩
  · have hevent := eventOn?_of_event (hwriting.trans hw) he
    rw [takeLine_of_some hevent, hevent]
    obtain ⟨hsession, hsnapshots, hactions⟩ := receive_eq r initial
      (.entry ⟨.blockStart (.ofNat (block + 1)), event⟩)
    exact ⟨_, rfl, hsession, hactions, hsnapshots⟩

theorem reduceOption_cons {α : Type} (o : Option α) (os : List (Option α)) :
    (o :: os).reduceOption = o.toList ++ os.reduceOption := by
  cases o <;> rfl

/-- What a replay shows and asks for on some lines comes after what it did before. -/
theorem directFrom_writings (initial : Status) (block : Nat) (r : Replay) (ls : List String) :
    (directFrom initial block r (writings ls)).snapshots =
      r.snapshots ++ (shownOn initial block r.session ls).reduceOption ∧
    (directFrom initial block r (writings ls)).actions =
      r.actions ++ requestedOn initial block r.session ls := by
  induction ls generalizing block r with
  | nil => exact ⟨(List.append_nil _).symm, (List.append_nil _).symm⟩
  | cons l ls ih =>
    obtain ⟨u, hrest, hsession, hactions, hsnapshots⟩ := directFrom_cons initial block r l ls
    obtain ⟨hshown, hrequested⟩ := ih (blockAfter block l) u
    rw [hrest, hshown, hrequested, hsnapshots, hactions, hsession, shownOn, requestedOn,
      reduceOption_cons]
    exact ⟨List.append_assoc _ _ _, List.append_assoc _ _ _⟩

/-- Something is shown after each line with a written event. -/
theorem forall₂_shownOn (initial : Status) (block : Nat) (s : Session) (ls : List String) :
    List.Forall₂ (fun l shown => shown.isSome = (writing? l).isSome) ls
      (shownOn initial block s ls) := by
  induction ls generalizing block s with
  | nil => exact .nil
  | cons l ls ih => exact .cons Option.isSome_map (ih _ _)

theorem length_events_writings_cons :
    block + (events (writings (l :: ls))).length =
      blockAfter block l + (events (writings ls)).length := by
  rw [blockAfter, Nat.add_assoc, ← List.length_append]
  congr 2
  rw [writings, writings, eventOn?, writing?, events, events]
  rcases hcontent : content? l with _ | cs
  · rw [List.filterMap_cons_none hcontent]
    rfl
  · rw [List.filterMap_cons_some hcontent, List.map_cons, Option.bind_some, List.filterMap_cons]
    rcases (written? cs).bind (·.event.toOption) with _ | event <;> rfl

end Replay

/-! ## In parallel -/

namespace InParallel

/-- A line that both have keeps two sessions in parallel, and asks for the same action. -/
theorem takeLine (initial : Status) (h : InParallel s₀ block block' s t)
    (hroom : blockAfter block l < UInt64.size) :
    InParallel s₀ (blockAfter block l) (blockAfter block' l)
      (takeLine initial block s l).1 (takeLine initial block' t l).1 ∧
    (Replay.takeLine initial block s l).2 = (Replay.takeLine initial block' t l).2 := by
  have hle : blockAfter block' l ≤ blockAfter block l := Nat.add_le_add_right h.le _
  have hroom' : blockAfter block' l < UInt64.size := hle.trans_lt hroom
  obtain ⟨hs, hask⟩ := unplaced_takeLine initial h.isWithin hroom 0
  obtain ⟨ht, hask'⟩ := unplaced_takeLine initial h.isWithin' hroom' 0
  rw [h.unplaced_eq] at hs hask
  -- Both sessions take the line like the one without positions, so that they stay alike.
  obtain ⟨hgame, hplayers⟩ := takeLine_frame initial block s l
  exact ⟨⟨hs.trans ht.symm, hgame.trans h.game_eq, hplayers.trans h.players_eq,
    isWithin_takeLine h.isWithin hroom, isWithin_takeLine h.isWithin' hroom', hle⟩,
    hask.trans hask'.symm⟩

/-- Sessions in parallel look the same. -/
theorem snapshot_eq (h : InParallel s₀ block block' s t) : s.snapshot none = t.snapshot none :=
  (congrArg (Session.snapshot · none) h.unplaced_eq : _)

/-- On lines, with and without the noise among them, the same is shown and asked for. -/
theorem takeLines (initial : Status) (number : Nat) (h : InParallel s₀ block block' s t)
    (hgone : ∀ i l, ls[i]? = some l → gone (number + i) = true → s₀.IsNoise l)
    (hroom : block + (events (writings ls)).length < UInt64.size) :
    shownOn initial block' t (deleteFrom gone number ls) =
      deleteFrom gone number (shownOn initial block s ls) ∧
    requestedOn initial block' t (deleteFrom gone number ls) = requestedOn initial block s ls := by
  induction ls generalizing block block' number s t with
  | nil => exact ⟨rfl, rfl⟩
  | cons l ls ih =>
    have hgone' : ∀ i l, ls[i]? = some l → gone (number + 1 + i) = true → s₀.IsNoise l :=
      fun i l hl hi => hgone (i + 1) l hl (by rwa [Nat.add_assoc, Nat.add_comm 1 i] at hi)
    rw [length_events_writings_cons] at hroom
    rw [shownOn, requestedOn, deleteFrom, deleteFrom]
    split
    · -- Nothing comes of the line, and the sessions go on from where they are.
      rename_i hnumber
      have hnoise : s₀.IsNoise l := hgone 0 l rfl hnumber
      rw [takeLine_of_isNoise hnoise h.game_eq h.players_eq]
      have hle : block ≤ blockAfter block l := Nat.le_add_right _ _
      have hskip : InParallel s₀ (blockAfter block l) block' s t :=
        { h with isWithin := h.isWithin.of_le hle, le := h.le.trans hle }
      exact ih _ hskip hgone' hroom
    · obtain ⟨hnext, hask⟩ := h.takeLine (l := l) initial (by omega)
      obtain ⟨hshown, hrequested⟩ := ih _ hnext hgone' hroom
      rw [shownOn, requestedOn]
      dsimp only
      rw [hshown, hrequested, hask, hnext.snapshot_eq]
      exact ⟨rfl, rfl⟩

end InParallel

/-! ## Files -/

theorem Replay.readFile_eq {bytes : List UInt8}
    (h : Text.decodeLines 1 (Text.lines bytes) = .ok ls) : readFile bytes = .ok (writings ls) := by
  rw [readFile, h]
  rfl

/-- What a replay of a file does, line by line. -/
theorem replay_eq (s : Session) (initial : Status) {bytes : List UInt8}
    (h : Text.decodeLines 1 (Text.lines bytes) = .ok ls)
    (hroom : (events (writings ls)).length < UInt64.size) :
    ∃ r, replay s initial bytes = .ok r ∧
      r.snapshots = (shownOn initial 0 (s.seed initial).1 ls).reduceOption ∧
      r.actions = (s.seed initial).2.toList ++ requestedOn initial 0 (s.seed initial).1 ls := by
  refine ⟨_, by rw [replay, readFile_eq h, Except.map], ?_⟩
  obtain ⟨hsession, hsnapshots, hactions⟩ := start_eq initial s
  obtain ⟨hshown, hrequested⟩ := directFrom_writings initial 0 (start initial s) ls
  rw [ofLines_eq_direct s initial hroom, direct, hshown, hrequested, hsession, hsnapshots, hactions]
  exact ⟨rfl, rfl⟩

/-- Without some of the lines that say nothing to a new session, a file makes it ask for the
    same actions, and show the same after each of the other lines. There has to be a block
    for each event of the file. -/
theorem replay_deleteLines {game : GameId} {players : Players} {self : Option Address}
    (h : Session.create game players self = .ok s) (initial : Status) {bytes : List UInt8}
    (hlines : Text.decodeLines 1 (Text.lines bytes) = .ok ls)
    (hroom : (events (writings ls)).length < UInt64.size)
    (hgone : ∀ i l, ls[i]? = some l → gone (i + 1) = true → s.IsNoise l) :
    ∃ r r' shown, replay s initial bytes = .ok r ∧
      replay s initial (deleteLines gone bytes) = .ok r' ∧
      List.Forall₂ (fun l o => o.isSome = (writing? l).isSome) ls shown ∧
      r.snapshots = shown.reduceOption ∧
      r'.snapshots = (deleteFrom gone 1 shown).reduceOption ∧
      r'.actions = r.actions := by
  obtain ⟨role, -, rfl⟩ := Session.create_eq_ok h
  have hroom' : (events (writings (deleteFrom gone 1 ls))).length < UInt64.size :=
    ((((deleteFrom_sublist 1 ls).filterMap content?).map written?).filterMap _).length_le.trans_lt
      hroom
  obtain ⟨r, hr, hshown, hrequested⟩ := replay_eq (.fresh game players role) initial hlines hroom
  obtain ⟨r', hr', hshown', hrequested'⟩ := replay_eq (.fresh game players role) initial
    (Text.decodeLines_deleteLines hlines) hroom'
  have hwithin : ((Session.fresh game players role).seed initial).1.IsWithin 0 :=
    Session.isWithin_fresh.of_facts_eq (Session.facts_seed initial)
  have hplayers :
      (Session.perform (.fresh game players role) (.seed initial)).1.players = players :=
    Session.players_perform rfl
  -- The replay of the shorter file goes along with the other one, in earlier blocks.
  have hparallel : InParallel (.fresh game players role) 0 0
      ((Session.fresh game players role).seed initial).1
      ((Session.fresh game players role).seed initial).1 :=
    ⟨rfl, Session.game_perform (.seed initial), hplayers,
      hwithin, hwithin, le_rfl⟩
  obtain ⟨hdeleted, hsame⟩ := hparallel.takeLines initial 1
    (fun i l hl hi => hgone i l hl (by rwa [Nat.add_comm])) (by rwa [Nat.zero_add])
  refine ⟨r, r', _, hr, hr', forall₂_shownOn initial 0 _ ls, hshown, ?_, ?_⟩
  · rw [hshown', hdeleted]
  · rw [hrequested', hsame, hrequested]

/-- Every kind of noise is deleted around a rematch. The joiner is asked to shuffle after it,
    and two of the five snapshots are left. -/
theorem replay_deleteLines_rematch :
    ∃ (s : Session) (ls : List String) (gone : Nat → Bool) (r r' : Replay),
      Session.create ⟨7⟩ ⟨.fill 0xc1, .fill 0x01⟩ (some (.fill 0x01)) = .ok s ∧
      replay s .shuffling (Text.file ls) = .ok r ∧
      replay s .shuffling (deleteLines gone (Text.file ls)) = .ok r' ∧
      r'.actions = r.actions ∧ r.actions = [.shuffle ⟨7⟩ .joiner] ∧
      r.snapshots.length = 5 ∧ r'.snapshots.length = 2 := by
  let ls := [" ", "# later", "Rematch", "[\"Shuffle\",\"7\",null]", "[\"Rematch\",\"8\"]",
    "[\"Rematch\",\"7\"]",
    "[\"ShuffleDeck\",\"7\",\"0x0202020202020202020202020202020202020202\"]",
    "[\"ShuffleDeck\",\"7\",\"0xc1c1c1c1c1c1c1c1c1c1c1c1c1c1c1c1c1c1c1c1\"]"]
  let gone : Nat → Bool := fun n => [1, 2, 3, 4, 5, 7].contains n
  let s := Session.fresh ⟨7⟩ ⟨.fill 0xc1, .fill 0x01⟩ .joiner
  have hs : Session.create ⟨7⟩ ⟨.fill 0xc1, .fill 0x01⟩ (some (.fill 0x01)) = .ok s := rfl
  have hends : (ls.map fun l => String.ofList (Text.chomp l.toList)) = ls := by decide +kernel
  have hlines : Text.decodeLines 1 (Text.lines (Text.file ls)) = .ok ls := by
    rw [Text.decodeLines_lines_file (by decide +kernel), hends]
  let stranger : WrittenEvent :=
    ⟨"ShuffleDeck", "7", some "0x0202020202020202020202020202020202020202"⟩
  let shuffled : WrittenEvent :=
    ⟨"ShuffleDeck", "7", some "0xc1c1c1c1c1c1c1c1c1c1c1c1c1c1c1c1c1c1c1c1"⟩
  have hwritings : writings ls = [none, some ⟨"Shuffle", "7", none⟩, some ⟨"Rematch", "8", none⟩,
      some ⟨"Rematch", "7", none⟩, some stranger, some shuffled] := by
    decide +kernel
  have hgone : ∀ i l, ls[i]? = some l → gone (i + 1) = true → s.IsNoise l := by
    intro i l hl hi
    have hi' : i = 0 ∨ i = 1 ∨ i = 2 ∨ i = 3 ∨ i = 4 ∨ i = 6 := by simpa [gone] using hi
    rcases hi' with rfl | rfl | rfl | rfl | rfl | rfl <;> obtain rfl := Option.some.inj hl
    · exact .blank (by decide +kernel)
    · exact .comment (show _ = '#' :: " later".toList by decide +kernel)
    · exact .unwritten (show _ = some "Rematch".toList by decide +kernel) (by decide +kernel)
    · exact .undecodable (w := ⟨"Shuffle", "7", none⟩) (by decide +kernel) rfl
    · exact .otherGame (show _ = some (.rematch ⟨8⟩) by decide +kernel) (by decide)
    · exact .stranger (show _ = some (.shuffled ⟨7⟩ (.fill 0x02)) by decide +kernel)
        ⟨by decide, by decide⟩
  obtain ⟨r, r', shown, hr, hr', -, hshown, hshown', hactions⟩ :=
    replay_deleteLines hs .shuffling hlines (by rw [hwritings]; decide +kernel) hgone
  -- The snapshots are counted in the replays of the lines, rather than in those of the files.
  have hfile : r = ofLines s .shuffling (writings ls) := by
    rw [replay, readFile_eq hlines] at hr
    exact (Except.ok.inj hr).symm
  have hrest : r' = ofLines s .shuffling (writings (deleteFrom gone 1 ls)) := by
    rw [replay, readFile_eq (Text.decodeLines_deleteLines hlines)] at hr'
    exact (Except.ok.inj hr').symm
  rw [hwritings] at hfile
  refine ⟨s, ls, gone, r, r', hs, hr, hr', hactions, ?_, ?_, ?_⟩
  · rw [hfile]
    decide +kernel
  · rw [hfile]
    decide +kernel
  · rw [hrest]
    decide +kernel

end ShuffleWatch
