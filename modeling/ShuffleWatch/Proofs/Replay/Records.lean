import ShuffleWatch.Proofs.Json.RoundTrip
import ShuffleWatch.Proofs.Json.Structures
import ShuffleWatch.Proofs.Replay.Noise

/-!
# Records

A value that is written in JSON is a line of a file: it has no line end in it, is no
comment, and needs no trimming. So it can be recorded, and is read back from its text and
from the line of a file that holds this text (`RoundTrips`). This holds whenever the reader
undoes the writer (`roundTrips_of_undoes`), for the types with which clients, sessions and
replays speak of games (`roundTrips_toJson`). In particular, a replay reads on the line of
a written event just that event, whatever lines stand around it.
-/

namespace ShuffleWatch

variable {before after : List String}

/-- The value is read back from its text, which is a line and no comment, and from any line
    of a file on which this text stands. -/
structure RoundTrips {α : Type} (toJson : α → Json) (ofJson? : Json → Option α) (a : α) :
    Prop where
  parse : (Json.parse? (toJson a).render).bind ofJson? = some a
  isLine : '\n' ∉ (toJson a).render.toList ∧ '\r' ∉ (toJson a).render.toList
  isNoComment : (toJson a).render.toList.head? ≠ some '#'
  onLine : ∀ before after : List String, (∀ l ∈ before ++ after, '\n' ∉ l.toList) →
    ∃ ls l, Text.decodeLines 1 (Text.lines (Text.file (before ++ (toJson a).render :: after))) =
        .ok ls ∧ ls[before.length]? = some l ∧
      ((Replay.content? l).bind Json.read?).bind ofJson? = some a

/-! ## Lines -/

theorem Json.not_mem_render (j : Json) {c : Char} (hc : c.toNat < 0x20) :
    c ∉ j.render.toList := by
  rw [render, String.toList_ofList]
  exact j.not_mem_write hc

/-- The text of a value ends in no carriage return, which would belong to no line. -/
theorem Json.chomp_render (j : Json) : Text.chomp j.render.toList = j.render.toList :=
  if_neg fun h => j.not_mem_render (c := '\r') (by decide) (List.mem_of_getLast? h)

/-- A replay looks into all of the text of a value. -/
theorem Json.content?_render (j : Json) : Replay.content? j.render = some j.write := by
  obtain ⟨c, rest, hwrite, -, hhash⟩ := j.exists_write_eq_cons
  rw [Replay.content?, render, String.toList_ofList, j.trim_write, hwrite]
  split
  · contradiction
  · rename_i heq
    exact absurd (List.cons.inj heq).1 hhash
  · rfl

/-- Lines around a line without line feed. -/
theorem forall_mem_append_cons {l : String} (hl : '\n' ∉ l.toList)
    (h : ∀ l ∈ before ++ after, '\n' ∉ l.toList) :
    ∀ k ∈ before ++ l :: after, '\n' ∉ k.toList := by
  intro k hk
  rcases List.mem_append.1 hk with hk | hk
  · exact h k (List.mem_append_left _ hk)
  rcases List.mem_cons.1 hk with rfl | hk
  · exact hl
  · exact h k (List.mem_append_right _ hk)

/-! ## Recording -/

/-- Where a reader undoes a writer, it also finds the values in what is recorded of them. -/
theorem roundTrips_of_undoes {α : Type} {toJson : α → Json} {ofJson? : Json → Option α}
    (h : Json.Undoes ofJson? toJson) (a : α) : RoundTrips toJson ofJson? a where
  parse := by rw [Json.parse?_render, Option.bind_some, h a]
  isLine := ⟨(toJson a).not_mem_render (by decide), (toJson a).not_mem_render (by decide)⟩
  isNoComment := by
    obtain ⟨c, rest, hwrite, -, hhash⟩ := (toJson a).exists_write_eq_cons
    rw [Json.render, String.toList_ofList, hwrite]
    exact fun heq => hhash (Option.some.inj heq)
  onLine before after hlines := by
    have hall := forall_mem_append_cons ((toJson a).not_mem_render (by decide)) hlines
    refine ⟨_, (toJson a).render, Text.decodeLines_lines_file hall, ?_, ?_⟩
    · simp [Json.chomp_render]
    · rw [Json.content?_render, Option.bind_some, Json.read?_write, Option.bind_some, h a]

/-- On the line of a written event, a replay reads that event. -/
theorem Replay.writings_append_cons (w : WrittenEvent) (before after : List String) :
    writings (before ++ w.toJson.render :: after) =
      writings before ++ some w :: writings after := by
  have hwritten : written? w.toJson.write = some w := by
    rw [written?, Json.read?_write, Option.bind_some, WrittenEvent.undoes_toJson w]
  rw [writings, List.filterMap_append, List.filterMap_cons_some (Json.content?_render _),
    List.map_append, List.map_cons, hwritten]
  rfl

theorem replay_append_cons (s : Session) (initial : Status) (w : WrittenEvent)
    (hlines : ∀ l ∈ before ++ after, '\n' ∉ l.toList) :
    replay s initial (Text.file (before ++ w.toJson.render :: after)) =
      .ok (.ofLines s initial (Replay.writings before ++ some w :: Replay.writings after)) := by
  have hall := forall_mem_append_cons (w.toJson.not_mem_render (by decide)) hlines
  rw [replay, Replay.readFile_file hall, ← Replay.writings_append_cons]
  rfl

/-- Written events, positions, identifiers of games, players, events, entries of the log and
    actions are read back from the JSON text they are written as, also when the text is a
    line of a file; and whatever is on the other lines, a replay of the file takes the line
    of a written event for that event. -/
theorem roundTrips_toJson :
    (∀ w, RoundTrips WrittenEvent.toJson WrittenEvent.ofJson? w) ∧
    (∀ p, RoundTrips Position.toJson Position.ofJson? p) ∧
    (∀ g, RoundTrips GameId.toJson GameId.ofJson? g) ∧
    (∀ ps, RoundTrips Players.toJson Players.ofJson? ps) ∧
    (∀ e, RoundTrips Event.toJson Event.ofJson? e) ∧
    (∀ entry, RoundTrips Entry.toJson Entry.ofJson? entry) ∧
    (∀ action, RoundTrips Action.toJson Action.ofJson? action) ∧
    ∀ (s : Session) (initial : Status) (w : WrittenEvent) (before after : List String),
      (∀ l ∈ before ++ after, '\n' ∉ l.toList) →
      replay s initial (Text.file (before ++ w.toJson.render :: after)) =
        .ok (.ofLines s initial (Replay.writings before ++ some w :: Replay.writings after)) :=
  ⟨roundTrips_of_undoes WrittenEvent.undoes_toJson, roundTrips_of_undoes Position.undoes_toJson,
    roundTrips_of_undoes GameId.undoes_toJson, roundTrips_of_undoes Players.undoes_toJson,
    roundTrips_of_undoes Event.undoes_toJson, roundTrips_of_undoes Entry.undoes_toJson,
    roundTrips_of_undoes Action.undoes_toJson,
    fun s initial w _ _ => replay_append_cons s initial w⟩

/-- A rematch, recorded between a comment and a line that is no event, is replayed between
    nothing and such a line. -/
theorem roundTrips_toJson_rematch :
    let w : WrittenEvent := ⟨"Rematch", "1", none⟩
    (∀ l ∈ ["# a comment"] ++ ["no event"], '\n' ∉ l.toList) ∧
      ∀ s initial, replay s initial (Text.file ["# a comment", w.toJson.render, "no event"]) =
        .ok (.ofLines s initial [some w, none]) :=
  ⟨by decide, fun s initial =>
    roundTrips_toJson.2.2.2.2.2.2.2 s initial _ ["# a comment"] ["no event"] (by decide)⟩

end ShuffleWatch
