import ShuffleWatch.Event

/-!
# Written events

Events in the form in which they are recorded in files: the name of the event,
the game and the address are texts, and nothing says yet that they make sense.

* `event_ofEvent`: an event that is written down is read back.
-/

namespace ShuffleWatch

/-- An event in writing. -/
structure WrittenEvent where
  name : String
  gameId : String
  address : Option String
  deriving DecidableEq

namespace WrittenEvent

/-- The written address, which has to be there. -/
def requiredAddress (w : WrittenEvent) : Except EventDefect Address :=
  match w.address with
  | none => .error (.missingAddress w.name)
  | some text =>
    match Address.read? text.toList with
    | some a => .ok a
    | none => .error (.badAddress text)

/-- The written address, which may be left out but not be wrong. -/
def optionalAddress (w : WrittenEvent) : Except EventDefect (Option Address) :=
  if w.address.isSome then w.requiredAddress.map some else .ok none

/-- The event of kind `k` in game `g` that the rest of the writing describes. A
    rematch names nobody, so its address is not looked at. -/
def eventOf (w : WrittenEvent) (g : GameId) : EventKind → Except EventDefect Event
  | .created => w.requiredAddress.map (.created g)
  | .joined => w.requiredAddress.map (.joined g)
  | .shuffled => w.requiredAddress.map (.shuffled g)
  | .ended => w.optionalAddress.map (.ended g)
  | .rematch => .ok (.rematch g)

/-- The event that is written, or what is wrong first: its name, then its game,
    then its address. -/
def event? (w : WrittenEvent) : Except EventDefect Event :=
  match EventKind.ofName? w.name with
  | none => .error (.unknownName w.name)
  | some k =>
    match GameId.read? w.gameId.toList with
    | none => .error (.badGameId w.gameId)
    | some g => w.eventOf g k

/-- The event that is written, or the error of reading it. -/
def event (w : WrittenEvent) : Except Error Event := w.event?.mapError .malformedEvent

/-- The event in writing. -/
def ofEvent (e : Event) : WrittenEvent where
  name := e.kind.name
  gameId := e.game.render
  address := e.address?.map Address.render

theorem event?_ofEvent (e : Event) : (ofEvent e).event? = .ok e := by
  rw [event?, ofEvent, EventKind.ofName?_name]
  simp only [GameId.read?_render]
  cases e with
  | ended g w =>
    cases w <;> simp [eventOf, optionalAddress, requiredAddress, Event.kind, Event.address?,
      Event.game, Address.read?_render, Except.map]
  | _ => simp [eventOf, requiredAddress, Event.kind, Event.address?, Event.game,
      Address.read?_render, Except.map]

theorem event_ofEvent (e : Event) : (ofEvent e).event = .ok e := by
  rw [event, event?_ofEvent]
  rfl

end WrittenEvent

end ShuffleWatch
