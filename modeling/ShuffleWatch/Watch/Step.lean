import ShuffleWatch.Watch.Basic

/-!
# The steps of a watch

What a watch does next, one step at a time (`Watch.step?`). What the feed
delivers comes before requests, and requests come before the end of a wait. A
watch that has nothing to do takes no step.
-/

namespace ShuffleWatch.Watch

/-! ## Failing -/

/-- Records that the chain cannot be reached. -/
def lose (w : Watch) : Watch :=
  { w with session := w.session.loseLink, condition := some .connectionLost }

/-- Begins to wait for the next attempt. -/
def backOff (w : Watch) : Watch :=
  let (delay, backoff, draws) := w.backoff.next w.draws
  { w with backoff := backoff, draws := draws, phase := .waiting (w.clock + delay) }

/-- Gives up the feed. -/
def release (w : Watch) (feed : Nat) : Watch := { w with access := w.access.release feed }

/-- Gives up the feed, and begins to wait for the next attempt. -/
def giveUp (w : Watch) (feed : Nat) : Watch := (w.release feed).backOff

/-! ## Connecting -/

/-- Reads the status and adopts it. The answer is `false` if there is none to
    adopt. -/
def resync (w : Watch) : Watch × Bool :=
  let (access, status) := w.access.readStatus w.session.game
  match status with
  | .ok (some status) =>
    let (session, action) := w.session.seed status
    ({ w with access := access, session := session, outbox := action, condition := none }, true)
  | .ok none =>
    ({ w with access := access, condition := some (.unknownGame w.session.game) }, false)
  | .error _ => ({ w with access := access }.lose, false)

/-- Reads the status after a feed was opened. Requests are held back until the
    feed has delivered what is on chain. -/
def attach (w : Watch) (feed : Nat) : Watch :=
  let (w, isRead) := { w with session := w.session.awaitBacklog }.resync
  if isRead then { w with backoff := w.backoff.reset, phase := .following feed }
  else w.giveUp feed

/-- Opens a feed. This comes before the status is read, so that no event in
    between is missed. -/
def connect (w : Watch) : Watch :=
  let (access, opened) := w.access.subscribe w.filter
  match opened with
  | .ok feed => { w with access := access }.attach feed
  | .error _ => { w with access := access }.lose.backOff

/-! ## Following -/

/-- Takes in what the feed delivered. -/
def take (w : Watch) (feed : Nat) (item : Item) : Watch :=
  let (session, verdict) := w.session.receive item
  let w := { w with session := session }
  match verdict with
  | .changed action => { w with outbox := action }
  | .reset =>
    let (w, isRead) := w.resync
    if isRead then w else w.giveUp feed
  | .disconnected => { w with condition := some .connectionLost }.giveUp feed
  | _ => w

/-- Serves a request, and tells whether it began a new epoch. -/
def serve (w : Watch) (ticket : Nat) : Request → Watch × Bool
  | .restart =>
    ({ w with session := w.session.restart, mailbox := w.mailbox.answer ticket .done }, true)
  | .rebind players self =>
    match w.session.rebind players self with
    | .ok session =>
      ({ w with session := session, mailbox := w.mailbox.answer ticket .done }, true)
    | .error refusal =>
      ({ w with mailbox := w.mailbox.answer ticket (.refused (.ofRefusal refusal)) }, false)
  | .snapshot => ({ w with mailbox := w.mailbox.answer ticket (.shown w.snapshot) }, false)

/-- Serves the request, which has been taken from the mailbox. A new epoch makes
    a watch that follows a feed start over at once, and one that waits wait on. -/
def attend (w : Watch) (ticket : Nat) (r : Request) : Watch :=
  let (w, isNewEpoch) := w.serve ticket r
  match w.phase with
  | .following feed => if isNewEpoch then { w.release feed with phase := .connecting } else w
  | _ => w

/-! ## Ending -/

/-- Ends the watch: its feed is given up, and what waits in its mailbox is lost. -/
def stop (w : Watch) : Watch :=
  let w := match w.phase with
    | .following feed => w.release feed
    | _ => w
  { w with phase := .stopped, outbox := none, mailbox := { w.mailbox with waiting := [] } }

/-! ## Steps -/

/-- Serves the oldest request, or ends when there can be none any more. -/
def serveNext? (w : Watch) : Option Watch :=
  match w.mailbox.waiting with
  | (ticket, r) :: rest =>
    some ({ w with mailbox := { w.mailbox with waiting := rest } }.attend ticket r)
  | [] => if w.mailbox.isOpen then none else some w.stop

/-- Sends an action to the outlet, when there is room. That nobody takes it any
    more is no reason to stop. -/
def dispatch? (w : Watch) (action : Action) : Option Watch :=
  match w.outlet.send action with
  | (_, .full) => none
  | (outlet, _) => some { w with outlet := outlet, outbox := none }

/-- Takes what the feed delivers, or else serves a request. -/
def follow? (w : Watch) (feed : Nat) : Option Watch :=
  match w.access.next feed with
  | (access, .item item) => some ({ w with access := access }.take feed item)
  | (_, .ended) => some (w.lose.giveUp feed)
  | (_, .pending) => w.serveNext?

/-- Serves a request while the watch waits, or else ends a wait that is over. -/
def wait? (w : Watch) (due : Duration) : Option Watch :=
  w.serveNext?.or (if due ≤ w.clock then some { w with phase := .connecting } else none)

/-- The next step of a watch that is running and has no action under way. -/
def proceed? (w : Watch) : Option Watch :=
  match w.phase with
  | .connecting => some w.connect
  | .following feed => w.follow? feed
  | .waiting due => w.wait? due
  | .idle => none
  | .stopped => none

/-- The watch is running: it was started and has not ended. -/
def isRunning (w : Watch) : Bool := w.phase != .idle && w.phase != .stopped

/-- The next step, or `none` if the watch waits for something. -/
def step? (w : Watch) : Option Watch :=
  if !w.isRunning then none
  else if w.isKilled then some w.stop
  else
    match w.outbox with
    | some action => w.dispatch? action
    | none => w.proceed?

end ShuffleWatch.Watch
