import ShuffleWatch.Chain.Operation
import ShuffleWatch.Watch.Step

/-!
# Runs of a watch

What can happen to a watch from outside (`Watch.Input`), in any order and at
any time, and how a watch is run until it waits for something
(`Watch.settle`) or until some time has passed (`Watch.advance`).
-/

namespace ShuffleWatch.Watch

/-- Something that happens to a watch. -/
inductive Input
  | start
  /-- Something happens on its chain. -/
  | happen (h : Chain.Happening)
  | failSubscribe (fault : Option Fault)
  | failStatus (fault : Option Fault)
  /-- Time passes. -/
  | elapse (d : Duration)
  | post (r : Request)
  /-- There will be no further requests. -/
  | closeMailbox
  | takeActions
  | closeOutlet
  | kill

/-- Lets something happen on the chain of a watch. -/
def undergo (w : Watch) (h : Chain.Happening) : Watch :=
  { w with access := { w.access with chain := (w.access.chain.undergo h).1 } }

/-- Lets something happen to a watch. -/
def accept (w : Watch) : Input → Watch
  | .start => if w.phase = .idle then { w with phase := .connecting } else w
  | .happen h => w.undergo h
  | .failSubscribe fault => { w with access := { w.access with subscribeFault := fault } }
  | .failStatus fault => { w with access := { w.access with statusFault := fault } }
  | .elapse d => { w with clock := w.clock + d }
  | .post r =>
    if w.mailbox.isOpen && !w.hasStopped then { w with mailbox := (w.mailbox.post r).1 } else w
  | .closeMailbox => { w with mailbox := { w.mailbox with isOpen := false } }
  | .takeActions => { w with outlet := { w.outlet with queue := [] } }
  | .closeOutlet => { w with outlet := w.outlet.close }
  | .kill => if w.hasStopped then w else { w with isKilled := true }

/-- What a watch may do next. When a wait is over and a request waits, either
    may come first. -/
inductive Step : Watch → Watch → Prop
  | step {w w' : Watch} : w.step? = some w' → Step w w'
  | resume {w : Watch} {due : Duration} : w.phase = .waiting due → due ≤ w.clock →
      w.isKilled = false → w.outbox = none → Step w { w with phase := .connecting }

/-- The watches that steps and happenings lead to. -/
inductive Leads (w : Watch) : Watch → Prop
  | refl : Leads w w
  | step {u v : Watch} : Leads w u → Step u v → Leads w v
  | accept {u : Watch} (input : Input) : Leads w u → Leads w (u.accept input)

/-! ## Running until something is waited for -/

/-- The items that wait in all feeds. -/
def queued (w : Watch) : Nat :=
  w.access.chain.subscriptions.foldl (fun n sub => n + sub.queue.length) 0

/-- More steps than the watch can take without a further input: each item and
    each request takes a step, as does each action they lead to, and after each
    request the whole history may be delivered again. -/
def workload (w : Watch) : Nat :=
  (w.mailbox.waiting.length + 2) * (2 * w.access.chain.history.length + 8) + 2 * w.queued + 8

/-- Takes so many steps at most. -/
def settleWithin : Nat → Watch → Watch
  | 0, w => w
  | n + 1, w =>
    match w.step? with
    | none => w
    | some w' => settleWithin n w'

/-- Runs the watch until it waits for something. -/
def settle (w : Watch) : Watch := settleWithin w.workload w

/-! ## Running while time passes -/

/-- Runs the watch until a time, with so many waits at most. Where a wait takes no
    time, the watch keeps trying and does not come to rest. -/
def advanceWithin : Nat → Duration → Watch → Watch
  | 0, time, w => { w with clock := time }.settle
  | n + 1, time, w =>
    let w := w.settle
    match w.phase with
    | .waiting due =>
      if due ≤ w.clock then { w with clock := time }.settle
      else if due ≤ time then advanceWithin n time { w with clock := due }
      else { w with clock := time }
    | _ => { w with clock := time }

/-- Runs the watch while time passes. Its waits last a millisecond at least, or
    no time at all. -/
def advance (w : Watch) (d : Duration) : Watch :=
  advanceWithin (d / Duration.millisecond + 2) (w.clock + d) w

/-! ## Requests -/

/-- Why a request got no answer. -/
inductive NoReply
  /-- The watch had ended. -/
  | stopped
  /-- The watch ended before it served the request. -/
  | dropped
  deriving DecidableEq

/-- The cause in words. -/
def NoReply.message : NoReply → String
  | stopped => "engine stopped"
  | dropped => "engine dropped request"

/-- Makes a request, and runs the watch until it waits for something. -/
def ask (w : Watch) (r : Request) : Watch × Except NoReply Reply :=
  if w.hasStopped then (w, .error .stopped)
  else
    let (mailbox, ticket) := w.mailbox.post r
    let w := { w with mailbox := mailbox }.settle
    (w, match w.mailbox.reply? ticket with
      | some reply => .ok reply
      | none => .error .dropped)

end ShuffleWatch.Watch
