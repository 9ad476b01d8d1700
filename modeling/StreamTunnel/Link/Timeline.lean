import StreamTunnel.Link.Basic

namespace StreamTunnel

inductive Owner where
  | caller
  | background
  | feed (n : Nat)
deriving DecidableEq, Repr

inductive Chore where
  | retry (owner : Owner) (w : Waiting)
  | sample (interval : Span)
deriving DecidableEq, Repr

structure Alarm where
  due : Nat
  chore : Chore
deriving DecidableEq, Repr

def Alarm.tick (a : Alarm) : Nat :=
  (a.due + Span.millisecond - 1) / Span.millisecond

def Alarm.isCaller (a : Alarm) : Bool :=
  match a.chore with
  | .retry .caller _ => true
  | _ => false

def Alarm.isBackground (a : Alarm) : Bool :=
  match a.chore with
  | .retry .background _ => true
  | .sample _ => true
  | _ => false

/-- Events handed over one by one. A feed is busy while one of them waits for a backoff, and ended
once it is closed and empty, or the link was shut down. -/
structure Feed where
  queue : List ChannelEvent := []
  isOpen : Bool := true
  isBusy : Bool := false
  isEnded : Bool := false
deriving Repr

def Feed.fresh : Feed := {}

structure Timeline (σ : Type) where
  link : Link σ
  now : Nat := 0
  alarms : List Alarm := []
  feeds : List Feed := []
  outcome : Handling := .done

namespace Timeline

variable {σ : Type} [Channel σ]

def start (settings : LinkSettings) (channel : σ) : Timeline σ :=
  { link := .start settings channel }

def nowNanos (t : Timeline σ) : Nat :=
  t.now * Span.millisecond

def setAlarm (due : Nat) (chore : Chore) (t : Timeline σ) : Timeline σ :=
  { t with alarms := t.alarms ++ [⟨due, chore⟩] }

def modifyFeed (n : Nat) (f : Feed → Feed) (t : Timeline σ) : Timeline σ :=
  { t with feeds := t.feeds.modify n f }

def runFeed (n : Nat) : Nat → Timeline σ → Timeline σ
  | 0, t => t
  | fuel + 1, t =>
      match t.feeds[n]? with
      | none => t
      | some feed =>
          if feed.isBusy || feed.isEnded then t
          else if t.link.state.isShutDown then t.modifyFeed n ({ · with isEnded := true })
          else match feed.queue with
            | [] => if feed.isOpen then t else t.modifyFeed n ({ · with isEnded := true })
            | e :: rest =>
                let t := t.modifyFeed n ({ · with queue := rest })
                match t.link.handle e with
                | (.done, l) => runFeed n fuel { t with link := l }
                | (.waiting w, l) =>
                    ({ t with link := l }.modifyFeed n ({ · with isBusy := true })).setAlarm
                      (t.nowNanos + w.attempt.backoff.nanos) (.retry (.feed n) w)
                | (.fault _, l) =>
                    { t with link := l }.modifyFeed n ({ · with isEnded := true })

def pump (n : Nat) (t : Timeline σ) : Timeline σ :=
  t.runFeed n ((t.feeds[n]?.map (·.queue.length)).getD 0 + 1)

def settle (owner : Owner) (r : Handling × Link σ) (t : Timeline σ) : Timeline σ :=
  let t := { t with link := r.2 }
  match r.1 with
  | .waiting w => t.setAlarm (t.nowNanos + w.attempt.backoff.nanos) (.retry owner w)
  | .done =>
      match owner with
      | .caller => { t with outcome := .done }
      | .background => t
      | .feed n => (t.modifyFeed n ({ · with isBusy := false })).pump n
  | .fault e =>
      match owner with
      | .caller => { t with outcome := .fault e }
      | .background => t
      | .feed n => t.modifyFeed n ({ · with isBusy := false, isEnded := true })

def ring (a : Alarm) (t : Timeline σ) : Timeline σ :=
  match a.chore with
  | .retry owner w => t.settle owner (t.link.resume w)
  | .sample interval =>
      { t with link := t.link.samplePing.2 }.setAlarm (a.due + interval.nanos) (.sample interval)

def earlier (a b : Alarm) : Bool :=
  a.tick < b.tick || (a.tick = b.tick && a.isCaller && !b.isCaller)

def takeFirst : List Alarm → Option (Alarm × List Alarm)
  | [] => none
  | a :: rest =>
      match takeFirst rest with
      | none => some (a, [])
      | some (b, others) => if earlier b a then some (b, a :: others) else some (a, rest)

def ringUntil (target : Nat) : Nat → Timeline σ → Timeline σ
  | 0, t => t
  | fuel + 1, t =>
      match takeFirst t.alarms with
      | none => t
      | some (a, others) =>
          if a.tick ≤ target then
            ringUntil target fuel
              (ring a { t with alarms := others, now := Nat.max t.now a.tick })
          else t

/-- A bound on the alarms that go off up to a millisecond: each thread of work sets its next alarm
at least a nanosecond later than its last. -/
def alarmBound (target : Nat) (t : Timeline σ) : Nat :=
  let first := t.alarms.foldl (fun m a => Nat.min m a.due) t.nowNanos
  let threads := t.alarms.length + (t.feeds.map (·.queue.length + 1)).foldl Nat.add 0
  threads * (target * Span.millisecond - first + 2) + 1

def advanceTo (target : Nat) (t : Timeline σ) : Timeline σ :=
  let t := t.ringUntil target (t.alarmBound target)
  { t with now := Nat.max t.now target }

def advance (millis : Nat) (t : Timeline σ) : Timeline σ :=
  t.advanceTo (t.now + millis)

def finish : Nat → Timeline σ → Timeline σ
  | 0, t => t
  | fuel + 1, t =>
      match t.alarms.find? Alarm.isCaller with
      | none => t
      | some a => finish fuel (t.advanceTo a.tick)

def event (e : ChannelEvent) (t : Timeline σ) : Handling × Timeline σ :=
  let t := t.settle .caller (t.link.handle e)
  let queued := (t.feeds.map (·.queue.length)).foldl Nat.add 0
  let t := t.finish ((queued + 1) * (t.link.state.retries.policy.maxAttempts + 2))
  (t.outcome, { t with outcome := .done })

def eventInBackground (e : ChannelEvent) (t : Timeline σ) : Timeline σ :=
  t.settle .background (t.link.handle e)

/-- Shuts the link down. Handlers that wait, samplers and feeds all stop. -/
def disconnect (t : Timeline σ) : Timeline σ :=
  { t with
    link := t.link.disconnect
    alarms := []
    feeds := t.feeds.map ({ · with isBusy := false, isEnded := true }) }

def startSampler (interval : Span) (t : Timeline σ) : Timeline σ :=
  if t.link.state.isShutDown || interval.isZero then t
  else { t with link := t.link.samplePing.2 }.setAlarm (t.nowNanos + interval.nanos)
    (.sample interval)

def closeFeed (n : Nat) (t : Timeline σ) : Timeline σ :=
  (t.modifyFeed n ({ · with isOpen := false })).pump n

def openFeed (t : Timeline σ) : Timeline σ :=
  let t := t.closeFeed (t.feeds.length - 1)
  { t with feeds := t.feeds ++ [Feed.fresh] }.pump t.feeds.length

def feed (e : ChannelEvent) (t : Timeline σ) : Bool × Timeline σ :=
  match t.feeds.getLast? with
  | none => (false, t)
  | some f =>
      if f.isOpen && !f.isEnded then
        let n := t.feeds.length - 1
        (true, (t.modifyFeed n (fun f => { f with queue := f.queue ++ [e] })).pump n)
      else (false, t)

def endFeed (t : Timeline σ) : Timeline σ :=
  t.closeFeed (t.feeds.length - 1)

def backgroundCount (t : Timeline σ) : Nat :=
  (t.alarms.filter Alarm.isBackground).length

def feedEnded (t : Timeline σ) : Option Bool :=
  t.feeds.getLast?.map (·.isEnded)

end Timeline
end StreamTunnel
