import StreamTunnel.Endpoint.Exchange
import StreamTunnel.Proofs.Endpoint.Outline

/-!
# Runs of an endpoint

An `EndpointAct` is one thing that an endpoint does or that happens to it, in any order. A run keeps
a history beside the endpoint: what was asked of it, what its peers wrote, and what it reported.
-/

namespace StreamTunnel

inductive EndpointAct where
  | listen
  | closeListener
  | connect (peer : Identity) (port : UInt32) (timeout : Span)
  | accept (s : SessionId)
  | send (s : SessionId) (data : Bytes) (r : Reliability)
  | close (s : SessionId) (reason : String)
  | inbound
  | established (n : Nat)
  | refused (n : Nat) (detail : String)
  | far (n : Nat) (a : FarAct)
  | expire (n : Nat)
  | ping (n : Nat)
  | flush (n : Nat)
  | collect (n : Nat)
  | takeEvents
  /-- From now on writers see a close after so many more frames. -/
  | lag (frames : Nat)
  | pass (nanos : Nat)
deriving Repr

namespace Endpoint

def perform (e : Endpoint) : EndpointAct → Endpoint
  | .listen => e.listen.2
  | .closeListener => e.closeListener
  | .connect peer port timeout => (e.connect peer port timeout).2
  | .accept s => (e.accept s).2
  | .send s data r => (e.send s data r).2
  | .close s reason => e.close s reason
  | .inbound => if e.isListening then e.inbound.2 else e
  | .established n => e.established n
  | .refused n detail => e.refused n detail
  | .far n a => e.act n a
  | .expire n => e.expire n
  | .ping n => e.ping n
  | .flush n => e.flush n
  | .collect n => (e.takeWritten n).2.2
  | .takeEvents => e.takeEvents.2
  | .lag frames => { e with lag := frames }
  | .pass nanos => { e with now := e.now + nanos }

def marks (e : Endpoint) : EndpointAct → List Mark
  | .connect peer port timeout =>
      match (e.connect peer port timeout).1 with
      | .ok s => [.connect e.connections.length s peer]
      | .error _ => []
  | .accept s => [.accept s]
  | .close s _ => [.close s]
  | .inbound => if e.isListening then [.inbound e.inbound.1] else []
  | .far n a => if n < e.connections.length then wroteMarks n a else []
  | _ => []

def reporting (e : Endpoint) : EndpointAct → Nat
  | .accept s => (e.slots.get? s).elim 0 (·.connection)
  | .established n | .refused n _ | .far n _ | .expire n | .ping n | .flush n => n
  | _ => 0

end Endpoint

structure EndpointRun where
  endpoint : Endpoint
  history : List Endpoint.Mark := []

namespace EndpointRun
open Endpoint

def start (settings : EndpointSettings) (bindFault : Option String) : EndpointRun where
  endpoint := { settings, bindFault }

def step (x : EndpointRun) (a : EndpointAct) : EndpointRun where
  endpoint := x.endpoint.perform a
  history := x.history ++ x.endpoint.marks a ++
    ((x.endpoint.perform a).events.drop x.endpoint.events.length).map
      (.event (x.endpoint.reporting a))

def run (x : EndpointRun) (acts : List EndpointAct) : EndpointRun :=
  acts.foldl step x

end EndpointRun

namespace Endpoint

def Reaches (e e' : Endpoint) : Prop :=
  ∃ acts : List EndpointAct, e' = acts.foldl perform e

variable {e e' e'' : Endpoint}

theorem Reaches.refl (e : Endpoint) : Reaches e e :=
  ⟨[], rfl⟩

theorem reaches_perform (e : Endpoint) (a : EndpointAct) : Reaches e (e.perform a) :=
  ⟨[a], rfl⟩

theorem Reaches.trans (first : Reaches e e') (second : Reaches e' e'') : Reaches e e'' := by
  obtain ⟨acts, rfl⟩ := first
  obtain ⟨acts', rfl⟩ := second
  exact ⟨acts ++ acts', (List.foldl_append ..).symm⟩

theorem reaches_flushAll (e : Endpoint) : Reaches e e.flushAll :=
  ⟨(List.range e.connections.length).map .flush, by rw [List.foldl_map]; rfl⟩

end Endpoint

namespace Exchange
open Endpoint

variable {α : Type}

theorem reaches_foldl {f : Exchange → α → Exchange}
    (each : ∀ x a, Reaches x.endpoint (f x a).endpoint) (l : List α) (x : Exchange) :
    Reaches x.endpoint (l.foldl f x).endpoint := by
  induction l generalizing x with
  | nil => exact .refl x.endpoint
  | cons a rest ih => exact (each x a).trans (ih (f x a))

theorem reaches_resolve (x : Exchange) : Reaches x.endpoint x.resolve.endpoint := by
  unfold resolve
  apply reaches_foldl
  intro x (n, peer)
  dsimp only
  split
  · exact reaches_perform x.endpoint (.established n)
  · exact reaches_perform x.endpoint (.refused n _)

theorem reaches_act (r : Remote) (a : FarAct) (x : Exchange) :
    Reaches x.endpoint (x.act r a).endpoint := by
  have later := reaches_perform x.endpoint (.pass 1000)
  have acted := later.trans (reaches_perform _ (.far r.connection a))
  exact acted.trans (reaches_flushAll _)

theorem reaches_readRemote (i : Nat) (x : Exchange) :
    Reaches x.endpoint (x.readRemote i).endpoint := by
  unfold readRemote
  split
  · exact .refl x.endpoint
  · next r _ =>
    have collected := reaches_perform x.endpoint (.collect r.connection)
    dsimp only
    split
    · exact .refl x.endpoint
    · split
      · exact collected.trans (reaches_act r _ _)
      · exact collected

theorem reaches_round (x : Exchange) : Reaches x.endpoint x.round.endpoint := by
  have written := (reaches_resolve x).trans (reaches_flushAll x.resolve.endpoint)
  exact written.trans (reaches_foldl (fun x i => reaches_readRemote i x) _ _)

theorem reaches_settle (x : Exchange) : Reaches x.endpoint x.settle.endpoint :=
  ((reaches_round x).trans (reaches_round _)).trans (reaches_round _)

theorem reaches_fire (due n : Nat) (x : Exchange) : Reaches x.endpoint (x.fire due n).endpoint := by
  have later : Reaches x.endpoint { x.endpoint with now := Nat.max x.endpoint.now due } := by
    have waited : Nat.max x.endpoint.now due = x.endpoint.now + (due - x.endpoint.now) := by
      change max x.endpoint.now due = _
      omega
    rw [waited]
    exact reaches_perform x.endpoint (.pass (due - x.endpoint.now))
  have expired := later.trans (reaches_perform _ (.expire n))
  exact (expired.trans (reaches_perform _ (.ping n))).trans (reaches_settle _)

theorem reaches_await (g : Goal) (fuel : Nat) (x : Exchange) :
    Reaches x.endpoint (x.await g fuel).endpoint := by
  induction fuel generalizing x with
  | zero => exact .refl x.endpoint
  | succ fuel ih =>
      unfold await
      split
      · exact .refl x.endpoint
      · split
        · exact .refl x.endpoint
        · next due n _ => exact (reaches_fire due n x).trans (ih _)

theorem reaches_step {f : Exchange → α × Exchange}
    (does : ∀ x : Exchange, Reaches x.endpoint (f x).2.endpoint) (goals : List Goal)
    (x : Exchange) :
    Reaches x.endpoint (x.step f goals).2.endpoint := by
  have later : Reaches x.endpoint (x.pass Span.millisecond).endpoint :=
    reaches_perform x.endpoint (.pass Span.millisecond)
  have settled := (later.trans (does _)).trans (reaches_settle _)
  exact settled.trans (reaches_foldl (fun x g => reaches_await g 10000 x) goals _)

theorem reaches_dial (x : Exchange) : Reaches x.endpoint x.dial.2.endpoint := by
  have came := reaches_perform x.endpoint .inbound
  unfold dial
  rw [perform] at came
  split
  · next listens =>
    rw [if_pos listens] at came
    exact came
  · exact .refl x.endpoint

theorem reaches_remoteAct (r : Remote) (a : FarAct) (x : Exchange) :
    Reaches x.endpoint (x.remoteAct r a).2.endpoint := by
  unfold remoteAct
  split
  · exact .refl x.endpoint
  · exact reaches_act r a x

end Exchange
end StreamTunnel
