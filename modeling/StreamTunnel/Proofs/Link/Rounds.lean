import StreamTunnel.Proofs.Link.Run

namespace StreamTunnel

structure Round where
  ports : List UInt32
  session : SessionId
  peer : Identity
  messages : List Bytes
  reason : CloseReason

namespace Round

def retries (ports : List UInt32) : List LinkEvent :=
  ports.zipIdx.map (fun (port, i) => .reconnecting (i + 1) port)

def events (r : Round) : List LinkEvent :=
  retries r.ports ++ .opened r.session r.peer :: r.messages.map (.message r.session) ++
    [.closed r.session r.reason]

theorem retries_append (ports : List UInt32) (port : UInt32) :
    retries (ports ++ [port]) = retries ports ++ [.reconnecting (ports.length + 1) port] := by
  simp [retries, List.zipIdx_append]

end Round

namespace LinkEvent

def isDisconnected : LinkEvent → Bool
  | .disconnected _ => true
  | _ => false

def port? : LinkEvent → Option UInt32
  | .reconnecting _ port => some port
  | _ => none

def carrying (events : List LinkEvent) : Option SessionId :=
  events.foldl (fun open' e => match e with
    | .opened s _ => some s
    | .closed .. => none
    | _ => open') none

def tries (events : List LinkEvent) : Nat :=
  events.foldl (fun n e => match e with
    | .opened .. => 0
    | .reconnecting .. => n + 1
    | _ => n) 0

end LinkEvent

open LinkEvent

/-- The events of a guest, with the session that is open after them and the number of tries. -/
inductive Trace (max : Nat) : List LinkEvent → Option SessionId → Nat → Prop where
  | start : Trace max [] none 0
  | reconnecting {events n} (port : UInt32) (more : n < max) (h : Trace max events none n) :
      Trace max (events ++ [.reconnecting (n + 1) port]) none (n + 1)
  | opened {events n} (s : SessionId) (peer : Identity) (h : Trace max events none n) :
      Trace max (events ++ [.opened s peer]) (some s) 0
  | message {events n s} (data : Bytes) (h : Trace max events (some s) n) :
      Trace max (events ++ [.message s data]) (some s) n
  | closed {events n s} (reason : CloseReason) (h : Trace max events (some s) n) :
      Trace max (events ++ [.closed s reason]) none n
  | disconnected {events} (reason : CloseReason) (h : Trace max events none max) :
      Trace max (events ++ [.disconnected reason]) none max

namespace Trace

variable {max n : Nat} {events : List LinkEvent} {now : Option SessionId}

theorem tries_le (h : Trace max events now n) : n ≤ max := by
  induction h with
  | start => exact Nat.zero_le max
  | reconnecting port more => exact more
  | opened => exact Nat.zero_le max
  | message _ _ ih => exact ih
  | closed _ _ ih => exact ih
  | disconnected => exact Nat.le_refl max

theorem carrying_tries (h : Trace max events now n) : carrying events = now ∧ tries events = n := by
  induction h with
  | start => exact ⟨rfl, rfl⟩
  | reconnecting _ _ _ ih | opened _ _ _ ih | message _ _ ih | closed _ _ ih | disconnected _ _ ih =>
      rw [carrying, tries, List.foldl_append, List.foldl_append, ← carrying, ← tries, ih.1, ih.2]
      exact ⟨rfl, rfl⟩

theorem at_disconnected (h : Trace max events now n) {before after : List LinkEvent}
    {reason : CloseReason} (cut : events = before ++ .disconnected reason :: after) :
    carrying before = none ∧ tries before = max := by
  induction h generalizing after with
  | start => simp at cut
  | disconnected reason' before' ih =>
      rcases cut_append_singleton cut with ⟨rfl, -⟩ | ⟨after', cut⟩
      · exact before'.carrying_tries
      · exact ih cut
  | reconnecting _ _ _ ih | opened _ _ _ ih | message _ _ ih | closed _ _ ih =>
      rcases cut_append_singleton cut with ⟨-, other⟩ | ⟨after', cut⟩
      · cases other
      · exact ih cut

theorem exists_rounds (h : Trace max events now n) :
    ∃ (rounds : List Round) (ports : List UInt32),
      (∀ r ∈ rounds, r.ports.length ≤ max) ∧ ports.length ≤ max ∧
      match now with
      | none => ports.length = n ∧
          events.filter (!·.isDisconnected) = rounds.flatMap Round.events ++ Round.retries ports
      | some s => n = 0 ∧ ∃ (peer : Identity) (messages : List Bytes),
          events.filter (!·.isDisconnected) = rounds.flatMap Round.events ++
            (Round.retries ports ++ .opened s peer :: messages.map (.message s)) := by
  induction h with
  | start => exact ⟨[], [], by simp, by simp, rfl, rfl⟩
  | reconnecting port more _ ih =>
      obtain ⟨rounds, ports, whole, -, rfl, part⟩ := ih
      refine ⟨rounds, ports ++ [port], whole, by simpa [Nat.succ_le_iff] using more, by simp, ?_⟩
      rw [List.filter_append, part, Round.retries_append]
      simp [isDisconnected]
  | opened s peer _ ih =>
      obtain ⟨rounds, ports, whole, short, -, part⟩ := ih
      refine ⟨rounds, ports, whole, short, rfl, peer, [], ?_⟩
      rw [List.filter_append, part]
      simp [isDisconnected]
  | message data _ ih =>
      obtain ⟨rounds, ports, whole, short, none, peer, messages, part⟩ := ih
      refine ⟨rounds, ports, whole, short, none, peer, messages ++ [data], ?_⟩
      rw [List.filter_append, part]
      simp [isDisconnected]
  -- the round is whole, and the next one begins without a retry
  | @closed events n s reason _ ih =>
      obtain ⟨rounds, ports, whole, short, rfl, peer, messages, part⟩ := ih
      refine ⟨rounds ++ [⟨ports, s, peer, messages, reason⟩], [], ?_, by simp, rfl, ?_⟩
      · rw [List.forall_mem_append, List.forall_mem_singleton]
        exact ⟨whole, short⟩
      · rw [List.filter_append, part]
        simp [isDisconnected, Round.events, Round.retries]
  | disconnected reason _ ih =>
      obtain ⟨rounds, ports, whole, short, spent, part⟩ := ih
      refine ⟨rounds, ports, whole, short, spent, ?_⟩
      rw [List.filter_append, part]
      simp [isDisconnected]

theorem prefix_rounds (h : Trace max events now n) :
    ∃ rounds : List Round, (∀ r ∈ rounds, r.ports.length ≤ max) ∧
      events.filter (!·.isDisconnected) <+: rounds.flatMap Round.events := by
  obtain ⟨rounds, ports, whole, short, part⟩ := h.exists_rounds
  have last (r : Round) (same : r.ports = ports) : ∀ r' ∈ rounds ++ [r], r'.ports.length ≤ max := by
    rw [List.forall_mem_append, List.forall_mem_singleton, same]
    exact ⟨whole, short⟩
  -- what is under way becomes whole with a session that opens or closes next
  cases now with
  | none =>
      refine ⟨rounds ++ [⟨ports, default, "", [], .byPeer⟩], last _ rfl, ?_⟩
      rw [part.2]
      simp [Round.events]
  | some s =>
      obtain ⟨-, peer, messages, part⟩ := part
      refine ⟨rounds ++ [⟨ports, s, peer, messages, .byPeer⟩], last _ rfl, ?_⟩
      rw [part]
      simp [Round.events]

end Trace
end StreamTunnel
