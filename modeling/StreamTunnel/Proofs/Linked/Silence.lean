import StreamTunnel.Proofs.Linked.Basic

namespace StreamTunnel.LinkedPair
open Station

def inFlight (s : LinkedPair) : List Bytes :=
  s.sent .guest ++ s.sent .host

/-- One side takes the next packet; should it dial, the dial may end either way. -/
inductive Delivered (s : LinkedPair) : LinkedPair → Prop
  | intro (side : Side) (reached : Bool) (waits : s.sent side.other ≠ []) :
      Delivered s (s.step (.deliver side reached))

inductive Deliveries : Nat → LinkedPair → LinkedPair → Prop
  | none (s : LinkedPair) : Deliveries 0 s s
  | more {n : Nat} {s t u : LinkedPair} (first : Delivered s t) (rest : Deliveries n t u) :
      Deliveries (n + 1) s u

def Answers (raw : Bytes) (answer : List Bytes) : Prop :=
  answer = [] ∨ ∃ id payload, Packet.decode raw = .ok ⟨id, .data, payload⟩ ∧
    answer = [(Packet.disconnect id).encode]

def weight (raw : Bytes) : Nat :=
  match Packet.decode raw with
  | .ok ⟨_, .data, _⟩ => 2
  | _ => 1

def weightOf (packets : List Bytes) : Nat :=
  (packets.map weight).sum

variable {s t : LinkedPair} {side : Side} {raw : Bytes} {rest answer : List Bytes} {n : Nat}

theorem weight_pos (raw : Bytes) : 0 < weight raw := by
  unfold weight
  split <;> omega

theorem weightOf_le (packets : List Bytes) : weightOf packets ≤ 2 * packets.length := by
  have single (raw : Bytes) : weight raw ≤ 2 := by
    unfold weight
    split <;> omega
  induction packets with
  | nil => exact Nat.le_refl 0
  | cons raw rest ih =>
      have := single raw
      simp only [weightOf, List.map_cons, List.sum_cons, List.length_cons] at ih ⊢
      omega

theorem Answers.weight_lt (h : Answers raw answer) : weightOf answer < weight raw := by
  rcases h with rfl | ⟨id, payload, read, rfl⟩
  · exact weight_pos raw
  · have question : weight raw = 2 := by simp [weight, read]
    have reply : weight (Packet.disconnect id).encode = 1 := by
      rw [weight, Packet.decode_encode_disconnect]
      rfl
    simp [weightOf, question, reply]

theorem exists_answer (a : Station (List Bytes)) (raw : Bytes) (dialed : Option SocketId) :
    ∃ answer, (a.packet .queue raw dialed).outlet = a.outlet ++ answer ∧ Answers raw answer := by
  have silent {streams asked} (turn : Turn a (a.packet .queue raw dialed) streams [] asked) :
      ∃ answer, (a.packet .queue raw dialed).outlet = a.outlet ++ answer ∧ Answers raw answer :=
    ⟨[], by simpa using turn.outlet_eq, .inl rfl⟩
  cases read : Packet.decode raw with
  | error e => exact ⟨[], by rw [packet_turn_of_error read, List.append_nil], .inl rfl⟩
  | ok p =>
      obtain ⟨id, kind, payload⟩ := p
      cases known : a.mux.lookup id with
      | some r =>
          cases kind with
          | data => exact silent (packet_turn_written read known)
          | disconnect => exact silent (packet_turn_told read known)
      | none =>
          cases kind with
          | disconnect => exact silent (packet_turn_told_of_none read known)
          | data =>
              by_cases refused : a.mux.canDial = false ∨ dialed = none
              · have turn := packet_turn_refused read known refused
                exact ⟨_, turn.outlet_eq, .inr ⟨id, payload, read, rfl⟩⟩
              · rw [not_or, Bool.not_eq_false] at refused
                obtain ⟨able, reached⟩ := refused
                obtain ⟨socket, rfl⟩ := Option.ne_none_iff_exists'.mp reached
                exact silent (packet_turn_adopted socket read known able)

theorem deliver_eq (reached : Bool) (next : s.sent side.other = raw :: rest) :
    (s.step (.deliver side reached)).sent side.other = rest ∧
      ∃ answer, (s.step (.deliver side reached)).sent side = s.sent side ++ answer ∧
        Answers raw answer := by
  have stepped : s.step (.deliver side reached) =
      (s.setSent side.other rest).receive side raw reached := by
    rw [sent] at next
    rw [step, next]
  have before : (s.setSent side.other rest).station side = s.station side := by
    simp [setSent]
  rw [stepped, receive, before]
  refine ⟨by simp [sent, note, setSent], ?_⟩
  simp only [sent, note, Function.update_self]
  exact exists_answer ..

theorem weight_inFlight (s : LinkedPair) (side : Side) :
    weightOf s.inFlight = weightOf (s.sent side) + weightOf (s.sent side.other) := by
  cases side <;> simp [inFlight, weightOf, Side.other, Nat.add_comm]

theorem Delivered.weight_lt (h : Delivered s t) : weightOf t.inFlight < weightOf s.inFlight := by
  obtain ⟨side, reached, waits⟩ := h
  obtain ⟨raw, rest, next⟩ := List.exists_cons_of_ne_nil waits
  obtain ⟨left, answer, added, answers⟩ := deliver_eq reached next
  have fewer := answers.weight_lt
  rw [weight_inFlight _ side, weight_inFlight _ side, left, added, next]
  simp only [weightOf, List.map_append, List.sum_append, List.map_cons, List.sum_cons] at fewer ⊢
  omega

theorem Deliveries.weight_le (h : Deliveries n s t) :
    n + weightOf t.inFlight ≤ weightOf s.inFlight := by
  induction h with
  | none => omega
  | more first _ ih =>
      have := first.weight_lt
      omega

theorem exists_delivered (waits : s.inFlight ≠ []) : ∃ t, Delivered s t := by
  simp only [inFlight, ne_eq, List.append_eq_nil_iff, not_and_or] at waits
  rcases waits with guest | host
  · exact ⟨_, .intro .host true guest⟩
  · exact ⟨_, .intro .guest true host⟩

theorem acc_delivered (s : LinkedPair) : Acc (fun t s => Delivered s t) s :=
  Subrelation.accessible Delivered.weight_lt
    (InvImage.accessible (fun s : LinkedPair => weightOf s.inFlight) (Nat.lt_wfRel.wf.apply _))

/-- With silent sockets no order in which packets are taken goes on for ever. A packet with data puts
at most one on the way back, which says that its stream is gone, and any other packet puts none; so
at most twice as many are taken as were under way, and they are taken until none is. -/
theorem deliveries_die_out (s : LinkedPair) :
    (∀ side reached raw rest, s.sent side.other = raw :: rest →
      (s.step (.deliver side reached)).sent side.other = rest ∧
      ∃ answer, (s.step (.deliver side reached)).sent side = s.sent side ++ answer ∧
        (answer = [] ∨ ∃ id payload, Packet.decode raw = .ok ⟨id, .data, payload⟩ ∧
          answer = [(Packet.disconnect id).encode])) ∧
    Acc (fun t s => Delivered s t) s ∧
    ∀ n t, Deliveries n s t →
      n ≤ 2 * s.inFlight.length ∧ (t.inFlight = [] ∨ ∃ u, Delivered t u) := by
  refine ⟨fun side reached raw rest next => deliver_eq reached next, acc_delivered s, ?_⟩
  intro n t taken
  constructor
  · calc n ≤ n + weightOf t.inFlight := Nat.le_add_right ..
      _ ≤ weightOf s.inFlight := taken.weight_le
      _ ≤ 2 * s.inFlight.length := weightOf_le _
  · by_cases quiet : t.inFlight = []
    · exact .inl quiet
    · exact .inr (exists_delivered quiet)

theorem deliveries_die_out_unknown :
    let id := StreamId.ofNat 5
    let s : LinkedPair := { station := fun side =>
      { mux := .start {} false, outlet := if side = .guest then [(Packet.data id [1]).encode] else [] } }
    let t := s.step (.deliver .host true)
    let u := t.step (.deliver .guest true)
    t.sent .host = [(Packet.disconnect id).encode] ∧ Deliveries 2 s u ∧ 2 ≤ 2 * s.inFlight.length ∧
      u.inFlight = [] := by
  intro id s t u
  have answered : t.sent .host = [(Packet.disconnect id).encode] := by decide +kernel
  have taken : Deliveries 2 s u := by
    refine .more (.intro .host true ?_) (.more (.intro .guest true ?_) (.none u))
    · exact List.cons_ne_nil _ _
    · change t.sent .host ≠ []
      simp [answered]
  obtain ⟨-, -, bounded⟩ := deliveries_die_out s
  exact ⟨answered, taken, (bounded 2 u taken).1, by decide +kernel⟩

end StreamTunnel.LinkedPair
