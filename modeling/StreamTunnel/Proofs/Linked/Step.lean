import StreamTunnel.Proofs.Linked.Basic

namespace StreamTunnel.LinkedPair
open Station

variable {settings : Side → MuxSettings} {s : LinkedPair} {side : Side} {id : StreamId}

/-- What a side does at a moment `now`, on a packet that it takes or on its own. -/
inductive Happening (side : Side) (now : Nat) (a : Station (List Bytes)) :
    Option Packet → Station (List Bytes) → List Event → Prop
  | idle {b} : Turn a b a.mux.streams [] [] → Happening side now a none b []
  | attached {b r} : side = .guest → a.mux.lookup r.id = none → r.socket = side.socket now →
      Turn a b (Function.update a.mux.streams r.id (some r)) [] [] →
      Happening side now a none b [.opened side r]
  | heard {b r piece} : a.mux.lookup r.id = some r → piece ≠ [] →
      Turn a b a.mux.streams (Packet.chunked r.id piece a.mux.settings.chunkSize) [] →
      Happening side now a none b [.heard side r piece]
  | closed {b r} : a.mux.lookup r.id = some r →
      Turn a b (Function.update a.mux.streams r.id none) (farewell r.id a.mux)
        [.release r.socket] →
      Happening side now a none b [.closed side r false]
  | queued {b r payload} : a.mux.lookup r.id = some r →
      Turn a b a.mux.streams [] [.write r.socket payload] →
      Happening side now a (some ⟨r.id, .data, payload⟩) b [.queued side r payload]
  | adopted {b r payload} : side = .host → a.mux.lookup r.id = none →
      r.socket = side.socket now →
      Turn a b (Function.update a.mux.streams r.id (some r)) [] [.write r.socket payload] →
      Happening side now a (some ⟨r.id, .data, payload⟩) b
        [.opened side r, .queued side r payload]
  | refused {b id payload} : a.mux.lookup id = none →
      Turn a b a.mux.streams [Packet.disconnect id] [] →
      Happening side now a (some ⟨id, .data, payload⟩) b [.refused side id payload]
  | told {b r rest} : a.mux.lookup r.id = some r →
      Turn a b (Function.update a.mux.streams r.id none) [] [.release r.socket] →
      Happening side now a (some ⟨r.id, .disconnect, rest⟩) b [.closed side r true]
  | toldAgain {b id rest} : a.mux.lookup id = none → Turn a b a.mux.streams [] [] →
      Happening side now a (some ⟨id, .disconnect, rest⟩) b []

def Roles (s : LinkedPair) : Prop :=
  ∀ side, (s.station side).mux.canDial = decide (side = .host)

theorem happening_ended (side : Side) (r : StreamRef) :
    ∃ b events, Happening side s.log.length (s.station side) none b events ∧
      s.ended side r = s.note side b events := by
  refine ⟨_, _, ?_, rfl⟩
  by_cases there : (s.station side).mux.lookup r.id = some r
  · rw [readEnded, if_pos (Multiplexer.isOpen_iff.mpr there),
      if_pos (Multiplexer.isOpen_iff.mpr there), closing, there]
    exact .closed there (closeFromLocal_turn_of_some there)
  · have shut : (s.station side).mux.isOpen r = false := by
      simpa [Multiplexer.isOpen] using there
    simpa [readEnded, shut] using Happening.idle (Turn.idle _)

theorem happening_failed (side : Side) (r : StreamRef) :
    Happening side s.log.length (s.station side) none ((s.station side).writeFailed .queue r)
      (s.closing side r.id) := by
  unfold writeFailed closing
  cases there : (s.station side).mux.lookup r.id with
  | none => exact .idle (closeFromLocal_turn_of_none there)
  | some r' =>
      have same : r'.id = r.id := Multiplexer.id_of_lookup there
      rw [← same] at there ⊢
      exact .closed there (closeFromLocal_turn_of_some there)

theorem happening_arrival (side : Side) (roles : s.Roles) (raw : Bytes) (reached : Bool) :
    ∃ b events, Happening side s.log.length (s.station side) (Packet.decode raw).toOption b events ∧
      s.receive side raw reached = s.note side b events := by
  refine ⟨_, _, ?_, rfl⟩
  generalize dialing : (if reached then some (s.newSocket side) else none) = dialed
  unfold Event.ofArrival
  cases decoded : Packet.decode raw with
  | error e =>
      rw [packet_turn_of_error decoded]
      exact .idle (.idle _)
  | ok p =>
      obtain ⟨id, kind, payload⟩ := p
      cases known : (s.station side).mux.lookup id with
      | some r =>
          obtain rfl : r.id = id := Multiplexer.id_of_lookup known
          cases kind with
          | data => simpa only [known] using .queued known (packet_turn_written decoded known)
          | disconnect => simpa only [known] using .told known (packet_turn_told decoded known)
      | none =>
          cases kind with
          | disconnect =>
              simpa only [known] using .toldAgain known (packet_turn_told_of_none decoded known)
          | data =>
              by_cases dials : side = .host ∧ reached = true
              · obtain ⟨rfl, rfl⟩ := dials
                obtain rfl := dialing
                have able : (s.station .host).mux.canDial = true := by simp [roles .host]
                have turn := packet_turn_adopted (s.newSocket .host) decoded known able
                have there := turn.lookup_eq id
                rw [Function.update_self] at there
                simp only [if_true, known, there]
                exact .adopted (r := ⟨id, s.newSocket .host⟩) rfl known rfl turn
              · have unable : (s.station side).mux.canDial = false ∨ dialed = none := by
                  rw [roles side, ← dialing]
                  cases side <;> simp_all
                have turn := packet_turn_refused decoded known unable
                have missing := turn.lookup_eq id
                simp only [known, missing]
                exact .refused known turn

theorem step_local (m : Move) (own : ∀ side reached, m ≠ .deliver side reached) :
    ∃ side b events, Happening side s.log.length (s.station side) none b events ∧
      s.step m = s.note side b events := by
  cases m with
  | deliver side reached => exact absurd rfl (own side reached)
  | ended side r => exact ⟨side, happening_ended side r⟩
  | failed side r => exact ⟨side, _, _, happening_failed side r, rfl⟩
  | attach drawn =>
      refine ⟨.guest, ((s.station .guest).attach (s.newSocket .guest) drawn).2, _, ?_, rfl⟩
      cases drawing : ((s.station .guest).attach (s.newSocket .guest) drawn).1 with
      | none =>
          rw [attach_none drawing]
          exact .idle (.idle _)
      | some r =>
          obtain ⟨free, fresh, turn⟩ := attach_turn drawing
          exact .attached rfl free fresh turn
  | read side r piece =>
      refine ⟨side, ?_⟩
      by_cases empty : piece = []
      · simpa [step, empty] using happening_ended side r
      · refine ⟨_, _, ?_, if_neg (by simpa using empty)⟩
        by_cases there : (s.station side).mux.lookup r.id = some r
        · rw [if_pos (Multiplexer.isOpen_iff.mpr there)]
          exact .heard there empty (read_turn there)
        · have shut : (s.station side).mux.isOpen r = false := by
            simpa [Multiplexer.isOpen] using there
          simpa [Station.read, shut] using Happening.idle (Turn.idle _)

theorem step_deliver_nil {reached : Bool} (none_sent : s.sent side.other = []) :
    s.step (.deliver side reached) = s := by
  simp only [sent] at none_sent
  simp [step, none_sent]

theorem step_deliver {raw : Bytes} {rest : List Bytes} (roles : s.Roles) (reached : Bool)
    (next : s.sent side.other = raw :: rest) :
    ∃ b events, Happening side s.log.length (s.station side) (Packet.decode raw).toOption b events ∧
      s.step (.deliver side reached) = (s.setSent side.other rest).note side b events := by
  have same : (s.setSent side.other rest).station side = s.station side := by
    simp [setSent]
  have roles' : (s.setSent side.other rest).Roles := by
    intro x
    rw [← roles x]
    by_cases h : x = side.other
    · subst h; simp [setSent, Multiplexer.canDial]
    · simp [setSent, h]
  obtain ⟨b, events, happening, eq⟩ := happening_arrival side roles' raw reached
  rw [same] at happening
  refine ⟨b, events, happening, ?_⟩
  rw [← eq]
  simp only [sent] at next
  simp [step, next]

variable {now : Nat} {a b : Station (List Bytes)} {p : Option Packet} {events : List Event}

theorem Happening.same_mux (h : Happening side now a p b events) :
    b.mux.settings = a.mux.settings ∧ b.mux.isHost = a.mux.isHost := by
  cases h <;> next turn => exact ⟨turn.settings_eq, turn.isHost_eq⟩

theorem Happening.stream_of_lookup {r : StreamRef} (h : Happening side now a p b events)
    (there : b.mux.lookup id = some r) : a.mux.lookup id = some r ∨ .opened side r ∈ events := by
  cases h
  all_goals
    next turn =>
      rw [turn.lookup_eq] at there
      grind [Function.update_apply]

theorem Happening.fresh_of_opened {side' : Side} {r : StreamRef}
    (h : Happening side now a p b events) (opened : .opened side' r ∈ events) :
    side' = side ∧ r.socket = side.socket now := by
  cases h <;> grind

theorem Happening.at_of_mem {e : Event} {side' : Side} {r : StreamRef}
    (h : Happening side now a p b events) (mem : e ∈ events) (place : e.place? = some (side', r)) :
    side' = side ∧ (a.mux.lookup r.id = some r ∨ .opened side r ∈ events) := by
  cases h <;> grind [Event.place?]

theorem Happening.opened_unique {side' : Side} {r r' : StreamRef}
    (h : Happening side now a p b events) (opened : .opened side' r ∈ events)
    (opened' : .opened side' r' ∈ events) : r = r' := by
  cases h <;> grind

theorem Happening.queued_elsewhere {side' : Side} {socket : SocketId}
    (h : Happening side now a p b events) (other : side' ≠ side) :
    events.flatMap (·.queuedTo side' socket) = [] := by
  cases h <;> simp [Event.queuedTo, other.symm]

theorem Happening.written_eq (h : Happening side now a p b events) (socket : SocketId) :
    b.actions.flatMap (written socket) =
      a.actions.flatMap (written socket) ++ events.flatMap (·.queuedTo side socket) := by
  cases h
  all_goals
    next turn =>
      rw [turn.actions_eq]
      simp [Event.queuedTo, written, eq_comm]

structure Sound (settings : Side → MuxSettings) (s : LinkedPair) : Prop where
  roles : s.Roles
  notify : ∀ side, (s.station side).mux.settings.notifyPeer = (settings side).notifyPeer
  opened : ∀ side id r, s.stream side id = some r → .opened side r ∈ s.log
  placed : ∀ e ∈ s.log, ∀ side r, e.place? = some (side, r) → .opened side r ∈ s.log
  numbered : ∀ side r, .opened side r ∈ s.log → r.socket.number < s.log.length
  distinct : ∀ side r r', .opened side r ∈ s.log → .opened side r' ∈ s.log →
    r.socket = r'.socket → r = r'
  written_eq : ∀ side socket, s.writtenTo side socket = s.log.flatMap (·.queuedTo side socket)

theorem sound_start (settings : Side → MuxSettings) (port : Nat) :
    Sound settings (start settings port) := by
  constructor
  case roles => intro side; cases side <;> simp [start, Multiplexer.canDial, Multiplexer.start]
  case notify => intro side; cases side <;> rfl
  case opened =>
    intro side id r h
    cases side <;> simp [stream, start, Multiplexer.start, Multiplexer.lookup] at h
  case written_eq => intro side socket; cases side <;> rfl
  all_goals simp [start]

theorem Sound.setSent (sound : Sound settings s) (side : Side) (packets : List Bytes) :
    Sound settings (s.setSent side packets) := by
  have same (x : Side) : ((s.setSent side packets).station x).mux = (s.station x).mux ∧
      ((s.setSent side packets).station x).actions = (s.station x).actions := by
    by_cases h : x = side
    · subst h; simp [LinkedPair.setSent]
    · simp [LinkedPair.setSent, h]
  constructor
  case roles => intro x; rw [(same x).1]; exact sound.roles x
  case notify => intro x; rw [(same x).1]; exact sound.notify x
  case opened => intro x id r h; exact sound.opened x id r (by rwa [stream, (same x).1] at h)
  case written_eq =>
    intro x socket
    rw [writtenTo, (same x).2]
    exact sound.written_eq x socket
  case placed => exact sound.placed
  case numbered => exact sound.numbered
  case distinct => exact sound.distinct

theorem Sound.note (sound : Sound settings s)
    (h : Happening side s.log.length (s.station side) p b events) :
    Sound settings (s.note side b events) := by
  obtain ⟨sameSettings, sameRole⟩ := h.same_mux
  have elsewhere {x : Side} (hx : x ≠ side) : (s.note side b events).station x = s.station x := by
    simp [LinkedPair.note, hx]
  have here : (s.note side b events).station side = b := by simp [LinkedPair.note]
  have log : (s.note side b events).log = s.log ++ events := rfl
  have known {r : StreamRef} (there : (s.station side).mux.lookup r.id = some r) :
      .opened side r ∈ s.log := sound.opened side _ r there
  have fresh {x : Side} {r : StreamRef} (new : .opened x r ∈ events) :
      r.socket.number = s.log.length := by
    rw [(h.fresh_of_opened new).2]
    cases side <;> rfl
  constructor
  case roles =>
    intro x
    by_cases hx : x = side
    · subst hx
      rw [here, Multiplexer.canDial, sameSettings, sameRole]
      exact sound.roles x
    · rw [elsewhere hx]
      exact sound.roles x
  case notify =>
    intro x
    by_cases hx : x = side
    · subst hx
      rw [here, sameSettings]
      exact sound.notify x
    · rw [elsewhere hx]
      exact sound.notify x
  case opened =>
    intro x id r there
    rw [log, List.mem_append]
    by_cases hx : x = side
    · subst hx
      rw [stream, here] at there
      rcases h.stream_of_lookup there with old | new
      · exact .inl (sound.opened x id r old)
      · exact .inr new
    · rw [stream, elsewhere hx] at there
      exact .inl (sound.opened x id r there)
  case placed =>
    intro e mem x r place
    rw [log, List.mem_append] at mem ⊢
    rcases mem with old | new
    · exact .inl (sound.placed e old x r place)
    · obtain ⟨rfl, there | opened⟩ := h.at_of_mem new place
      · exact .inl (known there)
      · exact .inr opened
  case numbered =>
    intro x r mem
    rw [log, List.mem_append] at mem
    rw [log, List.length_append]
    rcases mem with old | new
    · have := sound.numbered x r old
      omega
    · have := fresh new
      have := List.length_pos_of_mem new
      omega
  case distinct =>
    intro x r r' mem mem' same
    rw [log, List.mem_append] at mem mem'
    rcases mem with old | new <;> rcases mem' with old' | new'
    · exact sound.distinct x r r' old old' same
    · have := sound.numbered x r old
      have := fresh new'
      grind
    · have := sound.numbered x r' old'
      have := fresh new
      grind
    · exact h.opened_unique new new'
  case written_eq =>
    intro x socket
    rw [writtenTo, log, List.flatMap_append]
    by_cases hx : x = side
    · subst hx
      rw [here, h.written_eq socket]
      rw [← sound.written_eq x socket, writtenTo]
    · have none_here : events.flatMap (·.queuedTo x socket) = [] := h.queued_elsewhere hx
      rw [elsewhere hx, none_here, List.append_nil]
      exact sound.written_eq x socket

theorem Sound.step (sound : Sound settings s) (m : Move) : Sound settings (s.step m) := by
  by_cases own : ∃ side reached, m = .deliver side reached
  · obtain ⟨side, reached, rfl⟩ := own
    cases next : s.sent side.other with
    | nil => rwa [step_deliver_nil next]
    | cons raw rest =>
        obtain ⟨b, events, h, eq⟩ := step_deliver sound.roles reached next
        rw [eq]
        apply (sound.setSent side.other rest).note (p := (Packet.decode raw).toOption)
        simpa [LinkedPair.setSent] using h
  · obtain ⟨side, b, events, h, eq⟩ := step_local m (by grind)
    rw [eq]
    exact sound.note h

theorem Sound.run (sound : Sound settings s) (moves : List Move) :
    Sound settings (s.run moves) := by
  induction moves generalizing s with
  | nil => exact sound
  | cons m moves ih => exact ih (sound.step m)

end StreamTunnel.LinkedPair
