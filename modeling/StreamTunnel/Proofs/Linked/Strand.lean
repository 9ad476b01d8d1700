import StreamTunnel.Proofs.Linked.Step

namespace StreamTunnel

structure Strand where
  stream : Side → Option StreamRef
  sent : Side → List Letter
  log : List Event

namespace Strand

def Fresh (t : Strand) (r : StreamRef) : Prop :=
  ∀ e ∈ t.log, ∀ side r', e.place? = some (side, r') → r'.socket ≠ r.socket

/-- One step of the strand of an id, with the letter that is taken in it and the side that takes it. -/
inductive Step (id : StreamId) (notify : Side → Bool) :
    Option (Side × Letter) → Strand → Strand → Prop
  | idle {t} : Step id notify none t t
  | attached {t r} : r.id = id → t.Fresh r → t.stream .guest = none →
      Step id notify none t { t with
        stream := Function.update t.stream .guest (some r)
        log := t.log ++ [.opened .guest r] }
  | heard {t side r piece} {parts : List Bytes} : t.stream side = some r → piece ≠ [] →
      parts.flatten = piece → (∀ b ∈ parts, b ≠ []) →
      Step id notify none t { t with
        sent := Function.update t.sent side (t.sent side ++ parts.map .data)
        log := t.log ++ [.heard side r piece] }
  | closed {t side r} : t.stream side = some r →
      Step id notify none t {
        stream := Function.update t.stream side none
        sent := Function.update t.sent side
          (t.sent side ++ if notify side then [.gone] else [])
        log := t.log ++ [.closed side r false] }
  | queued {t side r payload rest} : t.stream side = some r →
      t.sent side.other = .data payload :: rest →
      Step id notify (some (side, .data payload)) t { t with
        sent := Function.update t.sent side.other rest
        log := t.log ++ [.queued side r payload] }
  | adopted {t r payload rest} : r.id = id → t.Fresh r → t.stream .host = none →
      t.sent .guest = .data payload :: rest →
      Step id notify (some (.host, .data payload)) t {
        stream := Function.update t.stream .host (some r)
        sent := Function.update t.sent .guest rest
        log := t.log ++ [.opened .host r, .queued .host r payload] }
  | refused {t side payload rest} : t.stream side = none →
      t.sent side.other = .data payload :: rest →
      Step id notify (some (side, .data payload)) t { t with
        sent := Function.update (Function.update t.sent side.other rest) side
          (t.sent side ++ [.gone])
        log := t.log ++ [.refused side id payload] }
  | told {t side r rest} : t.stream side = some r → t.sent side.other = .gone :: rest →
      Step id notify (some (side, .gone)) t {
        stream := Function.update t.stream side none
        sent := Function.update t.sent side.other rest
        log := t.log ++ [.closed side r true] }
  | toldAgain {t side rest} : t.stream side = none → t.sent side.other = .gone :: rest →
      Step id notify (some (side, .gone)) t { t with
        sent := Function.update t.sent side.other rest }

def heardFrom (side : Side) (r : StreamRef) (t : Strand) : Bytes :=
  t.log.flatMap (·.heardFrom side r)

def queuedTo (side : Side) (r : StreamRef) (t : Strand) : Bytes :=
  t.log.flatMap (·.queuedTo side r.socket)

@[simp] theorem heardFrom_append (t : Strand) (stream : Side → Option StreamRef)
    (sent : Side → List Letter) (events : List Event) (side : Side) (r : StreamRef) :
    (⟨stream, sent, t.log ++ events⟩ : Strand).heardFrom side r =
      t.heardFrom side r ++ events.flatMap (·.heardFrom side r) := by
  simp [heardFrom]

@[simp] theorem queuedTo_append (t : Strand) (stream : Side → Option StreamRef)
    (sent : Side → List Letter) (events : List Event) (side : Side) (r : StreamRef) :
    (⟨stream, sent, t.log ++ events⟩ : Strand).queuedTo side r =
      t.queuedTo side r ++ events.flatMap (·.queuedTo side r.socket) := by
  simp [queuedTo]

theorem Fresh.heardFrom_eq {t : Strand} {r : StreamRef} (fresh : t.Fresh r) (side : Side) :
    t.heardFrom side r = [] := by
  rw [heardFrom, List.flatMap_eq_nil_iff]
  intro e mem
  by_contra something
  exact fresh e mem side r (Event.place?_of_heardFrom something) rfl

theorem Fresh.queuedTo_eq {t : Strand} {r : StreamRef} (fresh : t.Fresh r) (side : Side) :
    t.queuedTo side r = [] := by
  rw [queuedTo, List.flatMap_eq_nil_iff]
  intro e mem
  by_contra something
  obtain ⟨r', place, same⟩ := Event.place?_of_queuedTo something
  exact fresh e mem side r' place same

end Strand

theorem letters_append (id : StreamId) (p q : List Bytes) :
    letters id (p ++ q) = letters id p ++ letters id q := by
  simp [letters]

theorem letters_cons (id : StreamId) (raw : Bytes) (rest : List Bytes) :
    letters id (raw :: rest) = (Letter.about? id raw).toList ++ letters id rest := by
  cases h : Letter.about? id raw <;> simp [letters, h]

@[simp] theorem about?_encode_disconnect (id j : StreamId) :
    Letter.about? id (Packet.disconnect j).encode = if j = id then some .gone else none := by
  rw [Letter.about?, Packet.decode_encode_disconnect]
  rfl

@[simp] theorem about?_encode_data (id j : StreamId) (b : Bytes) :
    Letter.about? id (Packet.data j b).encode = if j = id then some (.data b) else none := by
  rw [Letter.about?, Packet.decode_encode_data]
  rfl

theorem letters_encode_chunked (id j : StreamId) (b : Bytes) (size : Nat) :
    letters id ((Packet.chunked j b size).map Packet.encode) =
      if j = id then (Packet.pieces size b).map .data else [] := by
  rw [Packet.chunked, List.map_map, letters, List.filterMap_map]
  by_cases h : j = id
  · subst h; simp [Function.comp_def]
  · simp [Function.comp_def, h]

namespace LinkedPair
open Station

variable {settings : Side → MuxSettings} {s : LinkedPair} {side : Side} {id : StreamId}

def strand (id : StreamId) (s : LinkedPair) : Strand where
  stream := fun side => s.stream side id
  sent := fun side => letters id (s.sent side)
  log := s.log.filter (·.id = id)

theorem flatMap_filter_eq {keep : Event → Bool} {f : Event → Bytes} (log : List Event)
    (empty : ∀ e ∈ log, keep e = false → f e = []) : (log.filter keep).flatMap f = log.flatMap f := by
  induction log with
  | nil => rfl
  | cons e log ih =>
      have tail := ih (fun e' mem => empty e' (List.mem_cons_of_mem _ mem))
      cases kept : keep e with
      | true => rw [List.filter_cons_of_pos kept, List.flatMap_cons, List.flatMap_cons, tail]
      | false =>
          rw [List.filter_cons_of_neg (by simp [kept]), List.flatMap_cons,
            empty e List.mem_cons_self kept, List.nil_append, tail]

theorem strand_heardFrom (side : Side) (r : StreamRef) (s : LinkedPair) :
    (s.strand r.id).heardFrom side r = s.heardFrom side r := by
  apply flatMap_filter_eq
  intro e _ elsewhere
  by_contra something
  simp [Event.id_of_place? (Event.place?_of_heardFrom something)] at elsewhere

theorem Sound.strand_queuedTo (sound : Sound settings s) {r : StreamRef}
    (opened : .opened side r ∈ s.log) :
    (s.strand r.id).queuedTo side r = s.writtenTo side r.socket := by
  rw [sound.written_eq side r.socket]
  apply flatMap_filter_eq
  intro e mem elsewhere
  by_contra something
  obtain ⟨r', place, same⟩ := Event.place?_of_queuedTo something
  obtain rfl := sound.distinct side r' r (sound.placed e mem side r' place) opened same
  simp [Event.id_of_place? place] at elsewhere

theorem strand_note (id : StreamId) (b : Station (List Bytes)) (events : List Event) :
    (s.note side b events).strand id = {
      stream := Function.update (s.strand id).stream side (b.mux.lookup id)
      sent := Function.update (s.strand id).sent side (letters id b.outlet)
      log := (s.strand id).log ++ events.filter (·.id = id) } := by
  simp only [strand, note, List.filter_append, Strand.mk.injEq, and_true]
  constructor
  all_goals
    funext x
    by_cases h : x = side
    · subst h; simp [stream, sent]
    · simp [stream, sent, h]

theorem strand_setSent (id : StreamId) (packets : List Bytes) :
    (s.setSent side packets).strand id = { s.strand id with
      sent := Function.update (s.strand id).sent side (letters id packets) } := by
  simp only [strand, setSent, Strand.mk.injEq, and_true]
  constructor
  all_goals
    funext x
    by_cases h : x = side
    · subst h; simp [stream, sent]
    · simp [stream, sent, h]

theorem update_stream_self (side : Side) (id : StreamId) (s : LinkedPair) :
    Function.update (s.strand id).stream side ((s.station side).mux.lookup id) =
      (s.strand id).stream :=
  Function.update_eq_self _ _

theorem update_sent_self (side : Side) (id : StreamId) (s : LinkedPair) :
    Function.update (s.strand id).sent side (letters id (s.station side).outlet) =
      (s.strand id).sent :=
  Function.update_eq_self _ _

theorem strand_unmoved {b : Station (List Bytes)} {events : List Event}
    (same : b.mux.lookup id = (s.station side).mux.lookup id)
    (quiet : letters id b.outlet = letters id (s.station side).outlet)
    (silent : events.filter (·.id = id) = []) :
    (s.note side b events).strand id = s.strand id := by
  rw [strand_note, same, quiet, silent, List.append_nil, update_stream_self, update_sent_self]

theorem fresh_of_newSocket (sound : Sound settings s) {r : StreamRef}
    (new : r.socket = s.newSocket side) : (s.strand id).Fresh r := by
  intro e mem x r' place same
  have known := sound.placed e (List.mem_filter.mp mem).1 x r' place
  have below := sound.numbered x r' known
  have number : (s.newSocket side).number = s.log.length := by cases side <;> rfl
  rw [same, new, number] at below
  exact absurd below (Nat.lt_irrefl _)

theorem letters_farewell (sound : Sound settings s) (side : Side) (id j : StreamId) :
    letters id ((farewell j (s.station side).mux).map Packet.encode) =
      if j = id then (if (settings side).notifyPeer then [.gone] else []) else [] := by
  rw [farewell, ← sound.notify side]
  by_cases h : j = id <;> split <;> simp [letters, h]

theorem strand_of_own {b : Station (List Bytes)} {events : List Event} (sound : Sound settings s)
    (h : Happening side s.log.length (s.station side) none b events) (id : StreamId) :
    Strand.Step id (fun x => (settings x).notifyPeer) none (s.strand id)
      ((s.note side b events).strand id) := by
  cases h with
  | idle turn =>
      rw [strand_unmoved (turn.lookup_eq id) (by simp [turn.outlet_eq]) rfl]
      exact .idle
  | @attached _ r guest free new turn =>
      by_cases mine : r.id = id
      · subst guest mine
        rw [strand_note, turn.lookup_eq, turn.outlet_eq, Function.update_self, List.map_nil,
          List.append_nil, update_sent_self]
        simpa [Event.id] using Strand.Step.attached rfl (fresh_of_newSocket sound new) free
      · rw [strand_unmoved (by rw [turn.lookup_eq, Function.update_of_ne (Ne.symm mine)])
          (by simp [turn.outlet_eq]) (by simp [Event.id, mine])]
        exact .idle
  | @heard _ r piece there something turn =>
      by_cases mine : r.id = id
      · subst mine
        have only : [Event.heard side r piece].filter (·.id = r.id) = [.heard side r piece] := by
          simp [Event.id]
        rw [strand_note, turn.lookup_eq, turn.outlet_eq, letters_append, letters_encode_chunked,
          if_pos rfl, update_stream_self, only]
        exact .heard there something (Packet.flatten_pieces _ piece)
          (fun _ => Packet.ne_nil_of_mem_pieces something)
      · rw [strand_unmoved (turn.lookup_eq id)
          (by simp [turn.outlet_eq, letters_append, letters_encode_chunked, mine])
          (by simp [Event.id, mine])]
        exact .idle
  | @closed _ r there turn =>
      by_cases mine : r.id = id
      · subst mine
        have only : [Event.closed side r false].filter (·.id = r.id) = [.closed side r false] := by
          simp [Event.id]
        rw [strand_note, turn.lookup_eq, turn.outlet_eq, letters_append, Function.update_self,
          letters_farewell sound, if_pos rfl, only]
        exact .closed there
      · rw [strand_unmoved (by rw [turn.lookup_eq, Function.update_of_ne (Ne.symm mine)])
          (by simp [turn.outlet_eq, letters_append, letters_farewell sound, mine])
          (by simp [Event.id, mine])]
        exact .idle

theorem update_sent_other (side : Side) (id : StreamId) (s : LinkedPair) (rest : List Letter) :
    Function.update (Function.update (s.strand id).sent side.other rest) side
        (letters id (s.station side).outlet) =
      Function.update (s.strand id).sent side.other rest := by
  have same : letters id (s.station side).outlet =
      Function.update (s.strand id).sent side.other rest side := by
    rw [Function.update_of_ne (Side.ne_other side)]
    rfl
  rw [same, Function.update_eq_self]

theorem strand_of_elsewhere {p : Packet} {b : Station (List Bytes)} {events : List Event}
    (other : p.stream ≠ id)
    (h : Happening side s.log.length (s.station side) (some p) b events) :
    (s.note side b events).strand id = s.strand id := by
  cases h with
  | @queued _ r payload there turn =>
      have away : r.id ≠ id := other
      exact strand_unmoved (turn.lookup_eq id) (by simp [turn.outlet_eq]) (by simp [Event.id, away])
  | @adopted _ r payload host free new turn =>
      have away : r.id ≠ id := other
      exact strand_unmoved (by rw [turn.lookup_eq, Function.update_of_ne away.symm])
        (by simp [turn.outlet_eq]) (by simp [Event.id, away])
  | @refused _ j payload free turn =>
      have away : j ≠ id := other
      exact strand_unmoved (turn.lookup_eq id)
        (by simp [turn.outlet_eq, letters, away]) (by simp [Event.id, away])
  | @told _ r rest there turn =>
      have away : r.id ≠ id := other
      exact strand_unmoved (by rw [turn.lookup_eq, Function.update_of_ne away.symm])
        (by simp [turn.outlet_eq]) (by simp [Event.id, away])
  | toldAgain free turn => exact strand_unmoved (turn.lookup_eq id) (by simp [turn.outlet_eq]) rfl

theorem strand_of_letter {p : Packet} {rest : List Bytes} {b : Station (List Bytes)}
    {events : List Event} {l : Letter} (sound : Sound settings s) (about : Letter.of? id p = some l)
    (next : (s.strand id).sent side.other = l :: letters id rest)
    (h : Happening side s.log.length (s.station side) (some p) b events) :
    Strand.Step id (fun x => (settings x).notifyPeer) (some (side, l)) (s.strand id)
      (((s.setSent side.other rest).note side b events).strand id) := by
  rw [strand_note, strand_setSent]
  have mine : p.stream = id := by
    by_contra other
    simp [Letter.of?, other] at about
  subst mine
  simp only [Letter.of?, if_true, Option.some.injEq] at about
  subst about
  cases h with
  | @queued _ r payload there turn =>
      have only : [Event.queued side r payload].filter (·.id = r.id) =
          [.queued side r payload] := by simp [Event.id]
      rw [turn.lookup_eq, turn.outlet_eq, List.map_nil, List.append_nil, update_stream_self,
        update_sent_other, only]
      exact .queued there next
  | @adopted _ r payload host free new turn =>
      subst host
      have both : [Event.opened .host r, .queued .host r payload].filter (·.id = r.id) =
          [.opened .host r, .queued .host r payload] := by simp [Event.id]
      rw [turn.lookup_eq, turn.outlet_eq, List.map_nil, List.append_nil, update_sent_other,
        Function.update_self, both]
      exact .adopted rfl (fresh_of_newSocket sound new) free next
  | @refused _ id payload free turn =>
      have only : [Event.refused side id payload].filter (·.id = id) =
          [.refused side id payload] := by simp [Event.id]
      have reply : letters id [(Packet.disconnect id).encode] = [.gone] := by simp [letters]
      rw [turn.lookup_eq, turn.outlet_eq, letters_append, List.map_singleton, update_stream_self,
        only, reply]
      exact .refused free next
  | @told _ r rest there turn =>
      have only : [Event.closed side r true].filter (·.id = r.id) = [.closed side r true] := by
        simp [Event.id]
      rw [turn.lookup_eq, turn.outlet_eq, List.map_nil, List.append_nil, update_sent_other,
        Function.update_self, only]
      exact .told there next
  | toldAgain free turn =>
      rw [turn.lookup_eq, turn.outlet_eq, List.map_nil, List.append_nil, update_stream_self,
        update_sent_other, List.filter_nil, List.append_nil]
      exact .toldAgain free next

theorem strand_of_taken {raw : Bytes} {rest : List Bytes} {b : Station (List Bytes)}
    {events : List Event} (sound : Sound settings s) (next : s.sent side.other = raw :: rest)
    (h : Happening side s.log.length (s.station side) (Packet.decode raw).toOption b events)
    (id : StreamId) :
    Strand.Step id (fun x => (settings x).notifyPeer) ((Letter.about? id raw).map (side, ·))
      (s.strand id) (((s.setSent side.other rest).note side b events).strand id) := by
  have before : (s.strand id).sent side.other = (Letter.about? id raw).toList ++ letters id rest := by
    rw [← letters_cons, ← next]
    rfl
  have same : (s.setSent side.other rest).station side = s.station side := by simp [setSent]
  cases about : Letter.about? id raw with
  | some l =>
      rw [about] at before
      obtain ⟨p, decoded, mine⟩ := Option.bind_eq_some_iff.mp about
      rw [decoded] at h
      exact strand_of_letter sound mine before h
  | none =>
      -- The packet is for another id or for none, so that the strand loses no letter.
      rw [about] at before
      have unmoved : (s.setSent side.other rest).strand id = s.strand id := by
        rw [strand_setSent, ← List.nil_append (letters id rest), ← Option.toList_none, ← before,
          Function.update_eq_self]
      rw [← same] at h
      rw [← unmoved]
      cases decoded : (Packet.decode raw).toOption with
      | none =>
          rw [decoded] at h
          exact strand_of_own (sound.setSent side.other rest) h id
      | some p =>
          rw [decoded] at h
          have other : p.stream ≠ id := by
            intro mine
            simp [Letter.about?, decoded, Letter.of?, mine] at about
          rw [strand_of_elsewhere other h]
          exact .idle

def taken (id : StreamId) : Move → LinkedPair → Option (Side × Letter)
  | .deliver side _, s => (s.sent side.other).head?.bind (Letter.about? id) |>.map (side, ·)
  | _, _ => none

theorem strand_step (sound : Sound settings s) (m : Move) (id : StreamId) :
    Strand.Step id (fun x => (settings x).notifyPeer) (s.taken id m) (s.strand id)
      ((s.step m).strand id) := by
  by_cases own : ∃ side reached, m = .deliver side reached
  · obtain ⟨side, reached, rfl⟩ := own
    cases next : s.sent side.other with
    | nil =>
        rw [step_deliver_nil next, taken, next]
        exact .idle
    | cons raw rest =>
        obtain ⟨b, events, h, eq⟩ := step_deliver sound.roles reached next
        rw [eq, taken, next]
        exact strand_of_taken sound next h id
  · obtain ⟨side, b, events, h, eq⟩ := step_local m (by grind)
    have no_letter : s.taken id m = none := by cases m <;> grind [taken]
    rw [eq, no_letter]
    exact strand_of_own sound h id

theorem strand_run (holds : Strand → Prop) {port : Nat}
    (initial : holds ⟨fun _ => none, fun _ => [], []⟩)
    (kept : ∀ label t t', Strand.Step id (fun x => (settings x).notifyPeer) label t t' →
      holds t → holds t')
    (moves : List Move) : holds (((start settings port).run moves).strand id) := by
  suffices ∀ s, Sound settings s → holds (s.strand id) → holds ((s.run moves).strand id) by
    apply this _ (sound_start settings port)
    have empty : (start settings port).strand id = ⟨fun _ => none, fun _ => [], []⟩ := by
      simp only [strand, Strand.mk.injEq]
      refine ⟨?_, ?_, rfl⟩ <;> funext side <;> cases side <;> rfl
    rwa [empty]
  induction moves with
  | nil => exact fun _ _ h => h
  | cons m moves ih =>
      intro s sound h
      exact ih _ (sound.step m) (kept _ _ _ (strand_step sound m id) h)

end LinkedPair
end StreamTunnel
