import StreamTunnel.Proofs.Linked.Balance

namespace StreamTunnel

def Move.delivers (side : Side) : Move → Bool
  | deliver side' _ => side' = side
  | _ => false

namespace LinkedPair
open Station

variable {settings : Side → MuxSettings} {s : LinkedPair} {side : Side} {id : StreamId} {port : Nat}
  {n : Nat}

def readAt (side : Side) (id : StreamId) (s : LinkedPair) : Bytes :=
  (s.stream side id).elim [] (s.heardFrom side ·)

def writtenAt (side : Side) (id : StreamId) (s : LinkedPair) : Bytes :=
  (s.stream side id).elim [] (s.writtenTo side ·.socket)

/-- At a side no stream of the id was taken out, and no dial for it failed. -/
def Unbroken (side : Side) (id : StreamId) (s : LinkedPair) : Prop :=
  ∀ e ∈ s.log, e.id = id → e.breaks side = false

instance (side : Side) (id : StreamId) (s : LinkedPair) : Decidable (s.Unbroken side id) :=
  inferInstanceAs (Decidable (∀ e ∈ s.log, _))

theorem strand_unbroken : (s.strand id).Unbroken side ↔ s.Unbroken side id := by
  simp [Strand.Unbroken, Unbroken, strand]

theorem strand_readAt (side : Side) (id : StreamId) (s : LinkedPair) :
    (s.strand id).readAt side = s.readAt side id := by
  simp only [Strand.readAt, readAt, strand]
  cases there : s.stream side id with
  | none => rfl
  | some r =>
      obtain rfl : r.id = id := Multiplexer.id_of_lookup there
      exact strand_heardFrom side r s

theorem Sound.strand_writtenAt (sound : Sound settings s) (side : Side) (id : StreamId) :
    (s.strand id).writtenAt side = s.writtenAt side id := by
  simp only [Strand.writtenAt, writtenAt, strand]
  cases there : s.stream side id with
  | none => rfl
  | some r =>
      obtain rfl : r.id = id := Multiplexer.id_of_lookup there
      exact sound.strand_queuedTo (sound.opened side r.id r there)

theorem Happening.outlet_eq {now : Nat} {a b : Station (List Bytes)} {p : Option Packet}
    {events : List Event} (h : Happening side now a p b events) :
    ∃ said, b.outlet = a.outlet ++ said := by
  cases h <;> next turn => exact ⟨_, turn.outlet_eq⟩

theorem sent_note (side' : Side) (b : Station (List Bytes)) (events : List Event) :
    (s.note side' b events).sent side = if side = side' then b.outlet else s.sent side := by
  by_cases here : side = side'
  · subst here; simp [sent, note]
  · simp [sent, note, here]

theorem sent_setSent (side' : Side) (packets : List Bytes) :
    (s.setSent side' packets).sent side = if side = side' then packets else s.sent side := by
  by_cases here : side = side'
  · subst here; simp [sent, setSent]
  · simp [sent, setSent, here]

theorem carried_append (id : StreamId) (p q : List Bytes) :
    carried id (p ++ q) = carried id p ++ carried id q := by
  rw [carried, letters_append, List.flatMap_append]
  rfl

theorem sent_step (roles : s.Roles) (m : Move) (side : Side) :
    ∃ said, (s.step m).sent side =
      (if m.delivers side.other then (s.sent side).tail else s.sent side) ++ said := by
  by_cases own : ∃ side' reached, m = .deliver side' reached
  · obtain ⟨side', reached, rfl⟩ := own
    cases next : s.sent side'.other with
    | nil =>
        rw [step_deliver_nil next]
        refine ⟨[], ?_⟩
        by_cases here : side' = side.other
        · subst here
          rw [Side.other_other] at next
          simp [Move.delivers, next]
        · simp [Move.delivers, here]
    | cons raw rest =>
        obtain ⟨b, events, h, eq⟩ := step_deliver roles reached next
        obtain ⟨said, grown⟩ := h.outlet_eq
        rw [eq, sent_note]
        by_cases here : side = side'
        · subst here
          exact ⟨said, by simp [Move.delivers, grown, sent]⟩
        · have takes : side' = side.other := by cases side <;> cases side' <;> simp_all [Side.other]
          subst takes
          rw [Side.other_other] at next
          refine ⟨[], ?_⟩
          rw [if_neg here, Side.other_other, sent_setSent, if_pos rfl, next]
          simp [Move.delivers]
  · obtain ⟨side', b, events, h, eq⟩ := step_local m (by grind)
    obtain ⟨said, grown⟩ := h.outlet_eq
    have stays : m.delivers side.other = false := by cases m <;> grind [Move.delivers]
    rw [eq, sent_note, stays]
    by_cases here : side = side'
    · subst here
      exact ⟨said, by simp [grown, sent]⟩
    · exact ⟨[], by simp [here]⟩

theorem takenAt_taken (side : Side) (id : StreamId) (m : Move) (s : LinkedPair) :
    Letter.takenAt side (s.taken id m) =
      if m.delivers side then letters id ((s.sent side.other).take 1) else [] := by
  cases m with
  | deliver side' reached =>
      by_cases here : side' = side
      · subst here
        cases next : s.sent side'.other with
        | nil => simp [taken, next, Letter.takenAt, Move.delivers, letters]
        | cons raw rest =>
            cases about : Letter.about? id raw <;>
              simp [taken, next, about, Letter.takenAt, Move.delivers, letters]
      · cases next : (s.sent side'.other).head?.bind (Letter.about? id) <;>
          simp [taken, next, Letter.takenAt, Move.delivers, here]
  | _ => rfl

/-- `n` packets are before the word that a stream ends, and bring the rest of what was read. -/
def Draining (id : StreamId) (side : Side) (n : Nat) (total : Bytes) (s : LinkedPair) : Prop :=
  ∃ before after, s.sent side = before ++ (Packet.disconnect id).encode :: after ∧
    before.length = n ∧ .gone ∉ letters id before ∧
    (s.strand id).writtenAt side.other ++ carried id before = total ∧
    (side.other = .guest → (s.stream .guest id).isSome)

theorem Draining.step {total : Bytes} (sound : Sound settings s) (m : Move)
    (draining : Draining id side n total s) (more : m.delivers side.other → n ≠ 0)
    (unbroken : ((s.step m).strand id).Unbroken side.other) :
    Draining id side (if m.delivers side.other then n - 1 else n) total (s.step m) := by
  obtain ⟨before, after, queue, length, no_gone, rest, guest⟩ := draining
  have h := strand_step sound m id
  obtain ⟨said, grown⟩ := sent_step sound.roles m side
  have known : side.other = .guest → (s.strand id).Known := by
    intro other free
    simp [show s.stream .guest id = none from free] at guest
    contradiction
  have written := h.writtenAt_eq unbroken known
  have stays : side.other = .guest → ((s.step m).stream .guest id).isSome := by
    intro other
    obtain ⟨r, there⟩ := Option.isSome_iff_exists.mp (guest other)
    rw [other] at unbroken
    exact Option.isSome_iff_exists.mpr ⟨r, h.stream_of_some unbroken there⟩
  rw [takenAt_taken, Side.other_other] at written
  -- Either the queue only grows, or its first packet is taken and what it carries is written.
  cases delivers : m.delivers side.other with
  | false =>
      rw [delivers, queue] at grown
      rw [delivers] at written
      refine ⟨before, after ++ said, by simpa using grown, length, no_gone, ?_, stays⟩
      rw [written, ← rest]
      simp
  | true =>
      cases before with
      | nil => exact absurd length.symm (more delivers)
      | cons raw before =>
          rw [delivers, queue] at grown
          rw [delivers, queue] at written
          rw [letters_cons] at no_gone
          refine ⟨before, after ++ said, by simpa using grown, by simp [← length], ?_, ?_, stays⟩
          · exact fun mem => no_gone (List.mem_append_right _ mem)
          · rw [written, if_pos rfl, ← rest, List.append_assoc]
            congr 1
            exact (carried_append id [raw] before).symm

theorem unbroken_of_run {moves : List Move} (sound : Sound settings s)
    (unbroken : ((s.run moves).strand id).Unbroken side) : (s.strand id).Unbroken side := by
  induction moves generalizing s with
  | nil => exact unbroken
  | cons m moves ih => exact (strand_step sound m id).unbroken_of (ih (sound.step m) unbroken)

theorem Draining.run {total : Bytes} {moves : List Move} (sound : Sound settings s)
    (draining : Draining id side n total s) (count : moves.countP (·.delivers side.other) = n)
    (unbroken : ((s.run moves).strand id).Unbroken side.other) :
    Draining id side 0 total (s.run moves) := by
  induction moves generalizing s n with
  | nil =>
      obtain rfl : 0 = n := count
      exact draining
  | cons m moves ih =>
      have first := unbroken_of_run (sound.step m) unbroken
      rw [List.countP_cons] at count
      have next := draining.step sound m (by intro takes; simp [takes] at count; omega) first
      apply ih (sound.step m) next _ unbroken
      split at count <;> simp_all
      omega

theorem step_ended {r : StreamRef} (there : s.stream side r.id = some r) :
    s.step (.ended side r) =
      s.note side ((s.station side).closeFromLocal .queue r.id) [.closed side r false] := by
  rw [stream] at there
  have isOpen := Multiplexer.isOpen_iff.mpr there
  rw [step, ended, readEnded, if_pos isOpen, if_pos isOpen, closing, there]
  rfl

theorem draining_of_ended {r : StreamRef} (sound : Sound settings s)
    (quiet : (s.strand id).Quiet) (balanced : (s.strand id).Balanced)
    (there : s.stream side id = some r) (notify : (settings side).notifyPeer = true)
    (unbroken : ((s.step (.ended side r)).strand id).Unbroken side.other) :
    Draining id side (s.sent side).length (s.readAt side id) (s.step (.ended side r)) := by
  obtain rfl : r.id = id := Multiplexer.id_of_lookup there
  have h := strand_step sound (.ended side r) r.id
  have queue : (s.step (.ended side r)).sent side =
      s.sent side ++ [(Packet.disconnect r.id).encode] := by
    have turn := closeFromLocal_turn_of_some there
    rw [farewell, sound.notify side, notify, if_pos rfl] at turn
    rw [step_ended there, sent_note, if_pos rfl, turn.outlet_eq]
    rfl
  have written := h.writtenAt_eq unbroken (fun _ => quiet.known)
  refine ⟨s.sent side, [], queue, rfl, quiet.no_gone side, ?_, ?_⟩
  · rw [written, takenAt_taken, ← strand_readAt, balanced side]
    simp [Move.delivers, carried, strand]
  · intro other
    rw [other] at unbroken
    cases free : s.stream .guest r.id with
    | some r' => exact Option.isSome_iff_exists.mpr ⟨r', h.stream_of_some unbroken free⟩
    | none =>
        have host : side = .host := by cases side <;> simp_all [Side.other]
        subst host
        have none_there : s.stream .host r.id = none := (quiet.no_guest free).1
        simp [none_there] at there

theorem Draining.delivered {total : Bytes} (sound : Sound settings s)
    (draining : Draining id side 0 total s) (reached : Bool) :
    s.writtenAt side.other id = total ∧
      ((s.step (.deliver side.other reached)).station side.other).actions =
        (s.station side.other).actions ++
          (s.stream side.other id).toList.map (.release ·.socket) := by
  obtain ⟨before, after, queue, length, -, rest, -⟩ := draining
  obtain rfl := List.length_eq_zero_iff.mp length
  constructor
  · rw [← sound.strand_writtenAt, ← rest]
    simp [carried, letters]
  · have next : s.sent side.other.other = (Packet.disconnect id).encode :: after := by
      rw [Side.other_other, queue, List.nil_append]
    obtain ⟨b, events, h, eq⟩ := step_deliver sound.roles reached next
    have here : ((s.setSent side.other.other after).note side.other b events).station side.other =
        b := by simp [note]
    rw [eq, here]
    rw [Packet.decode_encode_disconnect] at h
    cases h with
    | told there turn => rw [turn.actions_eq, stream, there]; rfl
    | toldAgain free turn => rw [turn.actions_eq, stream, free]; rfl

theorem heardFrom_run {r : StreamRef} {moves : List Move} (sound : Sound settings s)
    (past : (s.strand r.id).Past side r) : (s.run moves).heardFrom side r = s.heardFrom side r := by
  induction moves generalizing s with
  | nil => rfl
  | cons m moves ih =>
      obtain ⟨still, same⟩ := (strand_step sound m r.id).past past
      rw [strand_heardFrom, strand_heardFrom] at same
      rw [← same]
      exact ih (sound.step m) still

theorem past_of_ended {r : StreamRef} (sound : Sound settings s)
    (there : s.stream side r.id = some r) :
    ((s.step (.ended side r)).strand r.id).Past side r ∧
      (s.step (.ended side r)).heardFrom side r = s.heardFrom side r := by
  have turn := closeFromLocal_turn_of_some there
  have known := sound.opened side r.id r there
  rw [step_ended there]
  refine ⟨⟨?_, ?_⟩, ?_⟩
  · simp [strand_note, turn.lookup_eq]
  · simp [strand, note, Event.id, known]
  · simp [heardFrom, note, Event.heardFrom]

/-- What is read at one end of a stream is what is queued at the other and what is under way. When
one end is over and the packets before its last word are taken, all that was read is queued at the
other, and the last word makes it shut its socket. -/
theorem sockets_balance (settings : Side → MuxSettings) (port : Nat) (moves : List Move)
    (id : StreamId) (whole : ∀ side, ((start settings port).run moves).Unbroken side id) :
    let s := (start settings port).run moves
    (∀ side, s.readAt side id = s.writtenAt side.other id ++ carried id (s.sent side)) ∧
      ∀ side r more reached, s.stream side id = some r → (settings side).notifyPeer = true →
        let t := (s.step (.ended side r)).run more
        more.countP (·.delivers side.other) = (s.sent side).length → t.Unbroken side.other id →
        t.writtenAt side.other id = t.heardFrom side r ∧
          ((t.step (.deliver side.other reached)).station side.other).actions =
            (t.station side.other).actions ++
              (t.stream side.other id).toList.map (.release ·.socket) := by
  intro s
  have sound : Sound settings s := (sound_start settings port).run moves
  obtain ⟨quiet, balanced⟩ := strand_balance settings port moves id
    (fun side => strand_unbroken.mpr (whole side))
  constructor
  · intro side
    have balance := balanced side
    rw [strand_readAt, sound.strand_writtenAt] at balance
    exact balance
  · intro side r more reached there notify t count unbroken
    have sound' := sound.step (.ended side r)
    have unbroken' := strand_unbroken.mpr unbroken
    have draining := (draining_of_ended sound quiet balanced there notify
      (unbroken_of_run sound' unbroken')).run sound' count unbroken'
    obtain ⟨written, shut⟩ := draining.delivered (sound'.run more) reached
    refine ⟨?_, shut⟩
    obtain rfl : r.id = id := Multiplexer.id_of_lookup there
    obtain ⟨past, same⟩ := past_of_ended sound there
    rw [written, heardFrom_run sound' past, same, readAt, there]
    rfl

theorem sockets_balance_three_bytes :
    let id := StreamId.ofNat 7
    let r : StreamRef := ⟨id, .client 0⟩
    let s := (start (fun _ => { chunkSize := 2 }) 80).run
      [.attach [id], .read .guest r [1, 2, 3], .deliver .host true]
    let t := (s.step (.ended .guest r)).run [.deliver .host true]
    (∀ side, s.Unbroken side id) ∧ s.stream .guest id = some r ∧ t.Unbroken .host id ∧
      s.readAt .guest id = s.writtenAt .host id ++ carried id (s.sent .guest) ∧
      t.writtenAt .host id = t.heardFrom .guest r := by
  intro id r s t
  have whole : ∀ side, s.Unbroken side id := by intro side; cases side <;> decide
  have there : s.stream .guest id = some r := by decide
  have unbroken : t.Unbroken .host id := by decide
  obtain ⟨balance, drained⟩ := sockets_balance _ 80 _ id whole
  refine ⟨whole, there, unbroken, balance .guest, ?_⟩
  exact (drained .guest r [.deliver .host true] true there rfl (by decide) unbroken).1

end LinkedPair
end StreamTunnel
