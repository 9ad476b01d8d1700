import StreamTunnel.Proofs.Linked.Delivery
import Mathlib.Data.List.Nodup

namespace StreamTunnel

/-- What came of a dial: a stream, or nothing but the loss of a payload. -/
inductive Dial where
  | reached (r : StreamRef)
  | refused (payload : Bytes)
deriving DecidableEq, Repr

def Event.dial? : Event → Option Dial
  | opened .host r => some (.reached r)
  | refused .host _ payload => some (.refused payload)
  | _ => none

def Event.heardAt (side : Side) : Event → Bytes
  | heard side' _ piece => if side' = side then piece else []
  | _ => []

namespace Dial

def gained (events : List Event) : Dial → Bytes
  | reached r => events.flatMap (·.queuedTo .host r.socket)
  | refused _ => []

def Apart : Dial → Dial → Prop
  | reached r, reached r' => r.socket ≠ r'.socket
  | _, _ => True

end Dial

namespace Strand

variable {id : StreamId} {notify : Side → Bool} {label : Option (Side × Letter)} {t t' : Strand}

def dials (t : Strand) : List Dial :=
  t.log.filterMap Event.dial?

def takenBy (t : Strand) : Dial → Bytes
  | .reached r => t.queuedTo .host r
  | .refused payload => payload

def heardAt (side : Side) (t : Strand) : Bytes :=
  t.log.flatMap (·.heardAt side)

@[simp] theorem dials_append (stream : Side → Option StreamRef) (sent : Side → List Letter)
    (events : List Event) : (⟨stream, sent, t.log ++ events⟩ : Strand).dials =
      t.dials ++ events.filterMap Event.dial? := by
  simp [dials]

@[simp] theorem heardAt_append (stream : Side → Option StreamRef) (sent : Side → List Letter)
    (events : List Event) (side : Side) : (⟨stream, sent, t.log ++ events⟩ : Strand).heardAt side =
      t.heardAt side ++ events.flatMap (·.heardAt side) := by
  simp [heardAt]

@[simp] theorem takenBy_append (stream : Side → Option StreamRef) (sent : Side → List Letter)
    (events : List Event) (d : Dial) : (⟨stream, sent, t.log ++ events⟩ : Strand).takenBy d =
      t.takenBy d ++ d.gained events := by
  cases d with
  | reached r => exact queuedTo_append t stream sent events .host r
  | refused payload => simp [takenBy, Dial.gained]

theorem flatMap_takenBy_append (stream : Side → Option StreamRef) (sent : Side → List Letter)
    {events : List Event} {dials : List Dial} (quiet : ∀ d ∈ dials, d.gained events = []) :
    dials.flatMap (⟨stream, sent, t.log ++ events⟩ : Strand).takenBy =
      dials.flatMap t.takenBy := by
  apply List.flatMap_congr
  intro d mem
  rw [takenBy_append, quiet d mem, List.append_nil]

theorem gained_of_quiet {events : List Event}
    (quiet : ∀ e ∈ events, ∀ socket, e.queuedTo .host socket = []) (d : Dial) :
    d.gained events = [] := by
  cases d with
  | refused payload => rfl
  | reached r => exact List.flatMap_eq_nil_iff.mpr (fun e mem => quiet e mem r.socket)

theorem gained_of_apart {r : StreamRef} (payload : Bytes) {d : Dial}
    (apart : d.Apart (.reached r)) : d.gained [.queued .host r payload] = [] := by
  cases d with
  | refused payload => rfl
  | reached r' =>
      have other : r.socket ≠ r'.socket := Ne.symm apart
      simp [Dial.gained, Event.queuedTo, other]

theorem mem_dials {r : StreamRef} : .reached r ∈ t.dials ↔ .opened .host r ∈ t.log := by
  rw [dials, List.mem_filterMap]
  constructor
  · rintro ⟨e, mem, dial⟩
    cases e with
    | opened side r' => cases side <;> simp_all [Event.dial?]
    | refused side id payload => cases side <;> simp [Event.dial?] at dial
    | _ => simp [Event.dial?] at dial
  · exact fun mem => ⟨_, mem, rfl⟩

theorem Fresh.apart {r : StreamRef} (fresh : t.Fresh r) : ∀ d ∈ t.dials, d.Apart (.reached r) := by
  intro d mem
  cases d with
  | refused payload => trivial
  | reached r' => exact fresh _ (mem_dials.mp mem) .host r' rfl

/-- The dials for a stream share out what the guest heard. -/
structure Fed (t : Strand) : Prop where
  filled : ∀ b, .data b ∈ t.sent .guest → b ≠ []
  something : ∀ d ∈ t.dials, t.takenBy d ≠ []
  current : ∀ r, t.stream .host = some r → ∃ pre, t.dials = pre ++ [.reached r]
  apart : t.dials.Pairwise Dial.Apart
  balance : t.heardAt .guest =
    t.dials.flatMap t.takenBy ++ (t.sent .guest).flatMap Letter.payload

theorem Fed.quiet (fed : t.Fed) (stream : Side → Option StreamRef) (sent : Side → List Letter)
    {events : List Event} (quiet : ∀ e ∈ events, ∀ socket, e.queuedTo .host socket = [])
    (no_dial : events.filterMap Event.dial? = [])
    (same : ∀ r, stream .host = some r → t.stream .host = some r)
    (filled : ∀ b, .data b ∈ sent .guest → b ≠ [])
    (carries : (sent .guest).flatMap Letter.payload =
      (t.sent .guest).flatMap Letter.payload ++ events.flatMap (·.heardAt .guest)) :
    Fed ⟨stream, sent, t.log ++ events⟩ := by
  have gained := gained_of_quiet quiet
  have dials : (⟨stream, sent, t.log ++ events⟩ : Strand).dials = t.dials := by
    rw [dials_append, no_dial, List.append_nil]
  constructor
  · exact filled
  · intro d mem
    rw [takenBy_append, gained d, List.append_nil]
    exact fed.something d (dials ▸ mem)
  · intro r there
    rw [dials]
    exact fed.current r (same r there)
  · rw [dials]
    exact fed.apart
  · rw [heardAt_append, fed.balance, dials, carries,
      flatMap_takenBy_append stream sent (fun d _ => gained d), List.append_assoc]

theorem Fed.dialed (fed : t.Fed) (stream : Side → Option StreamRef) (sent : Side → List Letter)
    {events : List Event} {d : Dial} {payload : Bytes} {rest : List Letter}
    (next : t.sent .guest = .data payload :: rest) (sends : sent .guest = rest)
    (dial : events.filterMap Event.dial? = [d])
    (apart : ∀ d' ∈ t.dials, d'.Apart d) (gained : ∀ d' ∈ t.dials, d'.gained events = [])
    (takes : (⟨stream, sent, t.log ++ events⟩ : Strand).takenBy d = payload)
    (silent : events.flatMap (·.heardAt .guest) = [])
    (current : ∀ r, stream .host = some r → d = .reached r) :
    Fed ⟨stream, sent, t.log ++ events⟩ := by
  have dials : (⟨stream, sent, t.log ++ events⟩ : Strand).dials = t.dials ++ [d] := by
    rw [dials_append, dial]
  have filled : payload ≠ [] := fed.filled payload (next ▸ List.mem_cons_self)
  constructor
  · intro b mem
    apply fed.filled b
    rw [next, ← sends]
    exact List.mem_cons_of_mem _ mem
  · intro d' mem
    rw [dials, List.mem_append, List.mem_singleton] at mem
    rcases mem with old | rfl
    · rw [takenBy_append, gained d' old, List.append_nil]
      exact fed.something d' old
    · rwa [takes]
  · intro r there
    exact ⟨t.dials, by rw [dials, current r there]⟩
  · rw [dials, List.pairwise_append]
    exact ⟨fed.apart, List.pairwise_singleton _ _, fun d' mem _ only =>
      List.mem_singleton.mp only ▸ apart d' mem⟩
  · rw [heardAt_append, silent, List.append_nil, fed.balance, dials, List.flatMap_append,
      flatMap_takenBy_append stream sent gained, next]
    simp [takes, sends, Letter.payload]

theorem Fed.taken (fed : t.Fed) {r : StreamRef} (sent : Side → List Letter) {payload : Bytes}
    {rest : List Letter} (there : t.stream .host = some r)
    (next : t.sent .guest = .data payload :: rest) (sends : sent .guest = rest) :
    Fed ⟨t.stream, sent, t.log ++ [.queued .host r payload]⟩ := by
  -- The stream is that of the last dial, and no dial before it has its socket.
  obtain ⟨pre, last⟩ := fed.current r there
  have same : (⟨t.stream, sent, t.log ++ [.queued .host r payload]⟩ : Strand).dials = t.dials := by
    simp [Event.dial?]
  have apart := fed.apart
  rw [last, List.pairwise_append] at apart
  have gained : ∀ d ∈ pre, d.gained [.queued .host r payload] = [] := fun d mem =>
    gained_of_apart payload (apart.2.2 d mem _ (List.mem_singleton_self _))
  have takes : (⟨t.stream, sent, t.log ++ [.queued .host r payload]⟩ : Strand).takenBy
      (.reached r) = t.takenBy (.reached r) ++ payload := by
    simp [Dial.gained, Event.queuedTo]
  constructor
  · intro b mem
    apply fed.filled b
    rw [next, ← sends]
    exact List.mem_cons_of_mem _ mem
  · intro d mem
    rw [takenBy_append]
    exact List.append_ne_nil_of_left_ne_nil (fed.something d (same ▸ mem)) _
  · intro r' there'
    rw [same]
    exact fed.current r' there'
  · rw [same]
    exact fed.apart
  · rw [heardAt_append, fed.balance, same, last, List.flatMap_append, List.flatMap_append,
      flatMap_takenBy_append t.stream sent gained, next]
    simp [takes, sends, Letter.payload, Event.heardAt]

theorem Step.fed (h : Step id notify label t t') (fed : t.Fed) : t'.Fed := by
  cases h with
  | idle => exact fed
  | attached mine fresh free =>
      exact fed.quiet _ _ (by simp [Event.queuedTo]) (by simp [Event.dial?]) (by simp) fed.filled
        (by simp [Event.heardAt])
  | @heard _ side r piece parts there something whole nonempty =>
      cases side with
      | host =>
          exact fed.quiet _ _ (by simp [Event.queuedTo]) (by simp [Event.dial?])
            (fun _ there => there) (by simpa using fed.filled) (by simp [Event.heardAt])
      | guest =>
          refine fed.quiet _ _ (by simp [Event.queuedTo]) (by simp [Event.dial?])
            (fun _ there => there) ?_ ?_
          · intro b mem
            simp only [Function.update_self, List.mem_append, List.mem_map] at mem
            rcases mem with old | ⟨part, mem, same⟩
            · exact fed.filled b old
            · obtain rfl := Letter.data.inj same
              exact nonempty part mem
          · simp [Event.heardAt, ← whole, List.flatMap_map, Letter.payload]
  | @closed _ side r there =>
      refine fed.quiet _ _ (by simp [Event.queuedTo]) (by simp [Event.dial?]) ?_ ?_ ?_
      · cases side <;> simp
      · have old := fed.filled
        cases side <;> cases notify _ <;> simp_all
      · cases side <;> cases notify _ <;> simp [Event.heardAt, Letter.payload]
  | @queued _ side r payload rest there next =>
      cases side with
      | host => exact fed.taken _ there next (Function.update_self ..)
      | guest =>
          exact fed.quiet _ _ (by simp [Event.queuedTo]) (by simp [Event.dial?])
            (fun _ there => there) (by simpa [Side.other] using fed.filled)
            (by simp [Event.heardAt, Side.other])
  | @adopted _ r payload rest mine fresh free next =>
      refine fed.dialed (d := .reached r) _ _ next (Function.update_self ..) rfl fresh.apart ?_ ?_
        rfl (by simp)
      · intro d mem
        exact gained_of_apart payload (fresh.apart d mem)
      · simp [takenBy, fresh.queuedTo_eq, Event.queuedTo]
  | @refused _ side payload rest free next =>
      cases side with
      | host =>
          refine fed.dialed (d := .refused payload) _ _ next (by simp [Side.other]) rfl ?_ ?_ rfl
            rfl ?_
          · intro d mem
            cases d <;> trivial
          · intro d mem
            cases d <;> rfl
          · simp [free]
      | guest =>
          exact fed.quiet _ _ (by simp [Event.queuedTo]) (by simp [Event.dial?])
            (fun _ there => there) (by simpa [Side.other] using fed.filled)
            (by simp [Event.heardAt, Side.other, Letter.payload])
  | @told _ side r rest there next =>
      have old := fed.filled
      refine fed.quiet _ _ (by simp [Event.queuedTo]) (by simp [Event.dial?]) ?_ ?_ ?_
      · cases side <;> simp
      · cases side <;> simp_all [Side.other]
      · cases side <;> simp_all [Side.other, Event.heardAt, Letter.payload]
  | @toldAgain _ side rest free next =>
      have old := fed.filled
      rw [← List.append_nil t.log]
      refine fed.quiet _ _ (by simp) rfl (fun _ there => there) ?_ ?_
      · cases side <;> simp_all [Side.other]
      · cases side <;> simp_all [Side.other, Letter.payload]

theorem Fed.split (fed : t.Fed) {r : StreamRef} (mem : .reached r ∈ t.dials) :
    ∃ pre post later, t.dials = pre ++ .reached r :: post ∧ .reached r ∉ pre ∧
      t.heardAt .guest = pre.flatMap t.takenBy ++ t.takenBy (.reached r) ++ later ∧
      (pre.flatMap t.takenBy = [] ↔ pre = []) := by
  obtain ⟨pre, post, split⟩ := List.append_of_mem mem
  refine ⟨pre, post, post.flatMap t.takenBy ++ (t.sent .guest).flatMap Letter.payload, split,
    ?_, ?_, ?_⟩
  · intro again
    have apart := fed.apart
    rw [split, List.pairwise_append] at apart
    exact apart.2.2 _ again _ List.mem_cons_self rfl
  · rw [fed.balance, split, List.flatMap_append, List.flatMap_cons]
    simp only [List.append_assoc]
  · constructor
    · intro empty
      cases pre with
      | nil => rfl
      | cons d pre =>
          have taken := fed.something d (by simp [split])
          simp [taken] at empty
    · rintro rfl
      rfl

end Strand

def Event.attached? : Event → Option StreamRef
  | opened .guest r => some r
  | _ => none

namespace LinkedPair

variable {settings : Side → MuxSettings} {s : LinkedPair} {id : StreamId}

def attached (s : LinkedPair) : List StreamRef :=
  s.log.filterMap Event.attached?

def dials (id : StreamId) (s : LinkedPair) : List Dial :=
  (s.log.filter (·.id = id)).filterMap Event.dial?

def takenBy (s : LinkedPair) : Dial → Bytes
  | .reached r => s.writtenTo .host r.socket
  | .refused payload => payload

theorem mem_attached {r : StreamRef} : r ∈ s.attached ↔ .opened .guest r ∈ s.log := by
  rw [attached, List.mem_filterMap]
  constructor
  · rintro ⟨e, mem, same⟩
    cases e with
    | opened side r' => cases side <;> simp_all [Event.attached?]
    | _ => simp [Event.attached?] at same
  · exact fun mem => ⟨_, mem, rfl⟩

theorem Sound.strand_takenBy (sound : Sound settings s) {d : Dial} (mem : d ∈ s.dials id) :
    (s.strand id).takenBy d = s.takenBy d := by
  cases d with
  | refused payload => rfl
  | reached r =>
      have inStrand : .opened .host r ∈ (s.strand id).log := Strand.mem_dials.mp mem
      obtain ⟨opened, mine⟩ := List.mem_filter.mp inStrand
      obtain rfl : r.id = id := of_decide_eq_true mine
      exact sound.strand_queuedTo opened

theorem Sound.heardAt_eq (sound : Sound settings s)
    (once : (s.attached.map StreamRef.id).Nodup) (something : (s.strand id).heardAt .guest ≠ []) :
    ∃ own ∈ s.attached, own.id = id ∧ (s.strand id).heardAt .guest = s.heardFrom .guest own := by
  have placed {e : Event} (mem : e ∈ (s.strand id).log) (loud : e.heardAt .guest ≠ []) :
      ∃ r piece, e = .heard .guest r piece ∧ r ∈ s.attached ∧ r.id = id := by
    obtain ⟨inLog, mine⟩ := List.mem_filter.mp mem
    cases e with
    | heard side r piece =>
        cases side with
        | host => simp [Event.heardAt] at loud
        | guest =>
            have opened := sound.placed _ inLog .guest r rfl
            exact ⟨r, piece, rfl, mem_attached.mpr opened, of_decide_eq_true mine⟩
    | _ => simp [Event.heardAt] at loud
  obtain ⟨e, mem, loud⟩ : ∃ e ∈ (s.strand id).log, e.heardAt .guest ≠ [] := by
    by_contra silent
    exact something (List.flatMap_eq_nil_iff.mpr (by simpa using silent))
  obtain ⟨own, piece, rfl, there, mine⟩ := placed mem loud
  refine ⟨own, there, mine, ?_⟩
  subst mine
  rw [← strand_heardFrom]
  apply List.flatMap_congr
  intro e' mem'
  by_cases loud' : e'.heardAt .guest = []
  · cases e' <;> grind [Event.heardAt, Event.heardFrom]
  · obtain ⟨r, piece', rfl, there', same⟩ := placed mem' loud'
    obtain rfl : r = own := List.inj_on_of_nodup_map once there' there same
    simp [Event.heardAt, Event.heardFrom]

/-- A connection of the host gets that part of the guest's stream which follows what earlier dials
for it took, so that it gets the beginning just when it is the first. -/
theorem connection_follows_dials (settings : Side → MuxSettings) (port : Nat) (moves : List Move)
    (once : (((start settings port).run moves).attached.map StreamRef.id).Nodup) {r : StreamRef}
    (dialed : .opened .host r ∈ ((start settings port).run moves).log) :
    let s := (start settings port).run moves
    ∃ own ∈ s.attached, ∃ pre post later, own.id = r.id ∧
      s.dials r.id = pre ++ .reached r :: post ∧ .reached r ∉ pre ∧
      s.heardFrom .guest own = pre.flatMap s.takenBy ++ s.writtenTo .host r.socket ++ later ∧
      s.writtenTo .host r.socket ≠ [] ∧ (pre.flatMap s.takenBy = [] ↔ pre = []) := by
  intro s
  have sound : Sound settings s := (sound_start settings port).run moves
  have fed : (s.strand r.id).Fed := by
    apply strand_run Strand.Fed _ (fun _ _ _ h => h.fed)
    constructor <;> simp [Strand.dials, Strand.heardAt]
  have inStrand : .opened .host r ∈ (s.strand r.id).log :=
    List.mem_filter.mpr ⟨dialed, by simp [Event.id]⟩
  have mem : .reached r ∈ (s.strand r.id).dials := Strand.mem_dials.mpr inStrand
  obtain ⟨pre, post, later, split, once_in, balance, first⟩ := fed.split mem
  -- Dials take no bytes of other ids, so that the strand and the sockets say the same.
  have taken : (s.strand r.id).takenBy (.reached r) = s.writtenTo .host r.socket :=
    sound.strand_takenBy mem
  have before : pre.flatMap (s.strand r.id).takenBy = pre.flatMap s.takenBy := by
    apply List.flatMap_congr
    intro d mem'
    have dial : d ∈ (s.strand r.id).dials := split ▸ List.mem_append_left _ mem'
    exact sound.strand_takenBy dial
  have something := fed.something _ mem
  rw [taken] at balance something
  rw [before] at balance first
  have loud : (s.strand r.id).heardAt .guest ≠ [] := by
    rw [balance]
    simp [something]
  obtain ⟨own, there, mine, heard⟩ := sound.heardAt_eq once loud
  rw [heard] at balance
  exact ⟨own, there, pre, post, later, mine, split, once_in, balance, something, first⟩

theorem connection_follows_dials_redial :
    let id := StreamId.ofNat 7
    let s := redial id
    (s.attached.map StreamRef.id).Nodup ∧ .opened .host ⟨id, .service 7⟩ ∈ s.log ∧
      ∃ own ∈ s.attached, ∃ pre post later, own.id = id ∧
        s.dials id = pre ++ .reached ⟨id, .service 7⟩ :: post ∧
        s.heardFrom .guest own =
          pre.flatMap s.takenBy ++ s.writtenTo .host (.service 7) ++ later := by
  intro id s
  have once : (s.attached.map StreamRef.id).Nodup := by decide
  have dialed : .opened .host ⟨id, .service 7⟩ ∈ s.log := by decide
  obtain ⟨own, there, pre, post, later, mine, split, -, heard, -⟩ :=
    connection_follows_dials _ 80 _ once dialed
  exact ⟨once, dialed, own, there, pre, post, later, mine, split, heard⟩

theorem not_prefix_redial :
    let s := redial (StreamId.ofNat 7)
    (s.attached.map StreamRef.id).Nodup ∧ .opened .host ⟨StreamId.ofNat 7, .service 7⟩ ∈ s.log ∧
      s.writtenTo .host (.service 2) = [1, 2] ∧ s.writtenTo .host (.service 7) = [3, 4] ∧
      ∀ own ∈ s.attached, ¬ s.writtenTo .host (.service 7) <+: s.heardFrom .guest own := by
  decide

end LinkedPair
end StreamTunnel
