import Mathlib.Data.List.Induction
import StreamTunnel.Proofs.Frame.Reading
import StreamTunnel.Proofs.Mux.Run
import StreamTunnel.Proofs.Packet
import StreamTunnel.Tunnel.End

namespace StreamTunnel

def Outlet.noting {σ : Type} (out : Outlet σ) : Outlet (σ × List Bytes) where
  offer p o := ((out.offer p o.1).1, (out.offer p o.1).2, o.2 ++ [p])

inductive Packet.Sendable (size : Nat) : Packet → Prop
  | data (id : StreamId) (payload : Bytes) (short : payload.length ≤ size) :
      Sendable size (.data id payload)
  | disconnect (id : StreamId) : Sendable size (.disconnect id)

/-- What is done to the multiplexer of a session while it has one. -/
inductive RouteAct where
  | stream (a : MuxAct)
  | teardown
deriving DecidableEq

namespace Packet

variable {size : Nat} {p : Packet}

theorem sendable_of_mem_chunked {id : StreamId} {payload : Bytes} (positive : 0 < size)
    (h : p ∈ chunked id payload size) : p.Sendable size ∧ p.stream = id := by
  obtain ⟨piece, mem, rfl⟩ := List.mem_map.mp h
  exact ⟨.data id piece (length_of_mem_pieces positive mem), rfl⟩

theorem Sendable.decode_eq (h : p.Sendable size) : decode p.encode = .ok p := by
  cases h with
  | data id payload short => exact decode_encode_data id payload
  | disconnect id => exact decode_encode_disconnect id

theorem Sendable.length_le (h : p.Sendable size) : p.encode.length ≤ 11 + size := by
  have header : p.header.length = 11 := length_header p
  rw [encode, List.length_append, header]
  cases h with
  | data id payload short => exact Nat.add_le_add_left short 11
  | disconnect id => exact Nat.le_add_right 11 size

theorem terminator_encode (p : Packet) : p.encode[6]? = some 0 := by
  have identifier : p.stream.bytes.length = 6 := p.stream.length_eq
  rw [encode, header, List.append_assoc, List.getElem?_append_right (by rw [identifier]), identifier]
  rfl

end Packet

theorem Settings.chunkSize_of_usable {settings : Settings} (usable : settings.fault = none) :
    0 < settings.chunkSize ∧ settings.chunkSize ≤ 1048576 := by
  have sizes : settings.sizeFault = none := (Option.or_eq_none_iff.mp usable).2
  unfold sizeFault at sizes
  split at sizes
  · cases sizes
  · next bounded =>
    rw [not_or, maxChunkSize] at bounded
    omega

namespace Station

variable {σ : Type} {out : Outlet σ} {s s' s'' : Station (σ × List Bytes)} {Q Q' : Packet → Prop}
  {id : StreamId}

/-- From `s` to `s'` the outlet is offered packets of a kind, and the settings stay. -/
structure Hands (Q : Packet → Prop) (s s' : Station (σ × List Bytes)) : Prop where
  settings_eq : s'.mux.settings = s.mux.settings
  offered : ∃ packets : List Packet, s'.outlet.2 = s.outlet.2 ++ packets.map Packet.encode ∧
    ∀ p ∈ packets, Q p

theorem Hands.silent (settings : s'.mux.settings = s.mux.settings) (outlet : s'.outlet = s.outlet) :
    Hands Q s s' :=
  ⟨settings, [], by simp [outlet], by simp⟩

theorem Hands.trans (first : Hands Q s s') (second : Hands Q s' s'') : Hands Q s s'' := by
  obtain ⟨settings, packets, offered, kind⟩ := first
  obtain ⟨settings', packets', offered', kind'⟩ := second
  refine ⟨settings'.trans settings, packets ++ packets', ?_, ?_⟩
  · rw [offered', offered, List.map_append, List.append_assoc]
  · rw [List.forall_mem_append]
    exact ⟨kind, kind'⟩

theorem Hands.imp (h : Hands Q s s') (weaker : ∀ p, Q p → Q' p) : Hands Q' s s' := by
  obtain ⟨settings, packets, offered, kind⟩ := h
  exact ⟨settings, packets, offered, fun p mem => weaker p (kind p mem)⟩

theorem hands_offer (out : Outlet σ) {p : Packet} (kind : Q p) (s : Station (σ × List Bytes)) :
    Hands Q s (s.offer out.noting p).2 :=
  ⟨rfl, [p], rfl, by simpa using kind⟩

theorem hands_offerAll (out : Outlet σ) {packets : List Packet} (kind : ∀ p ∈ packets, Q p)
    (s : Station (σ × List Bytes)) : Hands Q s (s.offerAll out.noting packets).2 := by
  induction packets generalizing s with
  | nil => exact .silent rfl rfl
  | cons p rest ih =>
      rw [List.forall_mem_cons] at kind
      have first := hands_offer out kind.1 s
      rw [offerAll]
      split
      · next refused => rwa [refused] at first
      · next taken =>
        rw [taken] at first
        exact first.trans (ih kind.2 _)

theorem hands_remove (id : StreamId) (s : Station (σ × List Bytes)) : Hands Q s (s.remove id).2 := by
  unfold remove
  cases s.mux.entries.get? id <;> exact .silent rfl rfl

theorem remove_of_not_contains (gone : s.mux.entries.contains id = false) : (s.remove id).1 = false := by
  have none : s.mux.entries.get? id = none := by simpa [Table.contains] using gone
  simp only [remove, none]

theorem hands_closeFromLocal (known : s.mux.entries.contains id = true → Q (.disconnect id)) :
    Hands Q s (s.closeFromLocal out.noting id) := by
  have removed : Hands Q s (s.remove id).2 := hands_remove id s
  have found := @remove_of_not_contains σ s id
  rw [closeFromLocal]
  generalize s.remove id = r at removed found
  obtain ⟨there, s'⟩ := r
  cases there with
  | false => exact removed
  | true =>
      have kind : Q (.disconnect id) := known (by simpa using found)
      dsimp only
      split
      · exact removed.trans (hands_offer out kind s')
      · exact removed

theorem hands_readEnded {r : StreamRef} (known : s.mux.entries.contains r.id = true → Q (.disconnect r.id)) :
    Hands Q s (s.readEnded out.noting r) := by
  rw [readEnded]
  split
  · exact hands_closeFromLocal known
  · exact .silent rfl rfl

theorem contains_of_isOpen {m : Multiplexer} {r : StreamRef} (h : m.isOpen r = true) :
    m.entries.contains r.id = true := by
  simp only [Multiplexer.isOpen, Multiplexer.lookup, decide_eq_true_eq, Option.map_eq_some_iff] at h
  obtain ⟨e, found, -⟩ := h
  rw [Table.contains, found]
  rfl

theorem hands_read {r : StreamRef} {piece : Bytes}
    (data : s.mux.entries.contains r.id = true →
      ∀ p ∈ Packet.chunked r.id piece s.mux.settings.chunkSize, Q p)
    (known : s.mux.entries.contains r.id = true → Q (.disconnect r.id)) :
    Hands Q s (s.read out.noting r piece) := by
  rw [read]
  split
  · next there =>
    have there := contains_of_isOpen there
    have sent : Hands Q s (s.offerAll out.noting (framed r.id piece .data s.mux)).2 :=
      hands_offerAll out (data there) s
    rw [sendFramed]
    generalize s.offerAll out.noting (framed r.id piece .data s.mux) = sending at sent
    obtain ⟨⟨n, all⟩, s'⟩ := sending
    cases all with
    | true => exact sent
    | false => exact sent.trans (hands_closeFromLocal fun _ => known there)
  · exact .silent rfl rfl

theorem hands_deliver {payload : Bytes} {dialed : Option SocketId} (kind : Q (.disconnect id)) :
    Hands Q s (s.deliver out.noting id payload dialed) := by
  unfold deliver
  split
  · exact .silent rfl rfl
  · split
    · cases dialed with
      | none => exact hands_offer out kind s
      | some socket => exact .silent rfl rfl
    · have missed : Hands Q s (s.update (fun m => { m with missing := m.missing.insert id })) :=
        .silent rfl rfl
      exact missed.trans (hands_offer out kind _)

theorem hands_packet {raw : Bytes} {dialed : Option SocketId}
    (kind : ∀ id payload, Packet.decode raw = .ok ⟨id, .data, payload⟩ → Q (.disconnect id)) :
    Hands Q s (s.packet out.noting raw dialed) := by
  rw [packet]
  split
  · exact .silent rfl rfl
  · next id payload read => exact hands_deliver (kind id payload read)
  · exact hands_remove _ s

theorem hands_attach (socket : SocketId) (drawn : List StreamId) :
    Hands Q s (s.attach socket drawn).2 := by
  rw [attach]
  split <;> exact .silent rfl rfl

def routeStep (out : Outlet σ) (s : Station σ) : RouteAct → Station σ
  | .stream a => s.step out a
  | .teardown => s.teardown

def routeRun (out : Outlet σ) (s : Station σ) (acts : List RouteAct) : Station σ :=
  acts.foldl (routeStep out) s

def Concerns (s : Station σ) (a : RouteAct) (id : StreamId) : Prop :=
  s.mux.entries.contains id = true ∨ ∃ raw dialed payload, a = .stream (.packet raw dialed) ∧
    Packet.decode raw = .ok ⟨id, .data, payload⟩

theorem hands_routeStep (out : Outlet σ) (positive : 0 < s.mux.settings.chunkSize) (a : RouteAct) :
    Hands (fun p => p.Sendable s.mux.settings.chunkSize ∧ s.Concerns a p.stream) s
      (s.routeStep out.noting a) := by
  have known {a : RouteAct} {id : StreamId} (there : s.mux.entries.contains id = true) :
      (Packet.disconnect id).Sendable s.mux.settings.chunkSize ∧
        s.Concerns a (Packet.disconnect id).stream :=
    ⟨.disconnect id, .inl there⟩
  cases a with
  | teardown => exact .silent rfl rfl
  | stream a =>
      cases a with
      | attach socket drawn => exact hands_attach socket drawn
      | packet raw dialed =>
          apply hands_packet
          intro id payload read
          exact ⟨.disconnect id, .inr ⟨raw, dialed, payload, rfl, read⟩⟩
      | remove id => exact hands_remove id s
      | ended r => exact hands_readEnded known
      | failed r => exact hands_closeFromLocal known
      | read r piece =>
          rw [routeStep, step]
          split
          · exact hands_readEnded known
          · apply hands_read _ known
            intro there p mem
            obtain ⟨sendable, same⟩ := Packet.sendable_of_mem_chunked positive mem
            exact ⟨sendable, .inl (same ▸ there)⟩

theorem hands_routeRun (out : Outlet σ) (positive : 0 < s.mux.settings.chunkSize)
    (acts : List RouteAct) :
    Hands (fun p => p.Sendable s.mux.settings.chunkSize ∧ ∃ earlier a, earlier ++ [a] <+: acts ∧
      (s.routeRun out.noting earlier).Concerns a p.stream) s (s.routeRun out.noting acts) := by
  induction acts using List.reverseRecOn with
  | nil => exact .silent rfl rfl
  | append_singleton acts a ih =>
      have grown : s.routeRun out.noting (acts ++ [a]) =
          (s.routeRun out.noting acts).routeStep out.noting a := by
        simp [routeRun]
      have last := hands_routeStep (s := s.routeRun out.noting acts) out
        (by rwa [ih.settings_eq]) a
      rw [ih.settings_eq] at last
      rw [grown]
      refine Hands.trans (ih.imp ?_) (last.imp ?_)
      · rintro p ⟨sendable, earlier, a', early, concerns⟩
        exact ⟨sendable, earlier, a', early.trans (List.prefix_append ..), concerns⟩
      · rintro p ⟨sendable, concerns⟩
        exact ⟨sendable, acts, a, List.prefix_rfl, concerns⟩

end Station

theorem Frame.exists_wire_decode {f : Frame} (small : f.body.length ≤ maxBody) :
    ∃ w, f.wire = .ok w ∧ ∀ rest, (Reader.mk none (w ++ rest)).decode = (.frame f, ⟨none, rest⟩) := by
  have written : f.wire = .ok (Bytes.big 4 f.body.length ++ f.body) := by
    rw [wire]
    exact if_pos small
  exact ⟨_, written, fun _ => decode_wire written⟩

namespace TunnelEnd

variable {τ σ : Type}

def newStation (e : TunnelEnd τ) (o : σ) : Station (σ × List Bytes) :=
  { mux := e.fresh, outlet := (o, []) }

/-- With usable settings, each packet that the multiplexer of a session offers in any run is one
that the peer can read, of bounded size, for a stream that was there or that was asked for; and the
frame around it is written and read again. -/
theorem own_traffic_fits (e : TunnelEnd τ) (usable : e.settings.fault = none) (out : Outlet σ) (o : σ)
    (acts : List RouteAct) {raw : Bytes}
    (offered : raw ∈ ((e.newStation o).routeRun out.noting acts).outlet.2) :
    ∃ p : Packet, Packet.decode raw = .ok p ∧ raw[6]? = some 0 ∧
      raw.length ≤ 11 + e.settings.chunkSize ∧
      (∃ earlier a, earlier ++ [a] <+: acts ∧
        ((e.newStation o).routeRun out.noting earlier).Concerns a p.stream) ∧
      (Frame.message raw).body.length ≤ 16777216 ∧
      ∃ w, (Frame.message raw).wire = .ok w ∧ ∀ rest,
        (Frame.Reader.mk none (w ++ rest)).decode = (.frame (.message raw), ⟨none, rest⟩) := by
  obtain ⟨positive, bounded⟩ := Settings.chunkSize_of_usable usable
  obtain ⟨-, packets, sent, kinds⟩ :=
    Station.hands_routeRun (s := e.newStation o) out positive acts
  rw [sent] at offered
  obtain ⟨p, mem, rfl⟩ := List.mem_map.mp offered
  obtain ⟨sendable, concerned⟩ := kinds p mem
  have short : p.encode.length ≤ 11 + e.settings.chunkSize := sendable.length_le
  have small : (Frame.message p.encode).body.length ≤ Frame.maxBody := by
    rw [Frame.length_body_message, Frame.maxBody]
    omega
  exact ⟨p, sendable.decode_eq, p.terminator_encode, short, concerned, small,
    Frame.exists_wire_decode small⟩

theorem own_traffic_fits_seven_bytes :
    let id := StreamId.ofNat 5
    let settings : Settings := { identity := "guest", peer := some "host", chunkSize := 3 }
    let e : TunnelEnd Unit :=
      { settings, link := { state := .start settings.link, channel := () }, acceptor := { mode := .single } }
    let acts : List RouteAct := [.stream (.attach (.client 1) [id]),
      .stream (.read ⟨id, .client 1⟩ [1, 2, 3, 4, 5, 6, 7]), .teardown]
    let raw := (Packet.data id [7]).encode
    e.settings.fault = none ∧ raw ∈ ((e.newStation {}).routeRun Outlet.outbox.noting acts).outlet.2 ∧
      raw.length ≤ 14 ∧ ∃ w, (Frame.message raw).wire = .ok w ∧ ∀ rest,
        (Frame.Reader.mk none (w ++ rest)).decode = (.frame (.message raw), ⟨none, rest⟩) := by
  intro id settings e acts raw
  have usable : e.settings.fault = none := by decide +kernel
  have offered : raw ∈ ((e.newStation {}).routeRun Outlet.outbox.noting acts).outlet.2 := by
    decide +kernel
  obtain ⟨-, -, -, short, -, -, written⟩ := own_traffic_fits e usable .outbox {} acts offered
  exact ⟨usable, offered, short, written⟩

end TunnelEnd
end StreamTunnel
