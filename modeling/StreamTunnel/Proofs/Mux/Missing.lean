import Mathlib.Data.List.Induction
import StreamTunnel.Proofs.Mux.Life

namespace StreamTunnel.Station

variable {σ : Type} {out : Outlet σ} {s : Station σ} {id : StreamId} {e : MuxEvent}

structure Untouched (out : Outlet σ) (s : Station σ) (id : StreamId) (e : MuxEvent) : Prop where
  free : (s.happen out e).mux.lookup id = none
  kept : e.change out s ≠ .remove id
  lasts : e ≠ .teardown

def Undisturbed (out : Outlet σ) (s : Station σ) (id : StreamId) (events : List MuxEvent) : Prop :=
  ∀ mid e rest, events = mid ++ e :: rest → (s.life out mid).Untouched out id e

/-- Data came for an id in vain, and nothing was done about it since. -/
def Missed (out : Outlet σ) (s : Station σ) (id : StreamId) (events : List MuxEvent) : Prop :=
  ∃ before e after, events = before ++ e :: after ∧ e.Misses (s.life out before) id ∧
    Undisturbed out ((s.life out before).happen out e) id after

def Parted (s : Station σ) : Prop :=
  ∀ id ∈ s.mux.missing, s.mux.lookup id = none

theorem mem_missing_change (l : Roll) (c : Roll.Change) (id : StreamId) :
    id ∈ (l.change c).missing ↔ match c with
      | .enter r _ => id ∈ l.missing ∧ id ≠ r.id
      | .find j | .remove j => id ∈ l.missing ∧ id ≠ j
      | .miss j => id = j ∨ id ∈ l.missing
      | .clear => False
      | .nothing | .spare _ => id ∈ l.missing := by
  cases c <;> simp [Roll.change]

theorem missing_happen (out : Outlet σ) (s : Station σ) (e : MuxEvent) :
    (s.happen out e).mux.missing = (s.roll.change (e.change out s)).missing :=
  congrArg Roll.missing (roll_happen out s e)

theorem change_of_misses (missed : e.Misses s id) : e.change out s = .miss id := by
  obtain ⟨raw, dialed, payload, rfl, read, free, unable⟩ := missed
  simp [MuxEvent.change, read, free, unable]

theorem parted_happen (parted : s.Parted) (out : Outlet σ) (e : MuxEvent) : (s.happen out e).Parted := by
  intro id mem
  have warrants := warrants_change out s e
  rw [missing_happen, mem_missing_change] at mem
  rw [lookup_happen, ref?_change]
  generalize e.change out s = c at mem warrants
  cases c with
  | nothing | spare => exact parted id mem
  | enter r origin =>
      dsimp only
      rw [if_neg mem.2]
      exact parted id mem.1
  | find j => exact parted id mem.1
  | miss j =>
      rcases mem with rfl | before
      · obtain ⟨-, -, -, -, -, free, -⟩ := warrants
        exact free
      · exact parted id before
  | remove j =>
      dsimp only
      rw [if_neg mem.2]
      exact parted id mem.1
  | clear => rfl

theorem mem_missing_happen (parted : s.Parted) (out : Outlet σ) (e : MuxEvent) (id : StreamId) :
    id ∈ (s.happen out e).mux.missing ↔
      e.Misses s id ∨ id ∈ s.mux.missing ∧ s.Untouched out id e := by
  have warrants := warrants_change out s e
  constructor
  · intro mem
    have free := parted_happen parted out e id mem
    rw [missing_happen, mem_missing_change] at mem
    by_cases missed : e.Misses s id
    · exact .inl missed
    · refine .inr ⟨?_, free, ?_, ?_⟩
      · generalize e.change out s = c at mem warrants
        cases c with
        | nothing | spare => exact mem
        | enter | find | remove => exact mem.1
        | miss j =>
            rcases mem with rfl | before
            · exact absurd warrants missed
            · exact before
        | clear => exact mem.elim
      · intro removes
        rw [removes] at mem
        exact mem.2 rfl
      · rintro rfl
        exact mem
  · rintro (missed | ⟨mem, free, kept, lasts⟩)
    · rw [missing_happen, change_of_misses missed, mem_missing_change]
      exact .inl rfl
    · rw [lookup_happen, ref?_change] at free
      rw [missing_happen, mem_missing_change]
      generalize e.change out s = c at *
      cases c with
      | nothing | spare => exact mem
      | enter r origin =>
          refine ⟨mem, ?_⟩
          rintro rfl
          simp at free
      | find j =>
          refine ⟨mem, ?_⟩
          rintro rfl
          exact warrants (parted _ mem)
      | miss j => exact .inr mem
      | remove j =>
          refine ⟨mem, ?_⟩
          rintro rfl
          exact kept rfl
      | clear => exact lasts warrants

theorem concat_eq_append_cons_iff {α : Type} {l before after : List α} {a b : α} :
    l ++ [a] = before ++ b :: after ↔
      (l = before ∧ a = b ∧ after = []) ∨ ∃ rest, after = rest ++ [a] ∧ l = before ++ b :: rest := by
  constructor
  · intro same
    rcases List.eq_nil_or_concat after with rfl | ⟨rest, c, rfl⟩
    · obtain ⟨rfl, ⟨⟩⟩ := List.append_inj' same rfl
      exact .inl ⟨rfl, rfl, rfl⟩
    · rw [List.concat_eq_append, ← List.cons_append, ← List.append_assoc] at same
      obtain ⟨rfl, ⟨⟩⟩ := List.append_inj' same rfl
      exact .inr ⟨rest, List.concat_eq_append, rfl⟩
  · rintro (⟨rfl, rfl, rfl⟩ | ⟨rest, rfl, rfl⟩)
    · rfl
    · simp

theorem undisturbed_nil (out : Outlet σ) (s : Station σ) (id : StreamId) : Undisturbed out s id [] := by
  intro mid e rest same
  exact absurd same.symm (List.append_ne_nil_of_right_ne_nil mid (List.cons_ne_nil e rest))

theorem undisturbed_concat (out : Outlet σ) (s : Station σ) (id : StreamId) (events : List MuxEvent)
    (e : MuxEvent) :
    Undisturbed out s id (events ++ [e]) ↔
      Undisturbed out s id events ∧ (s.life out events).Untouched out id e := by
  constructor
  · intro all
    refine ⟨?_, all events e [] rfl⟩
    rintro mid e' rest rfl
    exact all mid e' (rest ++ [e]) (by simp)
  · rintro ⟨before, last⟩ mid e' rest same
    rcases concat_eq_append_cons_iff.mp same with ⟨rfl, rfl, -⟩ | ⟨rest, -, same⟩
    · exact last
    · exact before mid e' rest same

theorem not_missed_nil (out : Outlet σ) (s : Station σ) (id : StreamId) : ¬ Missed out s id [] := by
  rintro ⟨before, e, after, same, -⟩
  exact absurd same.symm (List.append_ne_nil_of_right_ne_nil before (List.cons_ne_nil e after))

theorem missed_concat (out : Outlet σ) (s : Station σ) (id : StreamId) (events : List MuxEvent)
    (e : MuxEvent) :
    Missed out s id (events ++ [e]) ↔
      e.Misses (s.life out events) id ∨
        Missed out s id events ∧ (s.life out events).Untouched out id e := by
  -- The events since the miss, of which `e` is the last.
  have since (before : List MuxEvent) (e' : MuxEvent) (rest : List MuxEvent) :
      ((s.life out before).happen out e').life out rest = s.life out (before ++ e' :: rest) :=
    (life_append out s before (e' :: rest)).symm
  constructor
  · rintro ⟨before, e', after, same, missed, undisturbed⟩
    rcases concat_eq_append_cons_iff.mp same with ⟨rfl, rfl, -⟩ | ⟨rest, rfl, rfl⟩
    · exact .inl missed
    · rw [undisturbed_concat, since] at undisturbed
      exact .inr ⟨⟨before, e', rest, rfl, missed, undisturbed.1⟩, undisturbed.2⟩
  · rintro (missed | ⟨⟨before, e', rest, rfl, missed, undisturbed⟩, untouched⟩)
    · exact ⟨events, e, [], rfl, missed, undisturbed_nil _ _ _⟩
    · refine ⟨before, e', rest ++ [e], by simp, missed, ?_⟩
      rw [undisturbed_concat, since]
      exact ⟨undisturbed, untouched⟩

theorem missing_life (out : Outlet σ) (fresh : s.mux.missing = []) (events : List MuxEvent) :
    (s.life out events).Parted ∧ ∀ id, id ∈ (s.life out events).mux.missing ↔ Missed out s id events := by
  induction events using List.reverseRecOn with
  | nil =>
      rw [show s.life out [] = s from rfl, Parted, fresh]
      simp [not_missed_nil]
  | append_singleton events e ih =>
      obtain ⟨parted, history⟩ := ih
      rw [life_concat]
      refine ⟨parted_happen parted out e, fun id => ?_⟩
      rw [mem_missing_happen parted, missed_concat, history]

theorem mux_packet_of_failed {raw payload : Bytes} (read : Packet.decode raw = .ok ⟨id, .data, payload⟩)
    (free : s.mux.lookup id = none) (able : s.mux.canDial = true) (out : Outlet σ) :
    (s.packet out raw none).mux = s.mux := by
  rw [Multiplexer.lookup, Option.map_eq_none_iff] at free
  simp only [packet, read]
  rw [deliver_eq_dialEnded out payload none free able]
  rfl

/-- An id is missing exactly if data came for it in vain and nothing was done about it since; no missing id
has a stream; a dial that fails, at once or late, makes no stream and no missing id. -/
theorem isMissing_iff_missed (out : Outlet σ) (settings : MuxSettings) (isHost : Bool) (outlet : σ)
    (events : List MuxEvent) :
    let first : Station σ := { mux := .start settings isHost, outlet }
    let t := first.life out events
    (∀ id, t.mux.isMissing id = true → t.mux.lookup id = none) ∧
    (∀ id, t.mux.isMissing id = true ↔ Missed out first id events) ∧
    (∀ raw id payload, Packet.decode raw = .ok ⟨id, .data, payload⟩ → t.mux.lookup id = none →
      t.mux.canDial = true → (t.packet out raw none).mux = t.mux) ∧
    ∀ id payload, (t.dialEnded out id payload none).mux = t.mux := by
  intro first t
  have isMissing (id : StreamId) : t.mux.isMissing id = true ↔ id ∈ t.mux.missing := List.contains_iff_mem
  obtain ⟨parted, history⟩ := missing_life out (s := first) rfl events
  refine ⟨fun id missing => ?_, fun id => ?_, ?_, fun id payload => rfl⟩
  · exact parted id ((isMissing id).mp missing)
  · exact (isMissing id).trans (history id)
  · intro raw id payload read free able
    exact mux_packet_of_failed read free able out

theorem isMissing_iff_missed_of_role_change :
    let id := StreamId.ofNat 5
    let raw := (Packet.data id [7]).encode
    let first : Station Outbox := { mux := .start { targetPort := some 80 } false, outlet := {} }
    let events : List MuxEvent := [.act (.packet raw none), .role true]
    let t := first.life .outbox events
    t.mux.isMissing id = true ∧ Missed .outbox first id events ∧ t.mux.lookup id = none ∧
      t.mux.canDial = true ∧ (t.packet .outbox raw none).mux = t.mux := by
  intro id raw first events t
  obtain ⟨apart, history, failed, -⟩ :=
    isMissing_iff_missed .outbox { targetPort := some 80 } false {} events
  have missing : t.mux.isMissing id = true := by decide
  have able : t.mux.canDial = true := by decide
  have free := apart id missing
  exact ⟨missing, (history id).mp missing, free, able,
    failed raw id [7] (Packet.decode_encode_data id [7]) free able⟩

end StreamTunnel.Station
