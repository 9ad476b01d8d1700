import Mathlib.Logic.Function.Basic
import StreamTunnel.Proofs.Endpoint.Open

namespace StreamTunnel.Endpoint
open StreamTunnel.Frame

/-- What a history is made of. An event has the number of the connection that it comes from. -/
inductive Mark where
  | connect (n : Nat) (s : SessionId) (peer : Identity)
  | inbound (n : Nat)
  | wrote (n : Nat) (b : Bytes)
  | accept (s : SessionId)
  | close (s : SessionId)
  | event (n : Nat) (ev : ChannelEvent)
deriving DecidableEq, Repr

def wroteMarks (n : Nat) : FarAct → List Mark
  | .write b => [.wrote n b]
  | _ => []

/-- How far a connection has come. One that waits for the hello has the bytes that are not decoded;
nothing is added to them once it is cut. -/
inductive Line where
  | greeting (unread : Reader) (isCut : Bool)
  | waiting (s : SessionId) (peer : Identity)
  | offered (s : SessionId) (peer : Identity)
  | open (s : SessionId)
  | ended
deriving DecidableEq, Repr

namespace Line

def session? : Line → Option SessionId
  | .waiting s _ | .offered s _ | .open s => some s
  | .greeting .. | .ended => none

def isOffered : Line → Bool
  | offered .. => true
  | _ => false

def isGreeting : Line → Bool
  | greeting .. => true
  | _ => false

end Line

def lineOf (c : Connection) : Line :=
  match c.stage with
  | .dialing s peer _ | .answering s peer => .waiting s peer
  | .greeting =>
      .greeting (c.reader.feed c.pipe.toNear) (c.pipe.nearClosed || c.pipe.ending.isSome)
  | .offered s peer => .offered s peer
  | .open s => .open s
  | .ended => .ended

@[ext]
structure Outline where
  line : Nat → Option Line
  slot : SessionId → Option (Nat × Bool)
  next : UInt64
  size : Nat

def outline (e : Endpoint) : Outline where
  line n := (e.connections[n]?).map lineOf
  slot s := (e.slots.get? s).map (fun slot => (slot.connection, slot.isGated))
  next := e.nextSession
  size := e.connections.length

namespace Outline

def setLine (n : Nat) (l : Line) (o : Outline) : Outline :=
  { o with line := Function.update o.line n (some l) }

def add (l : Line) (o : Outline) : Outline :=
  { o.setLine o.size l with size := o.size + 1 }

def begin (n : Nat) (gated : Bool) (o : Outline) : Outline :=
  { o with
    slot := Function.update o.slot ⟨o.next⟩ (some (n, gated))
    next := o.next + 1 }

def turn (n : Nat) (s : SessionId) (l : Line) (o : Outline) : Outline :=
  { o.setLine n l with
    slot := Function.update o.slot s (l.session?.map (fun _ => (n, l.isOffered))) }

structure Carries (n : Nat) (s : SessionId) (l : Line) (o : Outline) : Prop where
  line : o.line n = some l
  session : l.session? = some s
  slot : o.slot s = some (n, l.isOffered)

/-- Connections and the table agree on which session is where. -/
structure Sound (o : Outline) : Prop where
  held : ∀ {n l s}, o.line n = some l → l.session? = some s → o.slot s = some (n, l.isOffered)
  carried : ∀ {s n gated}, o.slot s = some (n, gated) → ∃ l, o.Carries n s l

theorem Sound.carries {o : Outline} (sound : o.Sound) {n : Nat} {l : Line} {s : SessionId}
    (there : o.line n = some l) (session : l.session? = some s) : o.Carries n s l :=
  ⟨there, session, sound.held there session⟩

end Outline

/-- What a session does on its connection, and what the history says then. -/
inductive Turn (n : Nat) (s : SessionId) : Line → List Mark → Line → Prop
  | answered (peer : Identity) : Turn n s (.waiting s peer) [.event n (.connected s peer)] (.open s)
  | admitted (peer : Identity) :
      Turn n s (.offered s peer) [.accept s, .event n (.connected s peer)] (.open s)
  | message (data : Bytes) : Turn n s (.open s) [.event n (.message s data)] (.open s)
  | finished {l : Line} (reason : CloseReason) : Turn n s l [.event n (.closed s reason)] .ended
  | closed {l : Line} : Turn n s l [.close s] .ended

def heardBy (unread : Reader) (isCut : Bool) : FarAct → Reader
  | .write b => if isCut then unread else unread.feed b
  | _ => unread

inductive Change (o : Outline) : List Mark → Outline → Prop
  | accepted (s : SessionId) : Change o [.accept s] o
  | closedNothing {s : SessionId} (unknown : o.slot s = none) : Change o [.close s] o
  | wrote {n : Nat} {l : Line} (b : Bytes) (there : o.line n = some l)
      (past : l.isGreeting = false) : Change o [.wrote n b] o
  | inbound : Change o [.inbound o.size] (o.add (.greeting {} false))
  | waited {n : Nat} {unread r : Reader} {isCut : Bool} {b : Bytes}
      (there : o.line n = some (.greeting unread isCut))
      (short : (heardBy unread isCut (.write b)).decode = (.more, r)) :
      Change o [.wrote n b] (o.setLine n (.greeting r isCut))
  | dropped {n : Nat} {unread : Reader} {isCut : Bool}
      (there : o.line n = some (.greeting unread isCut)) : Change o [] (o.setLine n .ended)
  | connect (peer : Identity) :
      Change o [.connect o.size ⟨o.next⟩ peer]
        ((o.add (.waiting ⟨o.next⟩ peer)).begin o.size false)
  | announced {n : Nat} {unread r : Reader} {isCut : Bool} {peer : Identity} {port : UInt32}
      (a : FarAct) (there : o.line n = some (.greeting unread isCut))
      (hello : (heardBy unread isCut a).decode = (.frame (.hello peer port), r)) :
      Change o (wroteMarks n a ++ [.event n (.incoming ⟨o.next⟩ peer port)])
        ((o.setLine n (.offered ⟨o.next⟩ peer)).begin n true)
  | turned {n : Nat} {s : SessionId} {l l' : Line} {marks : List Mark} (carries : o.Carries n s l)
      (turn : Turn n s l marks l') : Change o marks (o.turn n s l')

inductive Changes (o : Outline) : List Mark → Outline → Prop
  | nil : Changes o [] o
  | snoc {o' o'' : Outline} {earlier marks : List Mark} (before : Changes o earlier o')
      (change : Change o' marks o'') : Changes o (earlier ++ marks) o''

variable {o o' o'' : Outline} {h h' : List Mark}

theorem Change.changes (change : Change o h o') : Changes o h o' :=
  .snoc .nil change

theorem Changes.append (first : Changes o h o') (second : Changes o' h' o'') :
    Changes o (h ++ h') o'' := by
  induction second with
  | nil => simpa using first
  | snoc _ change ih =>
      rw [← List.append_assoc]
      exact .snoc ih change

variable {n m : Nat} {s s' : SessionId} {l : Line} {c : Connection} {e e' e'' : Endpoint}
  {peer : Identity}

theorem carries_turn (session : l.session? = some s) : (o.turn n s l).Carries n s l where
  line := Function.update_self ..
  session := session
  slot := by
    rw [Outline.turn, session]
    exact Function.update_self ..

theorem turn_eq_setLine (carries : o.Carries n s l) (l' : Line) (session : l'.session? = some s)
    (gate : l'.isOffered = l.isOffered) : o.turn n s l' = o.setLine n l' := by
  rw [Outline.turn, session, gate, Option.map_some, ← carries.slot, Function.update_eq_self]
  rfl

theorem outline_emit (ev : ChannelEvent) : (e.emit ev).outline = e.outline := rfl

theorem outline_modifyConnection (f : Connection → Connection)
    (there : e.connections[n]? = some c) :
    (e.modifyConnection n f).outline = e.outline.setLine n (lineOf (f c)) := by
  apply Outline.ext
  · funext m
    simp only [outline, Outline.setLine, connections_modifyConnection, Function.update_apply]
    by_cases same : n = m
    · subst same
      simp [there]
    · simp [same, Ne.symm same]
  · rfl
  · rfl
  · simp [outline, modifyConnection, Outline.setLine]

theorem outline_of_none (f : Connection → Connection) (gone : e.connections[n]? = none) :
    e.modifyConnection n f = e := by
  rw [modifyConnection, List.modify_eq_self (List.getElem?_eq_none_iff.mp gone)]

theorem setLine_eq_self (there : o.line n = some l) : o.setLine n l = o := by
  rw [Outline.setLine, ← there, Function.update_eq_self]

theorem lineOf_congr {c c' : Connection} (stage : c'.stage = c.stage)
    (past : (lineOf c).isGreeting = false) : lineOf c' = lineOf c := by
  unfold lineOf at past ⊢
  rw [stage]
  generalize c.stage = st at past ⊢
  cases st with
  | greeting => cases past
  | _ => rfl

theorem line_eq (there : e.connections[n]? = some c) : e.outline.line n = some (lineOf c) :=
  congrArg (Option.map lineOf) there

theorem outline_keep {f : Connection → Connection} (there : e.connections[n]? = some c)
    (line : lineOf (f c) = lineOf c) : (e.modifyConnection n f).outline = e.outline := by
  rw [outline_modifyConnection f there, line, setLine_eq_self (line_eq there)]

theorem outline_modifySlot (f : Slot → Slot) :
    (e.modifySlot s f).outline = { e.outline with
      slot := Function.update e.outline.slot s
        ((e.slots.get? s).map (fun slot => ((f slot).connection, (f slot).isGated))) } := by
  apply Outline.ext
  · rfl
  · funext s'
    simp only [outline, modifySlot, Table.get?_modify, Function.update_apply]
    split
    · next same => subst same; rw [Option.map_map]; rfl
    · rfl
  · rfl
  · rfl

theorem outline_keepSlot {f : Slot → Slot}
    (keeps : ∀ slot, (f slot).connection = slot.connection ∧ (f slot).isGated = slot.isGated) :
    (e.modifySlot s f).outline = e.outline := by
  rw [outline_modifySlot]
  simp only [keeps]
  apply Outline.ext
  · rfl
  · exact Function.update_eq_self ..
  · rfl
  · rfl

theorem outline_finish (reason : CloseReason) :
    (e.finish s reason).outline =
      { e.outline with slot := Function.update e.outline.slot s none } := by
  apply Outline.ext
  · simp [outline]
  · funext s'
    simp only [outline, slots_finish, Function.update_apply]
    split <;> rfl
  · rw [finish]
    split <;> rfl
  · simp [outline]

theorem outline_endConnection (there : e.connections[n]? = some c) :
    (e.endConnection n).outline = e.outline.setLine n .ended :=
  outline_modifyConnection _ there

theorem outline_over (reason : CloseReason) (there : e.connections[n]? = some c) :
    ((e.finish s reason).endConnection n).outline = e.outline.turn n s .ended := by
  have there' : (e.finish s reason).connections[n]? = some c := by rw [connections_finish, there]
  rw [outline_endConnection there', outline_finish]
  rfl

theorem outline_enter (there : e.connections[n]? = some c) :
    (e.enter n s peer).outline = e.outline.setLine n (.open s) := by
  unfold enter
  rw [outline_emit, outline_keepSlot, outline_modifyConnection _ there]
  · rfl
  · intro slot
    exact ⟨rfl, rfl⟩

theorem exists_connection (there : e.outline.line n = some l) :
    ∃ c, e.connections[n]? = some c ∧ lineOf c = l :=
  Option.map_eq_some_iff.mp there

theorem slot_eq {slot : Slot} (known : e.slots.get? s = some slot) :
    e.outline.slot s = some (slot.connection, slot.isGated) := by
  simp only [outline, known, Option.map_some]

theorem setLine_setLine (l l' : Line) : (o.setLine n l).setLine n l' = o.setLine n l' := by
  simp only [Outline.setLine, Function.update_idem]

theorem outline_openSlot (gated : Bool) :
    (e.openSlot n gated).2.outline = e.outline.begin n gated := by
  apply Outline.ext
  · rfl
  · funext s
    simp only [outline, openSlot, Table.get?_insert, Outline.begin, Function.update_apply]
    split <;> rfl
  · rfl
  · rfl

theorem outline_eraseSlot (s : SessionId) :
    ({ e with slots := e.slots.erase s } : Endpoint).outline =
      { e.outline with slot := Function.update e.outline.slot s none } := by
  apply Outline.ext
  · rfl
  · funext s'
    simp only [outline, Table.get?_erase, Function.update_apply]
    split <;> rfl
  · rfl
  · rfl

theorem outline_append (c : Connection) :
    ({ e with connections := e.connections ++ [c] } : Endpoint).outline =
      e.outline.add (lineOf c) := by
  apply Outline.ext
  · funext n
    simp only [outline, Outline.add, Outline.setLine, Function.update_apply]
    by_cases last : n = e.connections.length
    · simp [last]
    · rw [if_neg last]
      rcases Nat.lt_or_gt_of_ne last with before | past
      · rw [List.getElem?_append_left before]
      · rw [List.getElem?_eq_none_iff.mpr (by simp; omega),
          List.getElem?_eq_none_iff.mpr (by omega)]
  · rfl
  · rfl
  · simp [outline, Outline.add]

theorem outline_endConnection_of_writeBytes (b : Bytes) (there : e.connections[n]? = some c) :
    ((e.writeBytes n b).endConnection n).outline = e.outline.setLine n .ended := by
  have there' : (e.writeBytes n b).connections[n]? = some { c with pipe := c.pipe.write b } := by
    rw [writeBytes, connections_modifyConnection, if_pos rfl, there]
    rfl
  rw [outline_endConnection there', writeBytes, outline_modifyConnection _ there, setLine_setLine]

theorem Outline.Carries.of_eq (carries : e.outline.Carries n s l) (same : e'.outline = e.outline) :
    e'.outline.Carries n s l := by
  rwa [same]

theorem contains_of_carries (carries : e.outline.Carries n s l) : e.slots.contains s = true := by
  obtain ⟨slot, there, -⟩ := Option.map_eq_some_iff.mp carries.slot
  rw [Table.contains, there]
  rfl

theorem past_of_carries (carries : o.Carries n s l) : l.isGreeting = false := by
  have session := carries.session
  cases l with
  | greeting => cases session
  | _ => rfl

theorem outline_carried {f : Connection → Connection} (carries : e.outline.Carries n s l)
    (keeps : ∀ c, (f c).stage = c.stage) : (e.modifyConnection n f).outline = e.outline := by
  obtain ⟨c, there, line⟩ := exists_connection carries.line
  apply outline_keep there
  apply lineOf_congr (keeps c)
  rw [line]
  exact past_of_carries carries

theorem Outline.Sound.carries_of_stage (sound : e.outline.Sound)
    (there : e.connections[n]? = some c) (line : lineOf c = l) (session : l.session? = some s) : e.outline.Carries n s l := by
  apply sound.carries _ session
  rw [line_eq there, line]

theorem lineOf_open (stage : c.stage = .open s) : lineOf c = .open s := by
  rw [lineOf, stage]

theorem stage_of_offered (line : lineOf c = .offered s peer) : c.stage = .offered s peer := by
  unfold lineOf at line
  split at line <;> cases line
  assumption

theorem stage_of_lineOf : (lineOf c).isGreeting = true ∧ c.stage = .greeting ∨
    lineOf c = .ended ∧ c.stage = .ended ∨ ∃ s, (lineOf c).session? = some s := by
  unfold lineOf
  cases c.stage with
  | greeting => exact .inl ⟨rfl, rfl⟩
  | ended => exact .inr (.inl ⟨rfl, rfl⟩)
  | dialing s | answering s | offered s | «open» s => exact .inr (.inr ⟨s, rfl⟩)

end StreamTunnel.Endpoint
