import StreamTunnel.Proofs.Endpoint.Run

namespace StreamTunnel.Endpoint
open StreamTunnel.Frame

variable {o : Outline} {h : List Mark} {n m : Nat} {s s' : SessionId} {l : Line} {c : Connection}
  {e e' e'' : Endpoint} {peer : Identity}

/-! ## What the parts of a step bring about -/

/-- From `e` to `e'` connection `n` reports some events, and the outline goes on by changes. The
first argument is what the history says before the events. -/
def Grows (base : List Mark) (n : Nat) (e e' : Endpoint) : Prop :=
  ∃ events, e'.events = e.events ++ events ∧
    Changes e.outline (base ++ events.map (.event n)) e'.outline

theorem grows_of_eq (same : e'.outline = e.outline) (events : e'.events = e.events) :
    Grows [] n e e' := by
  refine ⟨[], by simpa using events, ?_⟩
  rw [same]
  exact .nil

theorem Grows.refl (n : Nat) (e : Endpoint) : Grows [] n e e :=
  grows_of_eq rfl rfl

theorem Change.grows (change : Change e.outline h e'.outline) (events : e'.events = e.events) :
    Grows h n e e' :=
  ⟨[], by simpa using events, by simpa using change.changes⟩

theorem Grows.trans {base : List Mark} (first : Grows base n e e') (second : Grows [] n e' e'') :
    Grows base n e e'' := by
  obtain ⟨events, told, changes⟩ := first
  obtain ⟨events', told', changes'⟩ := second
  refine ⟨events ++ events', by rw [told', told, List.append_assoc], ?_⟩
  have both := changes.append changes'
  simpa using both

theorem Grows.noted {base : List Mark} (change : Change e.outline base e.outline)
    (later : Grows [] n e e') : Grows base n e e' :=
  (change.grows rfl).trans later

theorem grows_turn {ev : ChannelEvent} {l' : Line} (carries : e.outline.Carries n s l)
    (turn : Turn n s l [.event n ev] l') (events : e'.events = e.events ++ [ev])
    (outline : e'.outline = e.outline.turn n s l') : Grows [] n e e' := by
  refine ⟨[ev], events, ?_⟩
  rw [outline]
  exact (Change.turned carries turn).changes

theorem grows_over (carries : e.outline.Carries n s l) (reason : CloseReason) :
    Grows [] n e ((e.finish s reason).endConnection n) := by
  obtain ⟨c, there, -⟩ := exists_connection carries.line
  apply grows_turn carries (.finished reason)
  · rw [endConnection, modifyConnection, finish, if_pos (contains_of_carries carries)]
    rfl
  · exact outline_over reason there

theorem grows_fail (carries : e.outline.Carries n s l) (err : ChannelError) :
    Grows [] n e (e.fail n s err) :=
  grows_over carries err.toReason

def Onward (n : Nat) (s : SessionId) (l : Line) (e : Endpoint) (p : Bool × Endpoint) : Prop :=
  Grows [] n e p.2 ∧ (p.1 = true → p.2.outline.Carries n s l)

theorem Onward.trans {p : Bool × Endpoint} (first : Grows [] n e e') (later : Onward n s l e' p) :
    Onward n s l e p :=
  ⟨first.trans later.1, later.2⟩

theorem Onward.stopped (grows : Grows [] n e e') : Onward n s l e (false, e') :=
  ⟨grows, by simp⟩

theorem onward_writeFrame (carries : e.outline.Carries n s l) (f : Frame) :
    Onward n s l e (e.writeFrame n s f) := by
  rw [writeFrame]
  split
  · next b _ =>
    have same : (e.writeBytes n b).outline = e.outline := outline_carried carries fun _ => rfl
    refine ⟨grows_of_eq same rfl, fun _ => ?_⟩
    rwa [same]
  · exact .stopped (grows_fail carries _)

theorem onward_writeFrames (carries : e.outline.Carries n s l) (frames : List Frame) :
    Onward n s l e (e.writeFrames n s frames) := by
  induction frames generalizing e with
  | nil => exact ⟨.refl n e, fun _ => carries⟩
  | cons f rest ih =>
      obtain ⟨first, goes⟩ := onward_writeFrame carries f
      rw [writeFrames]
      split
      · next wrote =>
        rw [wrote] at first goes
        exact (ih (goes rfl)).trans first
      · next failed =>
        rw [failed] at first
        exact .stopped first

theorem grows_writeQueue (carries : e.outline.Carries n s l) (frames : List Frame) :
    Grows [] n e (e.writeQueue n s frames) := by
  induction frames generalizing e with
  | nil => exact .refl n e
  | cons f rest ih =>
      have same : (e.modifySlot s (Slot.taken f rest)).outline = e.outline :=
        outline_keepSlot fun _ => ⟨rfl, rfl⟩
      have taken : Grows [] n e (e.modifySlot s (Slot.taken f rest)) := grows_of_eq same rfl
      have carries' : (e.modifySlot s (Slot.taken f rest)).outline.Carries n s l := by rwa [same]
      obtain ⟨first, goes⟩ := onward_writeFrame carries' f
      rw [writeQueue, writeNext]
      split
      · next wrote =>
        rw [wrote] at first goes
        exact (taken.trans first).trans (ih (goes rfl))
      · next failed =>
        rw [failed] at first
        exact taken.trans first

theorem grows_flush (sound : e.outline.Sound) (n : Nat) : Grows [] n e (e.flush n) := by
  rw [flush]
  split
  · next c there =>
    split
    · next s stage =>
      have carries := sound.carries_of_stage there (lineOf_open stage) rfl
      have same : (e.modifyConnection n (fun c => { c with control := [] })).outline = e.outline :=
        outline_carried carries fun _ => rfl
      have cleared : Grows [] n e (e.modifyConnection n (fun c => { c with control := [] })) :=
        grows_of_eq same rfl
      rw [← same] at carries
      obtain ⟨answered, goes⟩ := onward_writeFrames carries c.control
      dsimp only
      split
      · next failed =>
        rw [failed] at answered
        exact cleared.trans answered
      · next wrote =>
        rw [wrote] at answered goes
        exact (cleared.trans answered).trans (grows_writeQueue (goes rfl) _)
    · exact .refl n e
  · exact .refl n e

theorem onward_takeFrames (carries : e.outline.Carries n s (.open s)) (frames : List Frame) :
    Onward n s (.open s) e (e.takeFrames n s frames) := by
  induction frames generalizing e with
  | nil => exact ⟨.refl n e, fun _ => carries⟩
  | cons f rest ih =>
      cases f with
      | message data =>
          have told : Grows [] n e (e.emit (.message s data)) := by
            apply grows_turn carries (.message data) rfl
            rw [turn_eq_setLine carries (.open s) rfl rfl, setLine_eq_self carries.line,
              outline_emit]
          exact .trans told (ih (carries.of_eq rfl))
      | ping t =>
          have same : (e.modifyConnection n
              (fun c => { c with control := c.control ++ [.pong t] })).outline = e.outline :=
            outline_carried carries fun _ => rfl
          exact .trans (grows_of_eq same rfl) (ih (carries.of_eq same))
      | pong t =>
          have same : (e.modifySlot s
              (fun slot => { slot with rtt := some (roundTrip e.now slot.began t) })).outline =
                e.outline := outline_keepSlot fun _ => ⟨rfl, rfl⟩
          exact .trans (grows_of_eq same rfl) (ih (carries.of_eq same))
      | close reason => exact .stopped (grows_over carries .byPeer)
      | hello | helloAck => exact ih carries

theorem grows_readOpen (carries : e.outline.Carries n s (.open s)) (c : Connection) :
    Grows [] n e (e.readOpen n s c) := by
  unfold readOpen
  obtain ⟨frames, fault, r⟩ := c.reader.drain
  dsimp only
  have same : (e.modifyConnection n (fun c => { c with reader := r })).outline = e.outline :=
    outline_carried carries fun _ => rfl
  have read : Grows [] n e (e.modifyConnection n (fun c => { c with reader := r })) :=
    grows_of_eq same rfl
  rw [← same] at carries
  obtain ⟨taken, goes⟩ := onward_takeFrames carries frames
  have went := read.trans taken
  split
  · next ended =>
    rw [ended] at went
    exact went
  · next stays =>
    rw [stays] at went goes
    split
    · exact went.trans (grows_fail (goes rfl) _)
    · exact went
    · split
      · exact went.trans (grows_fail (goes rfl) _)
      · exact went.trans (grows_over (goes rfl) _)

theorem grows_enter (carries : e.outline.Carries n s (.waiting s peer)) :
    Grows [] n e (e.enter n s peer) ∧ (e.enter n s peer).outline.Carries n s (.open s) := by
  obtain ⟨c, there, -⟩ := exists_connection carries.line
  have turned : (e.enter n s peer).outline = e.outline.turn n s (.open s) := by
    rw [outline_enter there, turn_eq_setLine carries (.open s) rfl rfl]
  refine ⟨grows_turn carries (.answered peer) rfl turned, ?_⟩
  rw [turned]
  exact carries_turn rfl

theorem grows_readAnswer (carries : e.outline.Carries n s (.waiting s peer)) (c : Connection) :
    Grows [] n e (e.readAnswer n s peer c) := by
  unfold readAnswer
  split
  · obtain ⟨entered, carries'⟩ := grows_enter carries
    exact entered.trans (grows_readOpen carries' _)
  · exact grows_fail carries _
  · exact grows_fail carries _
  · exact grows_fail carries _
  · next r _ =>
    have same : (e.modifyConnection n (fun c => { c with reader := r })).outline = e.outline :=
      outline_carried carries fun _ => rfl
    have read : Grows [] n e (e.modifyConnection n (fun c => { c with reader := r })) :=
      grows_of_eq same rfl
    dsimp only
    split
    · exact read
    · rw [← same] at carries
      exact read.trans (grows_fail carries _)

/-! ## What a peer does -/

theorem grows_receive (carries : e.outline.Carries n s l) : Grows [] n e (e.receive n) := by
  obtain ⟨c, there, line⟩ := exists_connection carries.line
  have same : (e.modifyConnection n Connection.take).outline = e.outline :=
    outline_carried carries fun _ => rfl
  have taken : Grows [] n e (e.modifyConnection n Connection.take) := grows_of_eq same rfl
  unfold receive
  rw [there]
  dsimp only
  unfold lineOf at line
  cases stage : c.stage with
  | greeting =>
      rw [stage] at line
      subst line
      cases carries.session
  | answering s' peer =>
      rw [stage] at line
      subst line
      obtain rfl : s' = s := Option.some.inj carries.session
      exact taken.trans (grows_readAnswer (carries.of_eq same) _)
  | «open» s' =>
      rw [stage] at line
      subst line
      obtain rfl : s' = s := Option.some.inj carries.session
      exact taken.trans (grows_readOpen (carries.of_eq same) _)
  | dialing | offered | ended => exact .refl n e

theorem grows_act_of_carries (carries : e.outline.Carries n s l) (a : FarAct) :
    Grows [] n e (e.act n a) := by
  have same : (e.modifyConnection n (fun c => { c with pipe := c.pipe.act a })).outline =
      e.outline := outline_carried carries fun _ => rfl
  have acted : Grows [] n e (e.modifyConnection n (fun c => { c with pipe := c.pipe.act a })) :=
    grows_of_eq same rfl
  exact acted.trans (grows_receive (carries.of_eq same))

theorem reader_take (c : Connection) (a : FarAct) :
    ({ c with pipe := c.pipe.act a } : Connection).take.reader =
      heardBy (c.reader.feed c.pipe.toNear) (c.pipe.nearClosed || c.pipe.ending.isSome) a := by
  cases a with
  | write b =>
      simp only [Connection.take, Pipe.act, heardBy]
      split
      · rfl
      · exact (Reader.feed_feed ..).symm
  | halfClose | close | reset => rfl

theorem changes_dropped {unread : Reader} {isCut : Bool}
    (there : o.line n = some (.greeting unread isCut)) (a : FarAct) :
    Changes o (wroteMarks n a) (o.setLine n .ended) := by
  have dropped := (Change.dropped there).changes
  cases a with
  | write b =>
      have ended : (o.setLine n .ended).line n = some .ended := Function.update_self ..
      exact dropped.append (Change.wrote b ended rfl).changes
  | halfClose | close | reset => exact dropped

theorem write_of_ending {p : Pipe} {a : FarAct} (more : (p.act a).ending.isSome = false) :
    ∃ b, a = .write b ∧ (p.act a).nearClosed = (p.nearClosed || p.ending.isSome) := by
  cases a with
  | write b =>
      refine ⟨b, rfl, ?_⟩
      simp only [Pipe.act] at more ⊢
      by_cases cut : (p.nearClosed || p.ending.isSome) = true
      · rw [if_pos cut] at more ⊢
        rw [more, Bool.or_false]
      · rw [if_neg cut]
        rw [Bool.not_eq_true] at cut
        rw [cut]
        exact (Bool.or_eq_false_iff.mp cut).1
  | halfClose | close | reset => simp [Pipe.act] at more

section Greeting

variable {a : FarAct} {unread : Reader} {isCut : Bool} {q : Connection}

theorem grows_announced {r : Reader} {port : UInt32} (a : FarAct)
    (line : e.outline.line n = some (.greeting unread isCut)) (there : e'.connections[n]? = some q)
    (events : e'.events = e.events) (outline : e'.outline = e.outline.setLine n l)
    (hello : (heardBy unread isCut a).decode = (.frame (.hello peer port), r)) :
    Grows (wroteMarks n a) n e
      (((e'.openSlot n true).2.modifyConnection n (fun c =>
        { c with stage := .offered ⟨e'.nextSession⟩ peer, reader := r, deadline := none })).emit
          (.incoming ⟨e'.nextSession⟩ peer port)) := by
  have next : e'.nextSession = e.outline.next := congrArg Outline.next outline
  refine ⟨[.incoming ⟨e.outline.next⟩ peer port], ?_, ?_⟩
  · rw [next, ← events]
    rfl
  · have there' : (e'.openSlot n true).2.connections[n]? = some q := there
    have change := (Change.announced a line hello).changes
    rw [outline_emit, outline_modifyConnection _ there', outline_openSlot, outline, next]
    have swap : ((e.outline.setLine n l).begin n true).setLine n
        (.offered ⟨e.outline.next⟩ peer) =
          (e.outline.setLine n (.offered ⟨e.outline.next⟩ peer)).begin n true := by
      simp only [Outline.setLine, Outline.begin, Function.update_idem]
    rw [← swap] at change
    exact change

theorem grows_dropped (a : FarAct)
    (line : e.outline.line n = some (.greeting unread isCut)) (there : e'.connections[n]? = some q)
    (events : e'.events = e.events) (outline : e'.outline = e.outline.setLine n l) :
    Grows (wroteMarks n a) n e (e'.endConnection n) := by
  refine ⟨[], by rw [List.append_nil]; exact events, ?_⟩
  rw [outline_endConnection there, outline, setLine_setLine, List.map_nil, List.append_nil]
  exact changes_dropped line a

theorem grows_waited {r : Reader} {b : Bytes}
    (line : e.outline.line n = some (.greeting unread isCut)) (there : e'.connections[n]? = some q)
    (events : e'.events = e.events) (outline : e'.outline = e.outline.setLine n l)
    (stage : q.stage = .greeting) (taken : q.pipe.toNear = [])
    (isOpen : (q.pipe.nearClosed || q.pipe.ending.isSome) = isCut)
    (short : (heardBy unread isCut (.write b)).decode = (.more, r)) :
    Grows (wroteMarks n (.write b)) n e
      (e'.modifyConnection n (fun c => { c with reader := r })) := by
  refine ⟨[], by rw [List.append_nil]; exact events, ?_⟩
  have waits : lineOf { q with reader := r } = .greeting r isCut := by
    rw [lineOf, stage, taken, isOpen, Reader.feed_nil]
  rw [outline_modifyConnection _ there, outline, setLine_setLine, waits]
  exact (Change.waited line short).changes

theorem act_eq_readGreeting (there : e.connections[n]? = some c) (stage : c.stage = .greeting)
    (a : FarAct) :
    e.act n a = ((e.modifyConnection n (fun c => { c with pipe := c.pipe.act a })).modifyConnection n
      Connection.take).readGreeting n ({ c with pipe := c.pipe.act a } : Connection).take := by
  obtain ⟨st, pipe, r, control, deadline, due⟩ := c
  obtain rfl : st = .greeting := stage
  have there' : (e.modifyConnection n (fun c => { c with pipe := c.pipe.act a })).connections[n]? =
      some ⟨.greeting, pipe.act a, r, control, deadline, due⟩ := by
    rw [connections_modifyConnection, if_pos rfl, there]
    rfl
  unfold act receive
  rw [there']

theorem grows_act_greeting (there : e.connections[n]? = some c) (stage : c.stage = .greeting)
    (a : FarAct) : Grows (wroteMarks n a) n e (e.act n a) := by
  obtain ⟨st, pipe, r, control, deadline, due⟩ := c
  obtain rfl : st = .greeting := stage
  have line : e.outline.line n = some (.greeting (r.feed pipe.toNear)
      (pipe.nearClosed || pipe.ending.isSome)) := line_eq there
  let q : Connection := Connection.take ⟨.greeting, pipe.act a, r, control, deadline, due⟩
  let e' := (e.modifyConnection n (fun c => { c with pipe := c.pipe.act a })).modifyConnection n
    Connection.take
  have there₁ : (e.modifyConnection n (fun c => { c with pipe := c.pipe.act a })).connections[n]? =
      some ⟨.greeting, pipe.act a, r, control, deadline, due⟩ := by
    rw [connections_modifyConnection, if_pos rfl, there]
    rfl
  have there' : e'.connections[n]? = some q := by
    rw [connections_modifyConnection, if_pos rfl, there₁]
    rfl
  have outline : e'.outline = e.outline.setLine n (lineOf q) := by
    rw [outline_modifyConnection _ there₁, outline_modifyConnection _ there, setLine_setLine]
  have reads : e.act n a = e'.readGreeting n q := act_eq_readGreeting there rfl a
  have reader : q.reader = heardBy (r.feed pipe.toNear) (pipe.nearClosed || pipe.ending.isSome) a :=
    reader_take ⟨.greeting, pipe, r, control, deadline, due⟩ a
  rw [reads]
  unfold readGreeting
  split
  · next hello =>
    rw [reader] at hello
    exact grows_announced a line there' rfl outline hello
  · exact grows_dropped a line there' rfl outline
  · exact grows_dropped a line there' rfl outline
  · next r' short =>
    dsimp only
    split
    · have there'' : (e'.modifyConnection n (fun c => { c with reader := r' })).connections[n]? =
          some { q with reader := r' } := by
        rw [connections_modifyConnection, if_pos rfl, there']
        rfl
      have outline' : (e'.modifyConnection n (fun c => { c with reader := r' })).outline =
          e.outline.setLine n (lineOf { q with reader := r' }) := by
        rw [outline_modifyConnection _ there', outline, setLine_setLine]
      exact grows_dropped a line there'' rfl outline'
    · next more =>
      rw [Bool.not_eq_true] at more
      obtain ⟨b, rfl, isOpen⟩ := write_of_ending more
      rw [reader] at short
      apply grows_waited line there' rfl outline rfl rfl _ short
      rw [more, Bool.or_false]
      exact isOpen

end Greeting

theorem grows_wrote (there : e.outline.line n = some l) (past : l.isGreeting = false) (a : FarAct)
    (later : Grows [] n e e') : Grows (wroteMarks n a) n e e' := by
  cases a with
  | write b => exact .noted (.wrote b there past) later
  | halfClose | close | reset => exact later

theorem grows_act (sound : e.outline.Sound) (n : Nat) (a : FarAct) :
    Grows (if n < e.connections.length then wroteMarks n a else []) n e (e.act n a) := by
  cases there : e.connections[n]? with
  | none =>
      have gone : ¬ n < e.connections.length :=
        Nat.not_lt_of_le (List.getElem?_eq_none_iff.mp there)
      have nothing : e.act n a = e := by
        rw [act, outline_of_none _ there, receive, there]
      rw [if_neg gone, nothing]
      exact .refl n e
  | some c =>
      rw [if_pos (List.getElem?_eq_some_iff.mp there).1]
      rcases stage_of_lineOf (c := c) with ⟨-, stage⟩ | ⟨line, stage⟩ | ⟨s, session⟩
      · exact grows_act_greeting there stage a
      · apply grows_wrote (line_eq there) (by rw [line]; rfl) a
        have same : (e.modifyConnection n (fun c => { c with pipe := c.pipe.act a })).outline =
            e.outline := outline_keep there (lineOf_congr rfl (by rw [line]; rfl))
        have unread :
            e.act n a = e.modifyConnection n (fun c => { c with pipe := c.pipe.act a }) := by
          unfold act receive
          rw [connections_modifyConnection, if_pos rfl, there, Option.map_some]
          dsimp only
          rw [stage]
        rw [unread]
        exact grows_of_eq same rfl
      · have carries := sound.carries (line_eq there) session
        have past := past_of_carries carries
        exact grows_wrote (line_eq there) past a (grows_act_of_carries carries a)

/-! ## What the sessions do -/

theorem grows_established (sound : e.outline.Sound) (n : Nat) :
    Grows [] n e (e.established n) := by
  unfold established
  split
  · next c there =>
    split
    · next s peer port stage =>
      have line : lineOf c = .waiting s peer := by rw [lineOf, stage]
      have carries := sound.carries_of_stage there line rfl
      have same : (e.modifyConnection n (fun c => { c with stage := .answering s peer })).outline =
          e.outline := by
        apply outline_keep there
        rw [line]
        rfl
      have reached : Grows [] n e
          (e.modifyConnection n (fun c => { c with stage := .answering s peer })) :=
        grows_of_eq same rfl
      exact reached.trans (onward_writeFrame (carries.of_eq same) _).1
    · exact .refl n e
  · exact .refl n e

theorem grows_refused (sound : e.outline.Sound) (n : Nat) (detail : String) :
    Grows [] n e (e.refused n detail) := by
  unfold refused
  split
  · next c there =>
    split
    · next s peer port stage =>
      have line : lineOf c = .waiting s peer := by rw [lineOf, stage]
      exact grows_fail (sound.carries_of_stage there line rfl) _
    · exact .refl n e
  · exact .refl n e

theorem grows_expire (sound : e.outline.Sound) (n : Nat) : Grows [] n e (e.expire n) := by
  unfold expire
  split
  · next c there =>
    cases stage : c.stage with
    | dialing s peer | answering s peer =>
        have line : lineOf c = .waiting s peer := by rw [lineOf, stage]
        exact grows_fail (sound.carries_of_stage there line rfl) _
    | greeting =>
        have line : e.outline.line n = some (lineOf c) := line_eq there
        rw [lineOf, stage] at line
        refine ⟨[], (List.append_nil _).symm, ?_⟩
        rw [outline_endConnection there]
        exact (Change.dropped line).changes
    | offered | «open» | ended => exact .refl n e
  · exact .refl n e

theorem grows_ping (sound : e.outline.Sound) (n : Nat) : Grows [] n e (e.ping n) := by
  unfold ping
  split
  · next c there =>
    split
    · next s stage =>
      have carries := sound.carries_of_stage there (lineOf_open stage) rfl
      have same : (e.modifyConnection n (fun c =>
          { c with pingDue := c.pingDue.map (· + e.settings.keepalive.nanos) })).outline =
            e.outline := outline_carried carries fun _ => rfl
      have due : Grows [] n e (e.modifyConnection n (fun c =>
          { c with pingDue := c.pingDue.map (· + e.settings.keepalive.nanos) })) :=
        grows_of_eq same rfl
      exact due.trans (onward_writeFrame (carries.of_eq same) _).1
    · exact .refl n e
  · exact .refl n e

theorem outline_send (s : SessionId) (data : Bytes) (r : Reliability) :
    (e.send s data r).2.outline = e.outline ∧ (e.send s data r).2.events = e.events := by
  unfold send
  split
  · exact ⟨rfl, rfl⟩
  · split
    · exact ⟨rfl, rfl⟩
    · exact ⟨outline_keepSlot fun _ => ⟨rfl, rfl⟩, rfl⟩

theorem outline_takeWritten (n : Nat) :
    (e.takeWritten n).2.2.outline = e.outline ∧ (e.takeWritten n).2.2.events = e.events := by
  unfold takeWritten
  split
  · exact ⟨rfl, rfl⟩
  · next c there =>
    exact ⟨outline_keep there rfl, rfl⟩

theorem grows_connect (peer : Identity) (port : UInt32) (timeout : Span) :
    Grows [.connect e.connections.length ⟨e.nextSession⟩ peer] n e
      (e.connect peer port timeout).2 := by
  have became : (e.connect peer port timeout).2.outline =
      (e.outline.add (.waiting ⟨e.outline.next⟩ peer)).begin e.outline.size false := by
    unfold connect
    dsimp only
    rw [outline_append, outline_openSlot]
    rfl
  have change := Change.connect (o := e.outline) peer
  rw [← became] at change
  exact change.grows rfl

theorem grows_inbound : Grows [.inbound e.connections.length] n e e.inbound.2 := by
  have became : e.inbound.2.outline = e.outline.add (.greeting {} false) := outline_append _
  have change := Change.inbound (o := e.outline)
  rw [← became] at change
  exact change.grows rfl

theorem grows_close (sound : e.outline.Sound) (s : SessionId) (reason : String) :
    Grows [.close s] n e (e.close s reason) := by
  unfold close
  cases known : e.slots.get? s with
  | none =>
      have unknown : e.outline.slot s = none := by simp only [outline, known, Option.map_none]
      exact .noted (.closedNothing unknown) (.refl n e)
  | some slot =>
      obtain ⟨l, carries⟩ := sound.carried (slot_eq known)
      obtain ⟨c, there, -⟩ := exists_connection carries.line
      have there' : ({ e with slots := e.slots.erase s } : Endpoint).connections[slot.connection]? =
          some c := there
      have closed := (Change.turned carries .closed).changes
      refine ⟨[], ?_, ?_⟩
      · dsimp only
        split <;> exact (List.append_nil _).symm
      · dsimp only
        rw [List.map_nil, List.append_nil]
        split
        · rw [outline_endConnection_of_writeBytes _ there', outline_eraseSlot]
          exact closed
        · rw [outline_endConnection_of_writeBytes _ there', outline_eraseSlot]
          exact closed
        · rw [outline_endConnection there', outline_eraseSlot]
          exact closed

theorem grows_admit (carries : e.outline.Carries n s (.offered s peer))
    (there : e'.connections[n]? = some c)
    (events : e'.events = e.events)
    (outline : e'.outline =
      { e.outline with slot := Function.update e.outline.slot s (some (n, false)) }) :
    Grows [.accept s] n e (e'.enter n s peer) ∧
      (e'.enter n s peer).outline.Carries n s (.open s) := by
  have turned : (e'.enter n s peer).outline = e.outline.turn n s (.open s) := by
    rw [outline_enter there, outline]
    rfl
  rw [turned]
  refine ⟨⟨[.connected s peer], ?_, ?_⟩, carries_turn rfl⟩
  · rw [← events]
    rfl
  · rw [turned]
    exact (Change.turned carries (.admitted peer)).changes

theorem grows_spoil (carries : e.outline.Carries n s (.offered s peer))
    (there : e'.connections[n]? = some c)
    (events : e'.events = e.events) (known : e'.slots.contains s = true)
    (outline : e'.outline =
      { e.outline with slot := Function.update e.outline.slot s (some (n, false)) })
    (err : ChannelError) : Grows [.accept s] n e (e'.fail n s err) := by
  have failed : (e'.fail n s err).outline = e.outline.turn n s .ended := by
    rw [fail, outline_over _ there, outline, Outline.turn, Outline.turn]
    simp only [Outline.setLine, Function.update_idem]
  refine ⟨[.closed s err.toReason], ?_, ?_⟩
  · rw [← events, fail, finish, if_pos known]
    rfl
  · rw [failed]
    exact (Change.accepted s).changes.append (Change.turned carries (.finished err.toReason)).changes

theorem grows_accept (sound : e.outline.Sound) (s : SessionId) :
    Grows [.accept s] ((e.slots.get? s).elim 0 (·.connection)) e (e.accept s).2 := by
  unfold accept
  cases known : e.slots.get? s with
  | none => exact .noted (.accepted s) (.refl _ e)
  | some slot =>
      dsimp only [Option.elim]
      split
      · next gated =>
        obtain ⟨l, carries⟩ := sound.carried (slot_eq known)
        obtain ⟨peer, rfl⟩ : ∃ peer, l = .offered s peer := by
          have session := carries.session
          have gate := carries.slot
          rw [slot_eq known, Option.some.injEq, Prod.mk.injEq, gated] at gate
          cases l with
          | offered s' peer =>
              obtain rfl : s' = s := Option.some.inj session
              exact ⟨peer, rfl⟩
          | _ => cases gate.2
        obtain ⟨c, there, line⟩ := exists_connection carries.line
        have stage := stage_of_offered line
        obtain ⟨st, pipe, r, control, deadline, due⟩ := c
        obtain rfl : st = .offered s peer := stage
        have outline : (e.modifySlot s (fun slot => { slot with isGated := false })).outline =
            { e.outline with
              slot := Function.update e.outline.slot s (some (slot.connection, false)) } := by
          rw [outline_modifySlot, known]
          rfl
        have contains : (e.modifySlot s (fun slot =>
            { slot with isGated := false })).slots.contains s = true := by
          simp [Table.contains, modifySlot, Table.get?_modify, known]
        have there' : (e.modifySlot s (fun slot =>
            { slot with isGated := false })).connections[slot.connection]? =
              some ⟨.offered s peer, pipe, r, control, deadline, due⟩ := there
        rw [there']
        dsimp only
        split
        · exact grows_spoil carries there' rfl contains outline _
        · rw [writeFrame, wire_of_small (by decide)]
          dsimp only
          have sent := outline_keep (f := fun c => { c with
            pipe := c.pipe.write (Exchange.frameBytes .helloAck) }) there' rfl
          have there'' : ((e.modifySlot s (fun slot => { slot with isGated := false })).writeBytes
              slot.connection (Exchange.frameBytes .helloAck)).connections[slot.connection]? =
                some ⟨.offered s peer, pipe.write (Exchange.frameBytes .helloAck), r, control,
                  deadline, due⟩ := by
            rw [writeBytes, connections_modifyConnection, if_pos rfl, there']
            rfl
          obtain ⟨entered, carries'⟩ := grows_admit carries there'' rfl (sent.trans outline)
          exact entered.trans (grows_receive carries')
      · exact .noted (.accepted s) (.refl _ e)

theorem grows_listen : Grows [] n e e.listen.2 := by
  unfold listen
  split
  · exact .refl n e
  · split
    · exact .refl n e
    · exact grows_of_eq rfl rfl

theorem grows_perform (sound : e.outline.Sound) {a : EndpointAct} (keeps : a ≠ .takeEvents) :
    Grows (e.marks a) (e.reporting a) e (e.perform a) := by
  cases a with
  | listen => exact grows_listen
  | closeListener => exact grows_of_eq rfl rfl
  | connect peer port timeout => exact grows_connect peer port timeout
  | accept s => exact grows_accept sound s
  | send s data r =>
      obtain ⟨same, events⟩ := outline_send (e := e) s data r
      exact grows_of_eq same events
  | close s reason => exact grows_close sound s reason
  | inbound =>
      rw [perform, marks]
      split
      · exact grows_inbound
      · exact .refl _ e
  | established n => exact grows_established sound n
  | refused n detail => exact grows_refused sound n detail
  | far n a => exact grows_act sound n a
  | expire n => exact grows_expire sound n
  | ping n => exact grows_ping sound n
  | flush n => exact grows_flush sound n
  | collect n =>
      obtain ⟨same, events⟩ := outline_takeWritten (e := e) n
      exact grows_of_eq same events
  | takeEvents => exact absurd rfl keeps
  | lag frames | pass nanos => exact grows_of_eq rfl rfl

theorem perform_changes (sound : e.outline.Sound) (a : EndpointAct) :
    Changes e.outline (e.marks a ++
      ((e.perform a).events.drop e.events.length).map (.event (e.reporting a)))
        (e.perform a).outline := by
  by_cases taking : a = .takeEvents
  · subst taking
    have nothing : (e.perform .takeEvents).events.drop e.events.length = [] := List.drop_nil
    rw [nothing]
    exact .nil
  · obtain ⟨events, told, changes⟩ := grows_perform sound taking
    rw [told, List.drop_left]
    exact changes

end StreamTunnel.Endpoint
