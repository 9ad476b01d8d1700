import StreamTunnel.Channel.Script
import StreamTunnel.Link.Basic

/-!
# Runs of a link

A link on any channel, step by step, with a record of what passed between the two: the calls of the
link, the sessions that the channel gave it, and the events that it was told. Events are handled one
after the other, so none is while a backoff is waited for, and none after a fault.

A record is lawful if the channel kept to what it promises: a session that it gives is new, one
becomes connected at most once and only if it was given or accepted, messages come in between, and
nothing comes after its end.
-/

namespace StreamTunnel

inductive Signal where
  | asked (call : ChannelCall)
  | gave (s : SessionId)
  | told (e : ChannelEvent)
deriving DecidableEq

def Signal.isPlain : Signal → Bool
  | .asked (.connect ..) | .asked (.accept _) | .gave _ => false
  | _ => true

def Signal.isIdle : Signal → Bool
  | .asked (.close ..) | .asked (.send ..) | .asked (.quality _) => true
  | .told (.incoming ..) | .told (.message ..) => true
  | _ => false

def Signal.isUse : Signal → Bool
  | .asked (.send ..) | .asked (.quality _) => true
  | _ => false

theorem Signal.isIdle_of_isUse {x : Signal} (use : x.isUse = true) : x.isIdle = true := by
  cases x with
  | asked call => cases call <;> first | rfl | cases use
  | gave s => cases use
  | told e => cases use

theorem Signal.isPlain_of_isIdle {x : Signal} (idle : x.isIdle = true) : x.isPlain = true := by
  cases x with
  | asked call => cases call <;> first | rfl | cases idle
  | gave s => cases idle
  | told e => rfl

theorem mem_of_mem_append_plain {record extra : List Signal} {x : Signal}
    (plain : ∀ x ∈ extra, x.isPlain) (special : x.isPlain = false) (mem : x ∈ record ++ extra) :
    x ∈ record := by
  rcases List.mem_append.mp mem with mem | mem
  · exact mem
  · rw [plain x mem] at special
    cases special

/-- A channel with the record of what it was asked and told. -/
structure Recorded (τ : Type) where
  channel : τ
  record : List Signal := []

namespace Recorded

variable {τ : Type}

def asking {α : Type} (call : ChannelCall) (r : α × τ) (c : Recorded τ) : α × Recorded τ :=
  (r.1, ⟨r.2, c.record ++ [.asked call]⟩)

def telling (e : ChannelEvent) (c : Recorded τ) : Recorded τ :=
  { c with record := c.record ++ [.told e] }

def giving (r : Except ChannelError SessionId × Recorded τ) :
    Except ChannelError SessionId × Recorded τ :=
  match r with
  | (.ok s, c) => (.ok s, { c with record := c.record ++ [.gave s] })
  | (.error e, c) => (.error e, c)

instance [Channel τ] : Channel (Recorded τ) where
  listen c := c.asking .listen (Channel.listen c.channel)
  closeListener c := (c.asking .closeListener ((), Channel.closeListener c.channel)).2
  connect peer port timeout c :=
    giving (c.asking (.connect peer port timeout) (Channel.connect peer port timeout c.channel))
  accept s c := c.asking (.accept s) (Channel.accept s c.channel)
  send s data r c := c.asking (.send s data r) (Channel.send s data r c.channel)
  quality s c := c.asking (.quality s) (Channel.quality s c.channel)
  close s reason c := (c.asking (.close s reason) ((), Channel.close s reason c.channel)).2

end Recorded

theorem cut_append {α : Type} {l new before after : List α} {x : α}
    (cut : l ++ new = before ++ x :: after) :
    (∃ after', l = before ++ x :: after') ∨ ∃ mid, before = l ++ mid ∧ new = mid ++ x :: after := by
  rcases List.append_eq_append_iff.mp cut with ⟨mid, rfl, place⟩ | ⟨rest, rfl, place⟩
  · exact .inr ⟨mid, rfl, place⟩
  · cases rest with
    | nil => exact .inr ⟨[], by simp, place.symm⟩
    | cons y rest =>
        obtain ⟨rfl, -⟩ := List.cons.inj place
        exact .inl ⟨rest, rfl⟩

theorem cut_append_singleton {α : Type} {l before after : List α} {last x : α}
    (cut : l ++ [last] = before ++ x :: after) :
    (l = before ∧ last = x) ∨ ∃ after', l = before ++ x :: after' := by
  rcases cut_append cut with old | ⟨mid, rfl, place⟩
  · exact .inr old
  · left
    cases mid with
    | nil => exact ⟨(List.append_nil l).symm, (List.cons.inj place).1⟩
    | cons y mid => simp at place

/-! ## What a channel promises -/

def HasConnected (s : SessionId) (record : List Signal) : Prop :=
  ∃ peer, .told (.connected s peer) ∈ record

def HasClosed (s : SessionId) (record : List Signal) : Prop :=
  ∃ reason, .told (.closed s reason) ∈ record

theorem HasConnected.append {s : SessionId} {record : List Signal} (h : HasConnected s record)
    (more : List Signal) : HasConnected s (record ++ more) :=
  h.imp fun _ => List.mem_append_left more

theorem HasClosed.append {s : SessionId} {record : List Signal} (h : HasClosed s record)
    (more : List Signal) : HasClosed s (record ++ more) :=
  h.imp fun _ => List.mem_append_left more

def Allowed (before : List Signal) : Signal → Prop
  | .gave s => .gave s ∉ before ∧ ∀ e, .told e ∈ before → e.session ≠ s
  | .told (.connected s _) => (.gave s ∈ before ∨ .asked (.accept s) ∈ before) ∧
      ¬ HasConnected s before ∧ ¬ HasClosed s before
  | .told (.message s _) => HasConnected s before ∧ ¬ HasClosed s before
  | .told (.closed s _) => ¬ HasClosed s before
  | _ => True

def Lawful (record : List Signal) : Prop :=
  ∀ before x after, record = before ++ x :: after → Allowed before x

theorem Lawful.nil : Lawful [] := by
  intro before x after cut
  simp at cut

theorem Lawful.append {record : List Signal} {x : Signal} (lawful : Lawful record)
    (allowed : Allowed record x) : Lawful (record ++ [x]) := by
  intro before y after cut
  rcases cut_append_singleton cut with ⟨rfl, rfl⟩ | ⟨after', cut⟩
  · exact allowed
  · exact lawful before y after' cut

theorem Lawful.of_prefix {record later : List Signal} (lawful : Lawful later)
    (earlier : record <+: later) : Lawful record := by
  obtain ⟨more, rfl⟩ := earlier
  intro before x after cut
  exact lawful before x (after ++ more) (by simp [cut])

theorem Lawful.allowed {record later : List Signal} {x : Signal} (lawful : Lawful later)
    (earlier : record ++ [x] <+: later) : Allowed record x :=
  lawful.of_prefix earlier record x [] rfl

def heard (record : List Signal) : List ChannelEvent :=
  record.filterMap fun
    | .told e => some e
    | _ => none

theorem mem_heard {e : ChannelEvent} {record : List Signal} : e ∈ heard record ↔ .told e ∈ record := by
  rw [heard, List.mem_filterMap]
  constructor
  · rintro ⟨x, mem, same⟩
    cases x with
    | told e' => exact Option.some.inj same ▸ mem
    | asked | gave => cases same
  · exact fun mem => ⟨_, mem, rfl⟩

def ChannelEvent.connects (s : SessionId) : ChannelEvent → Bool
  | .connected s' _ => s' = s
  | _ => false

def ChannelEvent.closes (s : SessionId) : ChannelEvent → Bool
  | .closed s' _ => s' = s
  | _ => false

theorem hasConnected_iff {s : SessionId} {record : List Signal} :
    HasConnected s record ↔ ∃ e ∈ heard record, e.connects s = true := by
  constructor
  · rintro ⟨peer, mem⟩
    exact ⟨_, mem_heard.mpr mem, decide_eq_true rfl⟩
  · rintro ⟨e, mem, connects⟩
    cases e with
    | connected s' peer => exact ⟨peer, mem_heard.mp (of_decide_eq_true connects ▸ mem)⟩
    | incoming | message | closed => cases connects

theorem hasClosed_iff {s : SessionId} {record : List Signal} :
    HasClosed s record ↔ ∃ e ∈ heard record, e.closes s = true := by
  constructor
  · rintro ⟨reason, mem⟩
    exact ⟨_, mem_heard.mpr mem, decide_eq_true rfl⟩
  · rintro ⟨e, mem, closes⟩
    cases e with
    | closed s' reason => exact ⟨reason, mem_heard.mp (of_decide_eq_true closes ▸ mem)⟩
    | incoming | connected | message => cases closes

instance (s : SessionId) (record : List Signal) : Decidable (HasConnected s record) :=
  decidable_of_iff _ hasConnected_iff.symm

instance (s : SessionId) (record : List Signal) : Decidable (HasClosed s record) :=
  decidable_of_iff _ hasClosed_iff.symm

instance (before : List Signal) : (x : Signal) → Decidable (Allowed before x)
  | .gave s => decidable_of_iff (.gave s ∉ before ∧ ∀ e ∈ heard before, e.session ≠ s)
      (by simp only [mem_heard, Allowed])
  | .told (.connected s _) => inferInstanceAs (Decidable
      ((.gave s ∈ before ∨ .asked (.accept s) ∈ before) ∧ ¬ HasConnected s before ∧ ¬ HasClosed s before))
  | .told (.message s _) =>
      inferInstanceAs (Decidable (HasConnected s before ∧ ¬ HasClosed s before))
  | .told (.closed s _) => inferInstanceAs (Decidable (¬ HasClosed s before))
  | .told (.incoming ..) | .asked _ => inferInstanceAs (Decidable True)

theorem forall_cut_iff {α : Type} {l : List α} {P : List α → α → Prop} :
    (∀ before x after, l = before ++ x :: after → P before x) ↔
      ∀ i, ∀ h : i < l.length, P (l.take i) l[i] := by
  constructor
  · intro each i h
    apply each _ _ (l.drop (i + 1))
    rw [← List.drop_eq_getElem_cons h, List.take_append_drop]
  · rintro each before x after rfl
    simpa using each before.length (by simp)

instance (record : List Signal) : Decidable (Lawful record) :=
  decidable_of_iff _ forall_cut_iff.symm

/-! ## Steps -/

structure LinkRun (τ : Type) where
  link : Link (Recorded τ)
  handling : Handling := .done

inductive LinkAct where
  | host
  | connect (peer : Identity)
  | event (e : ChannelEvent)
  | resume
  | send (s : SessionId) (data : Bytes)
  | sample
  | disconnect
deriving DecidableEq

namespace LinkAct

def claimsRole : LinkAct → Bool
  | .host | .connect _ => true
  | _ => false

def isConnect : LinkAct → Bool
  | .connect _ => true
  | _ => false

end LinkAct

namespace Link

variable {τ : Type}

def record (l : Link (Recorded τ)) : List Signal :=
  l.channel.record

def hear (e : ChannelEvent) (l : Link (Recorded τ)) : Link (Recorded τ) :=
  { l with channel := l.channel.telling e }

@[simp] theorem record_hear (e : ChannelEvent) (l : Link (Recorded τ)) :
    (l.hear e).record = l.record ++ [.told e] := rfl

@[simp] theorem record_update (f : LinkState → LinkState) (l : Link (Recorded τ)) :
    (l.update f).record = l.record := rfl

@[simp] theorem record_emit (e : LinkEvent) (l : Link (Recorded τ)) :
    (l.emit e).record = l.record := rfl

@[simp] theorem record_report (wasActive : Bool) (s : SessionId) (reason : CloseReason)
    (l : Link (Recorded τ)) : (l.report wasActive s reason).record = l.record := by
  cases wasActive <;> rfl

variable {l : Link (Recorded τ)}

/-- The link asks or hears something, and nothing else about it changes but the quality it knows. -/
def Consults (l l' : Link (Recorded τ)) : Prop :=
  ∃ quality c extra, l' = { l with state := { l.state with quality }, channel := c } ∧
    c.record = l.record ++ extra ∧ ∀ x ∈ extra, x.isPlain

def Idles (l l' : Link (Recorded τ)) : Prop :=
  ∃ quality c extra, l' = { l with state := { l.state with quality }, channel := c } ∧
    c.record = l.record ++ extra ∧ ∀ x ∈ extra, x.isIdle

def Uses (l l' : Link (Recorded τ)) : Prop :=
  ∃ quality c extra, l' = { l with state := { l.state with quality }, channel := c } ∧
    c.record = l.record ++ extra ∧ ∀ x ∈ extra, x.isUse

theorem Uses.idles {l' : Link (Recorded τ)} (h : l.Uses l') : l.Idles l' := by
  obtain ⟨quality, c, extra, rfl, noted, uses⟩ := h
  exact ⟨quality, c, extra, rfl, noted, fun x mem => Signal.isIdle_of_isUse (uses x mem)⟩

theorem Uses.refl (l : Link (Recorded τ)) : l.Uses l :=
  ⟨l.state.quality, l.channel, [], rfl, by simp [record], by simp⟩

theorem Uses.trans {l' l'' : Link (Recorded τ)} (first : l.Uses l') (second : l'.Uses l'') :
    l.Uses l'' := by
  obtain ⟨quality, c, extra, rfl, noted, uses⟩ := first
  obtain ⟨quality', c', extra', rfl, noted', uses'⟩ := second
  refine ⟨quality', c', extra ++ extra', rfl, ?_, List.forall_mem_append.mpr ⟨uses, uses'⟩⟩
  rw [noted', record, noted, List.append_assoc]

theorem Idles.consults {l' : Link (Recorded τ)} (h : l.Idles l') : l.Consults l' := by
  obtain ⟨quality, c, extra, rfl, noted, idle⟩ := h
  exact ⟨quality, c, extra, rfl, noted, fun x mem => Signal.isPlain_of_isIdle (idle x mem)⟩

theorem Idles.refl (l : Link (Recorded τ)) : l.Idles l :=
  ⟨l.state.quality, l.channel, [], rfl, by simp [record], by simp⟩

theorem consults_hear (e : ChannelEvent) (l : Link (Recorded τ)) : l.Consults (l.hear e) :=
  ⟨l.state.quality, _, [.told e], rfl, rfl, by simp [Signal.isPlain]⟩

theorem Consults.record_grows {l' : Link (Recorded τ)} (h : l.Consults l') :
    l.record <+: l'.record := by
  obtain ⟨quality, c, extra, rfl, noted, -⟩ := h
  exact ⟨extra, noted.symm⟩

theorem Uses.record_grows {l' : Link (Recorded τ)} (h : l.Uses l') : l.record <+: l'.record :=
  h.idles.consults.record_grows

variable [Channel τ]

@[simp] theorem record_closeSession (s : SessionId) (reason : String) :
    (l.closeSession s reason).record = l.record ++ [.asked (.close s reason)] := rfl

theorem dial_cases (peer : Identity) (port : UInt32) (l : Link (Recorded τ)) :
    (∃ s c, l.dial peer port = (.ok s, { l with channel := c }) ∧ c.record = l.record ++
        [.asked (.connect peer port l.state.settings.connectTimeout), .gave s]) ∨
      ∃ e c, l.dial peer port = (.error e, { l with channel := c }) ∧ c.record = l.record ++
        [.asked (.connect peer port l.state.settings.connectTimeout)] := by
  obtain ⟨⟨r, c⟩, answer⟩ :
      ∃ p, Channel.connect peer port l.state.settings.connectTimeout l.channel.channel = p := ⟨_, rfl⟩
  cases r with
  | ok s =>
      left
      refine ⟨s, ⟨c, _⟩, ?_, rfl⟩
      simp only [dial, Channel.connect, Recorded.asking, answer, Recorded.giving]
      simp [record]
  | error e =>
      right
      refine ⟨e, ⟨c, _⟩, ?_, rfl⟩
      simp only [dial, Channel.connect, Recorded.asking, answer, Recorded.giving]
      rfl

theorem host_cases (l : Link (Recorded τ)) :
    (∃ e, l.host = (.error e, l) ∧ l.state.claim .host = .error e) ∨
      ∃ st r listening c, l.host = (r, { l with state := { st with listening }, channel := c }) ∧
        l.state.claim .host = .ok st ∧ (listening = true ∨ listening = st.listening) ∧
        c.record = l.record ++ [.asked .listen] := by
  cases claimed : l.state.claim .host with
  | error e => exact .inl ⟨e, by rw [host, claimed], rfl⟩
  | ok st =>
      right
      obtain ⟨⟨r, c⟩, answer⟩ : ∃ p, Channel.listen l.channel = p := ⟨_, rfl⟩
      have noted : c.record = l.record ++ [.asked .listen] := by
        rw [← (Prod.mk.inj answer).2]
        rfl
      cases r with
      | ok => exact ⟨st, _, true, c, by rw [host, claimed, answer], rfl, .inl rfl, noted⟩
      | error e => exact ⟨st, _, st.listening, c, by rw [host, claimed, answer], rfl, .inr rfl, noted⟩

theorem consults_closeSession (s : SessionId) (reason : String) (l : Link (Recorded τ)) :
    l.Consults (l.closeSession s reason) :=
  ⟨l.state.quality, _, [.asked (.close s reason)], rfl, rfl, by simp [Signal.isPlain]⟩

theorem uses_send (s : SessionId) (data : Bytes) (l : Link (Recorded τ)) :
    l.Uses (l.send s data).2 := by
  rw [send]
  split
  · obtain ⟨⟨r, c⟩, answer⟩ : ∃ p, Channel.send s data .reliable l.channel = p := ⟨_, rfl⟩
    refine ⟨l.state.quality, c, [.asked (.send s data .reliable)], ?_, ?_, by simp [Signal.isUse]⟩
    · cases r <;> rw [answer]
    · rw [← (Prod.mk.inj answer).2]
      rfl
  · exact .refl l

theorem uses_samplePing (l : Link (Recorded τ)) : l.Uses l.samplePing.2 := by
  rw [samplePing]
  cases l.state.primary.or l.state.active.keys.head? with
  | none => exact .refl l
  | some s =>
      obtain ⟨⟨r, c⟩, answer⟩ : ∃ p, Channel.quality s l.channel = p := ⟨_, rfl⟩
      have noted : c.record = l.record ++ [.asked (.quality s)] := by
        rw [← (Prod.mk.inj answer).2]
        rfl
      cases r with
      | none =>
          exact ⟨l.state.quality, c, _, by simp only [sampleSession, answer], noted,
            by simp [Signal.isUse]⟩
      | some q =>
          exact ⟨some q, c, _, by simp only [sampleSession, answer], noted, by simp [Signal.isUse]⟩

theorem idles_send (s : SessionId) (data : Bytes) (l : Link (Recorded τ)) :
    l.Idles (l.send s data).2 :=
  (uses_send s data l).idles

theorem idles_samplePing (l : Link (Recorded τ)) : l.Idles l.samplePing.2 :=
  (uses_samplePing l).idles

theorem consults_send (s : SessionId) (data : Bytes) (l : Link (Recorded τ)) :
    l.Consults (l.send s data).2 :=
  (idles_send s data l).consults

theorem consults_samplePing (l : Link (Recorded τ)) : l.Consults l.samplePing.2 :=
  (idles_samplePing l).consults

theorem claim_ok {role : Role} {st st' : LinkState} (h : st.claim role = .ok st') :
    st.isShutDown = false ∧ (st.role = none ∨ st.role = some role) ∧
      st' = { st with role := some role, phase := .connecting } := by
  rw [LinkState.claim] at h
  split at h
  · cases h
  · next running =>
    have running := Bool.eq_false_iff.mpr running
    split at h
    · next free => exact ⟨running, .inl free, (Except.ok.inj h).symm⟩
    · next taken =>
      split at h
      · next same =>
        subst same
        exact ⟨running, .inr taken, by rw [← Except.ok.inj h, ← taken]⟩
      · cases h

theorem onClosed_of_not_guest {σ : Type} [Channel σ] {l : Link σ} {s : SessionId}
    {reason : CloseReason} (h : l.state.isGuest = false) :
    l.onClosed s reason = (.done,
      ((l.update (fun st => { st with active := st.active.erase s })).update (·.settleHost)).report
        (l.state.active.contains s) s reason) := by
  simp only [onClosed]
  exact if_neg (Bool.eq_false_iff.mp h)

theorem record_dial (peer : Identity) (port : UInt32) (l : Link (Recorded τ)) :
    l.record <+: (l.dial peer port).2.record := by
  rcases dial_cases peer port l with ⟨s, c, dialed, noted⟩ | ⟨e, c, dialed, noted⟩ <;>
  · rw [dialed]
    exact ⟨_, noted.symm⟩

theorem record_connect (peer : Identity) (l : Link (Recorded τ)) :
    l.record <+: (l.connect peer).2.record := by
  rw [connect, beginConnect]
  split
  · next claimed =>
    split at claimed <;> cases claimed
    exact List.prefix_rfl
  · next claimed =>
    split at claimed <;> cases claimed
    next st _ =>
    have dialed := record_dial peer st.retries.virtualPort
      { l with state := { st with peer := some peer } }
    split
    · next answer => rwa [answer] at dialed
    · next answer => rwa [answer] at dialed

theorem record_reconnectWith (fuel : Nat) (reason : CloseReason) (l : Link (Recorded τ)) :
    l.record <+: (l.reconnectWith fuel reason).2.record := by
  induction fuel generalizing reason l with
  | zero => exact List.prefix_rfl
  | succ fuel ih =>
      rw [reconnectWith]
      split
      · exact List.prefix_rfl
      · next peer _ =>
        split
        · exact List.prefix_rfl
        · exact List.prefix_rfl
        · next a r _ =>
          dsimp only
          split
          · have dialed := record_dial peer a.virtualPort
              ((l.update (fun st => { st with retries := r })).emit
                (.reconnecting a.number a.virtualPort))
            split
            · next answer => rwa [answer] at dialed
            · next answer =>
              rw [answer] at dialed
              exact dialed.trans (ih _ _)
          · exact List.prefix_rfl

theorem record_resume (w : Waiting) (l : Link (Recorded τ)) :
    l.record <+: (l.resume w).2.record := by
  have dialed := record_dial w.peer w.attempt.virtualPort l
  rw [resume]
  split
  · next answer => rwa [answer] at dialed
  · next answer =>
    rw [answer] at dialed
    exact dialed.trans (record_reconnectWith _ _ _)

theorem record_handle (e : ChannelEvent) (l : Link (Recorded τ)) :
    l.record <+: (l.handle e).2.record := by
  cases e with
  | incoming s peer port =>
      rw [handle, onIncoming]
      split
      · exact ⟨_, rfl⟩
      · exact ⟨_, rfl⟩
  | connected s peer =>
      rw [handle, onConnected]
      split
      · exact ⟨_, rfl⟩
      · split
        · exact ⟨_, rfl⟩
        · exact List.prefix_rfl
  | message s data =>
      rw [handle, onMessage]
      split <;> exact List.prefix_rfl
  | closed s reason =>
      simp only [handle, onClosed]
      split
      · split
        · split
          · simp
          · refine List.IsPrefix.trans ?_ (record_reconnectWith ..)
            simp
        · exact List.prefix_rfl
      · simp

theorem record_dropSessions (sessions : List SessionId) (l : Link (Recorded τ)) :
    (sessions.foldl dropSession l).record =
      l.record ++ sessions.map (fun s => .asked (.close s "disconnect")) := by
  induction sessions generalizing l with
  | nil => simp
  | cons s rest ih =>
      rw [List.foldl_cons, ih, dropSession]
      simp

theorem events_dropSessions (sessions : List SessionId) (l : Link (Recorded τ)) :
    (sessions.foldl dropSession l).events = l.events ++ sessions.map (.closed · .locally) ∧
      (sessions.foldl dropSession l).state = l.state := by
  induction sessions generalizing l with
  | nil => simp
  | cons s rest ih =>
      obtain ⟨events, state⟩ := ih (l.dropSession s)
      rw [List.foldl_cons, events, state, List.map_cons, List.append_cons]
      exact ⟨rfl, rfl⟩

theorem disconnect_eq (l : Link (Recorded τ)) :
    l.disconnect.events = l.events ++
        (l.state.active.keys ++ l.state.pending.toList).map (.closed · .locally) ∧
      l.disconnect.state = { l.state with
        isShutDown := true, active := ∅, primary := none, pending := none, quality := none,
        phase := .closed, listening := false } := by
  rw [disconnect]
  split <;> exact events_dropSessions ..

theorem record_disconnect (l : Link (Recorded τ)) :
    l.disconnect.record = l.record ++
      (l.state.active.keys ++ l.state.pending.toList).map (fun s => .asked (.close s "disconnect")) ++
      if l.state.listening then [.asked .closeListener] else [] := by
  rw [disconnect]
  generalize l.state.active.keys ++ l.state.pending.toList = sessions
  cases l.state.listening with
  | false =>
      simp only [Bool.false_eq_true, if_false, record_dropSessions, record_update, List.append_nil]
  | true =>
      have closes (c : Recorded τ) :
          (Channel.closeListener c).record = c.record ++ [.asked .closeListener] := rfl
      simp only [if_true, record, closes]
      rw [← record, record_dropSessions]
      rfl

theorem plain_disconnect (l : Link (Recorded τ)) :
    ∃ extra, l.disconnect.record = l.record ++ extra ∧ ∀ x ∈ extra, x.isPlain := by
  refine ⟨_, by rw [record_disconnect, List.append_assoc], ?_⟩
  rw [List.forall_mem_append, List.forall_mem_map]
  refine ⟨fun _ _ => rfl, ?_⟩
  split <;> simp [Signal.isPlain]

end Link

namespace LinkRun

variable {τ : Type} [Channel τ]

def start (settings : LinkSettings) (channel : τ) : LinkRun τ :=
  { link := .start settings { channel } }

def handled (r : Handling × Link (Recorded τ)) : LinkRun τ :=
  ⟨r.2, r.1⟩

def step (x : LinkRun τ) : LinkAct → LinkRun τ
  | .host => { x with link := x.link.host.2 }
  | .connect peer => { x with link := (x.link.connect peer).2 }
  | .event e =>
      match x.handling with
      | .done => handled ((x.link.hear e).handle e)
      | _ => x
  | .resume =>
      match x.handling with
      | .waiting w => handled (x.link.resume w)
      | _ => x
  | .send s data => { x with link := (x.link.send s data).2 }
  | .sample => { x with link := x.link.samplePing.2 }
  | .disconnect =>
      { link := x.link.disconnect
        handling := match x.handling with
          | .waiting _ => .done
          | other => other }

def run (acts : List LinkAct) (x : LinkRun τ) : LinkRun τ :=
  acts.foldl step x

theorem record_step (x : LinkRun τ) (a : LinkAct) : x.link.record <+: (x.step a).link.record := by
  cases a with
  | host =>
      rcases Link.host_cases x.link with ⟨e, refused, -⟩ | ⟨st, r, listening, c, done, -, -, noted⟩
      · simp [step, refused]
      · rw [step, done]
        exact ⟨_, noted.symm⟩
  | connect peer => exact Link.record_connect peer x.link
  | event e =>
      rw [step]
      split
      · exact (List.prefix_append ..).trans (Link.record_handle e (x.link.hear e))
      · exact List.prefix_rfl
  | resume =>
      rw [step]
      split
      · exact Link.record_resume ..
      · exact List.prefix_rfl
  | send s data => exact (Link.consults_send s data x.link).record_grows
  | sample => exact (Link.consults_samplePing x.link).record_grows
  | disconnect =>
      obtain ⟨extra, noted, -⟩ := Link.plain_disconnect x.link
      exact ⟨extra, noted.symm⟩

theorem record_run (x : LinkRun τ) (acts : List LinkAct) :
    x.link.record <+: (x.run acts).link.record := by
  induction acts generalizing x with
  | nil => exact List.prefix_rfl
  | cons a rest ih => exact (record_step x a).trans (ih (x.step a))

end LinkRun

end StreamTunnel
