import StreamTunnel.Proofs.Link.Carrier

namespace StreamTunnel

variable {record extra : List Signal} {s : SessionId}

def HasBegun (s : SessionId) (record : List Signal) : Prop :=
  .gave s ∈ record ∨ HasConnected s record

def NewIncoming (record : List Signal) : Prop :=
  ∀ s peer port, .told (.incoming s peer port) ∈ record → .gave s ∉ record

def ChannelEvent.isIncoming : ChannelEvent → Bool
  | .incoming .. => true
  | _ => false

theorem newIncoming_iff :
    NewIncoming record ↔ ∀ e ∈ heard record, e.isIncoming = true → .gave e.session ∉ record := by
  constructor
  · intro new e mem incoming
    cases e with
    | incoming s peer port => exact new s peer port (mem_heard.mp mem)
    | connected | message | closed => cases incoming
  · intro new s peer port told
    exact new _ (mem_heard.mpr told) rfl

instance (record : List Signal) : Decidable (NewIncoming record) :=
  decidable_of_iff _ newIncoming_iff.symm

/-- The record of a channel that keeps its promises, also as to which sessions come in. -/
structure Orderly (record : List Signal) : Prop where
  lawful : Lawful record
  new : NewIncoming record

instance (record : List Signal) : Decidable (Orderly record) :=
  decidable_of_iff (Lawful record ∧ NewIncoming record) ⟨fun h => ⟨h.1, h.2⟩, fun h => ⟨h.lawful, h.new⟩⟩

theorem Orderly.of_prefix {later : List Signal} (h : Orderly later) (earlier : record <+: later) :
    Orderly record :=
  ⟨h.lawful.of_prefix earlier,
    fun s peer port told given => h.new s peer port (earlier.subset told) (earlier.subset given)⟩

namespace Signal

def closes (s : SessionId) : Signal → Bool
  | .asked (.close s' _) => s' = s
  | _ => false

def isNeutral : Signal → Bool
  | .gave _ | .told (.connected ..) | .told (.closed ..) | .asked (.close ..) => false
  | _ => true

theorem isNeutral_of_isUse {x : Signal} (use : x.isUse = true) : x.isNeutral = true := by
  cases x with
  | asked call => cases call <;> first | rfl | cases use
  | gave s => cases use
  | told e => cases use

end Signal

theorem HasBegun.append (h : HasBegun s record) (extra : List Signal) : HasBegun s (record ++ extra) :=
  h.imp (List.mem_append_left extra) (·.append extra)

theorem HasBegun.of_prefix {later : List Signal} (h : HasBegun s record) (earlier : record <+: later) :
    HasBegun s later := by
  obtain ⟨extra, rfl⟩ := earlier
  exact h.append extra

theorem hasConnected_append : HasConnected s (record ++ extra) ↔ HasConnected s record ∨ HasConnected s extra := by
  simp only [HasConnected, List.mem_append, exists_or]

theorem hasClosed_append : HasClosed s (record ++ extra) ↔ HasClosed s record ∨ HasClosed s extra := by
  simp only [HasClosed, List.mem_append, exists_or]

theorem hasConnected_connected {k : SessionId} {peer : Identity} :
    HasConnected k [.told (.connected s peer)] ↔ k = s := by
  simp [HasConnected]

theorem hasConnected_neutral (neutral : ∀ x ∈ extra, x.isNeutral = true) : ¬ HasConnected s extra := by
  rintro ⟨peer, mem⟩
  cases neutral _ mem

theorem hasClosed_neutral (neutral : ∀ x ∈ extra, x.isNeutral = true) : ¬ HasClosed s extra := by
  rintro ⟨reason, mem⟩
  cases neutral _ mem

def LinkState.sessions (st : LinkState) : List SessionId :=
  st.active.keys ++ st.pending.toList

namespace Link

variable {τ : Type} {l l' : Link (Recorded τ)}

structure Accounted (l : Link (Recorded τ)) : Prop where
  mem_iff : ∀ s, s ∈ l.state.sessions ↔ HasBegun s l.record ∧ ¬ HasClosed s l.record
  nodup : l.state.sessions.Nodup
  unclosed : ∀ s, HasBegun s l.record → l.record.countP (·.closes s) = 0

theorem accounted_of_none (none : l.state.sessions = []) (unbegun : ∀ s, ¬ HasBegun s l.record) :
    l.Accounted := by
  refine ⟨fun s => ?_, by simp [none], fun s begun => absurd begun (unbegun s)⟩
  simp [none, unbegun s]

theorem Accounted.closes_disconnect [Channel τ] (h : l.Accounted) (begun : HasBegun s l.disconnect.record) :
    l.disconnect.record.countP (·.closes s) = if HasClosed s l.disconnect.record then 0 else 1 := by
  -- the link is told nothing while it shuts down, so the account is settled by what it asks
  obtain ⟨extra, noted, asked, closes⟩ : ∃ extra, l.disconnect.record = l.record ++ extra ∧
      (∀ x ∈ extra, ∃ call, x = .asked call) ∧ extra.countP (·.closes s) = l.state.sessions.count s := by
    refine ⟨_, by rw [record_disconnect, List.append_assoc], ?_, ?_⟩
    · rw [List.forall_mem_append, List.forall_mem_map]
      refine ⟨fun s _ => ⟨_, rfl⟩, ?_⟩
      split <;> simp
    · have last : (if l.state.listening = true then [Signal.asked .closeListener] else []).countP (·.closes s) = 0 := by
        split <;> rfl
      rw [List.countP_append, last, List.countP_map]
      rfl
  have old : HasBegun s l.record := by
    rw [HasBegun, noted, List.mem_append, hasConnected_append] at begun
    rcases begun with (given | given) | (connected | ⟨peer, connected⟩)
    · exact .inl given
    · obtain ⟨call, same⟩ := asked _ given
      cases same
    · exact .inr connected
    · obtain ⟨call, same⟩ := asked _ connected
      cases same
  have ended : HasClosed s l.disconnect.record ↔ HasClosed s l.record := by
    rw [noted, hasClosed_append, or_iff_left]
    rintro ⟨reason, closed⟩
    obtain ⟨call, same⟩ := asked _ closed
    cases same
  rw [noted, List.countP_append, h.unclosed s old, Nat.zero_add, closes, h.nodup.count]
  simp only [h.mem_iff, ← noted, ended, old, true_and]
  split <;> simp_all

/-! ## A host -/

structure Receiving (l : Link (Recorded τ)) : Prop where
  role : l.state.role = some .host
  running : l.state.isShutDown = false
  listening : l.state.listening = true
  alone : l.state.pending = none
  active_iff : ∀ s, l.state.active.contains s = true ↔ HasConnected s l.record ∧ ¬ HasClosed s l.record
  nodup : l.state.active.keys.Nodup
  ungiven : ∀ s, .gave s ∉ l.record
  unclosed : ∀ s detail, .asked (.close s detail) ∉ l.record

theorem Receiving.accounted (h : l.Receiving) : l.Accounted := by
  refine ⟨fun s => ?_, ?_, fun s _ => ?_⟩
  · rw [LinkState.sessions, h.alone, Option.toList_none, List.append_nil, ← Table.contains_iff_mem_keys, h.active_iff,
      HasBegun, or_iff_right (h.ungiven s)]
  · rw [LinkState.sessions, h.alone, Option.toList_none, List.append_nil]
    exact h.nodup
  · rw [List.countP_eq_zero]
    intro x mem closes
    cases x with
    | asked call => cases call <;> first | exact h.unclosed _ _ mem | cases closes
    | gave | told => cases closes

theorem Receiving.keep (h : l.Receiving) {quality : Option LinkQuality} {phase : Phase}
    (state : l'.state = { l.state with quality, phase }) (noted : l'.record = l.record ++ extra)
    (neutral : ∀ x ∈ extra, x.isNeutral = true) : l'.Receiving := by
  refine ⟨?_, ?_, ?_, ?_, fun s => ?_, ?_, fun s mem => ?_, fun s detail mem => ?_⟩
  · rw [state]
    exact h.role
  · rw [state]
    exact h.running
  · rw [state]
    exact h.listening
  · rw [state]
    exact h.alone
  · rw [state, noted, hasConnected_append, hasClosed_append, or_iff_left (hasConnected_neutral neutral),
      or_iff_left (hasClosed_neutral neutral)]
    exact h.active_iff s
  · rw [state]
    exact h.nodup
  · rw [noted, List.mem_append] at mem
    exact mem.elim (h.ungiven s) fun new => nomatch neutral _ new
  · rw [noted, List.mem_append] at mem
    exact mem.elim (h.unclosed s detail) fun new => nomatch neutral _ new

theorem Receiving.uses (h : l.Receiving) (uses : l.Uses l') : l'.Receiving := by
  obtain ⟨quality, c, extra, rfl, noted, use⟩ := uses
  exact h.keep rfl noted fun x mem => Signal.isNeutral_of_isUse (use x mem)

theorem Receiving.opened (h : l.Receiving) {s : SessionId} {peer : Identity}
    (allowed : Allowed l.record (.told (.connected s peer))) :
    (((l.hear (.connected s peer)).update (·.opened s peer)).emit (.opened s peer)).Receiving := by
  have host : l.state.isGuest = false := by simp [LinkState.isGuest, h.role]
  obtain ⟨-, new, going⟩ := allowed
  have absent : l.state.active.contains s = false := by
    rw [← Bool.not_eq_true, h.active_iff]
    exact fun there => new there.1
  have state := @state_opened_of_not_guest τ l s peer host
  refine ⟨?_, ?_, ?_, ?_, fun k => ?_, ?_, ?_, ?_⟩
  · rw [state]
    exact h.role
  · rw [state]
    exact h.running
  · rw [state]
    exact h.listening
  · rw [state]
    exact h.alone
  · have unended : ¬ HasClosed k [.told (.connected s peer)] := by simp [HasClosed]
    rw [state, Table.contains_insert, record_emit, record_update, record_hear, hasConnected_append,
      hasConnected_connected, hasClosed_append, or_iff_left unended]
    by_cases same : k = s
    · simp [same, going]
    · simpa [same] using h.active_iff k
  · rw [state]
    exact Table.nodup_keys_insert h.nodup absent peer
  · simpa using h.ungiven
  · simpa using h.unclosed

theorem Receiving.drop (h : l.Receiving) {s : SessionId} {quality : Option LinkQuality} {phase : Phase}
    (state : l'.state = { l.state with active := l.state.active.erase s, quality, phase })
    (noted : l'.record = l.record ++ extra) (ended : HasClosed s l'.record)
    (only : ∀ x ∈ extra, ∃ reason, x = .told (.closed s reason)) : l'.Receiving := by
  have connected (k : SessionId) : ¬ HasConnected k extra := by
    rintro ⟨peer, mem⟩
    obtain ⟨reason, same⟩ := only _ mem
    cases same
  have closed {k : SessionId} (other : k ≠ s) : ¬ HasClosed k extra := by
    rintro ⟨reason, mem⟩
    obtain ⟨reason', same⟩ := only _ mem
    cases same
    exact other rfl
  refine ⟨?_, ?_, ?_, ?_, fun k => ?_, ?_, fun k mem => ?_, fun k detail mem => ?_⟩
  · rw [state]
    exact h.role
  · rw [state]
    exact h.running
  · rw [state]
    exact h.listening
  · rw [state]
    exact h.alone
  · rw [state, Table.contains_erase]
    by_cases same : k = s
    · simp [same, ended]
    · rw [if_neg same, noted, hasConnected_append, or_iff_left (connected k), hasClosed_append,
        or_iff_left (closed same)]
      exact h.active_iff k
  · rw [state]
    exact Table.nodup_keys_erase h.nodup s
  · rw [noted, List.mem_append] at mem
    refine mem.elim (h.ungiven k) fun new => ?_
    obtain ⟨reason, same⟩ := only _ new
    cases same
  · rw [noted, List.mem_append] at mem
    refine mem.elim (h.unclosed k detail) fun new => ?_
    obtain ⟨reason, same⟩ := only _ new
    cases same

section

variable [Channel τ]

theorem Receiving.onIncoming_eq (h : l.Receiving) (s : SessionId) :
    l.onIncoming s = { l with channel := (Channel.accept s l.channel).2 } := by
  apply if_pos
  simp [LinkState.isHost, h.role, h.listening, h.running]

theorem onClosed_of_host (host : l.state.isGuest = false) (s : SessionId) (reason : CloseReason) :
    (∃ quality phase, (l.onClosed s reason).2.state =
      { l.state with active := l.state.active.erase s, quality, phase }) ∧
      (l.onClosed s reason).2.record = l.record := by
  rw [onClosed_of_not_guest host]
  refine ⟨?_, record_report ..⟩
  dsimp only
  rw [state_report, update, LinkState.settleHost]
  split
  · exact ⟨_, _, rfl⟩
  · exact ⟨_, _, rfl⟩

theorem Receiving.hear (h : l.Receiving) (ev : ChannelEvent)
    (allowed : Allowed l.record (.told ev)) : ((l.hear ev).handle ev).2.Receiving := by
  have host : l.state.isGuest = false := by simp [LinkState.isGuest, h.role]
  cases ev with
  | incoming s peer port =>
      have heard : (l.hear (.incoming s peer port)).Receiving :=
        h.keep rfl rfl (by simp [Signal.isNeutral])
      rw [handle, heard.onIncoming_eq]
      exact heard.keep rfl rfl (by simp [Signal.isNeutral])
  | connected s peer =>
      have running : ¬ (l.hear (.connected s peer)).state.isShutDown = true := by simp [Link.hear, h.running]
      have fresh : ¬ (l.hear (.connected s peer)).state.isStale s = true := by
        simp [Link.hear, LinkState.isStale, host]
      rw [handle, onConnected, if_neg running, if_neg fresh]
      exact h.opened allowed
  | message s data =>
      have heard : (l.hear (.message s data)).Receiving := h.keep rfl rfl (by simp [Signal.isNeutral])
      rw [handle, onMessage]
      split
      · exact heard.keep rfl (List.append_nil _).symm (by simp)
      · exact heard
  | closed s reason =>
      obtain ⟨⟨quality, phase, state⟩, noted⟩ := onClosed_of_host (l := l.hear (.closed s reason)) host s reason
      refine h.drop state noted ?_ (by simp)
      exact ⟨reason, by rw [handle, noted]; simp⟩

theorem Receiving.early (h : l.Receiving) {ev : ChannelEvent} (told : .told ev ∈ l.record)
    (outer : ev.isOuter = true) : (l.handle ev).2.Receiving ∧ (l.handle ev).2.events = l.events := by
  have host : l.state.isGuest = false := by simp [LinkState.isGuest, h.role]
  cases ev with
  | incoming s peer port =>
      rw [handle, h.onIncoming_eq]
      exact ⟨h.keep rfl rfl (by simp [Signal.isNeutral]), rfl⟩
  | closed s reason =>
      obtain ⟨⟨quality, phase, state⟩, noted⟩ := onClosed_of_host host s reason
      have absent : l.state.active.contains s = false := by
        rw [← Bool.not_eq_true, h.active_iff]
        exact fun there => there.2 ⟨reason, told⟩
      refine ⟨h.drop state (noted.trans (List.append_nil _).symm) ⟨reason, ?_⟩ (by simp), ?_⟩
      · rwa [handle, noted]
      · rw [handle, onClosed_of_not_guest host, absent]
        rfl
  | connected | message => cases outer

theorem receiving_host {settings : LinkSettings} (fresh : l.state = .start settings)
    (unasked : ∀ x ∈ l.record, ∃ ev, x = .told ev) (unbegun : ∀ s, ¬ HasConnected s l.record) :
    (l.host.1 = .ok () → l.host.2.Receiving) ∧ l.host.2.state.sessions = [] ∧
      l.host.2.events = l.events ∧ l.host.2.record = l.record ++ [.asked .listen] := by
  have claimed : l.state.claim .host = .ok { l.state with role := some .host, phase := .connecting } := by
    rw [fresh]
    rfl
  have noted : (Channel.listen l.channel).2.record = l.record ++ [.asked .listen] := rfl
  rw [host, claimed]
  dsimp only
  generalize Channel.listen l.channel = r at noted
  obtain ⟨result, c⟩ := r
  cases result with
  | error e => exact ⟨by simp, by rw [fresh]; rfl, rfl, noted⟩
  | ok done =>
      refine ⟨fun _ => ⟨rfl, ?_, rfl, ?_, fun s => ?_, ?_, fun s mem => ?_, fun s detail mem => ?_⟩,
        by rw [fresh]; rfl, rfl, noted⟩
      · rw [fresh]
        rfl
      · rw [fresh]
        rfl
      · have unconnected : ¬ HasConnected s c.record := by
          rw [noted, hasConnected_append, or_iff_left (hasConnected_neutral (by simp [Signal.isNeutral]))]
          exact unbegun s
        rw [fresh]
        exact iff_of_false Bool.false_ne_true fun has => unconnected has.1
      · rw [fresh]
        exact List.nodup_nil
      · change .gave s ∈ c.record at mem
        rw [noted] at mem
        obtain ⟨ev, same⟩ := unasked _ (by simpa using mem)
        cases same
      · change .asked (.close s detail) ∈ c.record at mem
        rw [noted] at mem
        obtain ⟨ev, same⟩ := unasked _ (by simpa using mem)
        cases same

end

/-! ## A guest -/

/-- The link of a guest that connected once. It closed only sessions that came in. -/
structure Calling (l : Link (Recorded τ)) : Prop where
  carried : l.Carried
  tracked : l.Tracked
  refused : ∀ s detail, .asked (.close s detail) ∈ l.record → ∃ peer port, .told (.incoming s peer port) ∈ l.record

theorem Calling.accounted (h : l.Calling) (orderly : Orderly l.record) : l.Accounted := by
  have given (s : SessionId) (begun : HasBegun s l.record) : .gave s ∈ l.record :=
    begun.elim id fun connected => (orderly.lawful.begun connected).resolve_right (h.carried.accepts s)
  have mem_iff (s : SessionId) : s ∈ l.state.sessions ↔ l.state.primary = some s ∨ l.state.pending = some s := by
    rw [LinkState.sessions, h.carried.active_keys, List.mem_append, Option.mem_toList, Option.mem_toList]
  refine ⟨fun s => ?_, ?_, fun s begun => ?_⟩
  · rw [mem_iff]
    constructor
    · rintro (carries | waits)
      · obtain ⟨-, connected, going⟩ := h.tracked.carrying s carries
        exact ⟨.inr connected, going⟩
      · obtain ⟨-, given, -, going⟩ := h.tracked.awaited s waits
        exact ⟨.inl given, going⟩
    · rintro ⟨begun, going⟩
      have held := (h.carried.only s (given s begun)).resolve_left going
      rw [LinkState.held, Option.or_eq_some_iff] at held
      exact held.elim .inr fun carries => .inl carries.2
  · rw [LinkState.sessions, h.carried.active_keys]
    rcases h.carried.apart with none | none
    · rw [none]
      cases l.state.primary <;> simp
    · rw [none]
      cases l.state.pending <;> simp
  · rw [List.countP_eq_zero]
    intro x mem closes
    cases x with
    | asked call =>
        cases call with
        | close k detail =>
            -- a session that was closed came in, and none that comes in was given
            obtain rfl : k = s := of_decide_eq_true closes
            obtain ⟨peer, port, told⟩ := h.refused k detail mem
            exact orderly.new k peer port told (given k begun)
        | _ => cases closes
    | gave | told => cases closes

theorem Calling.uses (h : l.Calling) (uses : l.Uses l') : l'.Calling := by
  have carried := h.carried.idles uses.idles
  obtain ⟨quality, c, extra, rfl, noted, use⟩ := uses
  refine ⟨carried, h.tracked.keep id rfl rfl noted ?_, fun s detail mem => ?_⟩
  · intro s _ x mem
    have use := use x mem
    cases x with
    | asked call => rfl
    | gave | told => cases use
  · change .asked (.close s detail) ∈ c.record at mem
    rw [noted, List.mem_append] at mem
    obtain ⟨peer, port, told⟩ := h.refused s detail (mem.resolve_right fun new => nomatch use _ new)
    refine ⟨peer, port, ?_⟩
    change .told (.incoming s peer port) ∈ c.record
    rw [noted]
    exact List.mem_append_left extra told

section

variable [Channel τ]

theorem closes_handle (ev : ChannelEvent) (l : Link (Recorded τ)) :
    ∃ extra, (l.handle ev).2.record = l.record ++ extra ∧ ∀ s detail, .asked (.close s detail) ∈ extra →
      (∃ peer port, ev = .incoming s peer port) ∨
        (l.state.isShutDown = true ∨ l.state.isStale s = true) ∧ ∃ peer, ev = .connected s peer := by
  have none : l.record = l.record ++ [] := (List.append_nil _).symm
  cases ev with
  | incoming s peer port =>
      rw [handle, onIncoming]
      split
      · exact ⟨_, rfl, by simp⟩
      · exact ⟨_, rfl, by simp⟩
  | connected s peer =>
      rw [handle, onConnected]
      split
      · next shut => exact ⟨_, rfl, by simp [shut]⟩
      · split
        · next stale => exact ⟨_, rfl, by simp [stale]⟩
        · exact ⟨_, none, by simp⟩
  | message s data =>
      rw [handle, onMessage]
      split <;> exact ⟨_, none, by simp⟩
  | closed s reason =>
      simp only [handle, onClosed]
      split
      · split
        · split
          · exact ⟨_, (record_report ..).trans none, by simp⟩
          · next other =>
            rw [Bool.not_eq_true] at other
            rw [other, ← release]
            obtain ⟨extra, noted, dials⟩ := (reconnectWith_tried _ reason (l.release s reason false)).record_eq
            rw [release, record_report] at noted
            refine ⟨extra, noted, fun s detail mem => ?_⟩
            rcases dials _ mem with dial | ⟨s', given⟩
            · cases dial
            · cases given
        · exact ⟨_, none, by simp⟩
      · exact ⟨_, (record_report ..).trans none, by simp⟩

theorem Calling.hear (h : l.Calling) (idle : l.events = []) (ev : ChannelEvent)
    (lawful : Lawful ((l.hear ev).handle ev).2.record) : ((l.hear ev).handle ev).2.Calling := by
  refine ⟨(h.carried.hear idle ev lawful).1, (effect_event ev l).tracked h.tracked (by simp) lawful, ?_⟩
  obtain ⟨extra, noted, closes⟩ := closes_handle ev (l.hear ev)
  intro s detail mem
  rw [noted, record_hear, List.append_assoc] at mem ⊢
  rcases List.mem_append.mp mem with old | new
  · obtain ⟨peer, port, told⟩ := h.refused s detail old
    exact ⟨peer, port, List.mem_append_left _ told⟩
  · rcases closes s detail (by simpa using new) with ⟨peer, port, rfl⟩ | ⟨why, peer, rfl⟩
    · exact ⟨peer, port, by simp⟩
    · -- one that connects was waited for
      obtain ⟨waits, -⟩ := h.carried.pending_of_connected (allowed_perform lawful)
      simp [Link.hear, h.carried.running, LinkState.isStale, waits] at why

theorem Calling.early (h : l.Calling) {p : SessionId} (pending : l.state.pending = some p) {ev : ChannelEvent}
    (told : .told ev ∈ l.record) (early : ev.Early p) :
    (l.handle ev).2.Calling ∧ (l.handle ev).2.events = l.events := by
  obtain ⟨carried, -, events⟩ := h.carried.handle_early pending early
  refine ⟨?_, events⟩
  rcases h.carried.handle_early_cases pending early with same | ⟨s, peer, port, detail, rfl, refuses⟩
  · rw [same]
    exact h
  · have noted := record_closeSession (l := l) s detail
    rw [refuses] at carried ⊢
    refine ⟨carried, h.tracked.keep id rfl rfl noted (by simp [Signal.turns]), fun k detail' mem => ?_⟩
    rw [noted, List.mem_append] at mem
    rcases mem with old | new
    · obtain ⟨peer, port, told⟩ := h.refused k detail' old
      exact ⟨peer, port, noted ▸ List.mem_append_left _ told⟩
    · obtain ⟨rfl, -⟩ : k = s ∧ detail' = detail := by simpa using new
      exact ⟨peer, port, noted ▸ List.mem_append_left _ told⟩

theorem calling_connect {settings : LinkSettings} (fresh : l.state = .start settings)
    (unasked : ∀ x ∈ l.record, ∃ ev, x = .told ev) {peer : Identity} {s : SessionId}
    (given : (l.connect peer).1 = .ok s) (lawful : Lawful (l.connect peer).2.record) :
    (l.connect peer).2.Calling := by
  have none (s : SessionId) : .gave s ∉ l.record ∧ .asked (.accept s) ∉ l.record := by
    constructor <;>
    · intro mem
      obtain ⟨ev, same⟩ := unasked _ mem
      cases same
  obtain ⟨carried, pending, -, port, timeout, noted⟩ := carried_connect fresh none given
  have seeks : (l.connect peer).2.Seeks := ⟨by simp [LinkState.isGuest, carried.role], carried.running⟩
  rw [List.append_cons] at noted
  refine ⟨carried, ⟨fun k waits => ⟨seeks, ?_⟩, fun k carries => ?_⟩, fun k detail mem => ?_⟩
  · obtain rfl := Option.some.inj (pending.symm.trans waits)
    rw [noted] at lawful ⊢
    exact .of_given lawful
  · have vacant := carried.apart.resolve_left (by simp [pending])
    rw [vacant] at carries
    cases carries
  · rw [noted] at mem
    obtain ⟨ev, same⟩ := unasked _ (by simpa using mem)
    cases same

theorem connect_fails {settings : LinkSettings} (fresh : l.state = .start settings) {peer : Identity} {e : LinkError}
    (failed : (l.connect peer).1 = .error e) : (l.connect peer).2.state.sessions = [] ∧
      ∃ port timeout, (l.connect peer).2.record = l.record ++ [.asked (.connect peer port timeout)] := by
  have claimed : l.state.claim .guest = .ok { l.state with role := some .guest, phase := .connecting } := by
    rw [fresh]
    rfl
  rw [connect, beginConnect, claimed] at failed ⊢
  dsimp only at failed ⊢
  rcases dial_cases peer l.state.retries.virtualPort { l with
      state := { l.state with role := some .guest, phase := .connecting, peer := some peer } } with
    ⟨s, c, dialed, -⟩ | ⟨e, c, dialed, noted⟩
  · rw [dialed] at failed
    cases failed
  · rw [dialed]
    exact ⟨by dsimp only; rw [fresh]; rfl, _, _, noted⟩

end

/-! ## Either -/

inductive Engaged (l : Link (Recorded τ)) : Prop
  | host (h : l.Receiving)
  | guest (h : l.Calling)

structure Kept (l : Link (Recorded τ)) (ev : ChannelEvent) : Prop where
  told : .told ev ∈ l.record
  early : l.state.role = some .host ∧ ev.isOuter = true ∨ ∃ p, l.state.pending = some p ∧ ev.Early p

theorem Engaged.accounted (h : l.Engaged) (orderly : Orderly l.record) : l.Accounted := by
  cases h with
  | host h => exact h.accounted
  | guest h => exact h.accounted orderly

theorem Engaged.uses (h : l.Engaged) (uses : l.Uses l') : l'.Engaged := by
  cases h with
  | host h => exact .host (h.uses uses)
  | guest h => exact .guest (h.uses uses)

theorem Kept.uses {ev : ChannelEvent} (h : l.Kept ev) (uses : l.Uses l') : l'.Kept ev := by
  have grows := uses.record_grows
  obtain ⟨quality, c, extra, rfl, -⟩ := uses
  exact ⟨grows.subset h.told, h.early⟩

theorem Engaged.taken (h : l.Engaged) : Engaged { l with events := [] } := by
  cases h with
  | host h => exact .host ⟨h.role, h.running, h.listening, h.alone, h.active_iff, h.nodup, h.ungiven, h.unclosed⟩
  | guest h =>
      have c := h.carried
      exact .guest ⟨⟨c.role, c.running, c.active_keys, c.apart, c.only, c.connected, c.accepts⟩,
        ⟨h.tracked.awaited, h.tracked.carrying⟩, h.refused⟩

variable [Channel τ]

theorem Engaged.hear (h : l.Engaged) (idle : l.events = []) (ev : ChannelEvent)
    (lawful : Lawful ((l.hear ev).handle ev).2.record) : ((l.hear ev).handle ev).2.Engaged := by
  cases h with
  | host h => exact .host (h.hear ev (allowed_perform lawful))
  | guest h => exact .guest (h.hear idle ev lawful)

theorem Engaged.early (h : l.Engaged) {ev : ChannelEvent} (kept : l.Kept ev) :
    (l.handle ev).2.Engaged ∧ (l.handle ev).2.events = l.events ∧
      ∀ ev', l.Kept ev' → (l.handle ev).2.Kept ev' := by
  have grows := record_handle ev l
  cases h with
  | host h =>
      have outer (ev' : ChannelEvent) (kept : l.Kept ev') : ev'.isOuter = true := by
        rcases kept.early with ⟨-, outer⟩ | ⟨p, pending, -⟩
        · exact outer
        · rw [h.alone] at pending
          cases pending
      obtain ⟨next, events⟩ := h.early kept.told (outer ev kept)
      refine ⟨.host next, events, fun ev' kept' => ⟨grows.subset kept'.told, .inl ⟨next.role, outer ev' kept'⟩⟩⟩
  | guest h =>
      have waits (ev' : ChannelEvent) (kept : l.Kept ev') : ∃ p, l.state.pending = some p ∧ ev'.Early p := by
        rcases kept.early with ⟨host, -⟩ | waits
        · cases h.carried.role.symm.trans host
        · exact waits
      obtain ⟨p, pending, early⟩ := waits ev kept
      obtain ⟨next, events⟩ := h.early pending kept.told early
      have still := (h.carried.handle_early pending early).2.1
      refine ⟨.guest next, events, fun ev' kept' => ⟨grows.subset kept'.told, .inr ?_⟩⟩
      obtain ⟨p', pending', early'⟩ := waits ev' kept'
      obtain rfl := Option.some.inj (pending.symm.trans pending')
      exact ⟨p, still, early'⟩

end Link
end StreamTunnel
