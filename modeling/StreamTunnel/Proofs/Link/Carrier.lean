import StreamTunnel.Proofs.Link.OneSession

namespace StreamTunnel

def Signal.isSend : Signal → Bool
  | .asked (.send ..) => true
  | _ => false

theorem Signal.not_isSend_of_isDial {x : Signal} (dial : x.isDial = true) : x.isSend = false := by
  cases x with
  | asked call => cases call <;> first | rfl | cases dial
  | gave s => rfl
  | told e => rfl

def LinkEvent.isOfLink : LinkEvent → Bool
  | .reconnecting .. | .disconnected _ => true
  | _ => false

inductive ChannelEvent.Early (p : SessionId) : ChannelEvent → Prop
  | incoming (s : SessionId) (peer : Identity) (port : UInt32) : Early p (.incoming s peer port)
  | closed {s : SessionId} (other : s ≠ p) (reason : CloseReason) : Early p (.closed s reason)

namespace Link

variable {τ : Type} {l l' : Link (Recorded τ)} {r : Handling × Link (Recorded τ)}

/-- The link of a guest that connected once and is not shut down. -/
structure Carried (l : Link (Recorded τ)) : Prop where
  role : l.state.role = some .guest
  running : l.state.isShutDown = false
  active_keys : l.state.active.keys = l.state.primary.toList
  apart : l.state.pending = none ∨ l.state.primary = none
  only : OnlyHolds l.state.held l.record
  connected : ∀ s, l.state.primary = some s → HasConnected s l.record
  accepts : ∀ s, .asked (.accept s) ∉ l.record

/-- What handling an event does to the session that carries a guest's link, and what is reported. -/
inductive Turn (l l' : Link (Recorded τ)) : Prop
  | quiet (primary : l'.state.primary = l.state.primary) (events : l'.events = [])
  | message (s : SessionId) (data : Bytes) (primary : l'.state.primary = l.state.primary)
      (events : l'.events = [.message s data])
  | opened (s : SessionId) (peer : Identity) (before : l.state.primary = none)
      (after : l'.state.primary = some s) (events : l'.events = [.opened s peer])
  | ended (s : SessionId) (reason : CloseReason) (rest : List LinkEvent)
      (before : l.state.primary = some s) (after : l'.state.primary = none)
      (events : l'.events = .closed s reason :: rest) (link : ∀ e ∈ rest, e.isOfLink = true)
  | tried (before : l.state.primary = none) (after : l'.state.primary = none)
      (link : ∀ e ∈ l'.events, e.isOfLink = true)

/-! ## Saying nothing -/

def Silent (l l' : Link (Recorded τ)) : Prop :=
  ∃ extra, l'.record = l.record ++ extra ∧ ∀ x ∈ extra, x.isSend = false

theorem Silent.of_record_eq (same : l'.record = l.record) : l.Silent l' :=
  ⟨[], by rw [same, List.append_nil], by simp⟩

theorem Silent.trans {l'' : Link (Recorded τ)} (first : l.Silent l') (second : l'.Silent l'') :
    l.Silent l'' := by
  obtain ⟨extra, noted, silent⟩ := first
  obtain ⟨extra', noted', silent'⟩ := second
  exact ⟨extra ++ extra', by rw [noted', noted, List.append_assoc], List.forall_mem_append.mpr ⟨silent, silent'⟩⟩

theorem Tried.silent (h : l.Tried r) : l.Silent r.2 := by
  obtain ⟨extra, noted, dials⟩ := h.record_eq
  refine ⟨extra, noted, fun x mem => ?_⟩
  rcases dials x mem with dial | ⟨s, rfl⟩
  · exact Signal.not_isSend_of_isDial dial
  · rfl

theorem silent_hear (ev : ChannelEvent) (l : Link (Recorded τ)) : l.Silent (l.hear ev) :=
  ⟨[.told ev], rfl, by simp [Signal.isSend]⟩

section

variable [Channel τ]

theorem silent_connect (peer : Identity) (l : Link (Recorded τ)) : l.Silent (l.connect peer).2 := by
  rw [connect, beginConnect]
  cases claimed : l.state.claim .guest with
  | error e => exact .of_record_eq rfl
  | ok st =>
      dsimp only
      rcases dial_cases peer st.retries.virtualPort { l with state := { st with peer := some peer } } with
        ⟨s, c, dialed, noted⟩ | ⟨e, c, dialed, noted⟩ <;>
      · rw [dialed]
        exact ⟨_, noted, by simp [Signal.isSend]⟩

theorem silent_handle (ev : ChannelEvent) (l : Link (Recorded τ)) : l.Silent (l.handle ev).2 := by
  have closes (s : SessionId) (detail : String) : l.Silent (l.closeSession s detail) :=
    ⟨[.asked (.close s detail)], rfl, by simp [Signal.isSend]⟩
  cases ev with
  | incoming s peer port =>
      rw [handle, onIncoming]
      split
      · exact ⟨[.asked (.accept s)], rfl, by simp [Signal.isSend]⟩
      · exact closes s _
  | connected s peer =>
      rw [handle, onConnected]
      split
      · exact closes s _
      · split
        · exact closes s _
        · exact .of_record_eq rfl
  | message s data =>
      rw [handle, onMessage]
      split <;> exact .of_record_eq rfl
  | closed s reason =>
      simp only [handle, onClosed]
      split
      · split
        · split
          · exact .of_record_eq (record_report ..)
          · refine Silent.trans ?_ (reconnectWith_tried ..).silent
            exact .of_record_eq (record_report ..)
        · exact .of_record_eq rfl
      · exact .of_record_eq (record_report ..)

theorem silent_samplePing (l : Link (Recorded τ)) : l.Silent l.samplePing.2 := by
  rw [samplePing]
  cases l.state.primary.or l.state.active.keys.head? with
  | none => exact .of_record_eq rfl
  | some s =>
      have noted : (Channel.quality s l.channel).2.record = l.record ++ [.asked (.quality s)] := rfl
      simp only [sampleSession]
      generalize Channel.quality s l.channel = r at noted
      obtain ⟨quality, c⟩ := r
      cases quality <;> exact ⟨_, noted, by simp [Signal.isSend]⟩

theorem silent_disconnect (l : Link (Recorded τ)) : l.Silent l.disconnect := by
  refine ⟨_, by rw [record_disconnect, List.append_assoc], ?_⟩
  rw [List.forall_mem_append, List.forall_mem_map]
  refine ⟨fun _ _ => rfl, ?_⟩
  split <;> simp [Signal.isSend]

end

/-! ## What keeps the session -/

theorem Carried.keep (h : l.Carried) {extra : List Signal}
    (state : ∃ phase quality retries, l'.state = { l.state with phase, quality, retries })
    (noted : l'.record = l.record ++ extra)
    (quiet : ∀ s, .gave s ∉ extra ∧ .asked (.accept s) ∉ extra) : l'.Carried := by
  obtain ⟨phase, quality, retries, state⟩ := state
  refine ⟨?_, ?_, ?_, ?_, ?_, ?_, ?_⟩
  · rw [state]
    exact h.role
  · rw [state]
    exact h.running
  · rw [state]
    exact h.active_keys
  · rw [state]
    exact h.apart
  · rw [state, noted]
    exact h.only.append (fun s => (quiet s).1)
  · rw [state, noted]
    exact fun s primary => (h.connected s primary).append _
  · intro s mem
    rw [noted, List.mem_append] at mem
    exact mem.elim (h.accepts s) (quiet s).2

theorem Carried.idles (h : l.Carried) (same : l.Idles l') : l'.Carried := by
  obtain ⟨quality, c, extra, rfl, noted, idle⟩ := same
  refine h.keep ⟨l.state.phase, quality, l.state.retries, rfl⟩ noted (fun s => ⟨?_, ?_⟩) <;>
  · intro mem
    cases idle _ mem

theorem Carried.not_host (h : l.Carried) : l.state.isHost = false := by
  simp [LinkState.isHost, h.role]

theorem Carried.contains_iff (h : l.Carried) (s : SessionId) :
    l.state.active.contains s = true ↔ l.state.primary = some s := by
  rw [Table.contains_iff_mem_keys, h.active_keys, Option.mem_toList]

/-! ## Dials -/

theorem Tried.events_eq (h : l.Tried r) :
    ∃ rest, r.2.events = l.events ++ rest ∧ ∀ e ∈ rest, e.isOfLink = true := by
  have retries {reports : List LinkEvent} (tries : ∀ e ∈ reports, e.isRetry = true) :
      ∀ e ∈ reports, e.isOfLink = true := by
    intro e mem
    have retry := tries e mem
    cases e <;> first | rfl | cases retry
  cases h with
  | given s c h | stopped handling phase h =>
      obtain ⟨-, -, reports, -, rfl, -, tries, -⟩ := h
      exact ⟨reports, rfl, retries tries⟩
  | gaveUp reason h =>
      obtain ⟨-, -, reports, -, rfl, -, tries, -⟩ := h
      refine ⟨reports ++ [.disconnected reason], by simp [emit, update], ?_⟩
      exact List.forall_mem_append.mpr ⟨retries tries, by simp [LinkEvent.isOfLink]⟩

theorem Carried.tried (h : l.Carried) (free : l.state.held = none) (tried : l.Tried r) :
    r.2.Carried ∧ r.2.state.primary = none := by
  obtain ⟨only, -⟩ := tried.only_holds free (free ▸ h.only)
  obtain ⟨phase, retries, pending, state⟩ := tried.state_eq
  obtain ⟨extra, noted, dials⟩ := tried.record_eq
  have none : r.2.state.primary = none := by
    rw [state]
    exact (Option.or_eq_none_iff.mp free).2
  refine ⟨⟨?_, ?_, ?_, .inr none, only, ?_, ?_⟩, none⟩
  · rw [state]
    exact h.role
  · rw [state]
    exact h.running
  · rw [state]
    exact h.active_keys
  · intro s primary
    rw [none] at primary
    cases primary
  · intro s mem
    rw [noted, List.mem_append] at mem
    refine mem.elim (h.accepts s) (fun asked => ?_)
    rcases dials _ asked with dial | ⟨s', given⟩
    · cases dial
    · cases given

/-! ## The session begins and ends -/

theorem Carried.current_cases (h : l.Carried) {s : SessionId} (current : l.state.isCurrent s = true) :
    l.state.held = some s ∧ (l.state.primary = some s ∨ l.state.primary = none) ∨
      l.state.held = none ∧ l.state.primary = none := by
  simp only [LinkState.isCurrent, Bool.or_eq_true, Bool.and_eq_true, decide_eq_true_iff,
    Option.isNone_iff_eq_none] at current
  rcases current with (primary | pending) | ⟨none, none'⟩
  · have vacant := h.apart.resolve_right (by simp [primary])
    exact .inl ⟨by rw [LinkState.held, vacant, primary]; rfl, .inl primary⟩
  · have vacant := h.apart.resolve_left (by simp [pending])
    exact .inl ⟨by rw [LinkState.held, pending]; rfl, .inr vacant⟩
  · exact .inr ⟨by rw [LinkState.held, none, none']; rfl, none'⟩

theorem Carried.release (h : l.Carried) {s : SessionId} (current : l.state.isCurrent s = true)
    (reason : CloseReason) (own : Bool) :
    ((l.hear (.closed s reason)).release s reason own).Carried ∧
      ((l.hear (.closed s reason)).release s reason own).state.held = none := by
  have only : OnlyHolds none (l.record ++ [.told (.closed s reason)]) := by
    rcases h.current_cases current with ⟨held, -⟩ | ⟨none, -⟩
    · exact OnlyHolds.closed (held ▸ h.only) reason
    · exact OnlyHolds.append (none ▸ h.only) (by simp)
  have erased : (l.state.active.erase s).keys = [] := by
    rw [Table.keys_erase, h.active_keys]
    rcases h.current_cases current with ⟨-, primary | none⟩ | ⟨-, none⟩
    · simp [primary]
    · simp [none]
    · simp [none]
  have state := state_release s reason own (l.hear (.closed s reason))
  have noted : ((l.hear (.closed s reason)).release s reason own).record =
      l.record ++ [.told (.closed s reason)] := record_report ..
  have free : ((l.hear (.closed s reason)).release s reason own).state.held = none := by
    rw [state]
    rfl
  refine ⟨⟨?_, ?_, ?_, ?_, ?_, ?_, ?_⟩, free⟩
  · rw [state]
    exact h.role
  · rw [state]
    exact h.running
  · rw [state]
    exact erased
  · rw [state]
    exact .inl rfl
  · rw [free, noted]
    exact only
  · rw [state]
    intro s' primary
    cases primary
  · rw [noted]
    simpa using h.accepts

theorem Carried.turn_of_release (h : l.Carried) (idle : l.events = []) {s : SessionId}
    (current : l.state.isCurrent s = true) {reason : CloseReason} {own : Bool} {rest : List LinkEvent}
    (none : l'.state.primary = none)
    (events : l'.events = ((l.hear (.closed s reason)).release s reason own).events ++ rest)
    (link : ∀ e ∈ rest, e.isOfLink = true) : l.Turn l' := by
  have reported : l'.events = (if l.state.active.contains s then [.closed s reason] else []) ++ rest := by
    rw [events, events_release]
    simp [Link.hear, idle]
  cases was : l.state.active.contains s with
  | true =>
      rw [was, if_pos rfl] at reported
      exact .ended s reason rest ((h.contains_iff s).mp was) none reported link
  | false =>
      rw [was, if_neg Bool.false_ne_true, List.nil_append] at reported
      have other : l.state.primary ≠ some s := by
        intro primary
        rw [(h.contains_iff s).mpr primary] at was
        cases was
      refine .tried ?_ none (reported ▸ link)
      rcases h.current_cases current with ⟨-, primary | before⟩ | ⟨-, before⟩
      · exact absurd primary other
      · exact before
      · exact before

theorem Carried.pending_of_connected (h : l.Carried) {s : SessionId} {peer : Identity}
    (allowed : Allowed l.record (.told (.connected s peer))) :
    l.state.pending = some s ∧ l.state.primary = none := by
  obtain ⟨begun, new, going⟩ := allowed
  have held := (h.only s (begun.resolve_right (h.accepts s))).resolve_left going
  rw [LinkState.held, Option.or_eq_some_iff] at held
  rcases held with pending | ⟨-, primary⟩
  · exact ⟨pending, h.apart.resolve_left (by simp [pending])⟩
  · exact absurd (h.connected s primary) new

theorem Carried.opened (h : l.Carried) {s : SessionId} {peer : Identity}
    (allowed : Allowed l.record (.told (.connected s peer))) :
    (((l.hear (.connected s peer)).update (·.opened s peer)).emit (.opened s peer)).Carried := by
  obtain ⟨pending, none⟩ := h.pending_of_connected allowed
  have guest : l.state.isGuest = true := by simp [LinkState.isGuest, h.role]
  have state := @state_opened_of_guest τ l s peer guest
  have held : l.state.held = some s := by
    rw [LinkState.held, pending]
    rfl
  have only : OnlyHolds (some s) (l.record ++ [.told (.connected s peer)]) :=
    OnlyHolds.append (held ▸ h.only) (by simp)
  have empty : l.state.active.keys = [] := by rw [h.active_keys, none, Option.toList_none]
  refine ⟨?_, ?_, ?_, ?_, ?_, ?_, ?_⟩
  · rw [state]
    exact h.role
  · rw [state]
    exact h.running
  · rw [state]
    exact Table.keys_insert_of_empty empty s peer
  · rw [state]
    exact .inl rfl
  · rw [state]
    exact only
  · rw [state]
    intro s' primary
    obtain rfl := Option.some.inj primary
    exact ⟨peer, by simp⟩
  · simpa using h.accepts

theorem Carried.overlook (h : l.Carried) {s : SessionId} (other : l.state.isCurrent s = false)
    (reason : CloseReason) :
    ((l.hear (.closed s reason)).update
      (fun st => { st with active := st.active.erase s })).Carried := by
  have apart : l.state.primary ≠ some s := by
    intro primary
    simp [LinkState.isCurrent, primary] at other
  refine ⟨h.role, h.running, ?_, h.apart, ?_, ?_, ?_⟩
  · change (l.state.active.erase s).keys = l.state.primary.toList
    rw [Table.keys_erase, h.active_keys]
    cases primary : l.state.primary with
    | none => rfl
    | some s' =>
        have differs : s' ≠ s := fun same => apart (same ▸ primary)
        simp [differs]
  · exact h.only.append (by simp)
  · exact fun s' primary => (h.connected s' primary).append _
  · simpa using h.accepts

variable [Channel τ]

theorem Carried.hear (h : l.Carried) (idle : l.events = []) (ev : ChannelEvent)
    (lawful : Lawful ((l.hear ev).handle ev).2.record) :
    ((l.hear ev).handle ev).2.Carried ∧ l.Turn ((l.hear ev).handle ev).2 := by
  have allowed := allowed_perform lawful
  have effect := effect_event ev l
  generalize (l.hear ev).handle ev = r at effect lawful
  cases effect with
  | idle same =>
      refine ⟨h.idles same, ?_⟩
      obtain ⟨quality, c, extra, rfl, -⟩ := same
      exact .quiet rfl idle
  | @message s data there =>
      refine ⟨h.keep ⟨_, _, _, rfl⟩ rfl (by simp), .message s data rfl ?_⟩
      simp [emit, Link.hear, idle]
  | accept c hosts noted =>
      rw [h.not_host] at hosts
      cases hosts
  | refuse detail why =>
      exact ⟨h.keep ⟨_, _, _, rfl⟩ (List.append_assoc ..) (by simp), .quiet rfl idle⟩
  | @opened s peer running fresh =>
      have guest : l.state.isGuest = true := by simp [LinkState.isGuest, h.role]
      have state := @state_opened_of_guest τ l s peer guest
      refine ⟨h.opened allowed, .opened s peer (h.pending_of_connected allowed).2 ?_ ?_⟩
      · rw [state]
      · simp [emit, update, Link.hear, idle]
  | overlook guest other => exact ⟨h.overlook other _, .quiet rfl idle⟩
  | @stop s reason guest current own =>
      obtain ⟨released, free⟩ := h.release current reason true
      have none := (Option.or_eq_none_iff.mp free).2
      exact ⟨released, h.turn_of_release idle current none (List.append_nil _).symm (by simp)⟩
  | @lose s reason r guest current other running tried =>
      obtain ⟨released, free⟩ := h.release current reason false
      obtain ⟨carried, none⟩ := released.tried free tried
      obtain ⟨rest, events, link⟩ := tried.events_eq
      exact ⟨carried, h.turn_of_release idle current none events link⟩
  | settle host => simp [LinkState.isGuest, h.role] at host

/-! ## Before the session -/

theorem carried_connect {settings : LinkSettings} (fresh : l.state = .start settings)
    (unasked : ∀ s, .gave s ∉ l.record ∧ .asked (.accept s) ∉ l.record) {peer : Identity} {s : SessionId}
    (given : (l.connect peer).1 = .ok s) :
    (l.connect peer).2.Carried ∧ (l.connect peer).2.state.pending = some s ∧
      (l.connect peer).2.events = l.events ∧
      ∃ port timeout, (l.connect peer).2.record = l.record ++ [.asked (.connect peer port timeout), .gave s] := by
  have claimed : l.state.claim .guest =
      .ok { l.state with role := some .guest, phase := .connecting } := by
    rw [fresh]
    rfl
  rw [connect, beginConnect, claimed] at given ⊢
  dsimp only at given ⊢
  rcases dial_cases peer l.state.retries.virtualPort { l with
      state := { l.state with role := some .guest, phase := .connecting, peer := some peer } } with
    ⟨s', c, dialed, noted⟩ | ⟨e, c, dialed, -⟩
  · rw [dialed] at given ⊢
    obtain rfl := Except.ok.inj given
    replace noted : c.record = l.record ++ [.asked _, .gave s'] := noted
    refine ⟨⟨rfl, ?_, ?_, .inr ?_, ?_, ?_, ?_⟩, rfl, rfl, _, _, noted⟩
    · change l.state.isShutDown = false
      rw [fresh]
      rfl
    · change l.state.active.keys = l.state.primary.toList
      rw [fresh]
      rfl
    · change l.state.primary = none
      rw [fresh]
      rfl
    · change OnlyHolds (some s') c.record
      rw [noted, List.append_cons]
      apply OnlyHolds.gave
      intro s given
      exact absurd (by simpa using given) (unasked s).1
    · change ∀ s, l.state.primary = some s → _
      rw [fresh]
      intro s primary
      cases primary
    · change ∀ s, .asked (.accept s) ∉ c.record
      rw [noted]
      simpa using fun s => (unasked s).2
  · rw [dialed] at given
    cases given

theorem Carried.handle_early_cases (h : l.Carried) {p : SessionId} (pending : l.state.pending = some p)
    {ev : ChannelEvent} (early : ev.Early p) :
    (l.handle ev).2 = l ∨ ∃ s peer port detail, ev = .incoming s peer port ∧
      (l.handle ev).2 = l.closeSession s detail := by
  have none : l.state.primary = none := h.apart.resolve_left (by simp [pending])
  cases early with
  | incoming s peer port =>
      have refuses : l.onIncoming s = l.closeSession s "not hosting" := if_neg (by simp [h.not_host])
      exact .inr ⟨s, peer, port, "not hosting", rfl, refuses⟩
  | @closed s other reason =>
      left
      have apart : l.state.isCurrent s = false := by
        simp [LinkState.isCurrent, none, pending, Ne.symm other]
      have empty : l.state.active.toList = [] := by
        apply List.map_eq_nil_iff.mp
        exact h.active_keys.trans (by rw [none, Option.toList_none])
      have unmoved : l.update (fun st => { st with active := st.active.erase s }) = l := by
        rw [update, Table.erase, empty, List.filter_nil, ← empty]
      have overlooks : l.onClosed s reason = (.done, l) := by
        simp only [onClosed, unmoved]
        rw [if_pos (by simp [LinkState.isGuest, h.role]), if_neg (by simp [apart])]
      rw [handle, overlooks]

theorem Carried.handle_early (h : l.Carried) {p : SessionId} (pending : l.state.pending = some p)
    {ev : ChannelEvent} (early : ev.Early p) :
    (l.handle ev).2.Carried ∧ (l.handle ev).2.state.pending = some p ∧ (l.handle ev).2.events = l.events := by
  rcases h.handle_early_cases pending early with same | ⟨s, peer, port, detail, -, refuses⟩
  · rw [same]
    exact ⟨h, pending, rfl⟩
  · rw [refuses]
    exact ⟨h.keep ⟨_, _, _, rfl⟩ (record_closeSession ..) (by simp), pending, rfl⟩

end Link

def ChannelEvent.isOuter : ChannelEvent → Bool
  | .incoming .. | .closed .. => true
  | .connected .. | .message .. => false

theorem isOuter_of_lawful {events : List ChannelEvent} (lawful : Lawful (events.map .told))
    {ev : ChannelEvent} (mem : ev ∈ events) : ev.isOuter = true := by
  have unbegun (s : SessionId) : ¬ HasConnected s (events.map .told) := by
    intro connected
    rcases lawful.begun connected with given | accepted
    · simp at given
    · simp at accepted
  have told : .told ev ∈ events.map Signal.told := List.mem_map_of_mem mem
  cases ev with
  | incoming s peer port => rfl
  | closed s reason => rfl
  | connected s peer => exact absurd ⟨peer, told⟩ (unbegun s)
  | message s data =>
      obtain ⟨before, after, cut⟩ := List.append_of_mem told
      obtain ⟨⟨peer, connected⟩, -⟩ := lawful before _ after cut
      exact absurd ⟨peer, by simp [cut, connected]⟩ (unbegun s)

theorem early_of_lawful {events : List ChannelEvent} {call : ChannelCall} {p : SessionId}
    (lawful : Lawful (events.map .told ++ [.asked call, .gave p])) {ev : ChannelEvent} (mem : ev ∈ events) :
    ev.Early p := by
  have new : ev.session ≠ p := by
    have allowed : Allowed (events.map .told ++ [.asked call]) (.gave p) := lawful _ _ [] (by simp)
    exact allowed.2 ev (by simpa using mem)
  have outer := isOuter_of_lawful (lawful.of_prefix (List.prefix_append ..)) mem
  cases ev with
  | incoming s peer port => exact .incoming s peer port
  | closed s reason => exact .closed new reason
  | connected | message => cases outer

end StreamTunnel
