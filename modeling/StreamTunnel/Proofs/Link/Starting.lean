import StreamTunnel.Proofs.Link.Busy

namespace StreamTunnel

inductive Start where
  | host
  | connect (peer : Identity)
deriving DecidableEq

namespace LinkState

theorem claim_error {role : Role} {st : LinkState} {e : LinkError} (h : st.claim role = .error e) :
    (st.isShutDown = true ∧ e = .shutDown) ∨
      ∃ current, st.role = some current ∧ current ≠ role ∧ e = .roleConflict current := by
  rw [claim] at h
  split at h
  · next shut => exact .inl ⟨shut, (Except.error.inj h).symm⟩
  · split at h
    · cases h
    · next current taken =>
      split at h
      · cases h
      · next other => exact .inr ⟨current, taken, other, (Except.error.inj h).symm⟩

def Admits (role : Role) (st : LinkState) : Prop :=
  st.isShutDown = false ∧ (st.role = none ∨ st.role = some role)

theorem claim_of_admits {role : Role} {st : LinkState} (admits : st.Admits role) :
    st.claim role = .ok { st with role := some role, phase := .connecting } := by
  obtain ⟨running, free | taken⟩ := admits
  · simp [claim, running, free]
  · simp [claim, running, taken]

theorem claim_of_other {role current : Role} {st : LinkState} (taken : st.role = some current)
    (other : current ≠ role) :
    st.claim role = .error .shutDown ∨ st.claim role = .error (.roleConflict current) := by
  rw [claim]
  split
  · exact .inl rfl
  · right
    simp [taken, other]

end LinkState

namespace Start

def role : Start → Role
  | .host => .host
  | .connect _ => .guest

def act : Start → BusyLink.Act
  | .host => .host
  | .connect peer => .connect peer

def taken (st : LinkState) : Start → LinkState
  | .host => { st with role := some .host, phase := .connecting }
  | .connect peer => { st with role := some .guest, phase := .connecting, peer := some peer }

def call (st : LinkState) : Start → ChannelCall
  | .host => .listen
  | .connect peer => .connect peer st.retries.virtualPort st.settings.connectTimeout

variable {τ : Type} {c : Start} {l : Link (Recorded τ)}

theorem beginConnect_of_admits (peer : Identity) (admits : l.state.Admits .guest) :
    l.beginConnect peer = (.ok (), { l with state := taken l.state (.connect peer) }) := by
  rw [Link.beginConnect, LinkState.claim_of_admits admits]
  rfl

variable [Channel τ]

def result (l : Link (Recorded τ)) : Start → Except LinkError Unit
  | .host => l.host.1
  | .connect peer => (l.connect peer).1.map (fun _ => ())

theorem refused {e : LinkError} (claimed : l.state.claim c.role = .error e) :
    c.result l = .error e ∧ l.perform c.act = (.done, l) := by
  cases c with
  | host =>
      have host : l.host = (.error e, l) := by rw [Link.host, show l.state.claim .host = _ from claimed]
      exact ⟨by rw [result, host], by rw [act, Link.perform, host]⟩
  | connect peer =>
      have connect : l.connect peer = (.error e, l) := by
        rw [Link.connect, Link.beginConnect, show l.state.claim .guest = _ from claimed]
      exact ⟨by rw [result, connect]; rfl, by rw [act, Link.perform, connect]⟩

theorem cases_of_admits (admits : l.state.Admits c.role) :
    (∃ cause channel, c.result l = .error (.channel cause) ∧
        channel.record = l.record ++ [.asked (c.call l.state)] ∧
        l.perform c.act = (.done, { l with state := c.taken l.state, channel })) ∨
      ∃ listening pending channel, c.result l = .ok () ∧
        l.perform c.act = (.done, { l with
          state := { c.taken l.state with listening, pending }, channel }) := by
  cases c with
  | host =>
      have claimed : l.state.claim .host = _ := LinkState.claim_of_admits admits
      obtain ⟨⟨r, channel⟩, answer⟩ : ∃ p, Channel.listen l.channel = p := ⟨_, rfl⟩
      have noted : channel.record = l.record ++ [.asked .listen] := by
        rw [← (Prod.mk.inj answer).2]
        rfl
      rw [result, act, Link.perform, Link.host, claimed, answer]
      cases r with
      | error cause => exact .inl ⟨cause, channel, rfl, noted, rfl⟩
      | ok => exact .inr ⟨true, l.state.pending, channel, rfl, rfl⟩
  | connect peer =>
      have began := beginConnect_of_admits peer admits
      rw [result, act, Link.perform, Link.connect, began]
      rcases Link.dial_cases peer l.state.retries.virtualPort
          { l with state := taken l.state (.connect peer) } with
        ⟨s, channel, dialed, -⟩ | ⟨cause, channel, dialed, noted⟩
      · right
        replace dialed : Link.dial peer (taken l.state (.connect peer)).retries.virtualPort _ = _ := dialed
        simp only [dialed]
        exact ⟨l.state.listening, some s, channel, rfl, rfl⟩
      · left
        replace dialed : Link.dial peer (taken l.state (.connect peer)).retries.virtualPort _ = _ := dialed
        simp only [dialed]
        exact ⟨cause, channel, rfl, noted, rfl⟩

theorem error_of_admits (admits : l.state.Admits c.role) {e : LinkError} (failed : c.result l = .error e) :
    ∃ cause channel, e = .channel cause ∧ channel.record = l.record ++ [.asked (c.call l.state)] ∧
      l.perform c.act = (.done, { l with state := c.taken l.state, channel }) := by
  rcases cases_of_admits admits with ⟨cause, channel, wrong, noted, done⟩ | ⟨_, _, _, fine, -⟩
  · exact ⟨cause, channel, Except.error.inj (failed.symm.trans wrong), noted, done⟩
  · cases failed.symm.trans fine

theorem state_of_admits (admits : l.state.Admits c.role) : ∃ listening pending peer,
    (l.perform c.act).2.state =
      { l.state with role := some c.role, phase := .connecting, listening, pending, peer } := by
  rcases cases_of_admits admits with ⟨_, _, -, -, done⟩ | ⟨_, _, _, -, done⟩ <;>
  · rw [done]
    cases c <;> exact ⟨_, _, _, rfl⟩

theorem taken_eq_iff (st : LinkState) : c.taken st = st ↔
    st.role = some c.role ∧ st.phase = .connecting ∧ ∀ peer, c = .connect peer → st.peer = some peer := by
  constructor
  · intro same
    rw [← same]
    cases c <;> simp [taken, role]
  · rintro ⟨role, phase, peer⟩
    cases c with
    | host => simp [taken, ← phase, show some Role.host = st.role from role.symm]
    | connect p => simp [taken, ← phase, ← peer p rfl, show some Role.guest = st.role from role.symm]

end Start

namespace BusyLink

variable {τ : Type} [Channel τ] {x : BusyLink τ}

theorem role_step {role : Role} (taken : x.link.state.role = some role) (a : Act) :
    (x.step a).link.state.role = some role := by
  rcases step_cases x a with ⟨-, same⟩ | ⟨-, r, effect, stepped⟩
  · rwa [same]
  · rw [stepped]
    exact effect.keeps.1 role taken

theorem role_run {role : Role} (taken : x.link.state.role = some role) (acts : List Act) :
    (x.run acts).link.state.role = some role :=
  run_induction (P := fun x => x.link.state.role = some role) taken (fun _ a h => role_step h a) acts

theorem step_start (c : Start) {l : Link (Recorded τ)} (done : x.link.perform c.act = (.done, l)) :
    x.step c.act = ⟨l, x.waiting⟩ := by
  have due : c.act.isDue x.waiting = true := by cases c <;> rfl
  have leaves : c.act.leaves x.waiting = x.waiting := by cases c <;> rfl
  rw [step, if_pos due, done, leaves]
  simp [Handling.waiter?]

/-- A start that fails has changed nothing if it was refused. If the channel failed then the role,
the phase and the peer of the start stay, and all else is as before; so nothing has changed only if
these were there before, and a link that had no role can never again be started in the other. -/
theorem failed_start (settings : LinkSettings) (channel : τ) (acts : List Act) (c : Start)
    (e : LinkError) :
    let x := (start settings channel).run acts
    let y := x.step c.act
    c.result x.link = .error e →
      ((e = .shutDown ∨ ∃ current, current ≠ c.role ∧ e = .roleConflict current) ∧ y = x ∨
        ∃ cause, e = .channel cause ∧ y.link.state = c.taken x.link.state ∧
          y.link.events = x.link.events ∧ y.waiting = x.waiting ∧
          y.link.record = x.link.record ++ [.asked (c.call x.link.state)]) ∧
      (y.link.state = x.link.state ↔ (∀ cause, e ≠ .channel cause) ∨
        x.link.state.role = some c.role ∧ x.link.state.phase = .connecting ∧
          ∀ peer, c = .connect peer → x.link.state.peer = some peer) ∧
      (x.link.state.role = none → (∃ cause, e = .channel cause) → ∀ other : Start, other.role ≠ c.role →
        x.link.state.Admits other.role ∧
        ∀ later, other.result (y.run later).link = .error .shutDown ∨
          other.result (y.run later).link = .error (.roleConflict c.role)) := by
  intro x y failed
  cases claimed : x.link.state.claim c.role with
  | error e' =>
      obtain ⟨refused, same⟩ := Start.refused claimed
      obtain rfl : e' = e := Except.error.inj (refused.symm.trans failed)
      have unchanged : y = x := step_start c same
      have why := LinkState.claim_error claimed
      have foreign : ∀ cause, e' ≠ .channel cause := by
        rcases why with ⟨-, rfl⟩ | ⟨current, -, -, rfl⟩ <;> simp
      refine ⟨.inl ⟨?_, unchanged⟩, ⟨fun _ => .inl foreign, fun _ => by rw [unchanged]⟩, ?_⟩
      · rcases why with ⟨-, shut⟩ | ⟨current, -, other, conflict⟩
        · exact .inl shut
        · exact .inr ⟨current, other, conflict⟩
      · rintro - ⟨cause, channel⟩
        exact absurd channel (foreign cause)
  | ok st =>
      obtain ⟨running, free, -⟩ := Link.claim_ok claimed
      obtain ⟨cause, channel, rfl, noted, done⟩ := Start.error_of_admits ⟨running, free⟩ failed
      have stepped : y = _ := step_start c done
      have state : y.link.state = c.taken x.link.state := by rw [stepped]
      refine ⟨.inr ⟨cause, rfl, state, by rw [stepped], by rw [stepped], by rw [stepped]; exact noted⟩,
        ?_, ?_⟩
      · rw [state, Start.taken_eq_iff]
        exact ⟨.inr, fun same => same.resolve_left (fun never => never cause rfl)⟩
      · intro free _ other distinct
        refine ⟨⟨running, .inl free⟩, fun later => ?_⟩
        have bound : y.link.state.role = some c.role := by
          rw [state]
          cases c <;> rfl
        rcases LinkState.claim_of_other (role_run bound later) distinct.symm with shut | conflict
        · exact .inl (Start.refused shut).1
        · exact .inr (Start.refused conflict).1

theorem failed_start_without_listener :
    let channel : Script := { listens := [some .timeout] }
    Start.host.result (start {} channel).link = .error (.channel .timeout) ∧
      ((start {} channel).step .host).link.state.phase = .connecting := by
  intro channel
  have failed : Start.host.result (start {} channel).link = .error (.channel .timeout) := rfl
  refine ⟨failed, ?_⟩
  rcases (failed_start {} channel [] .host _ failed).1 with ⟨refused, -⟩ | ⟨cause, -, state, -⟩
  · rcases refused with shut | ⟨current, -, conflict⟩
    · cases shut
    · cases conflict
  · exact congrArg (·.phase) state

theorem role_stays_taken :
    let channel : Script := { listens := [some .timeout] }
    let x := start {} channel
    let y := x.step .host
    x.link.state.role = none ∧ Start.host.result x.link = .error (.channel .timeout) ∧
      y.link.state.role = some .host ∧ y.link.state.phase = .connecting ∧
      y.link.state.listening = false ∧ (Start.connect "host").result x.link = .ok () ∧
      (Start.connect "host").result y.link = .error (.roleConflict .host) :=
  ⟨rfl, rfl, rfl, rfl, rfl, rfl, rfl⟩

end BusyLink
end StreamTunnel
