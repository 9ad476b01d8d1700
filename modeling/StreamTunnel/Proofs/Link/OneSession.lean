import Mathlib.Data.List.Induction
import StreamTunnel.Proofs.Link.ShutDown
import StreamTunnel.Proofs.Link.Tracked

namespace StreamTunnel

def EndsGiven (before : List Signal) : Signal → Prop
  | .told (.closed s _) => .gave s ∈ before
  | _ => True

instance (before : List Signal) : (x : Signal) → Decidable (EndsGiven before x)
  | .told (.closed s _) => inferInstanceAs (Decidable (.gave s ∈ before))
  | .told (.incoming ..) | .told (.connected ..) | .told (.message ..) | .asked _ | .gave _ =>
      inferInstanceAs (Decidable True)

structure Faithful (record : List Signal) : Prop where
  lawful : Lawful record
  given : ∀ before x after, record = before ++ x :: after → EndsGiven before x

instance (record : List Signal) : Decidable (Faithful record) :=
  decidable_of_iff (Lawful record ∧ ∀ i, ∀ h : i < record.length, EndsGiven (record.take i) record[i])
    ⟨fun h => ⟨h.1, forall_cut_iff.mpr h.2⟩, fun h => ⟨h.lawful, forall_cut_iff.mp h.given⟩⟩

variable {record extra : List Signal} {s : SessionId}

theorem Faithful.of_prefix {later : List Signal} (h : Faithful later) (earlier : record <+: later) :
    Faithful record := by
  refine ⟨h.lawful.of_prefix earlier, ?_⟩
  obtain ⟨more, rfl⟩ := earlier
  intro before x after cut
  exact h.given before x (after ++ more) (by simp [cut])

theorem Faithful.closed {later : List Signal} {reason : CloseReason} (h : Faithful later)
    (earlier : record ++ [.told (.closed s reason)] <+: later) :
    .gave s ∈ record ∧ ¬ HasClosed s record :=
  ⟨(h.of_prefix earlier).given record _ [] rfl, h.lawful.allowed earlier⟩

theorem Faithful.append_closed (h : Faithful record) (given : .gave s ∈ record) (going : ¬ HasClosed s record)
    (reason : CloseReason) : Faithful (record ++ [.told (.closed s reason)]) := by
  refine ⟨h.lawful.append going, ?_⟩
  intro before x after cut
  rcases cut_append_singleton cut with ⟨rfl, rfl⟩ | ⟨after', cut⟩
  · exact given
  · exact h.given before x after' cut

theorem Lawful.begun (lawful : Lawful record) (connected : HasConnected s record) :
    .gave s ∈ record ∨ .asked (.accept s) ∈ record := by
  obtain ⟨peer, mem⟩ := connected
  obtain ⟨before, after, rfl⟩ := List.append_of_mem mem
  have begun := (lawful before _ after rfl).1
  exact begun.imp (List.mem_append_left _) (List.mem_append_left _)

theorem LinkState.not_host_of_guest {st : LinkState} (guest : st.isGuest = true) :
    ¬ st.isHost = true := by
  intro host
  simp only [isHost, isGuest, decide_eq_true_iff] at host guest
  simp [host] at guest

def LinkState.held (st : LinkState) : Option SessionId :=
  st.pending.or st.primary

theorem LinkState.isCurrent_of_held {st : LinkState} {s : SessionId} (held : st.held = some s) :
    st.isCurrent s = true := by
  rw [LinkState.held, Option.or_eq_some_iff] at held
  rcases held with pending | ⟨-, primary⟩
  · simp [isCurrent, pending]
  · simp [isCurrent, primary]

def OnlyHolds (held : Option SessionId) (record : List Signal) : Prop :=
  ∀ s, .gave s ∈ record → HasClosed s record ∨ held = some s

theorem OnlyHolds.append {held : Option SessionId} (h : OnlyHolds held record)
    (quiet : ∀ s, .gave s ∉ extra) : OnlyHolds held (record ++ extra) := by
  intro s given
  have old := (List.mem_append.mp given).resolve_right (quiet s)
  exact (h s old).imp_left (·.append extra)

theorem OnlyHolds.gave (h : OnlyHolds none record) (s : SessionId) :
    OnlyHolds (some s) (record ++ [.gave s]) := by
  intro s' given
  rcases List.mem_append.mp given with old | new
  · exact .inl (((h s' old).resolve_right (by simp)).append _)
  · right
    simpa [eq_comm] using new

theorem OnlyHolds.closed (h : OnlyHolds (some s) record) (reason : CloseReason) :
    OnlyHolds none (record ++ [.told (.closed s reason)]) := by
  intro s' given
  left
  rcases h s' (by simpa using given) with closed | same
  · exact closed.append _
  · cases same
    exact ⟨reason, by simp⟩

namespace Link

variable {τ : Type} {l l' : Link (Recorded τ)} {r : Handling × Link (Recorded τ)}

theorem Retrying.only_holds {held : Option SessionId} (h : l.Retrying l')
    (only : OnlyHolds held l.record) :
    OnlyHolds held l'.record ∧ l'.state.held = l.state.held := by
  obtain ⟨retries, c, reports, calls, rfl, noted, -, dials⟩ := h
  refine ⟨?_, rfl⟩
  rw [record, noted]
  apply only.append
  intro s given
  cases dials _ given

theorem Tried.only_holds (h : l.Tried r) (free : l.state.held = none)
    (only : OnlyHolds none l.record) :
    OnlyHolds r.2.state.held r.2.record ∧ (r.2.state.held = none ∨ r.1 = .done) := by
  cases h with
  | given s c h noted =>
      obtain ⟨only, -⟩ := h.only_holds only
      refine ⟨?_, .inr rfl⟩
      change OnlyHolds (some s) c.record
      rw [noted]
      exact only.gave s
  | @gaveUp l' reason h =>
      obtain ⟨only, held⟩ := h.only_holds only
      have none := held.trans free
      have holds : OnlyHolds l'.state.held l'.record := by rwa [none]
      exact ⟨holds, .inl none⟩
  | @stopped l' handling phase h =>
      obtain ⟨only, held⟩ := h.only_holds only
      have none := held.trans free
      have holds : OnlyHolds l'.state.held l'.record := by rwa [none]
      exact ⟨holds, .inl none⟩

theorem release_only_holds (only : OnlyHolds (some s) l.record) (reason : CloseReason) (own : Bool) :
    ((l.hear (.closed s reason)).release s reason own).state.held = none ∧
      OnlyHolds none ((l.hear (.closed s reason)).release s reason own).record := by
  refine ⟨by rw [state_release]; rfl, ?_⟩
  rw [release, record_report]
  exact only.closed reason

end Link

namespace BusyLink

variable {τ : Type} {x : BusyLink τ} {a : Act}

def Act.told : Act → List Signal
  | .event e => [.told e]
  | _ => []

/-- All sessions that were given are over, but for one that is waited for or carries the link; and
there is none if a handler waits, of which there is one at most. -/
structure Lone (x : BusyLink τ) : Prop where
  given : OnlyHolds x.link.state.held x.link.record
  alone : x.waiting.length ≤ 1
  apart : x.waiting ≠ [] → x.link.state.held = none

theorem Lone.keep (h : x.Lone) {l : Link (Recorded τ)} (held : l.state.held = x.link.state.held)
    (noted : l.record = x.link.record ++ extra) (quiet : ∀ s, .gave s ∉ extra) :
    Lone ⟨l, a.leaves x.waiting ++ Handling.done.waiter?.toList⟩ := by
  refine ⟨?_, ?_, fun waits => ?_⟩
  · rw [held, noted]
    exact h.given.append quiet
  · have length := Nat.le_trans (a.leaves_sublist x.waiting).length_le h.alone
    simpa [Handling.waiter?] using length
  · refine held.trans (h.apart ?_)
    intro none
    simp [Handling.waiter?, none] at waits

theorem Lone.held_of_given (h : x.Lone)
    (going : .gave s ∈ x.link.record ∧ ¬ HasClosed s x.link.record) : x.link.state.held = some s :=
  (h.given s going.1).resolve_left going.2

theorem Lone.held_of_connected {peer : Identity} (h : x.Lone) (roles : x.link.Roles)
    (guest : x.link.state.isGuest = true)
    (allowed : Allowed x.link.record (.told (.connected s peer))) : x.link.state.held = some s := by
  obtain ⟨begun, -, going⟩ := allowed
  have accepts : .asked (.accept s) ∉ x.link.record :=
    fun accepted => LinkState.not_host_of_guest guest (roles.accepts s accepted)
  exact h.held_of_given ⟨begun.resolve_right accepts, going⟩

theorem Lone.waiting_of_held (h : x.Lone) (held : x.link.state.held = some s) : x.waiting = [] := by
  apply by_contra
  intro waits
  rw [h.apart waits] at held
  cases held

theorem Lone.resumes (h : x.Lone) {w : Waiting} (due : (Act.resume w).isDue x.waiting = true) :
    x.link.state.held = none ∧ x.waiting.erase w = [] := by
  have waits : w ∈ x.waiting := by simpa [Act.isDue] using due
  refine ⟨h.apart (List.ne_nil_of_mem waits), List.eq_nil_of_length_eq_zero ?_⟩
  rw [List.length_erase_of_mem waits]
  exact Nat.sub_eq_zero_of_le h.alone

theorem lone_of_tried {l : Link (Recorded τ)} {r : Handling × Link (Recorded τ)} (tried : l.Tried r)
    (free : l.state.held = none) (only : OnlyHolds none l.record) {waiting : List Waiting}
    (none : waiting = []) : Lone ⟨r.2, waiting ++ r.1.waiter?.toList⟩ := by
  obtain ⟨only, held⟩ := tried.only_holds free only
  rw [none, List.nil_append]
  refine ⟨only, ?_, fun waits => ?_⟩
  · cases r.1.waiter? <;> simp
  · apply held.resolve_right
    intro through
    rw [through] at waits
    exact waits rfl

variable [Channel τ]

/-- If this is a connect then the guest has no session and no handler waits. -/
def FreeFor (x : BusyLink τ) (a : Act) : Prop :=
  a.isConnect = true → x.waiting = [] ∧ x.link.state.held = none

def ConnectsFree (x : BusyLink τ) (acts : List Act) : Prop :=
  ∀ before a after, acts = before ++ a :: after → (x.run before).FreeFor a

instance (x : BusyLink τ) (a : Act) : Decidable (x.FreeFor a) :=
  inferInstanceAs (Decidable (a.isConnect = true → x.waiting = [] ∧ x.link.state.held = none))

instance (x : BusyLink τ) (acts : List Act) : Decidable (x.ConnectsFree acts) :=
  decidable_of_iff _ forall_cut_iff.symm

theorem ConnectsFree.of_append {later acts : List Act} (h : x.ConnectsFree (acts ++ later)) :
    x.ConnectsFree acts := by
  intro before a after cut
  exact h before a (after ++ later) (by simp [cut])

theorem told_step (x : BusyLink τ) (a : Act) : x.link.record ++ a.told <+: (x.step a).link.record := by
  cases a with
  | event e => exact record_event x e
  | host | connect | resume | send | sample | disconnect =>
      refine List.IsPrefix.trans ?_ (record_step x _)
      exact (List.append_nil _).symm ▸ List.prefix_rfl

theorem Lone.step (h : x.Lone) (tracked : x.Tracked) (free : x.FreeFor a)
    (faithful : Faithful (x.step a).link.record) : (x.step a).Over ∨ (x.step a).Lone := by
  have told := told_step x a
  rcases step_cases x a with ⟨-, same⟩ | ⟨due, r, effect, stepped⟩
  · rw [same]
    exact .inr h
  · rw [stepped] at faithful told ⊢
    cases effect with
    | disconnect => exact .inl ⟨Link.over_disconnect _, rfl⟩
    | idle same =>
        obtain ⟨quality, c, extra, rfl, noted, idle⟩ := same
        exact .inr (h.keep rfl noted (fun s mem => by cases idle _ mem))
    | message there => exact .inr (h.keep rfl rfl (by simp))
    | accept c hosts noted => exact .inr (h.keep rfl noted (by simp))
    | host listening c running role noted => exact .inr (h.keep rfl noted (by simp))
    | refuse detail why => exact .inr (h.keep rfl (List.append_assoc ..) (by simp))
    | @opened s peer running fresh =>
        right
        cases guest : x.link.state.isGuest with
        | true =>
            refine h.keep ?_ rfl (by simp)
            rw [Link.state_opened_of_guest guest,
              h.held_of_connected tracked.roles guest (faithful.lawful.allowed told)]
            rfl
        | false =>
            refine h.keep ?_ rfl (by simp)
            rw [Link.state_opened_of_not_guest guest]
            rfl
    | overlook guest other => exact .inr (h.keep rfl rfl (by simp))
    | @stop s reason guest current own =>
        right
        have held := h.held_of_given (faithful.closed told)
        obtain ⟨vacant, only⟩ := Link.release_only_holds (held ▸ h.given) reason true
        exact lone_of_tried ((Link.Retrying.refl _).stops .done) vacant only (h.waiting_of_held held)
    | @lose s reason r guest current foreign running tried =>
        right
        have held := h.held_of_given (faithful.closed told)
        obtain ⟨vacant, only⟩ := Link.release_only_holds (held ▸ h.given) reason false
        exact lone_of_tried tried vacant only (h.waiting_of_held held)
    | settle host =>
        refine .inr (h.keep ?_ (Link.record_report ..) (by simp))
        rw [Link.state_report, Link.update, LinkState.settleHost]
        split <;> rfl
    | connect running role tried =>
        right
        obtain ⟨none, vacant⟩ := free rfl
        exact lone_of_tried tried vacant (vacant ▸ h.given) none
    | @resume w r tried =>
        right
        obtain ⟨vacant, none⟩ := h.resumes due
        exact lone_of_tried tried vacant (vacant ▸ h.given) none

theorem lone_run {settings : LinkSettings} {channel : τ} {acts : List Act}
    (free : (start settings channel).ConnectsFree acts)
    (faithful : Faithful ((start settings channel).run acts).link.record) :
    ((start settings channel).run acts).Over ∨ ((start settings channel).run acts).Lone := by
  induction acts using List.reverseRecOn with
  | nil =>
      refine .inr ⟨?_, Nat.zero_le 1, fun waits => absurd rfl waits⟩
      intro s given
      cases given
  | append_singleton acts a ih =>
      rw [run_append] at faithful ⊢
      have before := faithful.of_prefix (record_step _ a)
      rcases ih free.of_append before with isOver | lone
      · exact .inl (isOver.step a).1
      · exact lone.step (tracked_run before.lawful) (free acts a [] rfl) faithful

end BusyLink
end StreamTunnel
