import StreamTunnel.Proofs.Link.Standing

namespace StreamTunnel
namespace BusyLink

variable {τ : Type} {x : BusyLink τ} {a : Act}

def Agrees (x : BusyLink τ) : Prop :=
  x.link.state.phase = .connected ↔ x.link.state.active.isEmpty = false

theorem agrees_iff_of_lost (lost : x.link.state.phase ≠ .connected) :
    x.Agrees ↔ ¬ x.link.state.active.isEmpty = false :=
  ⟨fun agrees some => lost (agrees.mpr some), fun none => iff_of_false lost none⟩

theorem agrees_of_settled {phase : Phase} {active : Table SessionId Identity}
    (before : phase = .connected ↔ active.isEmpty = false) (s : SessionId) :
    (if (active.erase s).isEmpty then if phase = .connected then Phase.connecting else phase
      else phase) = .connected ↔ (active.erase s).isEmpty = false := by
  cases empty : (active.erase s).isEmpty with
  | true =>
      rw [if_pos rfl]
      split <;> simp_all
  | false =>
      rw [if_neg Bool.false_ne_true]
      exact iff_of_true (before.mpr (Table.isEmpty_eq_false_of_erase empty)) rfl

variable [Channel τ]

/-- After the act a session is open and the link does not count as connected. -/
def Unsettles (x : BusyLink τ) : Act → Prop
  | .host => x.link.state.Admits .host ∧ x.link.state.active.isEmpty = false
  | .connect _ => x.link.state.Admits .guest ∧ x.link.state.active.isEmpty = false
  | .event (.closed s _) => x.link.state.isGuest = true ∧ x.link.state.isCurrent s = true ∧
      (x.link.state.active.erase s).isEmpty = false
  | .resume w => x.link.Quits (x.step (.resume w)).link ∧ x.link.state.active.isEmpty = false
  | _ => False

theorem unsettles_start (c : Start) :
    x.Unsettles c.act ↔ x.link.state.Admits c.role ∧ x.link.state.active.isEmpty = false := by
  cases c <;> exact Iff.rfl

theorem Unsettles.heeds (h : x.Unsettles a) : x.link.Heeds a := by
  cases a with
  | host | connect peer => exact h.1
  | resume w => trivial
  | event e => cases e <;> trivial
  | send | sample | disconnect => cases h

theorem Steady.agrees_step (h : x.Steady) (agrees : x.Agrees) (a : Act) :
    (x.step a).Agrees ↔ ¬ x.Unsettles a := by
  rcases h.roled.shift a with ⟨early, same⟩ | shift
  · rw [same]
    refine iff_of_true agrees (fun unsettles => ?_)
    cases a with
    | resume w => exact unsettles.1 (by rw [same])
    | host | connect | event | send | sample | disconnect => cases early
  · have sound := (h.step a).sound
    have phase : (x.step a).link.state.phase = (x.step a).link.state.standing.phase := rfl
    have active : (x.step a).link.state.active = (x.step a).link.state.standing.active := rfl
    cases shift with
    | quiet unheeded same =>
        refine iff_of_true ?_ (fun unsettles => unheeded unsettles.heeds)
        rwa [Agrees, phase, active, same]
    | waits going same =>
        refine iff_of_true ?_ (fun unsettles => going unsettles.1)
        rwa [Agrees, phase, active, same]
    | claimed c admits standing =>
        rw [standing] at phase active
        rw [agrees_iff_of_lost (by simp [phase]), active, unsettles_start, and_iff_right admits]
        rfl
    | resumed gaveUp standing =>
        rw [standing] at phase active
        rw [agrees_iff_of_lost (by simp [phase]), active, Unsettles, and_iff_right gaveUp]
        rfl
    | opened running fresh standing =>
        rw [standing] at phase active
        refine iff_of_true (iff_of_true phase ?_) id
        rw [active, Table.isEmpty_eq_false_iff]
        exact ⟨_, (Table.contains_insert ..).trans (if_pos rfl)⟩
    | overlooked guest other standing =>
        rw [standing] at phase active
        refine iff_of_true ⟨fun connected => ?_, fun some => ?_⟩ (fun unsettles => ?_)
        · exact Table.isEmpty_eq_false_iff.mpr (sound.inhabited connected)
        · rw [active] at some
          exact phase.trans (agrees.mpr (Table.isEmpty_eq_false_of_erase some))
        · cases other.symm.trans unsettles.2.1
    | released _ guest current lost standing =>
        rw [standing] at phase active
        rw [agrees_iff_of_lost (by rw [phase]; exact lost), active, Unsettles, and_iff_right guest,
          and_iff_right current]
    | settled host standing =>
        refine iff_of_true ?_ (fun unsettles => ?_)
        · rw [Agrees, phase, active, standing]
          exact agrees_of_settled agrees _
        · cases host.symm.trans unsettles.1
    | disconnected standing =>
        refine iff_of_true ?_ id
        rw [Agrees, phase, active, standing]
        exact iff_of_false nofun nofun

def HostFreeFor (x : BusyLink τ) (a : Act) : Prop :=
  a = .host → x.link.state.isHost = true → x.link.state.active.isEmpty = true

def HostsFree (x : BusyLink τ) (acts : List Act) : Prop :=
  ∀ before a after, acts = before ++ a :: after → (x.run before).HostFreeFor a

instance (x : BusyLink τ) (a : Act) : Decidable (x.HostFreeFor a) :=
  inferInstanceAs (Decidable (_ = _ → _ = _ → _ = _))

instance (x : BusyLink τ) (acts : List Act) : Decidable (x.HostsFree acts) :=
  decidable_of_iff _ forall_cut_iff.symm

theorem Over.not_unsettles (h : x.Over) : ¬ x.Unsettles a := by
  have none : x.link.state.active.isEmpty = true := by
    rw [h.link.active]
    rfl
  have none' (s : SessionId) : (x.link.state.active.erase s).isEmpty = true := by
    rw [h.link.active]
    rfl
  intro unsettles
  cases a with
  | host | connect peer | resume w => cases none.symm.trans unsettles.2
  | event e =>
      cases e with
      | closed s reason => cases (none' s).symm.trans unsettles.2.2
      | incoming | connected | message => cases unsettles
  | send | sample | disconnect => cases unsettles

theorem Lone.not_unsettles (h : x.Lone) (steady : x.Steady) (going : x.AllGoing)
    (free : x.FreeFor a) (host : x.HostFreeFor a)
    (faithful : Faithful (x.step a).link.record) : ¬ x.Unsettles a := by
  have lawful : Lawful x.link.record := (faithful.of_prefix (record_step x a)).lawful
  have roles := steady.roled.roles
  have vacant (none : x.link.state.held = none) (some : x.link.state.active.isEmpty = false)
      (notHost : x.link.state.isHost = false) : False := by
    obtain ⟨s, there⟩ := Table.isEmpty_eq_false_iff.mp some
    cases none.symm.trans (h.held_of_open going roles lawful notHost there)
  intro unsettles
  cases a with
  | host =>
      obtain ⟨⟨-, free⟩, some⟩ := unsettles
      cases hosts : x.link.state.isHost with
      | true => cases (host rfl hosts).symm.trans some
      | false =>
          obtain ⟨s, there⟩ := Table.isEmpty_eq_false_iff.mp some
          obtain ⟨guest, -⟩ := going.given roles lawful hosts there
          rcases free with free | taken
          · simp [LinkState.isGuest, free] at guest
          · simp [LinkState.isHost, taken] at hosts
  | connect peer =>
      obtain ⟨⟨-, role⟩, some⟩ := unsettles
      refine vacant (free rfl).2 some ?_
      rcases role with role | role <;> simp [LinkState.isHost, role]
  | resume w =>
      obtain ⟨quits, some⟩ := unsettles
      rcases step_cases x (.resume w) with ⟨-, same⟩ | ⟨due, -⟩
      · exact quits (by rw [same])
      · have guest := (steady.roled.due due w rfl).1
        exact vacant (h.resumes due).1 some (Bool.eq_false_iff.mpr (LinkState.not_host_of_guest guest))
  | event e =>
      cases e with
      | closed s reason =>
          obtain ⟨guest, -, some⟩ := unsettles
          obtain ⟨t, there⟩ := Table.isEmpty_eq_false_iff.mp some
          rw [Table.contains_erase] at there
          split at there
          · cases there
          · next other =>
            have notHost := Bool.eq_false_iff.mpr (LinkState.not_host_of_guest guest)
            have held := h.held_of_given (faithful.closed (record_event x _))
            exact other (Option.some.inj
              ((h.held_of_open going roles lawful notHost there).symm.trans held))
      | incoming | connected | message => cases unsettles
  | send | sample | disconnect => cases unsettles

/-- A link that counts as connected has an open session. It counts as connected as long as it has
one, at every moment of a run, if and only if no act unsettles it; and none does if no host is
started again with a session open, nor a guest with a session or a handler that waits. -/
theorem phase_agrees (settings : LinkSettings) (channel : τ) (acts : List Act) :
    let x := (start settings channel).run acts
    (x.link.state.phase = .connected → x.link.state.active.isEmpty = false) ∧
    (x.link.state.isConnected = true ↔ x.link.state.phase = .connected) ∧
    ((∀ before, before <+: acts → ((start settings channel).run before).Agrees) ↔
      ∀ before a after, acts = before ++ a :: after →
        ¬ ((start settings channel).run before).Unsettles a) ∧
    (Faithful x.link.record → (start settings channel).ConnectsFree acts →
      (start settings channel).HostsFree acts → x.Agrees) := by
  intro x
  have inhabited (connected : x.link.state.phase = .connected) : x.link.state.active.isEmpty = false :=
    Table.isEmpty_eq_false_iff.mpr ((steady_run settings channel acts).sound.inhabited connected)
  have always : (∀ before, before <+: acts → ((start settings channel).run before).Agrees) ↔ _ :=
    always_iff (iff_of_false nofun nofun) fun before a _ agrees =>
      (steady_run settings channel before).agrees_step agrees a
  refine ⟨inhabited, ?_, always, fun faithful connects hosts => ?_⟩
  · simp only [LinkState.isConnected, Bool.and_eq_true, decide_eq_true_iff, Bool.not_eq_true']
    exact and_iff_left_of_imp inhabited
  · refine always.mpr (fun before a after cut => ?_) acts List.prefix_rfl
    obtain ⟨here, next⟩ := prefix_of_cut cut
    have earlier := faithful.of_prefix (record_of_earlier here)
    have stepped := faithful.of_prefix (record_of_earlier next)
    rw [run_append] at stepped
    rcases lone_run (cut ▸ connects).of_append earlier with isOver | lone
    · exact isOver.not_unsettles
    · exact lone.not_unsettles (steady_run settings channel before) (open_run earlier.lawful)
        (connects before a after cut) (hosts before a after cut) stepped

theorem phase_agrees_first_session :
    let acts := [.connect "host", .event (.connected ⟨1⟩ "host")]
    let x := (start {} ({} : Script)).run acts
    Faithful x.link.record ∧ (start {} ({} : Script)).ConnectsFree acts ∧
      (start {} ({} : Script)).HostsFree acts ∧ x.Agrees := by
  intro acts x
  have faithful : Faithful x.link.record := by decide +kernel
  have connects : (start {} ({} : Script)).ConnectsFree acts := by decide +kernel
  have hosts : (start {} ({} : Script)).HostsFree acts := by decide +kernel
  exact ⟨faithful, connects, hosts,
    (phase_agrees {} ({} : Script) acts).2.2.2 faithful connects hosts⟩

theorem connected_host_listens_again :
    let x := (start {} ({} : Script)).run
      [.host, .event (.incoming ⟨1⟩ "guest" 0), .event (.connected ⟨1⟩ "guest"), .host]
    Lawful x.link.record ∧ x.link.state.active.keys = [⟨1⟩] ∧ x.link.state.phase = .connecting ∧
      x.link.state.isConnected = false ∧ (x.link.send ⟨1⟩ []).1 = .ok () :=
  ⟨by decide +kernel, rfl, rfl, rfl, rfl⟩

end BusyLink
end StreamTunnel
