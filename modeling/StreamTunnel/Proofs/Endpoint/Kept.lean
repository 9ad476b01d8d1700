import Mathlib.Data.List.Nodup
import StreamTunnel.Proofs.Endpoint.Greeting

namespace StreamTunnel.Endpoint

variable {o o' : Outline} {h h' marks : List Mark} {n m : Nat} {s s' : SessionId} {l l' : Line}
  {peer : Identity}

/-! ## One line changes -/

structure Quiet (n : Nat) (l' : Line) (o o' : Outline) : Prop where
  line : o'.line = Function.update o.line n (some l')
  slot : o'.slot = o.slot
  before : ∀ l, o.line n = some l → l.session? = none
  after : l'.session? = none

structure Moves (n : Nat) (s : SessionId) (l' : Line) (o o' : Outline) : Prop where
  line : o'.line = Function.update o.line n (some l')
  slot : o'.slot = Function.update o.slot s (l'.session?.map (fun _ => (n, l'.isOffered)))
  before : ∀ l s', o.line n = some l → l.session? = some s' → s' = s
  after : ∀ s', l'.session? = some s' → s' = s
  only : ∀ m gated, o.slot s = some (m, gated) → m = n

theorem Quiet.sound (quiet : Quiet n l' o o') (sound : o.Sound) : o'.Sound := by
  constructor
  · intro m l s there session
    rw [quiet.line, Function.update_apply] at there
    rw [quiet.slot]
    split at there
    · cases there
      rw [quiet.after] at session
      cases session
    · exact sound.held there session
  · intro s m gated known
    rw [quiet.slot] at known
    obtain ⟨l, carries⟩ := sound.carried known
    refine ⟨l, ?_, carries.session, by rw [quiet.slot]; exact carries.slot⟩
    rw [quiet.line, Function.update_of_ne]
    · exact carries.line
    · rintro rfl
      have none := quiet.before l carries.line
      rw [carries.session] at none
      cases none

theorem Moves.sound (moves : Moves n s l' o o') (sound : o.Sound) : o'.Sound := by
  constructor
  · intro m l s' there session
    rw [moves.line, Function.update_apply] at there
    rw [moves.slot]
    split at there
    · next same =>
      cases there
      obtain rfl := moves.after s' session
      rw [Function.update_self, session, same]
      rfl
    · next other =>
      have held := sound.held there session
      rw [Function.update_of_ne]
      · exact held
      · rintro rfl
        exact other (moves.only m _ held)
  · intro s' m gated known
    rw [moves.slot, Function.update_apply] at known
    split at known
    · next same =>
      subst same
      cases session : l'.session? with
      | none =>
          rw [session] at known
          cases known
      | some s₀ =>
          obtain rfl := moves.after s₀ session
          rw [session] at known
          cases known
          refine ⟨l', ?_, session, ?_⟩
          · rw [moves.line, Function.update_self]
          · rw [moves.slot, Function.update_self, session]
            rfl
    · next other =>
      obtain ⟨l, carries⟩ := sound.carried known
      refine ⟨l, ?_, carries.session, ?_⟩
      · rw [moves.line, Function.update_of_ne]
        · exact carries.line
        · rintro rfl
          exact other (moves.before l s' carries.line carries.session)
      · rw [moves.slot, Function.update_of_ne other]
        exact carries.slot

inductive At (o : Outline) (s : SessionId) : Option Line → Prop
  | unmade (absent : o.slot s = none) : At o s none
  | ended (absent : o.slot s = none) : At o s (some .ended)
  | carried {n : Nat} {l : Line} (carries : o.Carries n s l) : At o s (some l)

theorem At.keep {l : Option Line} (here : At o s l) (slot : o'.slot s = o.slot s)
    (line : ∀ m l, o.Carries m s l → o'.line m = o.line m) : At o' s l := by
  cases here with
  | unmade absent => exact .unmade (slot.trans absent)
  | ended absent => exact .ended (slot.trans absent)
  | carried carries =>
      refine .carried ⟨?_, carries.session, slot.trans carries.slot⟩
      rw [line _ _ carries]
      exact carries.line

theorem Quiet.here {l : Option Line} (quiet : Quiet n l' o o') (here : At o s l) : At o' s l := by
  apply here.keep (by rw [quiet.slot])
  intro m l carries
  rw [quiet.line, Function.update_of_ne]
  rintro rfl
  have none := quiet.before l carries.line
  rw [carries.session] at none
  cases none

theorem Moves.here {l : Option Line} (moves : Moves n s l' o o') (other : s' ≠ s)
    (here : At o s' l) : At o' s' l := by
  apply here.keep (by rw [moves.slot, Function.update_of_ne other])
  intro m l carries
  rw [moves.line, Function.update_of_ne]
  rintro rfl
  exact other (moves.before l s' carries.line carries.session)

theorem At.unique {l₀ : Option Line} (here : At o s l₀) (carries : o.Carries n s l) :
    l₀ = some l := by
  cases here with
  | unmade absent | ended absent =>
      rw [carries.slot] at absent
      cases absent
  | carried carries' =>
      have slot := carries'.slot
      rw [carries.slot, Option.some.injEq, Prod.mk.injEq] at slot
      obtain ⟨rfl, -⟩ := slot
      have line := carries'.line
      rw [carries.line] at line
      exact line.symm

theorem Moves.own (moves : Moves n s l' o o') (session : l'.session? = some s) :
    At o' s (some l') := by
  refine .carried (n := n) ⟨?_, session, ?_⟩
  · rw [moves.line, Function.update_self]
  · rw [moves.slot, Function.update_self, session]
    rfl

theorem moves_turn (carries : o.Carries n s l) (after : ∀ s', l'.session? = some s' → s' = s) :
    Moves n s l' o (o.turn n s l') where
  line := rfl
  slot := rfl
  before := by
    intro l₀ s' there session
    rw [carries.line, Option.some.injEq] at there
    rw [← there, carries.session] at session
    exact (Option.some.inj session).symm
  after := after
  only := by
    intro m gated known
    rw [carries.slot] at known
    cases known
    rfl

theorem moves_begin (line : o'.line = Function.update o.line n (some l))
    (slot : o'.slot = Function.update o.slot s (some (n, l.isOffered)))
    (free : ∀ l, o.line n = some l → l.session? = none) (session : l.session? = some s)
    (unknown : o.slot s = none) : Moves n s l o o' where
  line := line
  slot := by rw [slot, session]; rfl
  before := by
    intro l₀ s' there session'
    rw [free l₀ there] at session'
    cases session'
  after := by
    intro s' session'
    rw [session] at session'
    exact (Option.some.inj session').symm
  only := by
    intro m gated known
    rw [unknown] at known
    cases known

/-! ## Numbers of sessions -/

def handle (i : Nat) : SessionId :=
  ⟨UInt64.ofNat (i + 1)⟩

theorem handle_inj {i j : Nat} (small : i < UInt64.size) (small' : j < UInt64.size)
    (same : handle i = handle j) : i = j := by
  have numbers := congrArg (fun s => s.number.toNat) same
  simp only [handle, UInt64.toNat_ofNat'] at numbers
  simp only [UInt64.size] at small small'
  omega

structure Numbered (h : List Mark) (o : Outline) : Prop where
  inOrder : made h = (List.range (made h).length).map handle
  next : (⟨o.next⟩ : SessionId) = handle (made h).length

theorem Numbered.nodup (numbered : Numbered h o) (few : (made h).length ≤ UInt64.size) :
    (made h).Nodup := by
  rw [numbered.inOrder]
  apply List.Nodup.map_on _ List.nodup_range
  intro i mem j mem' same
  rw [List.mem_range] at mem mem'
  exact handle_inj (by omega) (by omega) same

theorem Numbered.new (numbered : Numbered h o) (few : (made h).length < UInt64.size) :
    (⟨o.next⟩ : SessionId) ∉ made h := by
  rw [numbered.inOrder, numbered.next, List.mem_map]
  rintro ⟨i, mem, same⟩
  rw [List.mem_range] at mem
  have := handle_inj (by omega) few same
  omega

theorem Numbered.keep (numbered : Numbered h o) (none : made marks = []) (next : o'.next = o.next) :
    Numbered (h ++ marks) o' where
  inOrder := by
    rw [made_append, none, List.append_nil]
    exact numbered.inOrder
  next := by
    rw [made_append, none, List.append_nil, next]
    exact numbered.next

theorem Numbered.more (numbered : Numbered h o) (one : made marks = [⟨o.next⟩])
    (next : o'.next = o.next + 1) : Numbered (h ++ marks) o' := by
  have length : (made (h ++ marks)).length = (made h).length + 1 := by
    rw [made_append, one, List.length_append, List.length_singleton]
  constructor
  · rw [length, List.range_succ, List.map_append, ← numbered.inOrder, made_append, one,
      numbered.next]
    rfl
  · have number : o.next = UInt64.ofNat ((made h).length + 1) :=
      congrArg SessionId.number numbered.next
    rw [length, next, number, handle, UInt64.ofNat_add (_ + 1) 1]
    rfl

/-! ## What every run keeps -/

structure Kept (h : List Mark) (o : Outline) : Prop where
  bounded : ∀ n, o.size ≤ n → o.line n = none
  sound : o.Sound
  numbered : Numbered h o
  tales : ∀ s, ∃ l, Tale s (story s h) l ∧ At o s l
  greeted : ∀ n, Greeted n h o

theorem Kept.unmade (kept : Kept h o) (new : s ∉ made h) :
    Tale s (story s h) none ∧ o.slot s = none := by
  obtain ⟨l, tale, here⟩ := kept.tales s
  cases l with
  | none =>
      cases here with
      | unmade absent => exact ⟨tale, absent⟩
  | some l => exact absurd (mem_made_story.mp tale.mem_made) new

theorem Kept.tale_elsewhere (kept : Kept h o) (silent : story s marks = [])
    (here : ∀ l, At o s l → At o' s l) : ∃ l, Tale s (story s (h ++ marks)) l ∧ At o' s l := by
  obtain ⟨l, tale, at_l⟩ := kept.tales s
  exact ⟨l, by rw [story_noted silent]; exact tale, here l at_l⟩

theorem Kept.quiet (kept : Kept h o) (change : Change o marks o') (quiet : Quiet n l o o')
    (next : o'.next = o.next) (size : n < o'.size ∧ o.size ≤ o'.size)
    (silent : ∀ s, story s marks = []) : Kept (h ++ marks) o' where
  bounded := by
    intro m beyond
    rw [quiet.line, Function.update_of_ne (by omega)]
    exact kept.bounded m (by omega)
  sound := quiet.sound kept.sound
  numbered := by
    refine kept.numbered.keep ?_ next
    rw [List.eq_nil_iff_forall_not_mem]
    intro s mem
    rw [← mem_made_story, silent s] at mem
    cases mem
  tales := fun s => kept.tale_elsewhere (silent s) fun _ here => quiet.here here
  greeted := fun m => (kept.greeted m).change (kept.bounded _ (Nat.le_refl _)) change

theorem Kept.still (kept : Kept h o) (change : Change o marks o) (none : made marks = [])
    (tales : ∀ s, ∃ l, Tale s (story s (h ++ marks)) l ∧ At o s l) : Kept (h ++ marks) o where
  bounded := kept.bounded
  sound := kept.sound
  numbered := kept.numbered.keep none rfl
  tales := tales
  greeted := fun m => (kept.greeted m).change (kept.bounded _ (Nat.le_refl _)) change

theorem Kept.begun {b : Mark} (kept : Kept h o) (change : Change o marks o')
    (birth : Birth ⟨o.next⟩ b peer l) (line : o'.line = Function.update o.line n (some l))
    (slot : o'.slot = Function.update o.slot ⟨o.next⟩ (some (n, l.isOffered)))
    (free : ∀ l, o.line n = some l → l.session? = none)
    (next : o'.next = o.next + 1) (size : n < o'.size ∧ o.size ≤ o'.size)
    (tells : ∀ s, story s marks = if s = ⟨o.next⟩ then [b] else []) (one : made marks = [⟨o.next⟩])
    (few : (made (h ++ marks)).length ≤ UInt64.size) : Kept (h ++ marks) o' := by
  have new : (⟨o.next⟩ : SessionId) ∉ made h := by
    apply kept.numbered.new
    rw [made_append, one, List.length_append, List.length_singleton] at few
    omega
  obtain ⟨tale, absent⟩ := kept.unmade new
  have session : l.session? = some ⟨o.next⟩ := by cases birth <;> rfl
  have moves := moves_begin line slot free session absent
  constructor
  · intro m beyond
    rw [line, Function.update_of_ne (by omega)]
    exact kept.bounded m (by omega)
  · exact moves.sound kept.sound
  · exact kept.numbered.more one next
  · intro s
    by_cases own : s = ⟨o.next⟩
    · subst own
      refine ⟨some l, ?_, moves.own session⟩
      rw [story_append, tells, if_pos rfl]
      cases birth with
      | connect m => exact .connect m peer tale
      | incoming m _ port => exact .incoming m peer port tale
    · exact kept.tale_elsewhere (by rw [tells, if_neg own]) fun _ here => moves.here own here
  · exact fun m => (kept.greeted m).change (kept.bounded _ (Nat.le_refl _)) change

theorem Kept.bound (kept : Kept h o) (there : o.line n = some l) : n < o.size := by
  apply Nat.lt_of_not_le
  intro beyond
  rw [kept.bounded n beyond] at there
  cases there

theorem Kept.turned (kept : Kept h o) (carries : o.Carries n s l) (turn : Turn n s l marks l') :
    Kept (h ++ marks) (o.turn n s l') := by
  have session : l' = .ended ∨ l'.session? = some s := by
    cases turn with
    | answered | admitted | message => exact .inr rfl
    | finished | closed => exact .inl rfl
  have moves : Moves n s l' o (o.turn n s l') := by
    apply moves_turn carries
    intro s' session'
    rcases session with rfl | session
    · cases session'
    · rw [session] at session'
      exact (Option.some.inj session').symm
  constructor
  · intro m beyond
    have other : m ≠ n := by
      rintro rfl
      exact Nat.not_lt_of_le beyond (kept.bound carries.line)
    exact (Function.update_of_ne other ..).trans (kept.bounded m beyond)
  · exact moves.sound kept.sound
  · have none : made marks = [] := by cases turn <;> rfl
    exact kept.numbered.keep none rfl
  · intro s'
    by_cases own : s' = s
    · subst own
      refine ⟨some l', ?_, ?_⟩
      · obtain ⟨l₀, tale, here⟩ := kept.tales s'
        obtain rfl := here.unique carries
        rw [story_append, story_of_turn turn, if_pos rfl]
        exact .turned tale carries.session turn
      · rcases session with rfl | session
        · exact .ended (Function.update_self ..)
        · exact moves.own session
    · apply kept.tale_elsewhere _ fun _ here => moves.here own here
      rw [story_of_turn turn, if_neg own]
  · exact fun m => (kept.greeted m).change (kept.bounded _ (Nat.le_refl _)) (.turned carries turn)

theorem Kept.free_next (kept : Kept h o) (l : Line) (there : o.line o.size = some l) :
    l.session? = none :=
  absurd (kept.bound there) (Nat.lt_irrefl _)

theorem free_of_greeting {unread : Frame.Reader} {isCut : Bool}
    (there : o.line n = some (.greeting unread isCut)) (l : Line) (there' : o.line n = some l) :
    l.session? = none := by
  rw [there] at there'
  cases there'
  rfl

theorem Kept.change (kept : Kept h o) (change : Change o marks o')
    (few : (made (h ++ marks)).length ≤ UInt64.size) : Kept (h ++ marks) o' := by
  have here := change
  cases change with
  | accepted s₀ =>
      apply kept.still here rfl
      intro s
      obtain ⟨l, tale, at_l⟩ := kept.tales s
      refine ⟨l, ?_, at_l⟩
      by_cases own : s₀ = s
      · subst own
        have told : story s₀ [.accept s₀] = [.accept s₀] := by simp [story, Mark.session?]
        rw [story_append, told]
        exact .accepted tale
      · rw [story_noted (by simp [story, Mark.session?, own])]
        exact tale
  | @closedNothing s₀ unknown =>
      apply kept.still here rfl
      intro s
      obtain ⟨l, tale, at_l⟩ := kept.tales s
      refine ⟨l, ?_, at_l⟩
      by_cases own : s₀ = s
      · subst own
        have told : story s₀ [.close s₀] = [.close s₀] := by simp [story, Mark.session?]
        rw [story_append, told]
        apply Tale.closedNothing tale
        cases at_l with
        | unmade | ended => rfl
        | carried carries =>
            rw [carries.slot] at unknown
            cases unknown
      · rw [story_noted (by simp [story, Mark.session?, own])]
        exact tale
  | wrote b there past =>
      apply kept.still here rfl
      intro s
      exact kept.tale_elsewhere rfl fun _ at_l => at_l
  | inbound =>
      apply kept.quiet here (n := o.size) (l := .greeting {} false) _ rfl
      · exact ⟨Nat.lt_succ_self _, Nat.le_succ _⟩
      · exact fun s => rfl
      · exact ⟨rfl, rfl, kept.free_next, rfl⟩
  | @waited n unread r isCut b there short =>
      apply kept.quiet here (n := n) (l := .greeting r isCut) _ rfl
      · exact ⟨kept.bound there, Nat.le_refl _⟩
      · exact fun s => rfl
      · exact ⟨rfl, rfl, free_of_greeting there, rfl⟩
  | @dropped n unread isCut there =>
      apply kept.quiet here (n := n) (l := .ended) _ rfl
      · exact ⟨kept.bound there, Nat.le_refl _⟩
      · exact fun s => rfl
      · exact ⟨rfl, rfl, free_of_greeting there, rfl⟩
  | connect peer =>
      apply kept.begun here (.connect o.size peer) (n := o.size) rfl rfl kept.free_next rfl _ _
        rfl few
      · exact ⟨Nat.lt_succ_self _, Nat.le_succ _⟩
      · exact story_birth (.connect o.size peer)
  | @announced n unread r isCut peer port a there hello =>
      apply kept.begun here (.incoming n peer port) (n := n) rfl rfl (free_of_greeting there) rfl
        _ _ _ few
      · exact ⟨kept.bound there, Nat.le_refl _⟩
      · intro s
        rw [story_append, story_wroteMarks, List.nil_append]
        exact story_birth (.incoming n peer port) s
      · cases a <;> rfl
  | turned carries turn => exact kept.turned carries turn

theorem few_of_append (few : (made (h ++ h')).length ≤ UInt64.size) :
    (made h).length ≤ UInt64.size := by
  rw [made_append, List.length_append] at few
  exact Nat.le_of_add_right_le few

theorem Kept.changes (kept : Kept h o) (changes : Changes o marks o')
    (few : (made (h ++ marks)).length ≤ UInt64.size) : Kept (h ++ marks) o' := by
  induction changes with
  | nil => simpa using kept
  | snoc _ change ih =>
      rw [← List.append_assoc] at few ⊢
      exact (ih (few_of_append few)).change change few

theorem Kept.over_change (kept : Kept h o) (known : s ∈ made h) (absent : o.slot s = none)
    (change : Change o marks o') (few : (made (h ++ marks)).length ≤ UInt64.size) :
    reported s marks = [] ∧ o'.slot s = none := by
  have old : made marks = [⟨o.next⟩] → s ≠ ⟨o.next⟩ := by
    rintro one rfl
    rw [made_append, one, List.length_append, List.length_singleton] at few
    exact kept.numbered.new (by omega) known
  cases change with
  | accepted | closedNothing | wrote | inbound | waited | dropped => exact ⟨rfl, absent⟩
  | connect peer => exact ⟨rfl, (Function.update_of_ne (old rfl) ..).trans absent⟩
  | @announced n _ _ _ peer port a =>
      have other := old (by cases a <;> rfl)
      refine ⟨?_, (Function.update_of_ne other ..).trans absent⟩
      rw [reported_append, reported_event, ChannelEvent.session, if_neg (Ne.symm other)]
      cases a <;> rfl
  | @turned n s₀ l l' marks carries turn =>
      have other : s ≠ s₀ := by
        rintro rfl
        rw [carries.slot] at absent
        cases absent
      refine ⟨?_, (Function.update_of_ne other ..).trans absent⟩
      rw [← reported_story, story_of_turn turn, if_neg other]
      rfl

theorem Kept.over_changes (kept : Kept h o) (known : s ∈ made h) (absent : o.slot s = none)
    (changes : Changes o marks o') (few : (made (h ++ marks)).length ≤ UInt64.size) :
    reported s marks = [] ∧ o'.slot s = none := by
  induction changes with
  | nil => exact ⟨rfl, absent⟩
  | @snoc o₁ o₂ earlier marks before change ih =>
      rw [← List.append_assoc] at few
      have fewer := few_of_append few
      obtain ⟨silent, absent'⟩ := ih fewer
      have known' : s ∈ made (h ++ earlier) := by
        rw [made_append]
        exact List.mem_append_left _ known
      obtain ⟨silent', absent''⟩ :=
        (kept.changes before fewer).over_change known' absent' change few
      exact ⟨by rw [reported_append, silent, silent']; rfl, absent''⟩

theorem Kept.told {b : Mark} (kept : Kept h o) (birth : Birth s b peer l) (mem : b ∈ h) :
    ∃ l', Told s (story s h) b l' := by
  have makes : b.made? = some s := by cases birth <;> rfl
  have known : s ∈ made (story s h) := mem_made_story.mpr (List.mem_filterMap.mpr ⟨b, mem, makes⟩)
  obtain ⟨l', tale, -⟩ := kept.tales s
  cases l' with
  | none => exact absurd known tale.not_made
  | some l' =>
      obtain ⟨b', told⟩ := tale.told
      have own : b ∈ story s h :=
        List.mem_filter.mpr ⟨mem, decide_eq_true (session_of_made? makes)⟩
      obtain rfl := told.once b own makes
      exact ⟨l', told⟩

theorem Birth.not_closed {b : Mark} (birth : Birth s b peer l) (reason : CloseReason) :
    .closed s reason ∉ reported s [b] := by
  cases birth with
  | connect => exact List.not_mem_nil
  | incoming =>
      rw [reported_event]
      split <;> simp

theorem Reports.not_closed {b : Mark} {events : List ChannelEvent} (reports : Reports s b l events)
    (session : l.session? = some s) (reason : CloseReason) : .closed s reason ∉ events := by
  cases reports with
  | early birth => exact birth.not_closed reason
  | opened birth data => simpa using birth.not_closed reason
  | endedEarly | ended => cases session

theorem Kept.not_closed (kept : Kept h o) (held : o.slot s ≠ none) (reason : CloseReason) :
    .closed s reason ∉ reported s h := by
  obtain ⟨l, tale, here⟩ := kept.tales s
  cases here with
  | unmade absent | ended absent => exact absurd absent held
  | carried carries =>
      obtain ⟨b, told⟩ := tale.told
      have goes := told.reports.not_closed carries.session reason
      rwa [reported_story] at goes

theorem Kept.known (kept : Kept h o) (held : o.slot s ≠ none) : s ∈ made h := by
  by_contra new
  exact held (kept.unmade new).2

theorem Kept.inOrder {b : Mark} (kept : Kept h o) (birth : Birth s b peer l) (mem : b ∈ h) :
    InOrder s peer (reported s [b]) (reported s h) := by
  obtain ⟨l', told⟩ := kept.told birth mem
  have order := told.reports.inOrder birth
  rwa [reported_story] at order

theorem Kept.admitted {port : UInt32} {peer' : Identity} (kept : Kept h o)
    (came : .event n (.incoming s peer port) ∈ h) (opened : .event m (.connected s peer') ∈ h) :
    List.Sublist
      [.event n (.incoming s peer port), .accept s, .event m (.connected s peer')] h := by
  obtain ⟨l', told⟩ := kept.told (.incoming n peer port) came
  have own : .event m (.connected s peer') ∈ story s h :=
    List.mem_filter.mpr ⟨opened, by simp [Mark.session?, ChannelEvent.session]⟩
  exact (told.admitted n peer port rfl m peer' own).trans List.filter_sublist

theorem Kept.session_made {ev : ChannelEvent} (kept : Kept h o) (told : .event n ev ∈ h) :
    ev.session ∈ made h := by
  by_contra new
  have silent := (kept.unmade new).1.silent
  rw [reported_story] at silent
  have shown := mem_reported told rfl
  rw [silent] at shown
  cases shown

end StreamTunnel.Endpoint
