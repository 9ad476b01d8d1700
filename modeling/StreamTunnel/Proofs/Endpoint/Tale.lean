import StreamTunnel.Proofs.Endpoint.Outline

namespace StreamTunnel.Endpoint

namespace Mark

def session? : Mark → Option SessionId
  | connect _ s _ | accept s | close s => some s
  | event _ ev => some ev.session
  | inbound _ | wrote .. => none

def connection? : Mark → Option Nat
  | connect n .. | inbound n | wrote n _ | event n _ => some n
  | accept _ | close _ => none

def event? : Mark → Option ChannelEvent
  | event _ ev => some ev
  | _ => none

def made? : Mark → Option SessionId
  | connect _ s _ | event _ (.incoming s ..) => some s
  | _ => none

def writtenOn (n : Nat) : Mark → Bytes
  | wrote m b => if m = n then b else []
  | _ => []

end Mark

def made (h : List Mark) : List SessionId :=
  h.filterMap Mark.made?

def reported (s : SessionId) (h : List Mark) : List ChannelEvent :=
  (h.filterMap Mark.event?).filter (·.session = s)

def story (s : SessionId) (h : List Mark) : List Mark :=
  h.filter (·.session? = some s)

def written (n : Nat) (h : List Mark) : Bytes :=
  h.flatMap (·.writtenOn n)

variable {h h' marks : List Mark} {n m : Nat} {s s' : SessionId} {l l' : Line} {peer : Identity}

theorem made_append (h h' : List Mark) : made (h ++ h') = made h ++ made h' :=
  List.filterMap_append

theorem story_append (s : SessionId) (h h' : List Mark) :
    story s (h ++ h') = story s h ++ story s h' :=
  List.filter_append ..

theorem reported_append (s : SessionId) (h h' : List Mark) :
    reported s (h ++ h') = reported s h ++ reported s h' := by
  simp only [reported, List.filterMap_append, List.filter_append]

theorem written_append (n : Nat) (h h' : List Mark) :
    written n (h ++ h') = written n h ++ written n h' :=
  List.flatMap_append

theorem reported_story (s : SessionId) (h : List Mark) : reported s (story s h) = reported s h := by
  induction h with
  | nil => rfl
  | cons m rest ih =>
      have first := reported_append s (story s [m]) (story s rest)
      rw [← story_append, ih] at first
      have whole := reported_append s [m] rest
      rw [List.singleton_append] at first whole
      rw [first, whole]
      congr 1
      cases m with
      | event n ev =>
          by_cases mine : ev.session = s <;>
            simp [reported, story, Mark.session?, Mark.event?, mine]
      | connect _ s' | accept s' | close s' =>
          by_cases mine : s' = s <;> simp [reported, story, Mark.session?, Mark.event?, mine]
      | inbound | wrote => rfl

theorem session_of_made? {m : Mark} (h : m.made? = some s) : m.session? = some s := by
  unfold Mark.made? at h
  split at h <;> cases h <;> rfl

theorem mem_made_story : s ∈ made (story s h) ↔ s ∈ made h := by
  simp only [made, story, List.mem_filterMap, List.mem_filter, decide_eq_true_eq]
  constructor
  · rintro ⟨m, ⟨mem, -⟩, makes⟩
    exact ⟨m, mem, makes⟩
  · rintro ⟨m, mem, makes⟩
    exact ⟨m, ⟨mem, session_of_made? makes⟩, makes⟩

/-- What is said of a session, and the line that it has then. There is none before it is made. -/
inductive Tale (s : SessionId) : List Mark → Option Line → Prop
  | unmade : Tale s [] none
  | accepted {h : List Mark} {l : Option Line} (before : Tale s h l) : Tale s (h ++ [.accept s]) l
  | closedNothing {h : List Mark} {l : Option Line} (before : Tale s h l)
      (absent : l.bind Line.session? = none) : Tale s (h ++ [.close s]) l
  | connect {h : List Mark} (n : Nat) (peer : Identity) (before : Tale s h none) :
      Tale s (h ++ [.connect n s peer]) (some (.waiting s peer))
  | incoming {h : List Mark} (n : Nat) (peer : Identity) (port : UInt32) (before : Tale s h none) :
      Tale s (h ++ [.event n (.incoming s peer port)]) (some (.offered s peer))
  | turned {n : Nat} {h marks : List Mark} {l l' : Line} (before : Tale s h (some l))
      (session : l.session? = some s) (turn : Turn n s l marks l') :
      Tale s (h ++ marks) (some l')

/-- How a session begins, and the line that it has first. -/
inductive Birth (s : SessionId) : Mark → Identity → Line → Prop
  | connect (n : Nat) (peer : Identity) : Birth s (.connect n s peer) peer (.waiting s peer)
  | incoming (n : Nat) (peer : Identity) (port : UInt32) :
      Birth s (.event n (.incoming s peer port)) peer (.offered s peer)

/-- What a session that began with `b` has reported. It may end without saying so. -/
inductive Reports (s : SessionId) (b : Mark) : Line → List ChannelEvent → Prop
  | early {peer : Identity} {l : Line} (birth : Birth s b peer l) : Reports s b l (reported s [b])
  | opened {peer : Identity} {l : Line} (birth : Birth s b peer l) (data : List Bytes) :
      Reports s b (.open s) (reported s [b] ++ .connected s peer :: data.map (.message s))
  | endedEarly (reason : Option CloseReason) :
      Reports s b .ended (reported s [b] ++ reason.toList.map (.closed s))
  | ended {peer : Identity} {l : Line} (birth : Birth s b peer l) (data : List Bytes)
      (reason : Option CloseReason) :
      Reports s b .ended (reported s [b] ++ .connected s peer :: data.map (.message s) ++
        reason.toList.map (.closed s))

theorem Tale.not_made (tale : Tale s h none) : s ∉ made h := by
  generalize nothing : (none : Option Line) = l at tale
  induction tale with
  | unmade => simp [made]
  | accepted _ ih | closedNothing _ _ ih =>
      rw [made_append]
      simpa [made, Mark.made?] using ih nothing
  | connect | incoming | turned => cases nothing

theorem Tale.mem_made (tale : Tale s h (some l)) : s ∈ made h := by
  generalize something : some l = l₀ at tale
  induction tale generalizing l with
  | unmade => cases something
  | accepted _ ih | closedNothing _ _ ih =>
      rw [made_append]
      exact List.mem_append_left _ (ih something)
  | connect n peer | incoming n peer port =>
      rw [made_append]
      exact List.mem_append_right _ (List.mem_singleton_self s)
  | turned _ _ _ ih =>
      rw [made_append]
      exact List.mem_append_left _ (ih rfl)

theorem Tale.silent (tale : Tale s h none) : reported s h = [] := by
  generalize nothing : (none : Option Line) = l at tale
  induction tale with
  | unmade => rfl
  | accepted _ ih | closedNothing _ _ ih =>
      rw [reported_append, ih nothing]
      rfl
  | connect | incoming | turned => cases nothing

theorem mem_reported {ev : ChannelEvent} (mem : .event n ev ∈ h) (session : ev.session = s) :
    ev ∈ reported s h := by
  rw [reported, List.mem_filter, List.mem_filterMap]
  exact ⟨⟨_, mem, rfl⟩, decide_eq_true session⟩

theorem reported_event (ev : ChannelEvent) :
    reported s [.event n ev] = if ev.session = s then [ev] else [] := by
  by_cases mine : ev.session = s <;> simp [reported, Mark.event?, mine]

theorem Reports.turn {b : Mark} {events : List ChannelEvent} (reports : Reports s b l events)
    (session : l.session? = some s) (turn : Turn n s l marks l') :
    Reports s b l' (events ++ reported s marks) := by
  cases turn with
  | answered peer =>
      rw [reported_event, ChannelEvent.session, if_pos rfl]
      cases reports with
      | early birth =>
          cases birth with
          | connect m => exact .opened (.connect m peer) []
  | admitted peer =>
      have told : reported s [.accept s, .event n (.connected s peer)] =
          reported s [.event n (.connected s peer)] := rfl
      rw [told, reported_event, ChannelEvent.session, if_pos rfl]
      cases reports with
      | early birth =>
          cases birth with
          | incoming m _ port => exact .opened (.incoming m peer port) []
  | message data =>
      rw [reported_event, ChannelEvent.session, if_pos rfl]
      cases reports with
      | early birth => cases birth
      | opened birth earlier => simpa using Reports.opened birth (earlier ++ [data])
  | finished reason =>
      rw [reported_event, ChannelEvent.session, if_pos rfl]
      cases reports with
      | early birth => exact .endedEarly (some reason)
      | opened birth data => exact .ended birth data (some reason)
      | endedEarly | ended => cases session
  | closed =>
      have told : reported s [.close s] = [] := rfl
      rw [told]
      cases reports with
      | early birth => exact .endedEarly none
      | opened birth data => exact .ended birth data none
      | endedEarly | ended => cases session

structure Told (s : SessionId) (h : List Mark) (b : Mark) (l : Line) : Prop where
  mem : b ∈ h
  once : ∀ m ∈ h, m.made? = some s → m = b
  reports : Reports s b l (reported s h)
  admitted : ∀ n peer port, b = .event n (.incoming s peer port) → ∀ m peer',
    .event m (.connected s peer') ∈ h →
      List.Sublist [b, .accept s, .event m (.connected s peer')] h

theorem Told.noted {b m : Mark} (told : Told s h b l) (silent : m.event? = none)
    (quiet : m.made? = none) : Told s (h ++ [m]) b l where
  mem := List.mem_append_left _ told.mem
  once := by
    intro m' mem makes
    rcases List.mem_append.mp mem with mem | mem
    · exact told.once m' mem makes
    · rw [List.mem_singleton.mp mem, quiet] at makes
      cases makes
  reports := by
    have nothing : reported s [m] = [] := by simp [reported, silent]
    rw [reported_append, nothing, List.append_nil]
    exact told.reports
  admitted := by
    intro n peer port birth k peer' mem
    rcases List.mem_append.mp mem with mem | mem
    · exact (told.admitted n peer port birth k peer' mem).trans (List.sublist_append_left ..)
    · rw [← List.mem_singleton.mp mem] at silent
      cases silent

theorem told_born {b : Mark} (before : Tale s h none) (birth : Birth s b peer l) :
    Told s (h ++ [b]) b l where
  mem := List.mem_append_right _ (List.mem_singleton_self b)
  once := by
    intro m mem makes
    rcases List.mem_append.mp mem with mem | mem
    · exact absurd (List.mem_filterMap.mpr ⟨m, mem, makes⟩) before.not_made
    · exact List.mem_singleton.mp mem
  reports := by
    rw [reported_append, before.silent, List.nil_append]
    exact .early birth
  admitted := by
    intro n _ port incoming k peer' mem
    rcases List.mem_append.mp mem with mem | mem
    · have told := mem_reported mem (show (ChannelEvent.connected s peer').session = s from rfl)
      rw [before.silent] at told
      cases told
    · rw [← List.mem_singleton.mp mem] at incoming
      cases incoming

theorem Told.turned {b : Mark} (told : Told s h b l) (session : l.session? = some s)
    (turn : Turn n s l marks l') : Told s (h ++ marks) b l' where
  mem := List.mem_append_left _ told.mem
  once := by
    intro m mem makes
    rcases List.mem_append.mp mem with mem | mem
    · exact told.once m mem makes
    · have quiet : ∀ m ∈ marks, m.made? = none := by
        cases turn <;> simp [Mark.made?]
      rw [quiet m mem] at makes
      cases makes
  reports := by
    rw [reported_append]
    exact told.reports.turn session turn
  admitted := by
    intro k peer port incoming k' peer' mem
    rcases List.mem_append.mp mem with mem | mem
    · exact (told.admitted k peer port incoming k' peer' mem).trans (List.sublist_append_left ..)
    · cases turn with
      | answered =>
          -- only an outgoing session opens without being accepted
          have reports := told.reports
          generalize reported s h = events at reports
          cases reports with
          | early birth =>
              cases birth
              cases incoming
      | admitted =>
          have first : List.Sublist [b] h := List.singleton_sublist.mpr told.mem
          obtain ⟨rfl, rfl⟩ : k' = n ∧ peer' = _ := by simpa using mem
          exact first.append_right _
      | message | finished | closed => simp at mem

theorem Tale.told (tale : Tale s h (some l)) : ∃ b, Told s h b l := by
  generalize something : some l = l₀ at tale
  induction tale generalizing l with
  | unmade => cases something
  | accepted _ ih | closedNothing _ _ ih =>
      obtain ⟨b, told⟩ := ih something
      exact ⟨b, told.noted rfl rfl⟩
  | connect n peer before =>
      cases something
      exact ⟨_, told_born before (.connect n peer)⟩
  | incoming n peer port before =>
      cases something
      exact ⟨_, told_born before (.incoming n peer port)⟩
  | turned _ session turn ih =>
      cases something
      obtain ⟨b, told⟩ := ih rfl
      exact ⟨b, told.turned session turn⟩

theorem Birth.unique {b : Mark} {peer' : Identity} (birth : Birth s b peer l)
    (birth' : Birth s b peer' l') : peer = peer' := by
  cases birth <;> cases birth' <;> rfl

/-- After the first events a session opens, gets messages and closes, or it closes at once. Any
beginning of the former is in order too. -/
def InOrder (s : SessionId) (peer : Identity) (first events : List ChannelEvent) : Prop :=
  (∃ (data : List Bytes) (reason : CloseReason),
    events <+: first ++ .connected s peer :: data.map (.message s) ++ [.closed s reason]) ∨
  ∃ reason, events = first ++ [.closed s reason]

theorem Reports.inOrder {b : Mark} {events : List ChannelEvent} (reports : Reports s b l events)
    (birth : Birth s b peer l') : InOrder s peer (reported s [b]) events := by
  cases reports with
  | early _ => exact .inl ⟨[], .byPeer, by rw [List.append_assoc]; exact List.prefix_append ..⟩
  | opened birth' data =>
      obtain rfl := birth.unique birth'
      exact .inl ⟨data, .byPeer, List.prefix_append ..⟩
  | endedEarly reason =>
      cases reason with
      | none => exact .inl ⟨[], .byPeer, by simp [List.append_assoc]⟩
      | some reason => exact .inr ⟨reason, rfl⟩
  | ended birth' data reason =>
      obtain rfl := birth.unique birth'
      cases reason with
      | none => exact .inl ⟨data, .byPeer, by simp⟩
      | some reason => exact .inl ⟨data, reason, List.prefix_rfl⟩

theorem story_birth {b : Mark} (birth : Birth s b peer l) (s' : SessionId) :
    story s' [b] = if s' = s then [b] else [] := by
  have session : b.session? = some s := by cases birth <;> rfl
  by_cases own : s' = s
  · subst own
    simp [story, session]
  · simp [story, session, own, Ne.symm own]

theorem story_wroteMarks (s : SessionId) (n : Nat) (a : FarAct) : story s (wroteMarks n a) = [] := by
  cases a <;> rfl

theorem story_of_turn (turn : Turn n s l marks l') (s' : SessionId) :
    story s' marks = if s' = s then marks else [] := by
  by_cases own : s' = s
  · subst own
    cases turn <;> simp [story, Mark.session?, ChannelEvent.session]
  · cases turn <;> simp [story, Mark.session?, ChannelEvent.session, own, Ne.symm own]

theorem story_noted (silent : story s marks = []) : story s (h ++ marks) = story s h := by
  rw [story_append, silent, List.append_nil]

end StreamTunnel.Endpoint
