import StreamTunnel.Proofs.Endpoint.Kept
import StreamTunnel.Proofs.Endpoint.Steps

namespace StreamTunnel.Endpoint

theorem slot_close (e : Endpoint) (s : SessionId) (reason : String) :
    (e.close s reason).slots.get? s = none ∧ (e.close s reason).events = e.events := by
  unfold close
  cases known : e.slots.get? s with
  | none => exact ⟨known, rfl⟩
  | some slot =>
      have erased : (e.slots.erase s).get? s = none := by
        rw [Table.get?_erase, if_pos rfl]
      dsimp only
      split <;> exact ⟨erased, rfl⟩

end StreamTunnel.Endpoint

namespace StreamTunnel.EndpointRun
open Endpoint

variable {x : EndpointRun} {s : SessionId}

theorem run_append (x : EndpointRun) (earlier later : List EndpointAct) :
    x.run (earlier ++ later) = (x.run earlier).run later :=
  List.foldl_append ..

theorem history_run (x : EndpointRun) (acts : List EndpointAct) :
    ∃ later, (x.run acts).history = x.history ++ later := by
  induction acts generalizing x with
  | nil => exact ⟨[], (List.append_nil _).symm⟩
  | cons a rest ih =>
      obtain ⟨later, grown⟩ := ih (x.step a)
      have first : (x.step a).history = x.history ++ _ := List.append_assoc ..
      rw [first, List.append_assoc] at grown
      exact ⟨_, grown⟩

theorem few_of_run (acts : List EndpointAct)
    (few : (made (x.run acts).history).length ≤ UInt64.size) :
    (made x.history).length ≤ UInt64.size := by
  obtain ⟨later, grown⟩ := history_run x acts
  rw [grown] at few
  exact few_of_append few

theorem kept_step {a : EndpointAct} (kept : Kept x.history x.endpoint.outline)
    (few : (made (x.step a).history).length ≤ UInt64.size) :
    ∃ marks, (x.step a).history = x.history ++ marks ∧
      Changes x.endpoint.outline marks (x.step a).endpoint.outline ∧
      Kept (x.step a).history (x.step a).endpoint.outline := by
  have changes := perform_changes kept.sound a
  have grown : (x.step a).history = x.history ++ (x.endpoint.marks a ++
      ((x.endpoint.perform a).events.drop x.endpoint.events.length).map
        (.event (x.endpoint.reporting a))) := List.append_assoc ..
  rw [grown] at few ⊢
  exact ⟨_, rfl, changes, kept.changes changes few⟩

theorem kept_run (kept : Kept x.history x.endpoint.outline) (acts : List EndpointAct)
    (few : (made (x.run acts).history).length ≤ UInt64.size) :
    ∃ marks, (x.run acts).history = x.history ++ marks ∧
      Changes x.endpoint.outline marks (x.run acts).endpoint.outline ∧
      Kept (x.run acts).history (x.run acts).endpoint.outline := by
  induction acts generalizing x with
  | nil => exact ⟨[], (List.append_nil _).symm, .nil, kept⟩
  | cons a rest ih =>
      have fewer : (made (x.step a).history).length ≤ UInt64.size := few_of_run rest few
      obtain ⟨first, grown, changes, kept₁⟩ := kept_step kept fewer
      obtain ⟨later, grown', changes', kept₂⟩ := ih kept₁ few
      refine ⟨first ++ later, ?_, changes.append changes', kept₂⟩
      rw [← List.append_assoc, ← grown]
      exact grown'

theorem kept_start (settings : EndpointSettings) (bindFault : Option String) :
    Kept (start settings bindFault).history (start settings bindFault).endpoint.outline where
  bounded := fun n _ => rfl
  sound := ⟨(by intro n l s there; cases there), (by intro s n gated known; cases known)⟩
  numbered := ⟨rfl, rfl⟩
  tales := fun s => ⟨none, .unmade, .unmade rfl⟩
  greeted := by
    intro n
    constructor
    · intro unread isCut there
      cases there
    · intro s peer port told
      cases told
    · intro came
      cases came
    · intro _ m mem
      cases mem

theorem reported_of_gone (kept : Kept x.history x.endpoint.outline) (known : s ∈ made x.history)
    (gone : x.endpoint.slots.get? s = none) (later : List EndpointAct)
    (few : (made (x.run later).history).length ≤ UInt64.size) :
    reported s (x.run later).history = reported s x.history := by
  obtain ⟨marks, grown, changes, -⟩ := kept_run kept later few
  have absent : x.endpoint.outline.slot s = none := by simp only [outline, gone, Option.map_none]
  rw [grown] at few ⊢
  obtain ⟨quiet, -⟩ := kept.over_changes known absent changes few
  rw [reported_append, quiet, List.append_nil]

theorem history_close (s : SessionId) (reason : String) :
    (x.step (.close s reason)).history = x.history ++ [.close s] := by
  rw [step, perform, (slot_close x.endpoint s reason).2, List.drop_length, List.map_nil,
    List.append_nil]
  rfl

theorem reported_close (s : SessionId) (reason : String) (kept : Kept x.history x.endpoint.outline)
    (known : s ∈ made x.history) (later : List EndpointAct)
    (few : (made (x.run (.close s reason :: later)).history).length ≤ UInt64.size) :
    reported s (x.run (.close s reason :: later)).history = reported s x.history := by
  have first := history_close (x := x) s reason
  have known' : s ∈ made (x.step (.close s reason)).history := by
    rw [first, made_append]
    exact List.mem_append_left _ known
  obtain ⟨-, -, -, kept'⟩ := kept_step kept (few_of_run later few)
  calc
    reported s (x.run (.close s reason :: later)).history
      = reported s (x.step (.close s reason)).history :=
        reported_of_gone kept' known' (slot_close x.endpoint s reason).1 later few
    _ = reported s x.history := by
        rw [first, reported_append]
        exact List.append_nil _

/-- What the events of each session can be, in every run. No two sessions are the same. One that was
asked for opens or fails; one that came in was announced, opens only after it was accepted, and came
on a connection on which the peer said hello first. Nothing is reported of a session once it was
closed from this side. The numbers of sessions are used up after `UInt64.size` of them. -/
theorem events_follow_grammar (settings : EndpointSettings) (bindFault : Option String)
    (acts : List EndpointAct)
    (few : (made ((start settings bindFault).run acts).history).length ≤ UInt64.size) :
    let h := ((start settings bindFault).run acts).history
    (made h).Nodup ∧
    (∀ n ev, .event n ev ∈ h → ev.session ∈ made h) ∧
    (∀ n s peer, .connect n s peer ∈ h → InOrder s peer [] (reported s h)) ∧
    (∀ n s peer port, .event n (.incoming s peer port) ∈ h →
      InOrder s peer [.incoming s peer port] (reported s h) ∧
      ∀ m peer', .event m (.connected s peer') ∈ h →
        List.Sublist
          [.event n (.incoming s peer port), .accept s, .event m (.connected s peer')] h) ∧
    (∀ earlier s reason later, acts = earlier ++ .close s reason :: later →
      let x := (start settings bindFault).run earlier
      (s ∈ made x.history → reported s h = reported s x.history) ∧
      (x.endpoint.slots.contains s = true → ∀ why, .closed s why ∉ reported s h)) ∧
    (∀ n s peer port, .event n (.incoming s peer port) ∈ h → .inbound n ∈ h) ∧
    (∀ n ev, .inbound n ∈ h → .event n ev ∈ h → Greets (written n h)) := by
  intro h
  obtain ⟨-, -, -, kept⟩ := kept_run (kept_start settings bindFault) acts few
  refine ⟨kept.numbered.nodup few, ?_, ?_, ?_, ?_, ?_, ?_⟩
  · intro n ev told
    exact kept.session_made told
  · intro n s peer asked
    exact kept.inOrder (.connect n peer) asked
  · intro n s peer port came
    refine ⟨?_, fun m peer' opened => kept.admitted came opened⟩
    have order := kept.inOrder (.incoming n peer port) came
    rwa [reported_event, ChannelEvent.session, if_pos rfl] at order
  · rintro earlier s reason later rfl x
    have few' := few
    rw [run_append] at few'
    obtain ⟨-, -, -, kept'⟩ :=
      kept_run (kept_start settings bindFault) earlier (few_of_run _ few')
    have silent : s ∈ made x.history → reported s h = reported s x.history := by
      intro known
      have quiet := reported_close s reason kept' known later few'
      rwa [← run_append] at quiet
    refine ⟨silent, ?_⟩
    intro held why
    have slot : x.endpoint.outline.slot s ≠ none := by
      simpa [outline, Table.contains, Option.isSome_iff_ne_none] using held
    rw [silent (kept'.known slot)]
    exact kept'.not_closed slot why
  · intro n s peer port came
    exact (kept.greeted n).dialed came
  · intro n ev came told
    exact (kept.greeted n).begun came (.inr ⟨ev, told⟩)

theorem events_follow_grammar_two_sessions :
    let acts : List EndpointAct := [.listen, .connect "a" 1 ⟨5⟩, .inbound, .established 0,
      .far 1 (.write (Exchange.frameBytes (.hello "b" 2))),
      .far 0 (.write (Exchange.frameBytes .helloAck)), .accept ⟨2⟩,
      .far 0 (.write (Exchange.frameBytes (.message [7]))), .close ⟨1⟩ "over", .far 1 .close]
    let h := ((start {} none).run acts).history
    (made h).length ≤ UInt64.size ∧ made h = [⟨1⟩, ⟨2⟩] ∧
    InOrder ⟨1⟩ "a" [] (reported ⟨1⟩ h) ∧
    reported ⟨1⟩ h = [.connected ⟨1⟩ "a", .message ⟨1⟩ [7]] ∧
    InOrder ⟨2⟩ "b" [.incoming ⟨2⟩ "b" 2] (reported ⟨2⟩ h) ∧
    reported ⟨2⟩ h = [.incoming ⟨2⟩ "b" 2, .connected ⟨2⟩ "b", .closed ⟨2⟩ .byPeer] ∧
    Greets (written 1 h) := by
  intro acts h
  have sessions : made h = [⟨1⟩, ⟨2⟩] := by decide +kernel
  have few : (made h).length ≤ UInt64.size := by
    rw [sessions]
    decide
  obtain ⟨-, -, asked, came, -, dialed, greets⟩ := events_follow_grammar {} none acts few
  have connect : .connect 0 ⟨1⟩ "a" ∈ h := by decide +kernel
  have incoming : .event 1 (.incoming ⟨2⟩ "b" 2) ∈ h := by decide +kernel
  refine ⟨few, sessions, asked _ _ _ connect, by decide +kernel, (came _ _ _ _ incoming).1,
    by decide +kernel, ?_⟩
  exact greets 1 _ (dialed _ _ _ _ incoming) incoming

end StreamTunnel.EndpointRun
