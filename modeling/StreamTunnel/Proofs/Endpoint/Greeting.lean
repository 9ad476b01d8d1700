import StreamTunnel.Proofs.Endpoint.Tale

namespace StreamTunnel.Endpoint
open StreamTunnel.Frame

def Greets (b : Bytes) : Prop :=
  ∃ body rest peer port, b = Bytes.big 4 body.length ++ body ++ rest ∧ body.length ≤ maxBody ∧
    Frame.ofBody body = .ok (.hello peer port)

variable {o o' : Outline} {h h' marks : List Mark} {n m : Nat} {s : SessionId} {l l' : Line}
  {peer : Identity}

theorem greets_of_decode {b : Bytes} {r : Reader} {port : UInt32}
    (hello : (Reader.feed {} b).decode = (.frame (.hello peer port), r)) : Greets b := by
  have poll := Reader.poll_iff.mpr hello
  generalize frame : Decoded.frame (.hello peer port) = d at poll
  generalize fresh : Reader.feed {} b = r₀ at poll
  cases poll with
  | starved | headless | headed | refused => cases frame
  | body => cases fresh
  | @whole buffer head mid front rest cut small cut' =>
      obtain rfl : b = buffer := congrArg Reader.buffer fresh
      obtain ⟨four, rfl⟩ := Bytes.eq_append_of_split? cut
      obtain ⟨size, rfl⟩ := Bytes.eq_append_of_split? cut'
      have read : Frame.ofBody front = .ok (.hello peer port) := by
        unfold Decoded.ofBody at frame
        split at frame <;> cases frame
        assumption
      refine ⟨front, rest, peer, port, ?_, by rw [size]; exact small, read⟩
      rw [size, ← four, Bytes.big_ofBig, List.append_assoc]

theorem Greets.append {b : Bytes} (greets : Greets b) (later : Bytes) : Greets (b ++ later) := by
  obtain ⟨body, rest, peer, port, rfl, small, read⟩ := greets
  exact ⟨body, rest ++ later, peer, port, by simp, small, read⟩

def Unread (b : Bytes) (r : Reader) : Prop :=
  ∀ later, (r.feed later).decode = (Reader.feed {} (b ++ later)).decode

/-- What a history says of connection `n`. -/
structure Greeted (n : Nat) (h : List Mark) (o : Outline) : Prop where
  greeting : ∀ {unread isCut}, o.line n = some (.greeting unread isCut) →
    isCut = false ∧ Unread (written n h) unread ∧ .inbound n ∈ h
  dialed : ∀ {s peer port}, .event n (.incoming s peer port) ∈ h → .inbound n ∈ h
  begun : .inbound n ∈ h → (∃ l s, o.line n = some l ∧ l.session? = some s) ∨
    (∃ ev, .event n ev ∈ h) → Greets (written n h)
  beyond : o.line n = none → ∀ m ∈ h, m.connection? ≠ some n

theorem written_eq_nil (absent : ∀ m ∈ h, m.connection? ≠ some n) : written n h = [] := by
  rw [written, List.flatMap_eq_nil_iff]
  intro m mem
  cases m with
  | wrote k b =>
      have other : k ≠ n := by simpa [Mark.connection?] using absent _ mem
      exact if_neg other
  | _ => rfl

theorem Greets.later (greets : Greets (written n h)) (marks : List Mark) :
    Greets (written n (h ++ marks)) := by
  rw [written_append]
  exact greets.append _

theorem Greeted.keep (greeted : Greeted n h o) (line : o'.line n = o.line n)
    (elsewhere : ∀ m ∈ marks, m.connection? ≠ some n) : Greeted n (h ++ marks) o' := by
  have before {m : Mark} (mem : m ∈ h ++ marks) (mine : m.connection? = some n) : m ∈ h := by
    rcases List.mem_append.mp mem with mem | mem
    · exact mem
    · exact absurd mine (elsewhere m mem)
  constructor
  · intro unread isCut there
    rw [written_append, written_eq_nil elsewhere, List.append_nil]
    obtain ⟨whole, reads, came⟩ := greeted.greeting (line ▸ there)
    exact ⟨whole, reads, List.mem_append_left _ came⟩
  · intro s peer port told
    exact List.mem_append_left _ (greeted.dialed (before told rfl))
  · rintro came (held | ⟨ev, told⟩)
    · exact (greeted.begun (before came rfl) (.inl (line ▸ held))).later marks
    · exact (greeted.begun (before came rfl) (.inr ⟨ev, before told rfl⟩)).later marks
  · intro gone m mem
    rcases List.mem_append.mp mem with mem | mem
    · exact greeted.beyond (line ▸ gone) m mem
    · exact elsewhere m mem

def said : FarAct → Bytes
  | .write b => b
  | _ => []

theorem written_wroteMarks (n : Nat) (a : FarAct) : written n (wroteMarks n a) = said a := by
  cases a <;> simp [written, wroteMarks, said, Mark.writtenOn]

theorem heardBy_eq_feed (r : Reader) (a : FarAct) : heardBy r false a = r.feed (said a) := by
  cases a with
  | write b => rfl
  | halfClose | close | reset => exact (Reader.feed_nil r).symm

theorem Greeted.own (greeted : Greeted n h o) (line : o'.line n = some l')
    (unread : ∀ r isCut, l' = .greeting r isCut →
      isCut = false ∧ Unread (written n (h ++ marks)) r ∧ .inbound n ∈ h ++ marks)
    (dialed : ∀ s peer port, .event n (.incoming s peer port) ∈ marks → .inbound n ∈ h)
    (begun : .inbound n ∈ h → l'.session?.isSome ∨ (∃ ev, .event n ev ∈ marks) →
      Greets (written n (h ++ marks)))
    (first : .inbound n ∈ marks → l'.session? = none ∧ (∀ ev, .event n ev ∉ marks) ∧
      o.line n = none) : Greeted n (h ++ marks) o' := by
  constructor
  · intro r isCut there
    rw [line, Option.some.injEq] at there
    exact unread r isCut there
  · intro s peer port told
    rcases List.mem_append.mp told with told | told
    · exact List.mem_append_left _ (greeted.dialed told)
    · exact List.mem_append_left _ (dialed s peer port told)
  · intro came shown
    have shown' : l'.session?.isSome ∨ (∃ ev, .event n ev ∈ marks) ∨ ∃ ev, .event n ev ∈ h := by
      rcases shown with ⟨l, s, there, session⟩ | ⟨ev, told⟩
      · rw [line, Option.some.injEq] at there
        exact .inl (by rw [there, session]; rfl)
      · rcases List.mem_append.mp told with told | told
        · exact .inr (.inr ⟨ev, told⟩)
        · exact .inr (.inl ⟨ev, told⟩)
    rcases List.mem_append.mp came with came | came
    · rcases shown' with held | new | earlier
      · exact begun came (.inl held)
      · exact begun came (.inr new)
      · exact (greeted.begun came (.inr earlier)).later marks
    · obtain ⟨none, quiet, gone⟩ := first came
      rcases shown' with held | ⟨ev, told⟩ | ⟨ev, told⟩
      · rw [none] at held
        cases held
      · exact absurd told (quiet ev)
      · exact absurd rfl (greeted.beyond gone _ told)
  · intro gone
    rw [line] at gone
    cases gone

theorem connection_of_turn (turn : Turn n s l marks l') :
    ∀ k ∈ marks, k.connection? = some n ∨ k.connection? = none := by
  cases turn <;> simp [Mark.connection?]

theorem not_inbound_of_turn (turn : Turn n s l marks l') : .inbound m ∉ marks := by
  cases turn <;> simp

theorem Unread.feed {b : Bytes} {r r' : Reader} (reads : Unread b r) (piece : Bytes)
    (short : (r.feed piece).decode = (.more, r')) : Unread (b ++ piece) r' := by
  intro later
  rw [← Reader.decode_feed_of_more short, Reader.feed_feed, reads, List.append_assoc]

theorem Greeted.change (greeted : Greeted n h o) (bounded : o.line o.size = none)
    (change : Change o marks o') : Greeted n (h ++ marks) o' := by
  cases change with
  | accepted s | closedNothing => exact greeted.keep rfl (by simp [Mark.connection?])
  | @wrote m l b there past =>
      by_cases own : m = n
      · subst own
        apply greeted.own there
        · rintro r isCut rfl
          cases past
        · simp
        · rintro came (held | ⟨ev, told⟩)
          · obtain ⟨s, session⟩ := Option.isSome_iff_exists.mp held
            exact (greeted.begun came (.inl ⟨l, s, there, session⟩)).later _
          · simp at told
        · simp
      · exact greeted.keep rfl (by simp [Mark.connection?, own])
  | inbound =>
      by_cases own : o.size = n
      · subst own
        apply greeted.own (Function.update_self ..)
        · rintro r isCut ⟨⟩
          rw [written_append, written_eq_nil (greeted.beyond bounded)]
          exact ⟨rfl, fun later => rfl, by simp⟩
        · simp
        · simp [Line.session?]
        · intro _
          exact ⟨rfl, by simp, bounded⟩
      · apply greeted.keep (Function.update_of_ne (Ne.symm own) ..)
        simp [Mark.connection?, own]
  | @waited m unread r isCut b there short =>
      by_cases own : m = n
      · subst own
        obtain ⟨rfl, reads, came⟩ := greeted.greeting there
        apply greeted.own (Function.update_self ..)
        · rintro r' isCut ⟨⟩
          rw [written_append]
          have wrote := written_wroteMarks m (.write b)
          rw [wroteMarks] at wrote
          rw [wrote]
          exact ⟨rfl, reads.feed b short, List.mem_append_left _ came⟩
        · simp
        · simp [Line.session?]
        · simp
      · apply greeted.keep (Function.update_of_ne (Ne.symm own) ..)
        simp [Mark.connection?, own]
  | @dropped m unread isCut there =>
      by_cases own : m = n
      · subst own
        apply greeted.own (Function.update_self ..)
        · rintro r isCut ⟨⟩
        · simp
        · simp [Line.session?]
        · simp
      · exact greeted.keep (Function.update_of_ne (Ne.symm own) ..) (by simp)
  | connect peer =>
      by_cases own : o.size = n
      · subst own
        apply greeted.own (Function.update_self ..)
        · rintro r isCut ⟨⟩
        · simp
        · intro came _
          exact absurd rfl (greeted.beyond bounded _ came)
        · simp
      · apply greeted.keep (Function.update_of_ne (Ne.symm own) ..)
        simp [Mark.connection?, own]
  | @announced m unread r isCut peer port a there hello =>
      by_cases own : m = n
      · subst own
        obtain ⟨rfl, reads, came⟩ := greeted.greeting there
        have greets : Greets (written m (h ++ wroteMarks m a)) := by
          rw [written_append, written_wroteMarks]
          rw [heardBy_eq_feed, reads] at hello
          exact greets_of_decode hello
        apply greeted.own (Function.update_self ..)
        · rintro r isCut ⟨⟩
        · exact fun _ _ _ _ => came
        · intro _ _
          rw [← List.append_assoc]
          exact greets.later _
        · cases a <;> simp [wroteMarks]
      · apply greeted.keep (Function.update_of_ne (Ne.symm own) ..)
        cases a <;> simp [wroteMarks, Mark.connection?, own]
  | @turned m s l l' marks carries turn =>
      by_cases own : m = n
      · subst own
        apply greeted.own (Function.update_self ..)
        · rintro r isCut rfl
          cases turn
        · intro s' peer port told
          cases turn <;> simp at told
        · intro came _
          exact (greeted.begun came (.inl ⟨l, s, carries.line, carries.session⟩)).later _
        · intro came
          exact absurd came (not_inbound_of_turn turn)
      · apply greeted.keep (Function.update_of_ne (Ne.symm own) ..)
        intro k mem
        rcases connection_of_turn turn k mem with on | nowhere
        · rw [on]
          simpa using own
        · rw [nowhere]
          simp

end StreamTunnel.Endpoint
