import StreamTunnel.Proofs.Linked.Strand

namespace StreamTunnel

def Event.breaks (side : Side) : Event → Bool
  | closed side' _ _ => side' = side
  | refused .host _ _ => side = .host
  | _ => false

def Letter.takenAt (side : Side) : Option (Side × Letter) → List Letter
  | some (side', l) => if side' = side then [l] else []
  | none => []

namespace Strand
variable {id : StreamId} {notify : Side → Bool} {label : Option (Side × Letter)} {t t' : Strand}
  {side : Side}

def readAt (side : Side) (t : Strand) : Bytes :=
  (t.stream side).elim [] (t.heardFrom side ·)

def writtenAt (side : Side) (t : Strand) : Bytes :=
  (t.stream side).elim [] (t.queuedTo side ·)

def Unbroken (side : Side) (t : Strand) : Prop :=
  ∀ e ∈ t.log, e.breaks side = false

def Known (t : Strand) : Prop :=
  t.stream .guest = none → t.sent .host = []

theorem Step.writtenAt_eq (h : Step id notify label t t') (unbroken : t'.Unbroken side)
    (known : side = .guest → t.Known) :
    t'.writtenAt side =
      t.writtenAt side ++ (Letter.takenAt side label).flatMap Letter.payload := by
  cases h with
  | idle => simp [Letter.takenAt]
  | @attached _ r mine fresh free =>
      cases side with
      | guest => simp [writtenAt, Letter.takenAt, free, Event.queuedTo, fresh.queuedTo_eq]
      | host => simp [writtenAt, Letter.takenAt, Event.queuedTo]
  | heard => simp [writtenAt, Letter.takenAt, Event.queuedTo]
  | @closed _ side' r there =>
      have elsewhere : side ≠ side' := by
        simpa [Event.breaks, eq_comm] using unbroken (.closed side' r false) (by simp)
      simp [writtenAt, Letter.takenAt, Event.queuedTo, elsewhere]
  | @queued _ side' r payload rest there next =>
      by_cases here : side' = side
      · subst here
        simp [writtenAt, there, Letter.takenAt, Event.queuedTo, Letter.payload]
      · simp [writtenAt, Letter.takenAt, Event.queuedTo, here]
  | @adopted _ r payload rest mine fresh free next =>
      cases side with
      | guest => simp [writtenAt, Letter.takenAt, Event.queuedTo]
      | host =>
          simp [writtenAt, Letter.takenAt, free, Event.queuedTo, Letter.payload, fresh.queuedTo_eq]
  | @refused _ side' payload rest free next =>
      have elsewhere : side' ≠ side := by
        rintro rfl
        cases side' with
        | guest => simp [known rfl free, Side.other] at next
        | host => simpa [Event.breaks] using unbroken (.refused .host id payload) (by simp)
      simp [writtenAt, Letter.takenAt, Event.queuedTo, elsewhere]
  | @told _ side' r rest there next =>
      have elsewhere : side ≠ side' := by
        simpa [Event.breaks, eq_comm] using unbroken (.closed side' r true) (by simp)
      simp [writtenAt, Letter.takenAt, Event.queuedTo, elsewhere, elsewhere.symm]
  | toldAgain => simp [writtenAt, queuedTo, Letter.takenAt, Letter.payload]

theorem rest_of_taken (taker : Side) {l : Letter} {rest : List Letter}
    (next : t.sent taker.other = l :: rest) (side : Side) :
    t.sent side = Letter.takenAt side.other (some (taker, l)) ++
      Function.update t.sent taker.other rest side := by
  by_cases here : side = taker.other
  · subst here
    simp [Letter.takenAt, next]
  · have other : taker ≠ side.other := by rintro rfl; simp at here
    simp [Letter.takenAt, other, here]

theorem Step.sent_eq (h : Step id notify label t t') (side : Side) :
    ∃ rest said, t.sent side = Letter.takenAt side.other label ++ rest ∧
      t'.sent side = rest ++ said ∧
      (t'.Unbroken side → t'.readAt side = t.readAt side ++ said.flatMap Letter.payload) := by
  cases h with
  | idle => exact ⟨t.sent side, [], by simp [Letter.takenAt], by simp, by simp⟩
  | @attached _ r mine fresh free =>
      refine ⟨t.sent side, [], by simp [Letter.takenAt], by simp, ?_⟩
      intro _
      cases side with
      | guest => simp [readAt, free, Event.heardFrom, fresh.heardFrom_eq]
      | host => simp [readAt, Event.heardFrom]
  | @heard _ side' r piece parts there something whole nonempty =>
      by_cases here : side = side'
      · subst here
        refine ⟨t.sent side, parts.map .data, by simp [Letter.takenAt], by simp, ?_⟩
        intro _
        simp [readAt, there, Event.heardFrom, ← whole, List.flatMap_map, Letter.payload]
      · refine ⟨t.sent side, [], by simp [Letter.takenAt], by simp [here], ?_⟩
        intro _
        simp [readAt, Event.heardFrom, Ne.symm here]
  | @closed _ side' r there =>
      by_cases here : side = side'
      · subst here
        refine ⟨t.sent side, _, by simp [Letter.takenAt], Function.update_self .., ?_⟩
        intro unbroken
        simpa [Event.breaks] using unbroken (.closed side r false) (by simp)
      · refine ⟨t.sent side, [], by simp [Letter.takenAt], by simp [here], ?_⟩
        intro _
        simp [readAt, Event.heardFrom, here]
  | queued there next =>
      refine ⟨_, [], rest_of_taken _ next side, (List.append_nil _).symm, ?_⟩
      simp [readAt, Event.heardFrom]
  | adopted mine fresh free next =>
      refine ⟨_, [], rest_of_taken .host next side, (List.append_nil _).symm, ?_⟩
      cases side with
      | guest => simp [readAt, Event.heardFrom]
      | host => simp [readAt, free, Event.heardFrom, fresh.heardFrom_eq]
  | @refused _ taker payload rest free next =>
      by_cases here : side = taker
      · subst here
        refine ⟨_, [.gone], rest_of_taken _ next side, by simp, ?_⟩
        simp [readAt, free, Letter.payload]
      · refine ⟨_, [], rest_of_taken _ next side, by simp [here], ?_⟩
        simp [readAt, Event.heardFrom]
  | @told _ taker r rest there next =>
      refine ⟨_, [], rest_of_taken _ next side, (List.append_nil _).symm, ?_⟩
      intro unbroken
      have elsewhere : side ≠ taker := by
        simpa [Event.breaks, eq_comm] using unbroken (.closed taker r true) (by simp)
      simp [readAt, Event.heardFrom, elsewhere]
  | toldAgain free next =>
      refine ⟨_, [], rest_of_taken _ next side, (List.append_nil _).symm, ?_⟩
      simp [readAt, heardFrom]

theorem Step.log_eq (h : Step id notify label t t') : ∃ events, t'.log = t.log ++ events := by
  cases h with
  | idle => exact ⟨[], (List.append_nil _).symm⟩
  | toldAgain => exact ⟨[], (List.append_nil _).symm⟩
  | _ => exact ⟨_, rfl⟩

theorem Step.unbroken_of (h : Step id notify label t t') (unbroken : t'.Unbroken side) :
    t.Unbroken side := by
  obtain ⟨events, log⟩ := h.log_eq
  intro e mem
  exact unbroken e (by rw [log]; exact List.mem_append_left _ mem)

structure Quiet (t : Strand) : Prop where
  no_gone : ∀ side, .gone ∉ t.sent side
  no_guest : t.stream .guest = none → t.stream .host = none ∧ t.sent .guest = []
  no_host : t.stream .host = none → t.sent .host = []

theorem Quiet.known (quiet : t.Quiet) : t.Known :=
  fun free => quiet.no_host (quiet.no_guest free).1

theorem Step.quiet (h : Step id notify label t t') (quiet : t.Quiet)
    (whole : ∀ side, t'.Unbroken side) : t'.Quiet := by
  obtain ⟨no_gone, no_guest, no_host⟩ := quiet
  cases h with
  | idle => exact ⟨no_gone, no_guest, no_host⟩
  | attached mine fresh free => exact ⟨no_gone, by simp, no_host⟩
  | @heard _ side r piece parts there something whole nonempty =>
      refine ⟨?_, ?_, ?_⟩
      · intro x
        have old := no_gone x
        by_cases here : x = side <;> simp_all
      · intro free
        cases side <;> simp_all
      · intro free
        cases side <;> simp_all
  | @closed _ side r there =>
      have := whole side (.closed side r false) (by simp)
      simp [Event.breaks] at this
  | @told _ side r rest there next =>
      have := whole side (.closed side r true) (by simp)
      simp [Event.breaks] at this
  | @toldAgain _ side rest free next =>
      exact absurd (next ▸ List.mem_cons_self) (no_gone side.other)
  | @refused _ side payload rest free next =>
      cases side with
      | host =>
          have := whole .host (.refused .host id payload) (by simp)
          simp [Event.breaks] at this
      | guest => simp [Side.other, no_host (no_guest free).1] at next
  | @queued _ side r payload rest there next =>
      refine ⟨?_, ?_, ?_⟩
      · intro x
        have old := no_gone x
        by_cases here : x = side.other <;> simp_all
      · intro free
        cases side <;> simp_all [Side.other]
      · intro free
        cases side <;> simp_all [Side.other]
  | @adopted _ r payload rest mine fresh free next =>
      refine ⟨?_, ?_, by simp⟩
      · intro x
        have old := no_gone x
        cases x <;> simp_all
      · intro away
        simp [(no_guest away).2] at next

def Balanced (t : Strand) : Prop :=
  ∀ side, t.readAt side = t.writtenAt side.other ++ (t.sent side).flatMap Letter.payload

theorem Step.balanced (h : Step id notify label t t') (balanced : t.Balanced) (known : t.Known)
    (whole : ∀ side, t'.Unbroken side) : t'.Balanced := by
  intro side
  obtain ⟨rest, said, before, after, read⟩ := h.sent_eq side
  have old := balanced side
  rw [before, List.flatMap_append, ← List.append_assoc,
    ← h.writtenAt_eq (whole side.other) (fun _ => known)] at old
  rw [read (whole side), old, after, List.flatMap_append, List.append_assoc]

theorem Step.stream_of_some {r : StreamRef} (h : Step id notify label t t')
    (unbroken : t'.Unbroken side) (there : t.stream side = some r) : t'.stream side = some r := by
  cases h with
  | attached mine fresh free =>
      have elsewhere : side ≠ .guest := by rintro rfl; simp [free] at there
      simpa [elsewhere] using there
  | adopted mine fresh free next =>
      have elsewhere : side ≠ .host := by rintro rfl; simp [free] at there
      simpa [elsewhere] using there
  | @closed _ side' r' there' =>
      have elsewhere : side ≠ side' := by
        simpa [Event.breaks, eq_comm] using unbroken (.closed side' r' false) (by simp)
      simpa [elsewhere] using there
  | @told _ side' r' rest there' next =>
      have elsewhere : side ≠ side' := by
        simpa [Event.breaks, eq_comm] using unbroken (.closed side' r' true) (by simp)
      simpa [elsewhere] using there
  | _ => exact there

def Past (side : Side) (r : StreamRef) (t : Strand) : Prop :=
  t.stream side ≠ some r ∧ .opened side r ∈ t.log

theorem Step.past {r : StreamRef} (h : Step id notify label t t') (past : t.Past side r) :
    t'.Past side r ∧ t'.heardFrom side r = t.heardFrom side r := by
  obtain ⟨shut, known⟩ := past
  have elsewhere {r' : StreamRef} (fresh : t.Fresh r') : r' ≠ r := by
    rintro rfl
    exact fresh _ known side r' rfl rfl
  cases h with
  | attached mine fresh free =>
      have := elsewhere fresh
      refine ⟨⟨?_, by simp [known]⟩, by simp [Event.heardFrom]⟩
      cases side <;> simp_all
  | adopted mine fresh free next =>
      have := elsewhere fresh
      refine ⟨⟨?_, by simp [known]⟩, by simp [Event.heardFrom]⟩
      cases side <;> simp_all
  | @heard _ side' r' piece parts there something whole nonempty =>
      refine ⟨⟨shut, by simp [known]⟩, ?_⟩
      have other : ¬ (side' = side ∧ r' = r) := by
        rintro ⟨rfl, rfl⟩
        exact shut there
      simp [Event.heardFrom, other]
  | @closed _ side' r' there =>
      refine ⟨⟨?_, by simp [known]⟩, by simp [Event.heardFrom]⟩
      by_cases here : side = side' <;> simp_all
  | @told _ side' r' rest there next =>
      refine ⟨⟨?_, by simp [known]⟩, by simp [Event.heardFrom]⟩
      by_cases here : side = side' <;> simp_all
  | idle => exact ⟨⟨shut, known⟩, rfl⟩
  | toldAgain => exact ⟨⟨shut, known⟩, rfl⟩
  | _ => exact ⟨⟨shut, by simp [known]⟩, by simp [Event.heardFrom]⟩

end Strand

namespace LinkedPair

variable {settings : Side → MuxSettings}

theorem strand_balance (settings : Side → MuxSettings) (port : Nat) (moves : List Move)
    (id : StreamId) (whole : ∀ side, (((start settings port).run moves).strand id).Unbroken side) :
    (((start settings port).run moves).strand id).Quiet ∧
      (((start settings port).run moves).strand id).Balanced := by
  revert whole
  apply strand_run fun t => (∀ side, t.Unbroken side) → t.Quiet ∧ t.Balanced
  · intro _
    exact ⟨⟨by simp, by simp, by simp⟩, fun side => rfl⟩
  · intro label t t' h kept whole
    obtain ⟨quiet, balanced⟩ := kept (fun side => h.unbroken_of (whole side))
    exact ⟨h.quiet quiet whole, h.balanced balanced quiet.known whole⟩

end LinkedPair
end StreamTunnel
