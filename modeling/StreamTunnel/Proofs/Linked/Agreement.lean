import StreamTunnel.Proofs.Linked.Strand

namespace StreamTunnel

namespace Letter

def isData : Letter → Bool
  | data _ => true
  | gone => false

def isGone (l : Letter) : Bool :=
  !l.isData

/-- After each letter of the first kind comes one of the second. -/
def Followed (first second : Letter → Bool) : List Letter → Prop
  | [] => True
  | l :: rest => (first l → rest.any second) ∧ Followed first second rest

theorem Followed.append {first second : Letter → Bool} {said : List Letter}
    (last : Followed first second said) (any : said.any second) (letters : List Letter) :
    Followed first second (letters ++ said) := by
  induction letters with
  | nil => exact last
  | cons l rest ih =>
      refine ⟨?_, ih⟩
      intro _
      simp only [List.append_eq, List.any_append, any, Bool.or_true]

theorem followed_of_forall {first : Letter → Bool} (second : Letter → Bool) {letters : List Letter}
    (none_first : ∀ l ∈ letters, first l = false) : Followed first second letters := by
  induction letters with
  | nil => trivial
  | cons l rest ih =>
      refine ⟨?_, ih (fun l' mem => none_first l' (List.mem_cons_of_mem _ mem))⟩
      simp [none_first l List.mem_cons_self]

end Letter

def Event.ending (side : Side) (last : Option Bool) : Event → Option Bool
  | opened side' _ => if side' = side then none else last
  | closed side' _ told => if side' = side then some told else last
  | _ => last

namespace Strand
open Letter

variable {id : StreamId} {notify : Side → Bool} {label : Option (Side × Letter)} {t t' : Strand}

def ending (side : Side) (t : Strand) : Option Bool :=
  t.log.foldl (Event.ending side) none

@[simp] theorem ending_append (stream : Side → Option StreamRef) (sent : Side → List Letter)
    (events : List Event) (side : Side) : (⟨stream, sent, t.log ++ events⟩ : Strand).ending side =
      events.foldl (Event.ending side) (t.ending side) := by
  simp [ending]

/-- The guest has no stream, and the host is about to hear of it. -/
def Leaving (t : Strand) : Prop :=
  Followed isData isGone (t.sent .guest) ∧
    (t.stream .host ≠ none → (t.sent .guest).any isGone)

/-- The guest has its stream, or was told that it is over, or is about to tell so. -/
structure Owned (t : Strand) : Prop where
  live : t.stream .guest ≠ none → t.ending .guest = none
  known : t.stream .guest = none → t.ending .guest ≠ some true → t.Leaving

theorem Leaving.said {stream : Side → Option StreamRef} {sent : Side → List Letter}
    {log : List Event} (letters : List Letter) (last : sent .guest = letters ++ [.gone]) :
    Leaving ⟨stream, sent, log⟩ := by
  constructor
  · simp only [last]
    exact (followed_of_forall isGone (by simp [isData])).append (by simp [isGone, isData]) letters
  · intro _
    simp [last, isGone, isData]

theorem Leaving.taken (leaving : t.Leaving) {l : Letter} {rest : List Letter}
    (next : t.sent .guest = l :: rest) {stream : Side → Option StreamRef}
    {sent : Side → List Letter} (log : List Event) (left : sent .guest = rest)
    (here : stream .host ≠ none → l.isData) : Leaving ⟨stream, sent, log⟩ := by
  obtain ⟨followed, -⟩ := leaving
  rw [next] at followed
  constructor
  · simp only [left]
    exact followed.2
  · intro there
    simp only [left]
    exact followed.1 (here there)

theorem Owned.keep (owned : t.Owned) {stream : Side → Option StreamRef}
    {sent : Side → List Letter} {events : List Event} (same : stream .guest = t.stream .guest)
    (still : events.foldl (Event.ending .guest) (t.ending .guest) = t.ending .guest)
    (leaving : t.stream .guest = none → t.Leaving → Leaving ⟨stream, sent, t.log ++ events⟩) :
    Owned ⟨stream, sent, t.log ++ events⟩ := by
  constructor
  · intro there
    rw [ending_append, still]
    exact owned.live (same ▸ there)
  · intro free not_told
    rw [ending_append, still] at not_told
    have away : t.stream .guest = none := same ▸ free
    exact leaving away (owned.known away not_told)

theorem Step.owned (h : Step id notify label t t') (notifies : notify .guest = true)
    (owned : t.Owned) : t'.Owned := by
  cases h with
  | idle => exact owned
  | attached mine fresh free => exact ⟨by simp [Event.ending], by simp⟩
  | @heard _ side r piece parts there something whole nonempty =>
      refine owned.keep rfl (by simp [Event.ending]) ?_
      intro away leaving
      cases side with
      | guest => simp [there] at away
      | host => simpa [Leaving] using leaving
  | @closed _ side r there =>
      cases side with
      | guest =>
          refine ⟨by simp, ?_⟩
          intro _ _
          exact Leaving.said (t.sent .guest) (by simp [notifies])
      | host =>
          refine owned.keep (by simp) (by simp [Event.ending]) ?_
          intro _ leaving
          exact ⟨by simpa using leaving.1, by simp⟩
  | @queued _ side r payload rest there next =>
      refine owned.keep rfl (by simp [Event.ending]) ?_
      intro away leaving
      cases side with
      | guest => simp [there] at away
      | host => exact leaving.taken next _ (Function.update_self ..) (fun _ => rfl)
  | adopted mine fresh free next =>
      refine owned.keep (by simp) (by simp [Event.ending]) ?_
      intro _ leaving
      exact leaving.taken next _ (Function.update_self ..) (fun _ => rfl)
  | @refused _ side payload rest free next =>
      refine owned.keep rfl (by simp [Event.ending]) ?_
      intro _ leaving
      cases side with
      | guest => exact Leaving.said _ (Function.update_self ..)
      | host => exact leaving.taken next _ (by simp [Side.other]) (fun _ => rfl)
  | @told _ side r rest there next =>
      cases side with
      | guest =>
          refine ⟨by simp, ?_⟩
          intro _ not_told
          simp [Event.ending] at not_told
      | host =>
          refine owned.keep (by simp) (by simp [Event.ending]) ?_
          intro _ leaving
          exact leaving.taken next _ (Function.update_self ..) (by simp)
  | @toldAgain _ side rest free next =>
      rw [← List.append_nil t.log]
      refine owned.keep rfl rfl ?_
      intro _ leaving
      cases side with
      | guest => simpa [Leaving, Side.other] using leaving
      | host => exact leaving.taken next _ (Function.update_self ..) (absurd free)

/-- What the guest has sent is at the host or gets there, or is answered. -/
def Heeded (t : Strand) : Prop :=
  Followed isGone isData (t.sent .guest) ∧
    (t.stream .host ≠ none ∨ (t.sent .guest).any isData ∨ (t.sent .host).any isGone)

def Served (t : Strand) : Prop :=
  ∀ r, t.stream .guest = some r → t.heardFrom .guest r ≠ [] → t.Heeded

theorem Heeded.taken (heeded : t.Heeded) {l : Letter} {rest : List Letter}
    (next : t.sent .guest = l :: rest) {stream : Side → Option StreamRef}
    {sent : Side → List Letter} (log : List Event) (left : sent .guest = rest)
    (here : l.isData → stream .host ≠ none ∨ (sent .host).any isGone) :
    Heeded ⟨stream, sent, log⟩ := by
  obtain ⟨followed, -⟩ := heeded
  rw [next] at followed
  simp only [Heeded, left]
  refine ⟨followed.2, ?_⟩
  cases l with
  | data payload =>
      rcases here rfl with there | answered
      · exact .inl there
      · exact .inr (.inr answered)
  | gone => exact .inr (.inl (followed.1 rfl))

theorem Served.keep (served : t.Served) {stream : Side → Option StreamRef}
    {sent : Side → List Letter} {events : List Event} (same : stream .guest = t.stream .guest)
    (quiet : ∀ r, events.flatMap (·.heardFrom .guest r) = [])
    (heeded : t.stream .guest ≠ none → t.Heeded → Heeded ⟨stream, sent, t.log ++ events⟩) :
    Served ⟨stream, sent, t.log ++ events⟩ := by
  intro r there said
  rw [heardFrom_append, quiet r, List.append_nil] at said
  have now : t.stream .guest = some r := same ▸ there
  exact heeded (by simp [now]) (served r now said)

theorem Step.served (h : Step id notify label t t') (notifies : notify .host = true)
    (served : t.Served) : t'.Served := by
  cases h with
  | idle => exact served
  | @attached _ r mine fresh free =>
      intro r' now said
      obtain rfl : r = r' := by simpa using now
      simp [Event.heardFrom, fresh.heardFrom_eq] at said
  | @heard _ side r piece parts there something whole nonempty =>
      cases side with
      | host =>
          refine served.keep rfl (by simp [Event.heardFrom]) ?_
          intro _ heeded
          obtain ⟨followed, heard⟩ := heeded
          refine ⟨by simpa using followed, ?_⟩
          rcases heard with here | coming | answered
          · exact .inl here
          · exact .inr (.inl (by simpa using coming))
          · simp [answered]
      | guest =>
          intro _ _ _
          have fed : (parts.map Letter.data).any isData := by
            cases parts with
            | nil => exact absurd whole.symm something
            | cons part parts => rfl
          simp only [Heeded, Function.update_self]
          refine ⟨(followed_of_forall isData ?_).append fed _, .inr (.inl ?_)⟩
          · simp [isGone, isData]
          · rw [List.any_append, fed, Bool.or_true]
  | @closed _ side r there =>
      cases side with
      | guest =>
          intro r' now
          simp at now
      | host =>
          refine served.keep (by simp) (by simp [Event.heardFrom]) ?_
          intro _ heeded
          exact ⟨by simpa using heeded.1, .inr (.inr (by simp [notifies, isGone, isData]))⟩
  | @queued _ side r payload rest there next =>
      refine served.keep rfl (by simp [Event.heardFrom]) ?_
      intro _ heeded
      cases side with
      | guest =>
          simp only [Side.other] at next ⊢
          rw [Heeded, next] at heeded
          simpa [Heeded, isGone, isData] using heeded
      | host => exact heeded.taken next _ (Function.update_self ..) (fun _ => .inl (by simp [there]))
  | adopted mine fresh free next =>
      refine served.keep (by simp) (by simp [Event.heardFrom]) ?_
      intro _ heeded
      exact heeded.taken next _ (Function.update_self ..) (fun _ => .inl (by simp))
  | @refused _ side payload rest free next =>
      refine served.keep rfl (by simp [Event.heardFrom]) ?_
      intro there heeded
      cases side with
      | guest => exact absurd free there
      | host =>
          exact heeded.taken next _ (by simp [Side.other])
            (fun _ => .inr (by simp [isGone, isData]))
  | @told _ side r rest there next =>
      cases side with
      | guest =>
          intro r' now
          simp at now
      | host =>
          refine served.keep (by simp) (by simp [Event.heardFrom]) ?_
          intro _ heeded
          exact heeded.taken next _ (Function.update_self ..) (by simp [isData])
  | @toldAgain _ side rest free next =>
      rw [← List.append_nil t.log]
      refine served.keep rfl (by simp) ?_
      intro there heeded
      cases side with
      | guest => exact absurd free there
      | host => exact heeded.taken next _ (Function.update_self ..) (by simp [isData])

end Strand

namespace LinkedPair

def ending (side : Side) (id : StreamId) (s : LinkedPair) : Option Bool :=
  (s.log.filter (·.id = id)).foldl (Event.ending side) none

theorem any_isGone {letters : List Letter} : letters.any Letter.isGone ↔ .gone ∈ letters := by
  rw [List.any_eq_true]
  constructor
  · rintro ⟨l, mem, gone⟩
    cases l with
    | data b => simp [Letter.isGone, Letter.isData] at gone
    | gone => exact mem
  · exact fun mem => ⟨_, mem, rfl⟩

theorem any_isData {letters : List Letter} :
    letters.any Letter.isData ↔ ∃ b, .data b ∈ letters := by
  rw [List.any_eq_true]
  constructor
  · rintro ⟨l, mem, data⟩
    cases l with
    | data b => exact ⟨b, mem⟩
    | gone => simp [Letter.isData] at data
  · rintro ⟨b, mem⟩
    exact ⟨_, mem, rfl⟩

/-- A stream of the host is the guest's too, or the guest has said that it is over, unless the
guest's own stream was ended by a word of the host. -/
theorem host_stream_owned (settings : Side → MuxSettings) (port : Nat) (moves : List Move)
    (notify : (settings .guest).notifyPeer = true) (id : StreamId) :
    let s := (start settings port).run moves
    (s.stream .host id ≠ none → s.stream .guest id ≠ none ∨ s.ending .guest id = some true ∨
      .gone ∈ letters id (s.sent .guest)) ∧
      (s.sent .guest = [] → s.stream .host id ≠ none →
        (s.stream .guest id = none ↔ s.ending .guest id = some true)) := by
  intro s
  obtain ⟨live, known⟩ : (s.strand id).Owned := by
    apply strand_run Strand.Owned _ (fun _ _ _ h => h.owned notify)
    exact ⟨by simp, fun _ _ => ⟨trivial, by simp⟩⟩
  have now : s.stream .host id ≠ none → s.stream .guest id ≠ none ∨
      s.ending .guest id = some true ∨ .gone ∈ letters id (s.sent .guest) := by
    intro there
    by_cases guest : s.stream .guest id = none
    · by_cases told : s.ending .guest id = some true
      · exact .inr (.inl told)
      · exact .inr (.inr (any_isGone.mp ((known guest told).2 there)))
    · exact .inl guest
  refine ⟨now, ?_⟩
  intro empty there
  constructor
  · intro guest
    rcases now there with own | told | coming
    · exact absurd guest own
    · exact told
    · simp [empty, letters] at coming
  · intro told
    by_contra guest
    have still : s.ending .guest id = none := live guest
    simp [still] at told

theorem host_stream_owned_redial :
    let id := StreamId.ofNat 7
    let s := redial id
    s.sent .guest = [] ∧ s.stream .host id ≠ none ∧
      (s.stream .guest id = none ↔ s.ending .guest id = some true) := by
  intro id s
  have empty : s.sent .guest = [] := by decide
  have there : s.stream .host id ≠ none := by decide
  exact ⟨empty, there, (host_stream_owned _ 80 _ rfl id).2 empty there⟩

theorem orphan_redial :
    let s := redial (StreamId.ofNat 7)
    s.sent .guest = [] ∧ s.sent .host = [] ∧
      s.stream .host (StreamId.ofNat 7) = some ⟨StreamId.ofNat 7, .service 7⟩ ∧
      s.stream .guest (StreamId.ofNat 7) = none := by
  decide

/-- A stream of the guest from which something was read is at the host, or data for it is under
way, or the word that it is over. -/
theorem guest_stream_served (settings : Side → MuxSettings) (port : Nat) (moves : List Move)
    (notify : (settings .host).notifyPeer = true) {r : StreamRef}
    (there : ((start settings port).run moves).stream .guest r.id = some r)
    (said : ((start settings port).run moves).heardFrom .guest r ≠ []) :
    let s := (start settings port).run moves
    (s.stream .host r.id ≠ none ∨ (∃ b, .data b ∈ letters r.id (s.sent .guest)) ∨
      .gone ∈ letters r.id (s.sent .host)) ∧
      ((∀ side, s.sent side = []) → s.stream .host r.id ≠ none) := by
  intro s
  have served : (s.strand r.id).Served := by
    apply strand_run Strand.Served _ (fun _ _ _ h => h.served notify)
    intro r' there'
    simp at there'
  obtain ⟨-, now⟩ : (s.strand r.id).Heeded := served r there (by rwa [strand_heardFrom])
  rw [any_isData, any_isGone] at now
  refine ⟨now, ?_⟩
  intro empty
  rcases now with here | ⟨b, coming⟩ | answered
  · exact here
  · simp [strand, empty, letters] at coming
  · simp [strand, empty, letters] at answered

theorem guest_stream_served_two_bytes :
    let r : StreamRef := ⟨StreamId.ofNat 7, .client 0⟩
    let s := (start (fun _ => {}) 80).run
      [.attach [r.id], .read .guest r [1, 2], .deliver .host true]
    s.stream .guest r.id = some r ∧ s.heardFrom .guest r ≠ [] ∧ (∀ side, s.sent side = []) ∧
      s.stream .host r.id ≠ none := by
  intro r s
  have there : s.stream .guest r.id = some r := by decide
  have said : s.heardFrom .guest r ≠ [] := by decide
  have empty : ∀ side, s.sent side = [] := by intro side; cases side <;> decide
  exact ⟨there, said, empty, (guest_stream_served _ 80 _ rfl there said).2 empty⟩

end LinkedPair
end StreamTunnel
