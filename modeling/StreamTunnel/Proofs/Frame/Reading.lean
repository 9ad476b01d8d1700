import Mathlib.Data.List.Forall2
import StreamTunnel.Frame.Reader
import StreamTunnel.Proofs.Frame.Body

namespace StreamTunnel.Frame

theorem split?_append_right {n : Nat} {b front rest later : Bytes}
    (h : Bytes.split? n b = some (front, rest)) :
    Bytes.split? n (b ++ later) = some (front, rest ++ later) := by
  obtain ⟨rfl, rfl⟩ := Bytes.eq_append_of_split? h
  rw [List.append_assoc]
  exact Bytes.split?_append front (rest ++ later)

namespace Decoded

def isBody : Decoded → Bool
  | frame _ | error (.body _) => true
  | _ => false

theorem isBody_ofBody (b : Bytes) : (ofBody b).isBody := by
  rw [ofBody]
  split <;> rfl

theorem ne_more_of_isBody {d : Decoded} (body : d.isBody) : d ≠ .more := by
  rintro rfl
  cases body

end Decoded

namespace Reader

variable {r r' : Reader} {d : Decoded} {later : Bytes}

/-! ## One poll -/

def weight (r : Reader) : Nat :=
  r.buffer.length + r.expected.elim 0 (fun _ => 1)

theorem takeBody_of_some {n : Nat} {buffer front rest : Bytes}
    (h : Bytes.split? n buffer = some (front, rest)) :
    takeBody n buffer = (.ofBody front, ⟨none, rest⟩) := by
  rw [takeBody, h]

theorem takeBody_of_none {n : Nat} {buffer : Bytes} (h : Bytes.split? n buffer = none) :
    takeBody n buffer = (.more, ⟨some n, buffer⟩) := by
  rw [takeBody, h]

/-- All that a poll can do. -/
inductive Poll : Reader → Decoded → Reader → Prop
  | starved {n : Nat} {buffer : Bytes} (short : Bytes.split? n buffer = none) :
      Poll ⟨some n, buffer⟩ .more ⟨some n, buffer⟩
  | headless {buffer : Bytes} (short : Bytes.split? 4 buffer = none) :
      Poll ⟨none, buffer⟩ .more ⟨none, buffer⟩
  | refused {buffer head rest : Bytes} (cut : Bytes.split? 4 buffer = some (head, rest))
      (big : maxBody < Bytes.ofBig head) :
      Poll ⟨none, buffer⟩ (.error .tooBig) ⟨none, buffer⟩
  | headed {buffer head rest : Bytes} (cut : Bytes.split? 4 buffer = some (head, rest))
      (small : Bytes.ofBig head ≤ maxBody) (short : Bytes.split? (Bytes.ofBig head) rest = none) :
      Poll ⟨none, buffer⟩ .more ⟨some (Bytes.ofBig head), rest⟩
  | body {n : Nat} {buffer front rest : Bytes} (cut : Bytes.split? n buffer = some (front, rest)) :
      Poll ⟨some n, buffer⟩ (.ofBody front) ⟨none, rest⟩
  | whole {buffer head mid front rest : Bytes} (cut : Bytes.split? 4 buffer = some (head, mid))
      (small : Bytes.ofBig head ≤ maxBody)
      (cut' : Bytes.split? (Bytes.ofBig head) mid = some (front, rest)) :
      Poll ⟨none, buffer⟩ (.ofBody front) ⟨none, rest⟩

theorem poll_decode (r : Reader) : Poll r r.decode.1 r.decode.2 := by
  obtain ⟨expected, buffer⟩ := r
  cases expected with
  | some n =>
      simp only [decode]
      cases cut : Bytes.split? n buffer with
      | none => rw [takeBody_of_none cut]; exact .starved cut
      | some parts => rw [takeBody_of_some cut]; exact .body cut
  | none =>
      simp only [decode]
      cases cut : Bytes.split? 4 buffer with
      | none => exact .headless cut
      | some parts =>
          obtain ⟨head, rest⟩ := parts
          simp only
          split
          · next big => exact .refused cut big
          · next small =>
            have small : Bytes.ofBig head ≤ maxBody := Nat.le_of_not_lt small
            cases cut' : Bytes.split? (Bytes.ofBig head) rest with
            | none => rw [takeBody_of_none cut']; exact .headed cut small cut'
            | some parts => rw [takeBody_of_some cut']; exact .whole cut small cut'

theorem Poll.decode_eq (h : Poll r d r') : r.decode = (d, r') := by
  cases h with
  | starved short => simp only [decode, takeBody_of_none short]
  | headless short => simp only [decode, short]
  | refused cut big => simp only [decode, cut, if_pos big]
  | headed cut small short =>
      simp only [decode, cut, if_neg (Nat.not_lt_of_le small), takeBody_of_none short]
  | body cut => simp only [decode, takeBody_of_some cut]
  | whole cut small cut' =>
      simp only [decode, cut, if_neg (Nat.not_lt_of_le small), takeBody_of_some cut']

theorem poll_iff : Poll r d r' ↔ r.decode = (d, r') := by
  constructor
  · exact Poll.decode_eq
  · intro h
    have := poll_decode r
    rwa [h] at this

theorem cases_decode (h : r.decode = (d, r')) :
    d = .more ∨ (d = .error .tooBig ∧ r' = r) ∨ d.isBody := by
  cases poll_iff.mpr h with
  | starved | headless | headed => exact .inl rfl
  | refused => exact .inr (.inl ⟨rfl, rfl⟩)
  | body | whole => exact .inr (.inr (Decoded.isBody_ofBody _))

theorem decode_feed (h : r.decode = (d, r')) (something : d ≠ .more) :
    (r.feed later).decode = (d, r'.feed later) := by
  apply Poll.decode_eq
  cases poll_iff.mpr h with
  | starved | headless | headed => exact absurd rfl something
  | refused cut big => exact .refused (split?_append_right cut) big
  | body cut => exact .body (split?_append_right cut)
  | whole cut small cut' => exact .whole (split?_append_right cut) small (split?_append_right cut')

theorem decode_feed_of_more (h : r.decode = (.more, r')) :
    (r.feed later).decode = (r'.feed later).decode := by
  generalize nothing : Decoded.more = d at h
  cases poll_iff.mpr h with
  | starved | headless => rfl
  | refused => cases nothing
  | body | whole => exact absurd nothing.symm (Decoded.ne_more_of_isBody (Decoded.isBody_ofBody _))
  -- the length was taken off; a later poll of the bytes with their length takes it off as well
  | headed cut small short =>
      simp only [feed, decode, split?_append_right cut, if_neg (Nat.not_lt_of_le small)]

@[simp] theorem feed_nil (r : Reader) : r.feed [] = r := by
  simp [feed]

theorem feed_feed (r : Reader) (b b' : Bytes) : (r.feed b).feed b' = r.feed (b ++ b') := by
  simp [feed]

theorem decode_again (h : r.decode = (.more, r')) : r'.decode = (.more, r') := by
  have again : (r.feed []).decode = (r'.feed []).decode := decode_feed_of_more h
  rw [feed_nil, feed_nil, h] at again
  exact again.symm

theorem weight_lt (h : r.decode = (d, r')) (body : d.isBody) : r'.weight < r.weight := by
  cases poll_iff.mpr h with
  | starved | headless | headed | refused => cases body
  | body cut =>
      obtain ⟨rfl, rfl⟩ := Bytes.eq_append_of_split? cut
      simp only [weight, Option.elim, List.length_append]
      omega
  | whole cut small cut' =>
      obtain ⟨four, rfl⟩ := Bytes.eq_append_of_split? cut
      obtain ⟨-, rfl⟩ := Bytes.eq_append_of_split? cut'
      simp only [weight, Option.elim, List.length_append, four]
      omega

/-! ## All polls -/

/-- Polls while bodies come up, and once more: all that was given, and the reader then. -/
def exhaust (r : Reader) : List Decoded × Reader :=
  match h : r.decode with
  | (d, r') =>
      if body : d.isBody then
        have : r'.weight < r.weight := weight_lt h body
        (d :: (exhaust r').1, (exhaust r').2)
      else (if d = .more then [] else [d], r')
termination_by r.weight

theorem exhaust_eq (h : r.decode = (d, r')) :
    r.exhaust = if d.isBody then (d :: r'.exhaust.1, r'.exhaust.2)
      else (if d = .more then [] else [d], r') := by
  rw [exhaust]
  split
  next d' r'' h' =>
  obtain ⟨rfl, rfl⟩ := Prod.mk.inj (h'.symm.trans h)
  split <;> rfl

theorem exhaust_of_isBody (h : r.decode = (d, r')) (body : d.isBody) :
    r.exhaust = (d :: r'.exhaust.1, r'.exhaust.2) := by
  rw [exhaust_eq h, if_pos body]

theorem exhaust_of_more (h : r.decode = (.more, r')) : r.exhaust = ([], r') := by
  rw [exhaust_eq h]
  rfl

theorem exhaust_of_tooBig (h : r.decode = (.error .tooBig, r')) :
    r.exhaust = ([.error .tooBig], r') := by
  rw [exhaust_eq h]
  rfl

theorem exhaust_congr (h : r.decode = r'.decode) : r.exhaust = r'.exhaust := by
  obtain ⟨⟨d, r₁⟩, h'⟩ : ∃ p, r'.decode = p := ⟨_, rfl⟩
  rw [h'] at h
  rcases cases_decode h' with rfl | ⟨rfl, -⟩ | body
  · rw [exhaust_of_more h, exhaust_of_more h']
  · rw [exhaust_of_tooBig h, exhaust_of_tooBig h']
  · rw [exhaust_of_isBody h body, exhaust_of_isBody h' body]

theorem decode_exhaust (going : .error .tooBig ∉ r.exhaust.1) :
    r.exhaust.2.decode = (.more, r.exhaust.2) := by
  induction r using exhaust.induct with
  | case1 r d r' h body smaller ih =>
      rw [exhaust_of_isBody h body] at going ⊢
      exact ih (fun mem => going (List.mem_cons_of_mem _ mem))
  | case2 r d r' h notBody =>
      rcases cases_decode h with rfl | ⟨rfl, -⟩ | body
      · rw [exhaust_of_more h]
        exact decode_again h
      · simp [exhaust_of_tooBig h] at going
      · exact absurd body notBody

theorem exhaust_feed (going : .error .tooBig ∉ r.exhaust.1) (later : Bytes) :
    (r.feed later).exhaust = (r.exhaust.1 ++ (r.exhaust.2.feed later).exhaust.1,
      (r.exhaust.2.feed later).exhaust.2) := by
  induction r using exhaust.induct with
  | case1 r d r' h body smaller ih =>
      have something := Decoded.ne_more_of_isBody body
      rw [exhaust_of_isBody h body] at going ⊢
      rw [exhaust_of_isBody (decode_feed h something) body]
      rw [ih (fun mem => going (List.mem_cons_of_mem _ mem))]
      simp
  | case2 r d r' h notBody =>
      rcases cases_decode h with rfl | ⟨rfl, -⟩ | body
      · rw [exhaust_of_more h, exhaust_congr (decode_feed_of_more h)]
        simp
      · simp [exhaust_of_tooBig h] at going
      · exact absurd body notBody

theorem exhaust_feed_prefix (r : Reader) (later : Bytes) :
    r.exhaust.1 <+: (r.feed later).exhaust.1 := by
  induction r using exhaust.induct with
  | case1 r d r' h body smaller ih =>
      have something := Decoded.ne_more_of_isBody body
      rw [exhaust_of_isBody h body, exhaust_of_isBody (decode_feed h something) body]
      exact List.prefix_cons_inj d |>.mpr ih
  | case2 r d r' h notBody =>
      rcases cases_decode h with rfl | ⟨rfl, -⟩ | body
      · rw [exhaust_of_more h]
        exact List.nil_prefix
      · simp [exhaust_of_tooBig h, exhaust_of_tooBig (decode_feed h (by simp))]
      · exact absurd body notBody

theorem drainWith_eq {fuel : Nat} (enough : r.weight < fuel) :
    (∃ frames, drainWith fuel r = (frames, none, r.exhaust.2) ∧
        r.exhaust.1 = frames.map .frame) ∨
      ∃ frames e r' rest, drainWith fuel r = (frames, some e, r') ∧
        r.exhaust.1 = frames.map .frame ++ .error e :: rest := by
  induction fuel generalizing r with
  | zero => omega
  | succ fuel ih =>
      obtain ⟨⟨d, r'⟩, h⟩ : ∃ p, r.decode = p := ⟨_, rfl⟩
      rcases cases_decode h with rfl | ⟨rfl, -⟩ | body
      · left
        exact ⟨[], by simp [drainWith, h, exhaust_of_more h]⟩
      · right
        exact ⟨[], .tooBig, r', [], by simp [drainWith, h, exhaust_of_tooBig h]⟩
      · have smaller := weight_lt h body
        cases d with
        | more => cases body
        | error e =>
            right
            exact ⟨[], e, r', r'.exhaust.1, by simp [drainWith, h, exhaust_of_isBody h body]⟩
        | frame f =>
            rcases ih (r := r') (by omega) with ⟨frames, drained, given⟩ |
              ⟨frames, e, r₁, rest, drained, given⟩
            · left
              exact ⟨f :: frames, by simp [drainWith, h, drained, exhaust_of_isBody h body, given]⟩
            · right
              exact ⟨f :: frames, e, r₁, rest,
                by simp [drainWith, h, drained, exhaust_of_isBody h body, given]⟩

theorem weight_lt_drain (r : Reader) : r.weight < r.buffer.length + 2 := by
  obtain ⟨expected, buffer⟩ := r
  cases expected <;> simp [weight]

end Reader

/-! ## Polls while the bytes arrive -/

inductive Turn where
  | arrive (b : Bytes)
  | poll
deriving DecidableEq, Repr

structure Reading where
  reader : Reader := {}
  given : List Decoded := []
deriving DecidableEq, Repr

namespace Reading

def step (x : Reading) : Turn → Reading
  | .arrive b => { x with reader := x.reader.feed b }
  | .poll =>
      match x.reader.decode with
      | (.more, r) => { x with reader := r }
      | (d, r) => ⟨r, x.given ++ [d]⟩

def run (turns : List Turn) : Reading :=
  turns.foldl step {}

def arrived (turns : List Turn) : Bytes :=
  turns.flatMap fun
    | .arrive b => b
    | .poll => []

/-- A poll at the end gives nothing, or a refusal. -/
def Ended (turns : List Turn) : Prop :=
  ∃ before, turns = before ++ [.poll] ∧ ((run before).reader.decode).1.isBody = false

def throughRefusal : List Decoded → List Decoded
  | [] => []
  | d :: rest => if d = .error .tooBig then [d] else d :: throughRefusal rest

def outlook (later : Bytes) (x : Reading) : List Decoded × Reader :=
  (throughRefusal (x.given ++ (x.reader.feed later).exhaust.1), (x.reader.feed later).exhaust.2)

variable {x : Reading}

theorem step_poll_of_more {r : Reader} (h : x.reader.decode = (.more, r)) :
    x.step .poll = { x with reader := r } := by
  simp only [step, h]

theorem step_poll {d : Decoded} {r : Reader} (h : x.reader.decode = (d, r)) (something : d ≠ .more) :
    x.step .poll = ⟨r, x.given ++ [d]⟩ := by
  simp only [step, h]

theorem throughRefusal_append (given given' : List Decoded) :
    throughRefusal (given ++ given') =
      if .error .tooBig ∈ given then throughRefusal given else given ++ throughRefusal given' := by
  induction given with
  | nil => simp
  | cons d rest ih =>
      simp only [List.cons_append, throughRefusal, ih, List.mem_cons]
      by_cases refused : d = .error .tooBig
      · simp [refused]
      · simp only [refused, Ne.symm refused, if_false, false_or]
        split <;> rfl

theorem throughRefusal_of_not_mem {given : List Decoded} (going : .error .tooBig ∉ given) :
    throughRefusal given = given := by
  simpa [going, throughRefusal] using throughRefusal_append given []

theorem mem_throughRefusal {given : List Decoded} :
    .error .tooBig ∈ throughRefusal given ↔ .error .tooBig ∈ given := by
  induction given with
  | nil => rfl
  | cons d rest ih =>
      simp only [throughRefusal]
      split
      · next refused => simp [refused]
      · next going => simp [Ne.symm going, ih]

theorem throughRefusal_again (given : List Decoded) :
    throughRefusal (given ++ [.error .tooBig] ++ [.error .tooBig]) =
      throughRefusal (given ++ [.error .tooBig]) := by
  rw [throughRefusal_append, if_pos (by simp)]

theorem outlook_step (x : Reading) (t : Turn) (later : Bytes) :
    (x.step t).outlook later = x.outlook (arrived [t] ++ later) := by
  cases t with
  | arrive b => simp [step, outlook, arrived, Reader.feed_feed]
  | poll =>
      obtain ⟨⟨d, r⟩, h⟩ : ∃ p, x.reader.decode = p := ⟨_, rfl⟩
      have nothing : arrived [.poll] ++ later = later := rfl
      rw [nothing]
      rcases Reader.cases_decode h with rfl | ⟨rfl, rfl⟩ | body
      · rw [step_poll_of_more h]
        simp only [outlook, Reader.exhaust_congr (Reader.decode_feed_of_more h)]
      -- the poll gave the refusal, and the polls to come give it once more
      · rw [step_poll h (by simp)]
        simp only [outlook, Reader.exhaust_of_tooBig (Reader.decode_feed h (by simp)),
          throughRefusal_again]
      · have something := Decoded.ne_more_of_isBody body
        rw [step_poll h something]
        simp only [outlook, Reader.exhaust_of_isBody (Reader.decode_feed h something) body,
          List.append_assoc, List.singleton_append]

theorem outlook_foldl (x : Reading) (turns : List Turn) (later : Bytes) :
    (turns.foldl step x).outlook later = x.outlook (arrived turns ++ later) := by
  induction turns generalizing x with
  | nil => rfl
  | cons t rest ih =>
      have split : arrived (t :: rest) = arrived [t] ++ arrived rest := by simp [arrived]
      rw [List.foldl_cons, ih, outlook_step, split, List.append_assoc]

theorem outlook_of_ended {turns : List Turn} (ended : Ended turns) :
    (run turns).outlook [] = (throughRefusal (run turns).given, (run turns).reader) := by
  obtain ⟨before, rfl, last⟩ := ended
  obtain ⟨⟨d, r⟩, h⟩ : ∃ p, (run before).reader.decode = p := ⟨_, rfl⟩
  have unfolds : run (before ++ [.poll]) = (run before).step .poll := by simp [run]
  rw [h] at last
  rw [unfolds]
  rcases Reader.cases_decode h with rfl | ⟨rfl, rfl⟩ | body
  · rw [step_poll_of_more h]
    simp [outlook, Reader.exhaust_of_more (Reader.decode_again h)]
  · rw [step_poll h (by simp)]
    simp only [outlook, Reader.feed_nil, Reader.exhaust_of_tooBig h, throughRefusal_again]
  · simp [body] at last

theorem eq_exhaust_of_ended {turns : List Turn} (ended : Ended turns) :
    throughRefusal (run turns).given = throughRefusal (Reader.mk none (arrived turns)).exhaust.1 ∧
      (run turns).reader = (Reader.mk none (arrived turns)).exhaust.2 := by
  have same := outlook_foldl {} turns []
  rw [← run, outlook_of_ended ended, List.append_nil] at same
  exact Prod.mk.inj same

theorem exists_ended (turns : List Turn) :
    ∃ k, Ended (turns ++ List.replicate (k + 1) .poll) := by
  generalize start : (run turns).reader = r
  induction r using Reader.exhaust.induct generalizing turns with
  | case1 r d r' h body smaller ih =>
      have something := Decoded.ne_more_of_isBody body
      have next : (run (turns ++ [.poll])).reader = r' := by
        rw [run, List.foldl_append, ← run, List.foldl_cons, step_poll (start ▸ h) something]
        rfl
      obtain ⟨k, ended⟩ := ih (turns ++ [.poll]) next
      refine ⟨k + 1, ?_⟩
      rwa [List.append_assoc, List.singleton_append, ← List.replicate_succ] at ended
  | case2 r d r' h notBody =>
      refine ⟨0, turns, rfl, ?_⟩
      rw [start, h]
      simpa using notBody

end Reading

/-! ## Frames that were written -/

theorem ofBig_length {b : Bytes} (small : b.length ≤ maxBody) :
    Bytes.ofBig (Bytes.big 4 b.length) = b.length := by
  rw [Bytes.ofBig_big, Nat.mod_eq_of_lt]
  exact Nat.lt_of_le_of_lt small (by decide)

theorem decode_framed {b : Bytes} (small : b.length ≤ maxBody) (rest : Bytes) :
    (Reader.mk none (Bytes.big 4 b.length ++ b ++ rest)).decode = (.ofBody b, ⟨none, rest⟩) := by
  have length := ofBig_length small
  have head := Bytes.split?_append (Bytes.big 4 b.length) (b ++ rest)
  rw [Bytes.length_big] at head
  rw [List.append_assoc]
  apply Reader.Poll.decode_eq
  exact .whole head (by rwa [length]) (by rw [length]; exact Bytes.split?_append _ _)

def IsFramed (f : Frame) (b : Bytes) : Prop :=
  ∃ body, body.length ≤ maxBody ∧ ofBody body = .ok f ∧ b = Bytes.big 4 body.length ++ body

theorem isFramed_of_wire {f : Frame} {b : Bytes} (h : f.wire = .ok b) : IsFramed f b := by
  simp only [wire] at h
  split at h
  · next small =>
    obtain rfl : _ = b := Except.ok.inj h
    have fits : f.Fits := fits_of_length_lt (Nat.lt_of_le_of_lt small (by decide))
    exact ⟨f.body, small, ofBody_body fits, rfl⟩
  · cases h

theorem decode_isFramed {f : Frame} {b rest : Bytes} (h : IsFramed f b) :
    (Reader.mk none (b ++ rest)).decode = (.frame f, ⟨none, rest⟩) := by
  obtain ⟨body, small, read, rfl⟩ := h
  rw [decode_framed small, Decoded.ofBody, read]

theorem decode_wire {f : Frame} {b rest : Bytes} (h : f.wire = .ok b) :
    (Reader.mk none (b ++ rest)).decode = (.frame f, ⟨none, rest⟩) :=
  decode_isFramed (isFramed_of_wire h)

theorem exhaust_framed {frames : List Frame} {parts : List Bytes}
    (h : List.Forall₂ IsFramed frames parts) :
    (Reader.mk none parts.flatten).exhaust = (frames.map .frame, ⟨none, []⟩) := by
  induction h with
  | nil => rw [List.flatten_nil, Reader.exhaust_of_more rfl]; rfl
  | cons first _ ih =>
      rw [List.flatten_cons, Reader.exhaust_of_isBody (decode_isFramed first) rfl, ih]
      rfl

theorem exhaust_wires {frames : List Frame} {parts : List Bytes}
    (h : List.Forall₂ (fun f b => f.wire = .ok b) frames parts) :
    (Reader.mk none parts.flatten).exhaust = (frames.map .frame, ⟨none, []⟩) :=
  exhaust_framed (h.imp fun _ _ => isFramed_of_wire)

theorem exists_wires {frames : List Frame} (small : ∀ f ∈ frames, f.body.length ≤ maxBody) :
    ∃ parts, List.Forall₂ (fun f b => f.wire = .ok b) frames parts := by
  induction frames with
  | nil => exact ⟨[], .nil⟩
  | cons f rest ih =>
      obtain ⟨parts, written⟩ := ih (fun f' mem => small f' (List.mem_cons_of_mem _ mem))
      have fits : f.body.length ≤ maxBody := small f List.mem_cons_self
      exact ⟨_ :: parts, .cons (by rw [wire]; exact if_pos fits) written⟩

namespace Reading

/-- However the bytes arrive and whenever the reader is polled: frames that were written come up one
by one and nothing is left, and any bytes at all give the same up to a refusal. -/
theorem reading_segmented :
    (∀ turns, ∃ k, Ended (turns ++ List.replicate (k + 1) .poll)) ∧
    (∀ frames : List Frame, (∀ f ∈ frames, f.body.length ≤ 16777216) →
      ∃ parts, List.Forall₂ (fun f b => f.wire = .ok b) frames parts ∧
        ∀ turns, arrived turns = parts.flatten → Ended turns →
          (run turns).given = frames.map .frame ∧ (run turns).reader = ⟨none, []⟩) ∧
    (∀ turns turns', arrived turns = arrived turns' → Ended turns → Ended turns' →
      throughRefusal (run turns).given = throughRefusal (run turns').given ∧
        (run turns).reader = (run turns').reader) := by
  refine ⟨exists_ended, ?_, ?_⟩
  · intro frames small
    obtain ⟨parts, written⟩ := exists_wires small
    refine ⟨parts, written, ?_⟩
    intro turns bytes ended
    obtain ⟨given, reader⟩ := eq_exhaust_of_ended ended
    rw [bytes, exhaust_wires written] at given reader
    have whole : throughRefusal (frames.map Decoded.frame) = frames.map .frame :=
      throughRefusal_of_not_mem (by simp)
    have going : .error .tooBig ∉ (run turns).given := by
      rw [← mem_throughRefusal, given, whole]
      simp
    rw [throughRefusal_of_not_mem going, whole] at given
    exact ⟨given, reader⟩
  · intro turns turns' same ended ended'
    obtain ⟨given, reader⟩ := eq_exhaust_of_ended ended
    obtain ⟨given', reader'⟩ := eq_exhaust_of_ended ended'
    rw [given, given', reader, reader', same]
    exact ⟨rfl, rfl⟩

theorem reading_segmented_inside_length :
    let turns := [.arrive [0, 0], .poll, .arrive [0, 4, 1], .poll, .arrive [0, 0, 0], .poll, .poll]
    arrived turns = [0, 0, 0, 4, 1, 0, 0, 0] ∧ Ended turns ∧
      (run turns).given = [.frame .helloAck] ∧ (run turns).reader = ⟨none, []⟩ := by
  intro turns
  have ended : Ended turns := ⟨turns.dropLast, rfl, by decide⟩
  obtain ⟨parts, written, read⟩ := reading_segmented.2.1 [.helloAck] (by decide)
  have bytes : parts = [[0, 0, 0, 4, 1, 0, 0, 0]] := by
    cases written with
    | cons first rest =>
        cases rest
        rw [← Except.ok.inj first]
        rfl
  exact ⟨rfl, ended, read turns (by rw [bytes]; rfl) ended⟩

end Reading
end StreamTunnel.Frame
