import StreamTunnel.Proofs.Frame.Reading

namespace StreamTunnel.Frame

variable {f : Frame} {b head : Bytes} {e : FrameError}

theorem wire_eq_ok_iff :
    f.wire = .ok b ↔ f.body.length ≤ maxBody ∧ b = Bytes.big 4 f.body.length ++ f.body := by
  rw [wire]
  by_cases small : f.body.length ≤ maxBody <;> simp [small, eq_comm]

theorem wire_eq_error_iff : f.wire = .error e ↔ maxBody < f.body.length ∧ e = .tooBig := by
  rw [wire]
  by_cases small : f.body.length ≤ maxBody
  · simp [small, Nat.not_lt_of_le small]
  · simp [small, Nat.lt_of_not_le small, eq_comm]

theorem take_wire (wire : f.wire = .ok b) : b.take 4 = Bytes.big 4 f.body.length := by
  obtain ⟨-, rfl⟩ := wire_eq_ok_iff.mp wire
  rw [List.take_append_of_le_length (by simp), List.take_of_length_le (by simp)]

namespace Reader

variable {r r' : Reader}

theorem encode_of_wire (wire : f.wire = .ok b) (r : Reader) : r.encode f = (.ok b, r.feed b) := by
  rw [encode, wire]

theorem encode_of_fault (fault : f.wire = .error e) (r : Reader) : r.encode f = (.error e, r) := by
  rw [encode, fault]

theorem encode_ok_iff : (r.encode f).1 = .ok b ↔ f.wire = .ok b := by
  cases wire : f.wire with
  | ok b' => rw [encode_of_wire wire]
  | error e => simp [encode_of_fault wire]

theorem encode_error_iff : (r.encode f).1 = .error e ↔ f.wire = .error e := by
  cases wire : f.wire with
  | ok b' => simp [encode_of_wire wire]
  | error e => rw [encode_of_fault wire]

theorem eq_of_refused (refused : r.decode = (.error .tooBig, r')) :
    r' = r ∧ ∃ head rest, r = ⟨none, head ++ rest⟩ ∧ head.length = 4 ∧
      maxBody < Bytes.ofBig head := by
  generalize fault : Decoded.error .tooBig = d at refused
  cases poll_iff.mpr refused with
  | starved | headless | headed => cases fault
  | @refused buffer head rest cut big =>
      obtain ⟨four, rfl⟩ := Bytes.eq_append_of_split? cut
      exact ⟨rfl, head, rest, rfl, four, big⟩
  | @body _ _ front | @whole _ _ _ front =>
      have body := Decoded.isBody_ofBody front
      rw [← fault] at body
      cases body

theorem not_refused_of_small (four : head.length = 4) (small : Bytes.ofBig head ≤ maxBody)
    (rest : Bytes) : (Reader.mk none (head ++ rest)).decode.1 ≠ .error .tooBig := by
  intro refused
  obtain ⟨-, head', rest', same, four', big⟩ := eq_of_refused (Prod.ext refused rfl)
  obtain ⟨rfl, -⟩ := List.append_inj (congrArg Reader.buffer same) (four.trans four'.symm)
  exact Nat.not_lt_of_le small big

end Reader

namespace Reading

theorem foldl_step_of_refused {r : Reader} (refused : r.decode = (.error .tooBig, r))
    (turns : List Turn) (given : List Decoded) :
    turns.foldl step ⟨r, given⟩ = ⟨r.feed (arrived turns),
      given ++ List.replicate (turns.count .poll) (.error .tooBig)⟩ := by
  induction turns generalizing r given with
  | nil => simp [arrived]
  | cons t rest ih =>
      cases t with
      | arrive b =>
          have still : (r.feed b).decode = (.error .tooBig, r.feed b) :=
            Reader.decode_feed refused (by simp)
          rw [List.foldl_cons, step, ih still, Reader.feed_feed]
          simp [arrived]
      | poll =>
          rw [List.foldl_cons, step_poll refused (by simp), ih refused]
          simp [arrived, List.replicate_succ]

/-- Writing and reading agree on the limit. A frame is written just when its body is within it, with
its length in front, which no reader refuses; otherwise nothing changes. And a reader refuses no
length that was written; it keeps refusing, whatever arrives, and takes nothing. -/
theorem limits_agree :
    (∀ (f : Frame) (r : Reader),
      ((∃ b, (r.encode f).1 = .ok b) ↔ f.body.length ≤ 16777216) ∧
      (∀ b, (r.encode f).1 = .ok b →
        b = Bytes.big 4 f.body.length ++ f.body ∧
        (r.encode f).2 = { r with buffer := r.buffer ++ b } ∧
        Bytes.ofBig (Bytes.big 4 f.body.length) = f.body.length ∧
        ∀ rest, (Reader.mk none (Bytes.big 4 f.body.length ++ rest)).decode.1 ≠ .error .tooBig) ∧
      (∀ e, (r.encode f).1 = .error e → e = .tooBig ∧ (r.encode f).2 = r)) ∧
    (∀ r r' : Reader, r.decode = (.error .tooBig, r') →
      r' = r ∧
      (∃ head rest, r = ⟨none, head ++ rest⟩ ∧ head.length = 4 ∧
        ∀ (f : Frame) (w : Reader) b, (w.encode f).1 = .ok b → b.take 4 ≠ head) ∧
      ∀ (turns : List Turn) given, turns.foldl step ⟨r, given⟩ =
        ⟨{ r with buffer := r.buffer ++ arrived turns },
          given ++ List.replicate (turns.count .poll) (.error .tooBig)⟩) := by
  constructor
  · intro f r
    simp only [Reader.encode_ok_iff, Reader.encode_error_iff, wire_eq_ok_iff, wire_eq_error_iff]
    refine ⟨by simp [maxBody], ?_, ?_⟩
    · rintro b ⟨small, rfl⟩
      have length := ofBig_length small
      refine ⟨rfl, ?_, length, ?_⟩
      · rw [Reader.encode_of_wire (wire_eq_ok_iff.mpr ⟨small, rfl⟩), Reader.feed]
      · exact Reader.not_refused_of_small (Bytes.length_big 4 _) (by rwa [length])
    · rintro e ⟨big, rfl⟩
      exact ⟨rfl, by rw [Reader.encode_of_fault (wire_eq_error_iff.mpr ⟨big, rfl⟩)]⟩
  · intro r r' refused
    obtain ⟨rfl, head, rest, whole, four, big⟩ := Reader.eq_of_refused refused
    refine ⟨rfl, ⟨head, rest, whole, four, ?_⟩, foldl_step_of_refused refused⟩
    rintro f w b written rfl
    have wire := Reader.encode_ok_iff.mp written
    obtain ⟨small, -⟩ := wire_eq_ok_iff.mp wire
    rw [take_wire wire, ofBig_length small] at big
    exact Nat.not_lt_of_le small big

theorem limits_agree_at_the_limit :
    let longest := Frame.message (List.replicate 16777204 0)
    let longer := Frame.message (List.replicate 16777205 0)
    let w : Reader := ⟨some 3, [7]⟩
    let r : Reader := ⟨none, [1, 0, 0, 1]⟩
    (∃ b, (w.encode longest).1 = .ok b ∧ (w.encode longest).2.buffer = 7 :: b ∧
      b.take 4 = [1, 0, 0, 0]) ∧
    w.encode longer = (.error .tooBig, w) ∧
    r.decode = (.error .tooBig, r) ∧
    [Turn.poll, .arrive [5], .poll].foldl step ⟨r, []⟩ =
      ⟨⟨none, [1, 0, 0, 1, 5]⟩, [.error .tooBig, .error .tooBig]⟩ := by
  intro longest longer w r
  have length : longest.body.length = 16777216 := by
    rw [length_body_message, List.length_replicate]
  have length' : longer.body.length = 16777217 := by
    rw [length_body_message, List.length_replicate]
  obtain ⟨writes, shape, -⟩ := limits_agree.1 longest w
  obtain ⟨only, -, leaves⟩ := limits_agree.1 longer w
  have refused : r.decode = (.error .tooBig, r) := by decide
  refine ⟨?_, ?_, refused, ?_⟩
  · obtain ⟨b, written⟩ := writes.mpr (Nat.le_of_eq length)
    obtain ⟨bytes, after, -⟩ := shape b written
    refine ⟨b, written, by rw [after]; rfl, ?_⟩
    rw [bytes, length]
    rfl
  · cases result : (w.encode longer).1 with
    | ok b =>
        have small := only.mp ⟨b, result⟩
        rw [length'] at small
        exact absurd small (by decide)
    | error e =>
        obtain ⟨rfl, same⟩ := leaves e result
        exact Prod.ext result same
  · exact (limits_agree.2 r r refused).2.2 _ _

end Reading
end StreamTunnel.Frame
