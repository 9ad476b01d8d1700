import StreamTunnel.Channel.Basic
import StreamTunnel.Proofs.Frame.Reading

namespace StreamTunnel.Frame

variable {body tail : Bytes} {r r' : Reader}

theorem cut_cases (begun : tail <+: Bytes.big 4 body.length ++ body)
    (proper : tail ≠ Bytes.big 4 body.length ++ body) :
    tail.length < 4 ∨
      ∃ rest, tail = Bytes.big 4 body.length ++ rest ∧ rest.length < body.length := by
  obtain ⟨missing, whole⟩ := begun
  rcases List.append_eq_append_iff.mp whole with ⟨mid, head, back⟩ | ⟨rest, rfl, back⟩
  · have four : tail.length + mid.length = 4 := by
      rw [← List.length_append, ← head, Bytes.length_big]
    by_cases inside : tail.length < 4
    · exact .inl inside
    -- the cut is right behind the length
    · obtain rfl : mid = [] := List.length_eq_zero_iff.mp (by omega)
      rw [List.append_nil] at head
      refine .inr ⟨[], by rw [head, List.append_nil], ?_⟩
      apply List.length_pos_iff.mpr
      rintro rfl
      exact proper (by rw [head, List.append_nil])
  · refine .inr ⟨rest, rfl, ?_⟩
    have something : missing ≠ [] := by
      rintro rfl
      exact proper (by rw [back, List.append_nil])
    rw [back, List.length_append]
    exact Nat.lt_add_of_pos_right (List.length_pos_iff.mpr something)

theorem split?_eq_none {n : Nat} {b : Bytes} (short : b.length < n) : Bytes.split? n b = none := by
  simp [Bytes.split?]
  omega

namespace Reader

theorem decode_inside_length (short : tail.length < 4) :
    (Reader.mk none tail).decode = (.more, ⟨none, tail⟩) :=
  Poll.decode_eq (.headless (split?_eq_none short))

theorem decode_inside_body {rest : Bytes} (legal : body.length ≤ maxBody)
    (short : rest.length < body.length) :
    (Reader.mk none (Bytes.big 4 body.length ++ rest)).decode = (.more, ⟨some body.length, rest⟩) := by
  have length := ofBig_length legal
  have head : Bytes.split? 4 (Bytes.big 4 body.length ++ rest) = some (Bytes.big 4 body.length, rest) := by
    have cut := Bytes.split?_append (Bytes.big 4 body.length) rest
    rwa [Bytes.length_big] at cut
  have starved : Bytes.split? (Bytes.ofBig (Bytes.big 4 body.length)) rest = none := by
    rw [length]
    exact split?_eq_none short
  rw [Poll.decode_eq (.headed head (by rwa [length]) starved), length]

theorem decodeEnd_of_more (h : r.decode = (.more, r')) :
    r.decodeEnd = (if r'.buffer.isEmpty then .more else .error .leftover, r') := by
  simp only [decodeEnd, h]

end Reader

namespace Reading

theorem eq_of_framed {frames : List Frame} {parts : List Bytes} {turns : List Turn}
    (framed : List.Forall₂ IsFramed frames parts) (bytes : arrived turns = parts.flatten ++ tail)
    (ended : Ended turns) (rest : (Reader.mk none tail).decode = (.more, r)) :
    (run turns).given = frames.map .frame ∧ (run turns).reader = r := by
  have whole := exhaust_framed framed
  have going : .error .tooBig ∉ (Reader.mk none parts.flatten).exhaust.1 := by simp [whole]
  have all : (Reader.mk none (parts.flatten ++ tail)).exhaust = (frames.map .frame, r) := by
    have later := Reader.exhaust_feed going tail
    have left : (Reader.mk none []).feed tail = ⟨none, tail⟩ := rfl
    rw [whole, left, Reader.exhaust_of_more rest, List.append_nil] at later
    exact later
  obtain ⟨given, reader⟩ := eq_exhaust_of_ended ended
  rw [bytes, all] at given reader
  have unrefused : .error .tooBig ∉ frames.map Decoded.frame := by simp
  rw [throughRefusal_of_not_mem unrefused] at given
  rw [throughRefusal_of_not_mem (by rwa [← mem_throughRefusal, given])] at given
  exact ⟨given, reader⟩

/-- Frames come and a last one that is cut. However the bytes arrive, the polls come to an end; the
frames were given then, and at the end of the stream nothing is reported just when the cut is between
frames or right behind a length. -/
theorem truncation_reported {frames : List Frame} {parts : List Bytes} {body tail : Bytes}
    (framed : List.Forall₂ IsFramed frames parts) (legal : body.length ≤ 16777216)
    (begun : tail <+: Bytes.big 4 body.length ++ body)
    (proper : tail ≠ Bytes.big 4 body.length ++ body)
    {turns : List Turn} (bytes : arrived turns = parts.flatten ++ tail) :
    (∃ k, Ended (turns ++ List.replicate (k + 1) .poll)) ∧
    (Ended turns →
      (run turns).given = frames.map .frame ∧
      ((run turns).reader.decodeEnd.1 = .more ↔
        tail = [] ∨ 0 < body.length ∧ tail = Bytes.big 4 body.length) ∧
      ((run turns).reader.decodeEnd.1 ≠ .more → ∃ e, (run turns).reader.decodeEnd.1 = .error e ∧
        (ChannelError.ofFrame e).message = "IO error: bytes remaining on stream") ∧
      ((run turns).reader.decodeEnd.1 = .more → (run turns).reader.decodeEnd.2.buffer = [])) := by
  refine ⟨exists_ended turns, fun ended => ?_⟩
  have reported {r : Reader} (rest : (Reader.mk none tail).decode = (.more, r)) :
      (run turns).given = frames.map .frame ∧ (run turns).reader.decodeEnd =
        (if r.buffer.isEmpty then .more else .error .leftover, r) := by
    obtain ⟨given, reader⟩ := eq_of_framed framed bytes ended rest
    rw [reader]
    exact ⟨given, Reader.decodeEnd_of_more (Reader.decode_again rest)⟩
  have text : (ChannelError.ofFrame .leftover).message = "IO error: bytes remaining on stream" := rfl
  rcases cut_cases begun proper with inside | ⟨rest, rfl, short⟩
  · obtain ⟨given, ending⟩ := reported (Reader.decode_inside_length inside)
    have noLength : tail ≠ Bytes.big 4 body.length := by
      rintro rfl
      rw [Bytes.length_big] at inside
      exact absurd inside (by decide)
    refine ⟨given, ?_⟩
    rw [ending]
    cases tail with
    | nil => simp
    | cons x later => simp [noLength, text]
  · obtain ⟨given, ending⟩ := reported (Reader.decode_inside_body legal short)
    have something : Bytes.big 4 body.length ++ rest ≠ [] := by
      apply List.ne_nil_of_length_pos
      rw [List.length_append, Bytes.length_big]
      omega
    refine ⟨given, ?_⟩
    rw [ending]
    cases rest with
    | nil =>
        have bodied : 0 < body.length := short
        simp [bodied]
    | cons x later => simp [text]

theorem truncation_reported_behind_length :
    let whole : Bytes := [0, 0, 0, 4, 1, 0, 0, 0]
    let turns := [.arrive whole, .poll, .arrive [0, 0], .poll, .arrive [0, 4], .poll]
    let turns' := turns ++ [.arrive [1], .poll]
    Frame.helloAck.wire = .ok whole ∧ Ended turns ∧ Ended turns' ∧
      (run turns).given = [.frame .helloAck] ∧ (run turns).reader.decodeEnd.1 = .more ∧
      ∃ e, (run turns').reader.decodeEnd.1 = .error e ∧
        (ChannelError.ofFrame e).message = "IO error: bytes remaining on stream" := by
  intro whole turns turns'
  have written : Frame.helloAck.wire = .ok whole := rfl
  have framed : List.Forall₂ IsFramed [.helloAck] [whole] := .cons (isFramed_of_wire written) .nil
  have ended : Ended turns := ⟨turns.dropLast, rfl, by decide⟩
  have ended' : Ended turns' := ⟨turns'.dropLast, rfl, by decide⟩
  let body : Bytes := [1, 0, 0, 0]
  let tail : Bytes := [0, 0, 0, 4]
  have bytes : arrived turns = [whole].flatten ++ tail := rfl
  have bytes' : arrived turns' = [whole].flatten ++ (tail ++ [1]) := rfl
  have legal : body.length ≤ 16777216 := by decide
  obtain ⟨-, reported⟩ := truncation_reported framed legal (by decide) (by decide) bytes
  obtain ⟨-, reported'⟩ := truncation_reported framed legal (by decide) (by decide) bytes'
  obtain ⟨given, nothing, -⟩ := reported ended
  obtain ⟨-, nothing', fault, -⟩ := reported' ended'
  refine ⟨written, ended, ended', given, nothing.mpr (.inr (by decide)), fault ?_⟩
  rw [ne_eq, nothing']
  decide

end Reading
end StreamTunnel.Frame
