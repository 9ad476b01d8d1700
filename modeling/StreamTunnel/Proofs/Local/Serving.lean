import StreamTunnel.Local.Acceptor

namespace StreamTunnel

/-- A client that was handed on, how things were then, and the stream that it got, if any. -/
structure Offer (ω : Type) where
  socket : SocketId
  world : ω
  given : Option StreamRef

namespace Acceptor

variable {ω : Type} {attach : SocketId → ω → Option StreamRef × ω} {isOpen : StreamRef → ω → Bool}
variable {a a' : Acceptor} {w : ω} {c : SocketId}

def noting (attach : SocketId → ω → Option StreamRef × ω) (socket : SocketId) (w : ω × List (Offer ω)) :
    Option StreamRef × (ω × List (Offer ω)) :=
  let (given, w') := attach socket w.1
  (given, w', w.2 ++ [⟨socket, w.1, given⟩])

/-- None may go: none is there, or the acceptor does not run, or a stream is waited for that is there. -/
structure Settled (isOpen : StreamRef → Bool) (a : Acceptor) : Prop where
  released : a.release isOpen = a
  none : a.next? = none

@[simp] theorem mode_handed (r : Option StreamRef) (a : Acceptor) : (a.handed r).mode = a.mode := by
  cases mode : a.mode <;> simp [handed, mode]

@[simp] theorem waiting_handed (r : Option StreamRef) (a : Acceptor) : (a.handed r).waiting = a.waiting := by
  cases mode : a.mode <;> simp [handed, mode]

theorem serving_handed (r : Option StreamRef) (a : Acceptor) :
    (a.handed r).serving = if a.mode = .single then r else a.serving := by
  cases mode : a.mode <;> simp [handed, mode]

theorem next?_of_not_running (idle : a.isRunning = false) : a.next? = none := by
  rw [next?, idle, Bool.false_and, if_neg Bool.false_ne_true]

theorem next?_eq_some (next : a.next? = some (c, a')) :
    a.isRunning = true ∧ a.serving = none ∧ a.waiting = c :: a'.waiting ∧
      a' = { a with waiting := a'.waiting } := by
  rw [next?] at next
  split at next
  · next free =>
    rw [Bool.and_eq_true, Option.isNone_iff_eq_none] at free
    split at next
    · cases next
    · next waiting =>
      cases next
      exact ⟨free.1, free.2, waiting, rfl⟩
  · cases next

theorem release_release (isOpen : StreamRef → Bool) (a : Acceptor) :
    (a.release isOpen).release isOpen = a.release isOpen := by
  simp [release, Option.filter_filter]

theorem serveWith_keeps {Inv : Acceptor → ω → Prop}
    (released : ∀ a w, Inv a w → Inv (a.release (isOpen · w)) w)
    (handed : ∀ a w c rest, Inv a w → a.isRunning = true → a.serving = none → a.waiting = c :: rest →
      Inv ({ a with waiting := rest }.handed (attach c w).1) (attach c w).2)
    {fuel : Nat} (enough : a.waiting.length < fuel) (h : Inv a w) :
    let t := serveWith attach isOpen fuel a w
    Inv t.1 t.2 ∧ t.1.Settled (isOpen · t.2) := by
  induction fuel generalizing a w with
  | zero => cases enough
  | succ fuel ih =>
      have freed := released a w h
      rw [serveWith]
      cases next : (a.release (isOpen · w)).next? with
      | none => exact ⟨freed, release_release _ a, next⟩
      | some found =>
          obtain ⟨c, rest⟩ := found
          obtain ⟨running, free, waiting, same⟩ := next?_eq_some next
          have last := handed _ w c rest.waiting freed running free waiting
          rw [← same] at last
          have shorter : rest.waiting.length < fuel := by
            replace waiting : a.waiting = c :: rest.waiting := waiting
            rw [waiting, List.length_cons] at enough
            omega
          exact ih (by rwa [waiting_handed]) last

theorem serve_keeps (attach : SocketId → ω → Option StreamRef × ω) (isOpen : StreamRef → ω → Bool)
    (Inv : Acceptor → ω → Prop)
    (released : ∀ a w, Inv a w → Inv (a.release (isOpen · w)) w)
    (handed : ∀ a w c rest, Inv a w → a.isRunning = true → a.serving = none → a.waiting = c :: rest →
      Inv ({ a with waiting := rest }.handed (attach c w).1) (attach c w).2)
    (h : Inv a w) :
    let t := a.serve attach isOpen w
    Inv t.1 t.2 ∧ t.1.Settled (isOpen · t.2) :=
  serveWith_keeps released handed (Nat.lt_succ_self _) h

theorem prefix_serveWith (attach : SocketId → ω → Option StreamRef × ω)
    (isOpen : StreamRef → ω × List (Offer ω) → Bool) (fuel : Nat) (a : Acceptor) (w : ω × List (Offer ω)) :
    w.2 <+: (serveWith (noting attach) isOpen fuel a w).2.2 := by
  induction fuel generalizing a w with
  | zero => exact List.prefix_rfl
  | succ fuel ih =>
      rw [serveWith]
      cases (a.release (isOpen · w)).next? with
      | none => exact List.prefix_rfl
      | some found => exact (List.prefix_append w.2 _).trans (ih _ (noting attach found.1 w).2)

end Acceptor
end StreamTunnel
