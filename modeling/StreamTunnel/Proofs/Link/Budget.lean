import Mathlib.Data.List.Induction
import Mathlib.Data.List.Nodup
import StreamTunnel.Link.Retry

namespace StreamTunnel

inductive RetryCall where
  | next
  | reset
deriving DecidableEq, Repr

/-- How many tries were asked for since the budget was last given back. -/
def RetryCall.sinceReset (calls : List RetryCall) : Nat :=
  calls.foldl (fun n call => match call with
    | .next => n + 1
    | .reset => 0) 0

def RetryOutcome.grant? : RetryOutcome → Option Attempt
  | .granted a => some a
  | _ => none

namespace RetryPolicy

def grow (policy : RetryPolicy) (b : Span) : Except Span.Fault Span :=
  (b.scale policy.multiplier).map (·.min policy.maxBackoff)

def backoffAfter (policy : RetryPolicy) : Nat → Except Span.Fault Span
  | 0 => .ok policy.initialBackoff
  | n + 1 => (policy.backoffAfter n).bind policy.grow

variable {policy : RetryPolicy} {n : Nat} {b : Span}

theorem backoffAfter_succ (before : policy.backoffAfter n = .ok b) :
    policy.backoffAfter (n + 1) = policy.grow b := by
  rw [backoffAfter, before]
  rfl

theorem backoffAfter_pred (h : policy.backoffAfter (n + 1) = .ok b) :
    ∃ b', policy.backoffAfter n = .ok b' := by
  rw [backoffAfter] at h
  cases before : policy.backoffAfter n with
  | error e =>
      rw [before] at h
      cases h
  | ok b' => exact ⟨b', rfl⟩

theorem le_maxBackoff_of_grow {b' : Span} (grown : policy.grow b = .ok b') :
    b'.nanos ≤ policy.maxBackoff.nanos := by
  rw [grow] at grown
  cases scaled : b.scale policy.multiplier with
  | error e =>
      rw [scaled] at grown
      cases grown
  | ok longer =>
      rw [scaled] at grown
      cases grown
      exact Nat.min_le_right ..

end RetryPolicy

namespace Retries

variable {r : Retries}

theorem next_of_grown {b : Span} (more : r.attempt < r.policy.maxAttempts)
    (grown : r.policy.grow r.backoff = .ok b) :
    r.next = (.granted ⟨r.attempt + 1, r.virtualPort + 1, r.backoff⟩,
      ⟨r.policy, r.attempt + 1, r.virtualPort + 1, b⟩) := by
  rw [next, if_pos more]
  rw [RetryPolicy.grow] at grown
  cases scaled : r.backoff.scale r.policy.multiplier with
  | error e =>
      rw [scaled] at grown
      cases grown
  | ok longer =>
      rw [scaled] at grown
      cases grown
      rfl

theorem next_of_fault {e : Span.Fault} (more : r.attempt < r.policy.maxAttempts)
    (failed : r.policy.grow r.backoff = .error e) :
    r.next = (.fault e, ⟨r.policy, r.attempt + 1, r.virtualPort + 1, r.backoff⟩) := by
  rw [next, if_pos more]
  rw [RetryPolicy.grow] at failed
  cases scaled : r.backoff.scale r.policy.multiplier with
  | error e' =>
      rw [scaled] at failed
      cases failed
      rfl
  | ok longer =>
      rw [scaled] at failed
      cases failed

theorem next_of_spent (spent : r.policy.maxAttempts ≤ r.attempt) :
    r.next = (.exhausted r.attempt, r) := by
  rw [next, if_neg (Nat.not_lt_of_le spent)]

theorem next_of_granted {r' : Retries} {a : Attempt} (h : r.next = (.granted a, r')) :
    a.number = r.attempt + 1 ∧ a.virtualPort = r.virtualPort + 1 ∧ r'.attempt = r.attempt + 1 ∧
      r'.virtualPort = r.virtualPort + 1 := by
  rcases Nat.lt_or_ge r.attempt r.policy.maxAttempts with more | spent
  · cases grown : r.policy.grow r.backoff with
    | error e => cases h.symm.trans (next_of_fault more grown)
    | ok b =>
        cases h.symm.trans (next_of_grown more grown)
        exact ⟨rfl, rfl, rfl, rfl⟩
  · cases h.symm.trans (next_of_spent spent)

end Retries

structure BudgetRun where
  retries : Retries
  answers : List RetryOutcome := []

namespace BudgetRun

def start (policy : RetryPolicy) (port : UInt32) : BudgetRun :=
  { retries := .start policy port }

def step (x : BudgetRun) : RetryCall → BudgetRun
  | .next => ⟨x.retries.next.2, x.answers ++ [x.retries.next.1]⟩
  | .reset => { x with retries := x.retries.reset }

def run (calls : List RetryCall) (x : BudgetRun) : BudgetRun :=
  calls.foldl step x

def grants (x : BudgetRun) : List Attempt :=
  x.answers.filterMap RetryOutcome.grant?

def ports (x : BudgetRun) : List UInt32 :=
  x.grants.map Attempt.virtualPort

variable {policy : RetryPolicy} {port : UInt32} {calls : List RetryCall} {x : BudgetRun}

theorem run_append (x : BudgetRun) (calls later : List RetryCall) :
    x.run (calls ++ later) = (x.run calls).run later :=
  List.foldl_append ..

theorem answers_step (x : BudgetRun) (call : RetryCall) : x.answers <+: (x.step call).answers := by
  cases call with
  | next => exact List.prefix_append ..
  | reset => exact List.prefix_rfl

theorem answers_run (x : BudgetRun) (calls : List RetryCall) : x.answers <+: (x.run calls).answers := by
  induction calls generalizing x with
  | nil => exact List.prefix_rfl
  | cons call rest ih => exact (answers_step x call).trans (ih (x.step call))

theorem grants_next {a : Attempt} (granted : x.retries.next.1 = .granted a) :
    (x.step .next).grants = x.grants ++ [a] := by
  rw [grants, step, List.filterMap_append, granted]
  rfl

theorem grants_next_of_none (none : x.retries.next.1.grant? = none) :
    (x.step .next).grants = x.grants := by
  rw [grants, step, List.filterMap_append]
  simp [none, grants]

/-! ## Accounts -/

/-- What a budget is after some calls none of which faulted. -/
structure Accounted (policy : RetryPolicy) (port : UInt32) (calls : List RetryCall)
    (x : BudgetRun) : Prop where
  keeps : x.retries.policy = policy
  attempt : x.retries.attempt = min (RetryCall.sinceReset calls) policy.maxAttempts
  backoff : policy.backoffAfter x.retries.attempt = .ok x.retries.backoff
  current : x.retries.virtualPort = port + UInt32.ofNat x.grants.length
  ports : x.ports = (List.range x.grants.length).map (fun i => port + UInt32.ofNat (i + 1))

theorem accounted_start : Accounted policy port [] (start policy port) := by
  constructor
  · rfl
  · simp [start, Retries.start, RetryCall.sinceReset]
  · rfl
  · exact (UInt32.add_zero port).symm
  · rfl

theorem sinceReset_next (calls : List RetryCall) :
    RetryCall.sinceReset (calls ++ [.next]) = RetryCall.sinceReset calls + 1 := by
  simp [RetryCall.sinceReset]

theorem sinceReset_reset (calls : List RetryCall) :
    RetryCall.sinceReset (calls ++ [.reset]) = 0 := by
  simp [RetryCall.sinceReset]

theorem Accounted.next_of_more (accounted : Accounted policy port calls x)
    (computes : ∀ e, x.retries.next.1 ≠ .fault e)
    (more : RetryCall.sinceReset calls < policy.maxAttempts) :
    ∃ b, policy.backoffAfter (RetryCall.sinceReset calls + 1) = .ok b ∧ x.retries.next =
      (.granted ⟨RetryCall.sinceReset calls + 1, x.retries.virtualPort + 1, x.retries.backoff⟩,
        ⟨policy, RetryCall.sinceReset calls + 1, x.retries.virtualPort + 1, b⟩) := by
  have tries : x.retries.attempt = RetryCall.sinceReset calls := by
    rw [accounted.attempt, Nat.min_eq_left (Nat.le_of_lt more)]
  have within : x.retries.attempt < x.retries.policy.maxAttempts := by
    rwa [tries, accounted.keeps]
  cases grown : x.retries.policy.grow x.retries.backoff with
  | error e => exact absurd (congrArg Prod.fst (Retries.next_of_fault within grown)) (computes e)
  | ok b =>
      refine ⟨b, ?_, ?_⟩
      · rw [← tries, RetryPolicy.backoffAfter_succ accounted.backoff, ← accounted.keeps, grown]
      · rw [Retries.next_of_grown within grown, tries, accounted.keeps]

theorem Accounted.next_of_spent (accounted : Accounted policy port calls x)
    (spent : policy.maxAttempts ≤ RetryCall.sinceReset calls) :
    x.retries.next = (.exhausted policy.maxAttempts, x.retries) := by
  have tries : x.retries.attempt = policy.maxAttempts := by
    rw [accounted.attempt, Nat.min_eq_right spent]
  have spent : x.retries.policy.maxAttempts ≤ x.retries.attempt := by
    rw [accounted.keeps]
    exact Nat.le_of_eq tries.symm
  rw [Retries.next_of_spent spent, tries]

theorem Accounted.next (accounted : Accounted policy port calls x)
    (computes : ∀ e, x.retries.next.1 ≠ .fault e) :
    Accounted policy port (calls ++ [.next]) (x.step .next) := by
  rcases Nat.lt_or_ge (RetryCall.sinceReset calls) policy.maxAttempts with more | spent
  · obtain ⟨b, backoff, next⟩ := accounted.next_of_more computes more
    have granted := grants_next (congrArg Prod.fst next)
    have longer : (x.step .next).grants.length = x.grants.length + 1 := by
      rw [granted, List.length_append, List.length_singleton]
    have newPort : x.retries.virtualPort + 1 = port + UInt32.ofNat (x.grants.length + 1) := by
      rw [accounted.current, UInt32.ofNat_add, UInt32.add_assoc]
      rfl
    constructor
    · rw [step, next]
    · rw [step, next, sinceReset_next, Nat.min_eq_left more]
    · rw [step, next]
      exact backoff
    · rw [longer, step, next]
      exact newPort
    · have earlier := accounted.ports
      rw [BudgetRun.ports] at earlier ⊢
      rw [longer, List.range_succ, List.map_append, List.map_singleton, ← earlier, granted,
        List.map_append, List.map_singleton, newPort]
  · have next := accounted.next_of_spent spent
    have none : (x.step .next).grants = x.grants := grants_next_of_none (by rw [next]; rfl)
    constructor
    · rw [step, next]
      exact accounted.keeps
    · rw [step, next, sinceReset_next, accounted.attempt, Nat.min_eq_right spent,
        Nat.min_eq_right (Nat.le_succ_of_le spent)]
    · rw [step, next]
      exact accounted.backoff
    · rw [none, step, next]
      exact accounted.current
    · rw [BudgetRun.ports, none]
      exact accounted.ports

theorem Accounted.reset (accounted : Accounted policy port calls x) :
    Accounted policy port (calls ++ [.reset]) (x.step .reset) := by
  constructor
  · exact accounted.keeps
  · rw [sinceReset_reset, Nat.zero_min]
    rfl
  · rw [← accounted.keeps]
    rfl
  · exact accounted.current
  · exact accounted.ports

theorem accounted_run (computes : ∀ e, .fault e ∉ ((start policy port).run calls).answers) :
    Accounted policy port calls ((start policy port).run calls) := by
  -- a run grows at its end, and the calls counted so far go into the invariant
  induction calls using List.reverseRecOn with
  | nil => exact accounted_start
  | append_singleton calls call ih =>
      rw [run_append] at computes ⊢
      have before := ih (fun e mem => computes e ((answers_run _ [call]).subset mem))
      cases call with
      | next =>
          apply before.next
          intro e fault
          exact computes e (List.mem_append_right _ (List.mem_singleton.mpr fault.symm))
      | reset => exact before.reset

theorem computes_before {before after : List RetryCall}
    (computes : ∀ e, .fault e ∉ ((start policy port).run (before ++ .next :: after)).answers) :
    (∀ e, .fault e ∉ ((start policy port).run before).answers) ∧
      ∀ e, ((start policy port).run before).retries.next.1 ≠ .fault e := by
  have shorter : ((start policy port).run (before ++ [.next])).answers <+:
      ((start policy port).run (before ++ .next :: after)).answers := by
    rw [List.append_cons before .next after, run_append _ _ after]
    exact answers_run ..
  rw [run_append] at shorter
  constructor
  · intro e mem
    exact computes e (((answers_run _ [.next]).trans shorter).subset mem)
  · intro e fault
    apply computes e (shorter.subset _)
    exact List.mem_append_right _ (List.mem_singleton.mpr fault.symm)

theorem fresh_run (port : UInt32) {n : Nat} {b : Span} (few : n ≤ policy.maxAttempts)
    (backoff : policy.backoffAfter n = .ok b) :
    ((start policy port).run (List.replicate n .next)).retries =
        ⟨policy, n, port + UInt32.ofNat n, b⟩ ∧
      ((start policy port).run (List.replicate n .next)).grants.length = n := by
  induction n generalizing b with
  | zero =>
      cases backoff
      exact ⟨by simp [run, start, Retries.start], rfl⟩
  | succ n ih =>
      obtain ⟨earlier, before⟩ := RetryPolicy.backoffAfter_pred backoff
      obtain ⟨retries, grants⟩ := ih (Nat.le_of_succ_le few) before
      rw [RetryPolicy.backoffAfter_succ before] at backoff
      have next : (⟨policy, n, port + UInt32.ofNat n, earlier⟩ : Retries).next = _ :=
        Retries.next_of_grown few backoff
      rw [← retries] at next
      rw [List.replicate_succ', run_append]
      constructor
      · change (Retries.next _).2 = _
        rw [next, UInt32.ofNat_add, ← UInt32.add_assoc, retries]
        rfl
      · change (step _ .next).grants.length = _
        rw [grants_next (congrArg Prod.fst next), List.length_append, grants]
        rfl

theorem fresh_grant {n : Nat} {b b' : Span} (few : n < policy.maxAttempts)
    (backoff : policy.backoffAfter n = .ok b) (later : policy.backoffAfter (n + 1) = .ok b') :
    ∃ a, ((start policy port).run (List.replicate (n + 1) .next)).grants[n]? = some a ∧
      a.backoff = b := by
  obtain ⟨retries, grants⟩ := fresh_run port (Nat.le_of_lt few) backoff
  rw [RetryPolicy.backoffAfter_succ backoff] at later
  have next : (⟨policy, n, port + UInt32.ofNat n, b⟩ : Retries).next = _ :=
    Retries.next_of_grown few later
  rw [← retries] at next
  refine ⟨⟨n + 1, port + UInt32.ofNat n + 1, b⟩, ?_, rfl⟩
  rw [List.replicate_succ', run_append]
  change (step _ .next).grants[n]? = _
  rw [grants_next (congrArg Prod.fst next), List.getElem?_append_right (Nat.le_of_eq grants), grants,
    Nat.sub_self, retries]
  rfl

theorem nodup_ports {n : Nat} {row : List UInt32} (few : row.length ≤ UInt32.size)
    (part : row <:+: (List.range n).map (fun i => port + UInt32.ofNat (i + 1))) : row.Nodup := by
  obtain ⟨earlier, later, whole⟩ := part
  have counted : row = (List.range row.length).map
      (fun i => port + UInt32.ofNat (earlier.length + i + 1)) := by
    apply List.ext_getElem
    · simp
    · intro i short _
      have here : (earlier ++ row ++ later)[earlier.length + i]? = some row[i] := by
        rw [List.append_assoc, List.getElem?_append_right (Nat.le_add_right ..),
          Nat.add_sub_cancel_left, List.getElem?_append_left short, List.getElem?_eq_getElem short]
      rw [whole, List.getElem?_map, Option.map_eq_some_iff] at here
      obtain ⟨j, at', port⟩ := here
      obtain ⟨within, rfl⟩ := List.getElem?_eq_some_iff.mp at'
      simpa using port.symm
  rw [counted]
  apply List.Nodup.map_on _ List.nodup_range
  intro i mem j mem' same
  rw [List.mem_range] at mem mem'
  have same := congrArg UInt32.toNat ((UInt32.add_right_inj port).mp same)
  simp only [UInt32.toNat_ofNat'] at same
  unfold UInt32.size at few
  omega

/-- Whatever was asked for in between, a try counts from the last time that the budget was given
back, is refused once the budget is spent, and has a port of its own. -/
theorem budget_accounts (policy : RetryPolicy) (port : UInt32) (calls : List RetryCall)
    (computes : ∀ e, .fault e ∉ ((start policy port).run calls).answers) :
    ((start policy port).run calls).retries.remaining +
        ((start policy port).run calls).retries.attempt = policy.maxAttempts ∧
      (∀ before after, calls = before ++ .next :: after →
        (RetryCall.sinceReset before < policy.maxAttempts →
          ∃ a, ((start policy port).run before).retries.next.1 = .granted a ∧
            a.number = RetryCall.sinceReset before + 1 ∧
            ∀ fresh, ∃ a', ((start policy fresh).run
              (List.replicate (RetryCall.sinceReset before + 1) .next)).grants[
                RetryCall.sinceReset before]? = some a' ∧ a'.backoff = a.backoff) ∧
        (policy.maxAttempts ≤ RetryCall.sinceReset before →
          ((start policy port).run before).retries.next =
            (.exhausted policy.maxAttempts, ((start policy port).run before).retries))) ∧
      ((start policy port).run calls).ports =
        (List.range ((start policy port).run calls).grants.length).map
          (fun i => port + UInt32.ofNat (i + 1)) ∧
      ∀ row, row <:+: ((start policy port).run calls).ports → row.length ≤ UInt32.size →
        row.Nodup := by
  have accounted := accounted_run computes
  refine ⟨?_, ?_, accounted.ports, ?_⟩
  · rw [Retries.remaining, accounted.keeps]
    apply Nat.sub_add_cancel
    rw [accounted.attempt]
    exact Nat.min_le_right ..
  · rintro before after rfl
    obtain ⟨earlier, fine⟩ := computes_before computes
    have known := accounted_run earlier
    refine ⟨fun more => ?_, known.next_of_spent⟩
    obtain ⟨b, later, next⟩ := known.next_of_more fine more
    have backoff := known.backoff
    rw [known.attempt, Nat.min_eq_left (Nat.le_of_lt more)] at backoff
    exact ⟨_, congrArg Prod.fst next, rfl, fun fresh => fresh_grant more backoff later⟩
  · intro row part few
    rw [accounted.ports] at part
    exact nodup_ports few part

theorem budget_accounts_of_one :
    (∀ e, .fault e ∉ ((start { maxAttempts := 1 } 0).run [.next, .reset, .next, .next]).answers) ∧
      ((start { maxAttempts := 1 } 0).run [.next, .reset, .next, .next]).ports = [1, 2] ∧
      ((start { maxAttempts := 1 } 0).run [.next, .reset, .next]).retries.next.1 = .exhausted 1 := by
  have computes : ∀ e, RetryOutcome.fault e ∉
      ((start { maxAttempts := 1 } 0).run [.next, .reset, .next, .next]).answers := by
    have answers : ((start { maxAttempts := 1 } 0).run [.next, .reset, .next, .next]).answers =
        [.granted ⟨1, 1, .zero⟩, .granted ⟨1, 2, .zero⟩, .exhausted 1] := by decide +kernel
    simp [answers]
  obtain ⟨-, tries, ports, -⟩ := budget_accounts _ _ _ computes
  have spent := (tries [.next, .reset, .next] [] rfl).2 (by decide)
  exact ⟨computes, by rw [ports]; decide +kernel, congrArg Prod.fst spent⟩

/-! ## The cap -/

structure Capped (policy : RetryPolicy) (x : BudgetRun) : Prop where
  keeps : x.retries.policy = policy
  first : x.retries.attempt = 0 → x.retries.backoff = policy.initialBackoff
  later : x.retries.attempt ≠ 0 →
    x.retries.backoff.nanos ≤ policy.maxBackoff.nanos ∨
      ∃ e, policy.grow x.retries.backoff = .error e
  granted : ∀ a ∈ x.grants,
    a.number = 1 ∧ a.backoff = policy.initialBackoff ∨
      1 < a.number ∧ a.backoff.nanos ≤ policy.maxBackoff.nanos
  begins : x.grants = [] ∧ x.retries.backoff = policy.initialBackoff ∨
    ∃ a ∈ x.grants, a.backoff = policy.initialBackoff

theorem capped_start : Capped policy (start policy port) where
  keeps := rfl
  first _ := rfl
  later some := absurd rfl some
  granted a mem := by cases mem
  begins := .inl ⟨rfl, rfl⟩

theorem Capped.next_of_grown (capped : Capped policy x) {b : Span}
    (more : x.retries.attempt < x.retries.policy.maxAttempts)
    (grown : policy.grow x.retries.backoff = .ok b) : Capped policy (x.step .next) := by
  obtain ⟨keeps, first, later, granted, begins⟩ := capped
  have next := Retries.next_of_grown more (by rwa [keeps])
  have longer := grants_next (congrArg Prod.fst next)
  constructor
  · rw [step, next]
    exact keeps
  · rw [step, next]
    exact fun none => absurd none (Nat.succ_ne_zero _)
  · rw [step, next]
    exact fun _ => .inl (RetryPolicy.le_maxBackoff_of_grow grown)
  · rw [longer, List.forall_mem_append, List.forall_mem_singleton]
    apply And.intro granted
    rcases Nat.eq_zero_or_pos x.retries.attempt with none | some
    · exact .inl ⟨congrArg (· + 1) none, first none⟩
    -- a backoff whose growth failed is never granted, so only one under the cap is left
    · rcases later (Nat.ne_of_gt some) with short | ⟨e, failed⟩
      · exact .inr ⟨Nat.succ_lt_succ some, short⟩
      · cases grown.symm.trans failed
  · right
    rw [longer]
    rcases begins with ⟨-, same⟩ | ⟨a, mem, same⟩
    · exact ⟨_, List.mem_append_right _ (List.mem_singleton_self _), same⟩
    · exact ⟨a, List.mem_append_left _ mem, same⟩

theorem Capped.next (capped : Capped policy x) : Capped policy (x.step .next) := by
  rcases Nat.lt_or_ge x.retries.attempt x.retries.policy.maxAttempts with more | spent
  · cases grown : policy.grow x.retries.backoff with
    | ok b => exact capped.next_of_grown more grown
    | error e =>
        obtain ⟨keeps, -, -, granted, begins⟩ := capped
        have next := Retries.next_of_fault more (by rwa [keeps])
        have same : (x.step .next).grants = x.grants := grants_next_of_none (by rw [next]; rfl)
        rw [← same] at granted begins
        rw [step, next] at granted begins ⊢
        exact ⟨keeps, fun none => absurd none (Nat.succ_ne_zero _), fun _ => .inr ⟨e, grown⟩, granted,
          begins⟩
  · obtain ⟨keeps, first, later, granted, begins⟩ := capped
    have next := Retries.next_of_spent spent
    have same : (x.step .next).grants = x.grants := grants_next_of_none (by rw [next]; rfl)
    rw [← same] at granted begins
    rw [step, next] at granted begins ⊢
    exact ⟨keeps, first, later, granted, begins⟩

theorem Capped.reset (capped : Capped policy x) : Capped policy (x.step .reset) where
  keeps := capped.keeps
  first _ := congrArg RetryPolicy.initialBackoff capped.keeps
  later some := absurd rfl some
  granted := capped.granted
  begins := capped.begins.imp_left fun before =>
    ⟨before.1, congrArg RetryPolicy.initialBackoff capped.keeps⟩

theorem capped_run (capped : Capped policy x) (calls : List RetryCall) :
    Capped policy (x.run calls) := by
  induction calls generalizing x with
  | nil => exact capped
  | cons call rest ih =>
      apply ih
      cases call with
      | next => exact capped.next
      | reset => exact capped.reset

/-- The first backoff is the only one that can be over the cap, and every budget that grants a try
at all has granted it. -/
theorem first_backoff_uncapped (policy : RetryPolicy) (port : UInt32) (calls : List RetryCall) :
    (∀ a ∈ ((start policy port).run calls).grants,
      a.number = 1 ∧ a.backoff = policy.initialBackoff ∨
        1 < a.number ∧ a.backoff.nanos ≤ policy.maxBackoff.nanos) ∧
    ((∀ a ∈ ((start policy port).run calls).grants, a.backoff.nanos ≤ policy.maxBackoff.nanos) ↔
      ((start policy port).run calls).grants = [] ∨
        policy.initialBackoff.nanos ≤ policy.maxBackoff.nanos) := by
  have capped : Capped policy ((start policy port).run calls) := capped_run capped_start calls
  refine ⟨capped.granted, fun all => ?_, ?_⟩
  · rcases capped.begins with ⟨none, -⟩ | ⟨a, mem, same⟩
    · exact .inl none
    · right
      rw [← same]
      exact all a mem
  · rintro (none | short) a mem
    · rw [none] at mem
      cases mem
    · rcases capped.granted a mem with ⟨-, same⟩ | ⟨-, later⟩
      · rwa [same]
      · exact later

theorem uncapped_twenty_seconds :
    ¬ ∀ (policy : RetryPolicy) (port : UInt32) (calls : List RetryCall),
      ∀ a ∈ ((start policy port).run calls).grants, a.backoff.nanos ≤ policy.maxBackoff.nanos := by
  intro all
  have grants : ((start { initialBackoff := .ofSecs 20 } 0).run [.next]).grants =
      [⟨1, 1, .ofSecs 20⟩] := by decide +kernel
  have short := all { initialBackoff := .ofSecs 20 } 0 [.next] ⟨1, 1, .ofSecs 20⟩ (by simp [grants])
  exact absurd short (by decide)

end BudgetRun
end StreamTunnel
