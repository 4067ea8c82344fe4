import Mathlib.Tactic.Ring
import RowStream.Config.InPlace
import RowStream.Fetch.Download

/-! # Downloads that are tried again

The first round that is not worth another one, or the last one that the policy allows, ends a download. That round
alone decides the result. -/
namespace RowStream

/-- The statuses that a policy retries: those of the server, if it says so, and those that it lists. -/
def RetryPolicy.Retries (p : RetryPolicy) (status : Nat) : Prop :=
  (p.serverErrors = true ∧ 500 ≤ status ∧ status < 600) ∨ status ∈ p.statuses

theorem RetryPolicy.retries_iff {p : RetryPolicy} {status : Nat} : p.retries status = true ↔ p.Retries status := by
  simp [retries, Retries, and_assoc]

namespace Exchange
variable {policy : RetryPolicy} {e : Exchange}

/-- The message about an answer that is no success. -/
def refusal (status : Nat) (answer : Except String (List UInt8)) : String :=
  "HTTP " ++ toString status ++ " - " ++ quoted answer

/-- What an exchange is worth: only a success whose body arrives is a body, and among the other answers the
policy says which are worth another attempt. -/
inductive Means (policy : RetryPolicy) : Exchange → Attempt → Prop
  | lost {message : String} : Means policy (.failed true message) (.transient none message)
  | impossible {message : String} : Means policy (.failed false message) (.fatal none message)
  | body {status : Nat} {bytes : List UInt8} (success : 200 ≤ status ∧ status < 300) :
      Means policy (.answered status (.ok bytes)) (.body bytes)
  | torn {status : Nat} {message : String} (success : 200 ≤ status ∧ status < 300) :
      Means policy (.answered status (.error message)) (.transient none ("failed to read body: " ++ message))
  | retried {status : Nat} {answer : Except String (List UInt8)} (failure : ¬(200 ≤ status ∧ status < 300))
      (retries : policy.Retries status) :
      Means policy (.answered status answer) (.transient (some status) (refusal status answer))
  | refused {status : Nat} {answer : Except String (List UInt8)} (failure : ¬(200 ≤ status ∧ status < 300))
      (retries : ¬policy.Retries status) :
      Means policy (.answered status answer) (.fatal (some status) (refusal status answer))

theorem means_judge (policy : RetryPolicy) (e : Exchange) : Means policy e (e.judge policy) := by
  cases e with
  | failed retryable message =>
    cases retryable with
    | true => exact .lost
    | false => exact .impossible
  | answered status answer =>
    by_cases success : 200 ≤ status ∧ status < 300
    · cases answer with
      | ok bytes => simpa only [judge, if_pos success] using .body success
      | error message => simpa only [judge, if_pos success] using .torn success
    · by_cases retries : policy.retries status = true
      · simp only [judge, if_neg success, if_pos retries]
        exact .retried success (RetryPolicy.retries_iff.mp retries)
      · simp only [judge, if_neg success, if_neg retries]
        exact .refused success (mt RetryPolicy.retries_iff.mpr retries)

theorem Means.unique {a b : Attempt} (h : Means policy e a) (h' : Means policy e b) : a = b := by
  cases h <;> cases h' <;> first | rfl | contradiction

theorem means_iff {a : Attempt} : Means policy e a ↔ e.judge policy = a :=
  ⟨(means_judge policy e).unique, fun same => same ▸ means_judge policy e⟩

end Exchange

namespace Download
open Exchange
variable {policy : RetryPolicy} {ordinal limit n k : Nat} {rounds other : Nat → Round}

/-- A failure that is worth another attempt, and nobody gives up in the delay after it. -/
def GoesOn (policy : RetryPolicy) (r : Round) : Prop :=
  ∃ e status message, r = .ended e false ∧ Means policy e (.transient status message)

/-- What round number `n` makes of a download if it is the last one. -/
inductive Stops (policy : RetryPolicy) (ordinal limit n : Nat) : Round → Download → Prop
  | cancelled : Stops policy ordinal limit n .cancelled {
      result := .error { kind := .cancelled, message := "chunk download cancelled", chunk := some ordinal }
      ended := n - 1 }
  | body {e : Exchange} {late : Bool} {bytes : List UInt8} (means : Means policy e (.body bytes)) :
      Stops policy ordinal limit n (.ended e late) { result := .ok bytes, ended := n }
  | fatal {e : Exchange} {late : Bool} {status : Option Nat} {message : String}
      (means : Means policy e (.fatal status message)) : Stops policy ordinal limit n (.ended e late) {
        result := .error { kind := .fetch, message, chunk := some ordinal, status }
        ended := n }
  | cancelledInDelay {e : Exchange} {status : Option Nat} {message : String}
      (means : Means policy e (.transient status message)) (more : n < limit) :
      Stops policy ordinal limit n (.ended e true) {
        result := .error { kind := .cancelled, message := "chunk download cancelled", chunk := some ordinal }
        ended := n
        delays := [policy.wait (UInt32.ofNat n)] }
  | exhausted {e : Exchange} {late : Bool} {status : Option Nat} {message : String}
      (means : Means policy e (.transient status message)) (last : n = limit) :
      Stops policy ordinal limit n (.ended e late) {
        result := .error {
          kind := .fetch
          message := "giving up after " ++ toString n ++ " attempts: " ++ message
          chunk := some ordinal
          status }
        ended := n }

/-- The round that ends a download is the first one, from `n` on, that does not go on, or the last allowed one. -/
structure EndsAt (policy : RetryPolicy) (rounds : Nat → Round) (limit n k : Nat) : Prop where
  le : n ≤ k
  inLimit : k ≤ limit
  before : ∀ i, n ≤ i → i < k → GoesOn policy (rounds i)
  here : k = limit ∨ ¬GoesOn policy (rounds k)

/-- A download after the waits that follow the attempts from `n` to `k`, the last one apart. -/
def afterWaits (policy : RetryPolicy) (n k : Nat) (d : Download) : Download :=
  { d with delays := (List.range' n (k - n)).map (fun i => policy.wait (UInt32.ofNat i)) ++ d.delays }

@[simp] theorem afterWaits_self (policy : RetryPolicy) (n : Nat) (d : Download) : afterWaits policy n n d = d := by
  simp [afterWaits]

theorem afterWaits_cons (policy : RetryPolicy) (d : Download) (less : n < k) :
    afterWaits policy n k d =
      { d with delays := policy.wait (UInt32.ofNat n) :: (afterWaits policy (n + 1) k d).delays } := by
  obtain ⟨m, rfl⟩ := Nat.exists_eq_add_of_lt less
  have left : n + m + 1 - n = m + 1 := by omega
  have later : n + m + 1 - (n + 1) = m := by omega
  simp [afterWaits, left, later, List.range'_succ]

theorem EndsAt.unique {j : Nat} (h : EndsAt policy rounds limit n j) (h' : EndsAt policy rounds limit n k) :
    j = k := by
  rcases Nat.lt_trichotomy j k with less | same | more
  · have goes := h'.before j h.le less
    have inLimit := h'.inLimit
    rcases h.here with last | stops
    · omega
    · exact (stops goes).elim
  · exact same
  · have goes := h.before k h'.le more
    have inLimit := h.inLimit
    rcases h'.here with last | stops
    · omega
    · exact (stops goes).elim

/-- A round that goes on puts itself before the rest. -/
theorem EndsAt.cons (goes : GoesOn policy (rounds n)) (h : EndsAt policy rounds limit (n + 1) k) :
    EndsAt policy rounds limit n k := by
  refine ⟨Nat.le_of_succ_le h.le, h.inLimit, ?_, h.here⟩
  intro i from_n below
  rcases Nat.eq_or_lt_of_le from_n with rfl | after
  · exact goes
  · exact h.before i after below

theorem EndsAt.start (inLimit : n ≤ limit) (here : n = limit ∨ ¬GoesOn policy (rounds n)) :
    EndsAt policy rounds limit n n := by
  refine ⟨Nat.le_refl n, inLimit, ?_, here⟩
  intro i from_n below
  omega

theorem Stops.unique {r : Round} {d d' : Download} (h : Stops policy ordinal limit n r d)
    (h' : Stops policy ordinal limit n r d') : d = d' := by
  cases h <;> cases h' <;> simp_all [means_iff]

def Ends (policy : RetryPolicy) (ordinal : Nat) (rounds : Nat → Round) (limit n : Nat) (whole : Download) : Prop :=
  ∃ k d, EndsAt policy rounds limit n k ∧ Stops policy ordinal limit k (rounds k) d ∧ whole = afterWaits policy n k d

theorem ends_here {r : Round} {d : Download} (inLimit : n ≤ limit) (here : n = limit ∨ ¬GoesOn policy r)
    (round : rounds n = r) (stops : Stops policy ordinal limit n r d) : Ends policy ordinal rounds limit n d := by
  subst round
  exact ⟨n, d, .start inLimit here, stops, (afterWaits_self policy n d).symm⟩

/-- From any attempt on, the download is what the round makes of it at which it ends. -/
theorem attemptFrom_ends (ordinal : Nat) (rounds : Nat → Round) (inLimit : n ≤ limit) :
    Ends policy ordinal rounds limit n (attemptFrom policy ordinal rounds limit n) := by
  -- The induction is on the attempts that are left; only a failure that goes on leads to another one.
  induction left : limit - n using Nat.strongRecOn generalizing n with
  | ind left_n ih =>
    rw [attemptFrom]
    cases round : rounds n with
    | cancelled =>
      exact ends_here inLimit (.inr (by simp [GoesOn])) round .cancelled
    | ended e late =>
      have means := means_judge policy e
      cases judged : e.judge policy with
      | body bytes =>
        have stays : ¬GoesOn policy (.ended e late) := by simp [GoesOn, means_iff, judged]
        simp only [judged]
        exact ends_here inLimit (.inr stays) round (.body (judged ▸ means))
      | fatal status message =>
        have stays : ¬GoesOn policy (.ended e late) := by simp [GoesOn, means_iff, judged]
        simp only [judged]
        exact ends_here inLimit (.inr stays) round (.fatal (judged ▸ means))
      | transient status message =>
        have passing : Means policy e (.transient status message) := judged ▸ means
        simp only [judged]
        by_cases more : n < limit
        · simp only [if_pos more]
          cases late with
          | true => exact ends_here inLimit (.inr (by simp [GoesOn])) round (.cancelledInDelay passing more)
          | false =>
            obtain ⟨k, d, ends, stops, later⟩ := ih _ (by omega) more rfl
            refine ⟨k, d, ends.cons ⟨e, status, message, round, passing⟩, stops, ?_⟩
            rw [afterWaits_cons policy d ends.le, later]
            rfl
        · simp only [if_neg more]
          exact ends_here inLimit (.inl (by omega)) round (.exhausted passing (by omega))

theorem maxAttempts_eq (policy : RetryPolicy) :
    maxAttempts policy =
      if policy.maxRetries + 1 < 2 ^ 32 then .ok (policy.maxRetries + 1) else .error .addition := rfl

theorem run_of_fits (fits : policy.maxRetries + 1 < 2 ^ 32) :
    run policy ordinal rounds = .ok (attemptFrom policy ordinal rounds (policy.maxRetries + 1) 1) := by
  rw [run, maxAttempts_eq, if_pos fits]
  rfl

theorem run_stops (ordinal : Nat) (rounds : Nat → Round) (fits : policy.maxRetries + 1 < 2 ^ 32) :
    ∃ k d, EndsAt policy rounds (policy.maxRetries + 1) 1 k ∧
      Stops policy ordinal (policy.maxRetries + 1) k (rounds k) d ∧
      run policy ordinal rounds = .ok (afterWaits policy 1 k d) := by
  obtain ⟨k, d, ends, stops, same⟩ : Ends policy ordinal rounds _ 1 _ :=
    attemptFrom_ends ordinal rounds (Nat.succ_pos policy.maxRetries)
  exact ⟨k, d, ends, stops, by rw [run_of_fits fits, same]⟩

/-- What happens after the last round makes no difference. -/
theorem run_eq_of_agree (fits : policy.maxRetries + 1 < 2 ^ 32)
    (ends : EndsAt policy rounds (policy.maxRetries + 1) 1 k) (agree : ∀ i, 1 ≤ i → i ≤ k → other i = rounds i) :
    run policy ordinal other = run policy ordinal rounds := by
  have same : EndsAt policy other (policy.maxRetries + 1) 1 k := by
    refine ⟨ends.le, ends.inLimit, ?_, ?_⟩
    · intro i counted below
      rw [agree i counted (Nat.le_of_lt below)]
      exact ends.before i counted below
    · rw [agree k ends.le (Nat.le_refl k)]
      exact ends.here
  obtain ⟨j, d, endsHere, stops, here⟩ := run_stops ordinal rounds fits
  obtain ⟨j', d', endsThere, stops', there⟩ := run_stops ordinal other fits
  obtain rfl := ends.unique endsHere
  obtain rfl := same.unique endsThere
  rw [agree k ends.le (Nat.le_refl k)] at stops'
  rw [here, there, stops'.unique stops]

/-- A success after failures that were worth another attempt is what the download brings. -/
theorem run_eq_body {e : Exchange} {late : Bool} {bytes : List UInt8} (fits : policy.maxRetries + 1 < 2 ^ 32)
    (counted : 1 ≤ k) (inLimit : k ≤ policy.maxRetries + 1) (before : ∀ i, 1 ≤ i → i < k → GoesOn policy (rounds i))
    (round : rounds k = .ended e late) (means : Means policy e (.body bytes)) :
    run policy ordinal rounds = .ok (afterWaits policy 1 k { result := .ok bytes, ended := k }) := by
  have judged := means_iff.mp means
  have stays : ¬GoesOn policy (rounds k) := by simp [GoesOn, round, means_iff, judged]
  obtain ⟨j, d, ends, stops, same⟩ := run_stops ordinal rounds fits
  obtain rfl := ends.unique ⟨counted, inLimit, before, .inr stays⟩
  rw [round] at stops
  rw [same, stops.unique (.body means)]

/-- A download makes attempts until the first one that is not worth another, or one more than the policy has retries;
that one decides the result and nothing is asked for after it. Between two attempts it waits as the policy says.
The attempts are counted in 32 bits, so the largest number of retries stops the program before the first one. -/
theorem first_end_decides {policy : RetryPolicy} (bounded : policy.maxRetries < 2 ^ 32) (ordinal : Nat)
    (rounds : Nat → Round) :
    (policy.maxRetries < 2 ^ 32 - 1 →
      (∃ k d, EndsAt policy rounds (policy.maxRetries + 1) 1 k ∧
        Stops policy ordinal (policy.maxRetries + 1) k (rounds k) d ∧
        run policy ordinal rounds = .ok {
          result := d.result
          ended := d.ended
          delays := (List.range' 1 (k - 1)).map (fun i => policy.wait (UInt32.ofNat i)) ++ d.delays } ∧
        ∀ other : Nat → Round, (∀ i, 1 ≤ i → i ≤ k → other i = rounds i) →
          run policy ordinal other = run policy ordinal rounds) ∧
      ∀ (k : Nat) (e : Exchange) (late : Bool) (bytes : List UInt8), 1 ≤ k → k ≤ policy.maxRetries + 1 →
        (∀ i, 1 ≤ i → i < k → GoesOn policy (rounds i)) → rounds k = .ended e late → Means policy e (.body bytes) →
        run policy ordinal rounds = .ok {
          result := .ok bytes
          ended := k
          delays := (List.range' 1 (k - 1)).map fun i => policy.wait (UInt32.ofNat i) }) ∧
    (policy.maxRetries = 2 ^ 32 - 1 → run policy ordinal rounds = .error .addition) := by
  constructor
  · intro fits
    have fits : policy.maxRetries + 1 < 2 ^ 32 := by omega
    obtain ⟨k, d, ends, stops, same⟩ := run_stops ordinal rounds fits
    refine ⟨⟨k, d, ends, stops, same, fun other => run_eq_of_agree fits ends⟩, ?_⟩
    intro k e late bytes counted inLimit before round means
    rw [run_eq_body fits counted inLimit before round means, afterWaits, List.append_nil]
  · intro full
    have beyond : ¬policy.maxRetries + 1 < 2 ^ 32 := by omega
    rw [run, maxAttempts_eq, if_neg beyond]
    rfl

/-- A busy server answers first, and then the chunk comes. -/
def busyFirst : Nat → Round
  | 1 => .ended (.answered 503 (.ok [])) false
  | _ => .ended (.answered 200 (.ok [1])) false

def oneRetry : RetryPolicy := { maxRetries := 1 }

def mostRetries : RetryPolicy := { maxRetries := 4294967295 }

/-- With one retry the chunk comes at the second attempt; with the largest number of them there is no attempt. -/
theorem first_end_decides_busyFirst :
    (Config.after {} [.set "snowflake.result.max_retries" "1"]).retry = oneRetry ∧
    oneRetry.maxRetries < 2 ^ 32 ∧ oneRetry.maxRetries < 2 ^ 32 - 1 ∧
    run oneRetry 0 busyFirst = .ok { result := .ok [1], ended := 2, delays := [oneRetry.wait 1] } ∧
    (Config.after {} [.set "snowflake.result.max_retries" "4294967295"]).retry = mostRetries ∧
    mostRetries.maxRetries < 2 ^ 32 ∧ mostRetries.maxRetries = 2 ^ 32 - 1 ∧
    run mostRetries 0 busyFirst = .error .addition := by
  have bounded : oneRetry.maxRetries < 2 ^ 32 := by decide
  have fits : oneRetry.maxRetries < 2 ^ 32 - 1 := by decide
  have boundedMost : mostRetries.maxRetries < 2 ^ 32 := by decide
  have full : mostRetries.maxRetries = 2 ^ 32 - 1 := by decide
  refine ⟨rfl, bounded, fits, ?_, rfl, boundedMost, full, (first_end_decides boundedMost 0 busyFirst).2 full⟩
  refine ((first_end_decides bounded 0 busyFirst).1 fits).2 2 _ false [1] (by decide) (by decide) ?_ rfl
    (.body (by decide))
  intro i counted below
  obtain rfl : i = 1 := by omega
  have retried : oneRetry.Retries 503 := .inl (by decide)
  exact ⟨_, _, _, rfl, .retried (by decide) retried⟩

end Download
end RowStream
