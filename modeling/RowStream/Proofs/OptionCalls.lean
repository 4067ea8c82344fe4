import RowStream.Config.InPlace
import RowStream.Proofs.Numerals
import RowStream.Proofs.Traversal

/-! # Options

Each option has one place in a configuration. A call that sets an option reads its text first and touches that
place alone, so a call that fails changes nothing, settings of different options may be swapped, and whatever
calls lead to is within the bounds of each option. -/
namespace RowStream
open RowStream.Number RowStream.Text RowStream.Columnar

theorem Number.Range.mem_of_read? {r : Range} {cs : List Char} {x : Int} (h : r.read? cs = some x) : x ∈ r := by
  have inside {n : Int} (fits : r.within? n = some x) : x ∈ r :=
    (Range.within?_eq_some.mp fits).2 ▸ (Range.within?_eq_some.mp fits).1
  unfold Range.read? at h
  split at h
  · obtain ⟨_, _, fits⟩ := Option.bind_eq_some_iff.mp h
    exact inside fits
  · split at h
    · obtain ⟨_, _, fits⟩ := Option.bind_eq_some_iff.mp h
      exact inside fits
    · cases h
  · obtain ⟨_, _, fits⟩ := Option.bind_eq_some_iff.mp h
    exact inside fits

namespace Config

abbrev Key.Kept : Key → Type
  | .prefetchLimit | .maxRetries | .retryDelay | .maxRetryDelay => Nat
  | .retryableStatuses => List Nat
  | .retryServerErrors | .higherPrecision => Bool
  | .chunkReadyTimeout => Option Nat
  | .speedThreshold => Binary64
  | .timestampUnit => TimeUnit
  | .connectTimeout | .requestTimeout | .maxConnectionsPerHost => Nat
  | .logLevel | .logFile => Option String

def kept (c : Config) : (key : Key) → key.Kept
  | .prefetchLimit => c.prefetchLimit
  | .maxRetries => c.retry.maxRetries
  | .retryDelay => c.retry.delay
  | .maxRetryDelay => c.retry.maxDelay
  | .retryableStatuses => c.retry.statuses
  | .retryServerErrors => c.retry.serverErrors
  | .chunkReadyTimeout => c.chunkReadyTimeout
  | .speedThreshold => c.speedThreshold
  | .higherPrecision => c.higherPrecision
  | .timestampUnit => c.timestampUnit
  | .connectTimeout => c.connectTimeout
  | .requestTimeout => c.requestTimeout
  | .maxConnectionsPerHost => c.maxConnectionsPerHost
  | .logLevel => c.logLevel
  | .logFile => c.logFile

/-- The configuration with another value for an option. -/
def keep (c : Config) : (key : Key) → key.Kept → Config
  | .prefetchLimit, n => { c with prefetchLimit := n }
  | .maxRetries, n => { c with retry := { c.retry with maxRetries := n } }
  | .retryDelay, n => { c with retry := { c.retry with delay := n } }
  | .maxRetryDelay, n => { c with retry := { c.retry with maxDelay := n } }
  | .retryableStatuses, ss => { c with retry := { c.retry with statuses := ss } }
  | .retryServerErrors, b => { c with retry := { c.retry with serverErrors := b } }
  | .chunkReadyTimeout, t => { c with chunkReadyTimeout := t }
  | .speedThreshold, x => { c with speedThreshold := x }
  | .higherPrecision, b => { c with higherPrecision := b }
  | .timestampUnit, u => { c with timestampUnit := u }
  | .connectTimeout, n => { c with connectTimeout := n }
  | .requestTimeout, n => { c with requestTimeout := n }
  | .maxConnectionsPerHost, n => { c with maxConnectionsPerHost := n }
  | .logLevel, text => { c with logLevel := text }
  | .logFile, text => { c with logFile := text }

variable {c d : Config} {key other : Key}

@[simp] theorem kept_keep_self (c : Config) (key : Key) (v : key.Kept) : (c.keep key v).kept key = v := by
  cases key <;> rfl

theorem kept_keep_other (c : Config) (v : key.Kept) (different : other ≠ key) :
    (c.keep key v).kept other = c.kept other := by
  cases key <;> cases other <;> first | rfl | exact (different rfl).elim

/-- The options are all there is to a configuration. -/
theorem eq_of_kept (same : ∀ key, c.kept key = d.kept key) : c = d := by
  obtain ⟨_, ⟨_, _, _, _, _⟩, _, _, _, _, _, _, _, _, _⟩ := c
  obtain ⟨_, ⟨_, _, _, _, _⟩, _, _, _, _, _, _, _, _, _⟩ := d
  simp only [Config.mk.injEq, RetryPolicy.mk.injEq]
  exact ⟨same .prefetchLimit,
    ⟨same .maxRetries, same .retryDelay, same .maxRetryDelay, same .retryableStatuses, same .retryServerErrors⟩,
    same .chunkReadyTimeout, same .speedThreshold, same .higherPrecision, same .timestampUnit, same .connectTimeout,
    same .requestTimeout, same .maxConnectionsPerHost, same .logLevel, same .logFile⟩

/-- Values for different options do not get in each other's way. -/
theorem keep_comm (c : Config) (different : key ≠ other) (v : key.Kept) (w : other.Kept) :
    (c.keep key v).keep other w = (c.keep other w).keep key v := by
  apply eq_of_kept
  intro k
  by_cases first : k = key
  · subst first
    rw [kept_keep_other _ _ different, kept_keep_self, kept_keep_self]
  · by_cases second : k = other
    · subst second
      rw [kept_keep_self, kept_keep_other _ _ first, kept_keep_self]
    · rw [kept_keep_other _ _ second, kept_keep_other _ _ first, kept_keep_other _ _ first,
        kept_keep_other _ _ second]

def largest : Nat := 9223372036854775807

/-- What may be kept for an option. -/
def Key.Allows : (key : Key) → key.Kept → Prop
  | .prefetchLimit, n => 1 ≤ n ∧ n ≤ largest
  | .maxRetries, n => n < Nat.pow 2 32
  | .retryableStatuses, ss => ∀ s ∈ ss, s < Nat.pow 2 16
  | .chunkReadyTimeout, t => t ≠ some 0 ∧ ∀ n ∈ t, n ≤ largest
  | .speedThreshold, x => x.isNaN = false ∧ (x.isNegative = true → x.magnitude = 0)
  | .retryDelay, n | .maxRetryDelay, n => n ≤ largest
  | .connectTimeout, n | .requestTimeout, n | .maxConnectionsPerHost, n => n ≤ largest
  | .retryServerErrors, _ | .higherPrecision, _ | .timestampUnit, _ | .logLevel, _ | .logFile, _ => True

/-- All options are within their bounds. -/
def Fits (c : Config) : Prop := ∀ key : Key, key.Allows (c.kept key)

theorem fits_default : Fits {} := by
  intro key
  cases key <;> simp [Key.Allows, kept, largest]
  all_goals decide

theorem Fits.keep (fits : c.Fits) {v : key.Kept} (allowed : key.Allows v) : (c.keep key v).Fits := by
  intro k
  by_cases here : k = key
  · subst here
    rwa [kept_keep_self]
  · rw [kept_keep_other _ _ here]
    exact fits k

theorem le_of_readInt? {value : String} {x : Int} (h : readInt? value = some x) : x ≤ largest :=
  (Range.mem_def.mp (Range.mem_of_read? h)).2

theorem le_of_readNat? {value : String} {n : Nat} (h : readNat? value = some n) : n ≤ largest := by
  obtain ⟨x, read, here⟩ := Option.bind_eq_some_iff.mp h
  have bound := le_of_readInt? read
  split at here
  · obtain rfl := Option.some.inj here
    omega
  · cases here

theorem lt_of_readCount? {value : String} {n : Nat} (h : readCount? value = some n) : n < Nat.pow 2 32 := by
  obtain ⟨_, inRange⟩ := Option.filter_eq_some_iff.mp h
  have bound : (n : Int) ≤ Range.nat32.high := (Range.mem_def.mp (by simpa using inRange)).2
  have word : Range.nat32.high = 4294967295 := rfl
  have modulus : Nat.pow 2 32 = 4294967296 := rfl
  omega

theorem positive_of_readPositive? {value : String} {n : Nat} (h : readPositive? value = some n) :
    1 ≤ n ∧ n ≤ largest := by
  obtain ⟨read, positive⟩ := Option.filter_eq_some_iff.mp h
  have filled : 0 < n := by simpa using positive
  exact ⟨filled, le_of_readNat? read⟩

/-- A positive number as the session may give it: digits after an optional sign, blanks around them apart. -/
def IsPositive (text : String) (n : Nat) : Prop :=
  ∃ (s : Sign) (ds : List Char), trimmed text = s.text ++ ds ∧ ds ≠ [] ∧ allDigits ds = true ∧
    s.factor * ofDigits ds = (n : Int) ∧ 1 ≤ n ∧ n ≤ largest

theorem readPositive?_eq_some {text : String} {n : Nat} : readPositive? text = some n ↔ IsPositive text n := by
  have signed : Range.int64.low < 0 := by decide
  constructor
  · intro read
    obtain ⟨positive, bound⟩ := positive_of_readPositive? read
    obtain ⟨number, _⟩ := Option.filter_eq_some_iff.mp read
    obtain ⟨x, whole, here⟩ := Option.bind_eq_some_iff.mp number
    split at here
    · obtain rfl := Option.some.inj here
      obtain ⟨s, ds, spelled, filled, digits, value, _⟩ := (Range.read?_eq_some signed).mp whole
      exact ⟨s, ds, spelled, filled, digits, by omega, positive, bound⟩
    · cases here
  · rintro ⟨s, ds, spelled, filled, digits, value, positive, bound⟩
    have inside : (n : Int) ∈ Range.int64 := by
      have top : Range.int64.high = largest := rfl
      have bottom : Range.int64.low = -9223372036854775808 := rfl
      refine Range.mem_def.mpr ⟨?_, ?_⟩ <;> omega
    have whole : readInt? text = some (n : Int) :=
      (Range.read?_eq_some signed).mpr ⟨s, ds, spelled, filled, digits, value, inside⟩
    have number : readNat? text = some n := by simp [readNat?, whole]
    have filled : 0 < n := positive
    simp [readPositive?, number, filled]

theorem lt_of_readStatuses? {value : String} {ss : List Nat} (h : readStatuses? value = some ss) :
    ∀ s ∈ ss, s < Nat.pow 2 16 := by
  intro s member
  have steps := mapM_eq_some.mp h
  obtain ⟨i, text, there, here⟩ := place_of_mem steps.length_eq member
  obtain ⟨s', same, read⟩ := get_of_forall₂ steps there
  obtain rfl : s' = s := Option.some.inj (same.symm.trans here)
  obtain ⟨x, number, rfl⟩ := Option.map_eq_some_iff.mp read
  have bound : x ≤ Range.nat16.high := (Range.mem_def.mp (Range.mem_of_read? number)).2
  have word : Range.nat16.high = 65535 := rfl
  have modulus : Nat.pow 2 16 = 65536 := rfl
  omega

theorem number_of_readSpeed? {value : String} {x : Binary64} (h : readSpeed? value = some x) :
    x.isNaN = false ∧ (x.isNegative = true → x.magnitude = 0) := by
  obtain ⟨_, nonNegative⟩ := Option.filter_eq_some_iff.mp h
  simp only [Binary64.isNonNegative, Bool.and_eq_true, Bool.not_eq_eq_eq_not, Bool.not_true, Bool.or_eq_true,
    beq_iff_eq] at nonNegative
  refine ⟨nonNegative.1, ?_⟩
  intro negative
  simpa [negative] using nonNegative.2

/-- What a call that sets an option leaves, by what the option makes of the configuration. -/
def leaves (c : Config) (name value : String) : Option Config → Result Unit × Config
  | some d => (.ok (), d)
  | none => (.error (.invalidOption name value), c)

theorem run_put {α : Type} (name value : String) (read? : String → Option α) (assigned : α → Config → Config)
    (c : Config) : (put name value read? assigned).run.run c =
      c.leaves name value ((read? value).map (assigned · c)) := by
  unfold put
  cases read? value <;> rfl

/-- The text of an option is read whatever the configuration is, and the value goes to the option's place. -/
theorem run_set {name : String} {key : Key} (known : Key.ofName? name = some key) (value : String) :
    ∃ read : Option key.Kept, (∀ v ∈ read, key.Allows v) ∧
      ∀ c, (Call.set name value).run c = c.leaves name value (read.map (c.keep key)) := by
  cases key with simp only [Call.run, assign, known]
  | prefetchLimit => exact ⟨readPositive? value, fun _ => positive_of_readPositive?, run_put _ _ _ _⟩
  | maxRetries => exact ⟨readCount? value, fun _ => lt_of_readCount?, run_put _ _ _ _⟩
  | retryableStatuses => exact ⟨readStatuses? value, fun _ => lt_of_readStatuses?, run_put _ _ _ _⟩
  | speedThreshold => exact ⟨readSpeed? value, fun _ => number_of_readSpeed?, run_put _ _ _ _⟩
  | retryDelay | maxRetryDelay | connectTimeout | requestTimeout | maxConnectionsPerHost =>
    exact ⟨readNat? value, fun _ => le_of_readNat?, run_put _ _ _ _⟩
  | retryServerErrors | higherPrecision =>
    exact ⟨readBool? value, fun _ _ => trivial, run_put _ _ _ _⟩
  | timestampUnit => exact ⟨TimeUnit.ofText? value, fun _ _ => trivial, run_put _ _ _ _⟩
  | logLevel | logFile => exact ⟨some (some value), fun _ _ => trivial, fun _ => rfl⟩
  | chunkReadyTimeout =>
    refine ⟨(readNat? value).map fun n => if n = 0 then none else some n, ?_, ?_⟩
    · intro t read
      obtain ⟨n, number, rfl⟩ := Option.map_eq_some_iff.mp read
      have bound := le_of_readNat? number
      by_cases zero : n = 0 <;> simp [Key.Allows, zero, bound]
    · intro c
      rw [run_put]
      cases readNat? value <;> rfl

/-- Every call that sets an option fails whatever the configuration is, or puts a value that the option allows in
the option's place. -/
theorem run_set_cases (name value : String) :
    (∃ e, ∀ c, (Call.set name value).run c = (.error e, c)) ∨
    ∃ key : Key, key.name = name ∧ ∃ v : key.Kept, key.Allows v ∧
      ∀ c, (Call.set name value).run c = (.ok (), c.keep key v) := by
  cases known : Key.ofName? name with
  | none =>
    refine .inl ⟨.invalidArgument ("unknown option '" ++ name ++ "'"), fun c => ?_⟩
    rw [Call.run, assign, known]
    rfl
  | some key =>
    have named : key.name = name := by simpa using List.find?_some known
    obtain ⟨read, allowed, runs⟩ := run_set known value
    cases read with
    | none => exact .inl ⟨_, runs⟩
    | some v => exact .inr ⟨key, named, v, allowed v rfl, runs⟩

/-- The window that a result is read with: that of the session, if it names a positive number. -/
inductive Window (c : Config) (ps : List SessionParameter) : Nat → Prop
  | session {p : SessionParameter} {n : Nat} (found : SessionParameter.find? ps "CLIENT_PREFETCH_THREADS" = some p)
      (positive : IsPositive p.valueText n) : Window c ps n
  | own (invalid : ∀ p n, SessionParameter.find? ps "CLIENT_PREFETCH_THREADS" = some p → ¬IsPositive p.valueText n) :
      Window c ps c.prefetchLimit

/-- Parameters of the session always count as taken. -/
theorem run_session (ps : List SessionParameter) (c : Config) :
    ∃ n, c.Window ps n ∧ (Call.session ps).run c = (.ok (), c.keep .prefetchLimit n) := by
  cases found : SessionParameter.find? ps "CLIENT_PREFETCH_THREADS" with
  | none =>
    refine ⟨c.prefetchLimit, .own (by simp [found]), ?_⟩
    rw [Call.run, adopt, found]
    rfl
  | some p =>
    cases read : readPositive? p.valueText with
    | none =>
      refine ⟨c.prefetchLimit, .own fun q n here positive => ?_, ?_⟩
      · obtain rfl := Option.some.inj (found.symm.trans here)
        rw [readPositive?_eq_some.mpr positive] at read
        cases read
      · rw [Call.run, adopt, found]
        simp only [read]
        rfl
    | some n =>
      refine ⟨n, .session found (readPositive?_eq_some.mp read), ?_⟩
      rw [Call.run, adopt, found]
      simp only [read]
      rfl

theorem Window.eq_of_invalid {ps : List SessionParameter} {n : Nat} (window : c.Window ps n)
    (invalid : ∀ p n, SessionParameter.find? ps "CLIENT_PREFETCH_THREADS" = some p → ¬IsPositive p.valueText n) :
    n = c.prefetchLimit := by
  cases window with
  | session found positive => exact (invalid _ _ found positive).elim
  | own => rfl

theorem Fits.window {ps : List SessionParameter} {n : Nat} (fits : c.Fits) (window : c.Window ps n) :
    Key.prefetchLimit.Allows n := by
  cases window with
  | session _ positive =>
    obtain ⟨_, _, _, _, _, _, positive, bound⟩ := positive
    exact ⟨positive, bound⟩
  | own => exact fits .prefetchLimit

/-- What a session leaves of a configuration differs in the window alone. -/
theorem applyParameters_eq (c : Config) (ps : List SessionParameter) :
    ∃ n, c.Window ps n ∧ c.applyParameters ps = c.keep .prefetchLimit n := by
  obtain ⟨n, window, run⟩ := run_session ps c
  exact ⟨n, window, congrArg Prod.snd run⟩

theorem Fits.run (fits : c.Fits) (call : Call) : (call.run c).2.Fits := by
  cases call with
  | set name value =>
    obtain ⟨e, fails⟩ | ⟨key, _, v, allowed, sets⟩ := run_set_cases name value
    · rwa [fails]
    · rw [sets]
      exact fits.keep allowed
  | session ps =>
    obtain ⟨n, window, run⟩ := run_session ps c
    rw [run]
    exact fits.keep (fits.window window)

theorem Fits.after (fits : c.Fits) (calls : List Call) : (c.after calls).Fits := by
  induction calls generalizing c with
  | nil => exact fits
  | cons call calls ih => exact ih (fits.run call)

/-- Whatever calls a configuration went through: a call that fails leaves it as it is, and so do session parameters
without a positive prefetch limit. A setting changes nothing but what its option keeps, so settings of different
options come to the same in either order. The prefetch limit is positive, no wait between notes is empty, and the
speed threshold is a number that is not negative. -/
theorem options_atomic {c : Config} (reached : ∃ calls, Config.after {} calls = c) :
    (∀ (call : Call) e, (call.run c).1 = .error e → (call.run c).2 = c) ∧
    (∀ ps, (∀ p n, SessionParameter.find? ps "CLIENT_PREFETCH_THREADS" = some p → ¬IsPositive p.valueText n) →
      (Call.session ps).run c = (.ok (), c)) ∧
    (∀ name value d, (Call.set name value).run c = (.ok (), d) →
      ∃ key : Key, key.name = name ∧ ∀ other, other ≠ key → d.kept other = c.kept other) ∧
    (∀ name₁ value₁ d₁ name₂ value₂ d₂, name₁ ≠ name₂ →
      (Call.set name₁ value₁).run c = (.ok (), d₁) → (Call.set name₂ value₂).run c = (.ok (), d₂) →
      ∃ d, (Call.set name₂ value₂).run d₁ = (.ok (), d) ∧ (Call.set name₁ value₁).run d₂ = (.ok (), d)) ∧
    1 ≤ c.prefetchLimit ∧ c.chunkReadyTimeout ≠ some 0 ∧
    c.speedThreshold.isNaN = false ∧ (c.speedThreshold.isNegative = true → c.speedThreshold.magnitude = 0) := by
  obtain ⟨calls, rfl⟩ := reached
  have fits := fits_default.after calls
  refine ⟨?_, ?_, ?_, ?_, (fits .prefetchLimit).1, (fits .chunkReadyTimeout).1, fits .speedThreshold⟩
  · intro call e failed
    cases call with
    | set name value =>
      obtain ⟨e', fails⟩ | ⟨key, _, v, _, sets⟩ := run_set_cases name value
      · rw [fails]
      · simp [sets] at failed
    | session ps =>
      obtain ⟨n, _, run⟩ := run_session ps (Config.after {} calls)
      simp [run] at failed
  · intro ps invalid
    obtain ⟨n, window, run⟩ := run_session ps (Config.after {} calls)
    rw [run, window.eq_of_invalid invalid]
    rfl
  · intro name value d set
    obtain ⟨e, fails⟩ | ⟨key, named, v, _, sets⟩ := run_set_cases name value
    · simp [fails] at set
    · obtain rfl : _ = d := congrArg Prod.snd ((sets _).symm.trans set)
      exact ⟨key, named, fun other different => kept_keep_other _ v different⟩
  · intro name₁ value₁ d₁ name₂ value₂ d₂ different first second
    obtain ⟨e, fails⟩ | ⟨key₁, rfl, v₁, _, sets₁⟩ := run_set_cases name₁ value₁
    · simp [fails] at first
    obtain ⟨e, fails⟩ | ⟨key₂, rfl, v₂, _, sets₂⟩ := run_set_cases name₂ value₂
    · simp [fails] at second
    have keys : key₁ ≠ key₂ := fun same => different (same ▸ rfl)
    obtain rfl : _ = d₁ := congrArg Prod.snd ((sets₁ _).symm.trans first)
    obtain rfl : _ = d₂ := congrArg Prod.snd ((sets₂ _).symm.trans second)
    refine ⟨_, sets₂ _, ?_⟩
    rw [sets₁, keep_comm _ keys]

/-- A good limit, statuses of which one is none, a wait of zero, and a limit of the session that is too low. -/
def mixedCalls : List Call :=
  [.set "snowflake.result.prefetch_limit" "8", .set "snowflake.result.retryable_statuses" "500, x",
    .set "snowflake.result.chunk_ready_timeout_ms" "0", .session [⟨"client_prefetch_threads", .string "-2"⟩]]

theorem options_atomic_mixedCalls :
    ∃ c, Config.after {} mixedCalls = c ∧ c.prefetchLimit = 8 ∧ c.chunkReadyTimeout = none ∧
      c.retry.statuses = [429] ∧
      ((Call.set "snowflake.result.max_retries" "-1").run c).2 = c ∧
      (Call.session [⟨"client_prefetch_threads", .string "-2"⟩]).run c = (.ok (), c) ∧
      (∃ d, (Call.set "snowflake.result.max_retries" "7").run { c with logFile := some "log" } = (.ok (), d) ∧
        (Call.set "snowflake.log_file" "log").run (c.keep .maxRetries (7 : Nat)) = (.ok (), d)) ∧
      1 ≤ c.prefetchLimit ∧ c.chunkReadyTimeout ≠ some 0 ∧ c.speedThreshold.isNaN = false := by
  obtain ⟨atomic, invalid, _, commute, limit, wait, speed, _⟩ := options_atomic ⟨mixedCalls, rfl⟩
  refine ⟨_, rfl, rfl, rfl, rfl, atomic _ (.invalidOption "snowflake.result.max_retries" "-1") rfl, ?_, ?_, limit, wait,
    speed⟩
  · apply invalid
    intro p n found positive
    obtain rfl := Option.some.inj found
    have refused : readPositive? "-2" = none := rfl
    have read : readPositive? "-2" = some n := readPositive?_eq_some.mpr positive
    rw [refused] at read
    cases read
  · exact commute "snowflake.log_file" "log" _ "snowflake.result.max_retries" "7" _ (by decide) rfl rfl

end Config
end RowStream
