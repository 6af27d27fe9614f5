/-
Rate limits (`product/workspaceOnboardingStore.ts`, `http/app.ts`).

* `consumeRateLimit`: a row of the database has the window of a key. The statement that counts a call restarts the
  window in two parallel `CASE` expressions.
* `AdminLimiter.consume`: the windows of all keys in memory, which are forgotten together.
* `rate_limits`: **both bound what they allow**, in every window and in every interval of a minute, and recover.
-/

import FuseControlPlane.Foundation.FixedWindows
import FuseControlPlane.Foundation.Methods
import FuseControlPlane.Foundation.Records

set_option linter.unusedSectionVars false

namespace FuseControlPlane.Product

open Foundation Foundation.Method

/-- A maximum as `createApp` takes it: a safe integer that is not below one. -/
structure RateLimit where
  maxPerMinute : ℕ
  positive : 1 ≤ maxPerMinute
  safe : maxPerMinute ≤ 2 ^ 53 - 1

/-- What `createApp` checks of a maximum; the number is `none` if it is no integer. -/
def RateLimit.check (error : String) : Option ℤ → Except String RateLimit
  | none => .error error
  | some maxPerMinute =>
    if bounds : 1 ≤ maxPerMinute.toNat ∧ maxPerMinute.toNat ≤ 2 ^ 53 - 1 then .ok ⟨maxPerMinute.toNat, bounds.1, bounds.2⟩
    else .error error

/-- `Math.ceil(milliseconds / 1_000)`. -/
def ceilSeconds (milliseconds : ℤ) : ℤ := -(-milliseconds / 1000)

/-! ### In the database -/

/-- A row of `fuse_onboarding_rate_limits`. Timestamps of the database are in microseconds. -/
structure RateRow where
  windowStartedAt : ℤ
  requestCount : ℕ

/-- A call with the clocks that it reads: `CURRENT_TIMESTAMP`, in microseconds, and `Date.now()`. -/
structure RateCall where
  key : String
  maxPerMinute : RateLimit
  now : Option ℤ
  currentTimestamp : ℤ
  dateNow : ℤ

structure RateDecision where
  allowed : Bool
  retryAfterSeconds : ℤ

/-- `INTERVAL '1 minute'`. -/
def minute : ℤ := 60000000

/-- `COALESCE($2::timestamptz, CURRENT_TIMESTAMP)`. -/
def RateCall.instant (call : RateCall) : ℤ := (call.now.map (· * 1000)).getD call.currentTimestamp

/-- The row that the statement leaves. -/
def countRequest (instant : ℤ) : Option RateRow → Except String RateRow
  | none => .ok ⟨instant, 1⟩
  | some row =>
    let requestCount := if row.windowStartedAt ≤ instant - minute then 1 else row.requestCount + 1
    let windowStartedAt := if row.windowStartedAt ≤ instant - minute then instant else row.windowStartedAt
    -- The column is an `INTEGER`.
    if 2147483647 < requestCount then .error "integer out of range" else .ok ⟨windowStartedAt, requestCount⟩

def consumeRateLimit (call : RateCall) : Method (Record RateRow) RateDecision := do
  let table ← get
  let row ← fromExcept (countRequest call.instant (table.get call.key))
  modify fun table => table.set call.key row
  return ⟨row.requestCount ≤ call.maxPerMinute.maxPerMinute,
    max 1 (ceilSeconds (row.windowStartedAt / 1000 + 60000 - call.dateNow))⟩

/-- What is seen of a call: its window is that of the row that it leaves. -/
def rateAnswer (table : Record RateRow) (call : RateCall) : Answer String :=
  let result := consumeRateLimit call table
  let openedAt := ((left result).get call.key).map RateRow.windowStartedAt
  match outcome result with
  | .ok decision => ⟨call.key, call.instant, openedAt.getD 0, openedAt, decision.allowed⟩
  | .error _ => ⟨call.key, call.instant, openedAt.getD 0, none, false⟩

def rateAnswers (calls : List RateCall) : List (Answer String) :=
  answersOf (fun table call => left (consumeRateLimit call table)) rateAnswer .empty calls

/-! ### In memory -/

structure AdminWindow where
  startedAt : ℤ
  count : ℕ

structure AdminLimiter where
  windows : Record AdminWindow
  generationStartedAt : ℤ

/-- A request of a principal, and the time of the limiter. -/
structure AdminCall where
  organizationId : String
  principalType : String
  principalId : String
  now : ℤ

/-- The request goes on, or it is refused with a `Retry-After` header. -/
inductive AdminDecision
  | next
  | tooMany (retryAfter : ℤ)
  deriving DecidableEq

def AdminCall.key (call : AdminCall) : String :=
  call.organizationId ++ ":" ++ call.principalType ++ ":" ++ call.principalId

namespace AdminLimiter

def new : AdminLimiter := ⟨.empty, 0⟩

/-- All windows are forgotten once their generation is a minute old. -/
def renewed (now : ℤ) (limiter : AdminLimiter) : AdminLimiter :=
  if limiter.generationStartedAt = 0 ∨ 60000 ≤ now - limiter.generationStartedAt then ⟨.empty, now⟩ else limiter

/-- The window of a key with one more call. -/
def counted (now : ℤ) (key : String) (limiter : AdminLimiter) : AdminWindow :=
  let window := (limiter.windows.get key).getD ⟨now, 0⟩
  { window with count := window.count + 1 }

def consume (limit : RateLimit) (call : AdminCall) (limiter : AdminLimiter) : AdminDecision × AdminLimiter :=
  let limiter := renewed call.now limiter
  let window := limiter.counted call.now call.key
  let after := { limiter with windows := limiter.windows.set call.key window }
  if limit.maxPerMinute < window.count then (.tooMany (max 1 (ceilSeconds (window.startedAt + 60000 - call.now))), after)
  else (.next, after)

end AdminLimiter

/-- What is seen of a request. -/
def adminAnswer (limit : RateLimit) (limiter : AdminLimiter) (call : AdminCall) : Answer String :=
  let (decision, after) := limiter.consume limit call
  ⟨call.key, call.now, after.generationStartedAt, (after.windows.get call.key).map AdminWindow.startedAt,
    decision = .next⟩

def adminAnswers (limit : RateLimit) (calls : List AdminCall) : List (Answer String) :=
  answersOf (fun limiter call => (limiter.consume limit call).2) (adminAnswer limit) .new calls

/-! ### What a call of the database keeps -/

section Database

variable {limit : RateLimit} {key : String} {table : Record RateRow} {call : RateCall} {latest : ℤ}
  {past : List (Answer String)}

/-- The statement opens a window, counts a call in one, or fails. -/
theorem countRequest_cases (instant : ℤ) (stored : Option RateRow) :
    ((∀ row, stored = some row → row.windowStartedAt + minute ≤ instant) ∧
      countRequest instant stored = .ok ⟨instant, 1⟩) ∨
    ∃ row, stored = some row ∧ instant < row.windowStartedAt + minute ∧
      (countRequest instant stored = .ok ⟨row.windowStartedAt, row.requestCount + 1⟩ ∨
        ∃ error, countRequest instant stored = .error error) := by
  cases stored with
  | none => exact .inl ⟨(fun _ absent => nomatch absent), rfl⟩
  | some row =>
    unfold countRequest
    by_cases elapsed : row.windowStartedAt ≤ instant - minute
    · refine .inl ⟨fun other same => ?_, ?_⟩
      · cases same
        exact add_le_of_le_sub_right elapsed
      · dsimp only
        rw [if_pos elapsed, if_pos elapsed, if_neg (by decide)]
    · refine .inr ⟨row, rfl, by omega, ?_⟩
      dsimp only
      rw [if_neg elapsed, if_neg elapsed]
      split
      · exact .inr ⟨_, rfl⟩
      · exact .inl rfl

theorem consumeRateLimit_ok {row : RateRow} (counted : countRequest call.instant (table.get call.key) = .ok row) :
    ∃ decision, consumeRateLimit call table = .ok decision (table.set call.key row) ∧
      decision.allowed = decide (row.requestCount ≤ call.maxPerMinute.maxPerMinute) := by
  unfold consumeRateLimit
  rw [get_bind, fromExcept_bind, counted]
  exact ⟨_, rfl, rfl⟩

theorem consumeRateLimit_error {error : String}
    (failed : countRequest call.instant (table.get call.key) = .error error) :
    consumeRateLimit call table = .error error table := by
  unfold consumeRateLimit
  rw [get_bind, fromExcept_bind, failed]

theorem rateAnswer_ok {row : RateRow} (counted : countRequest call.instant (table.get call.key) = .ok row) :
    rateAnswer table call = ⟨call.key, call.instant, row.windowStartedAt, some row.windowStartedAt,
      decide (row.requestCount ≤ call.maxPerMinute.maxPerMinute)⟩ := by
  obtain ⟨decision, consumed, allowed⟩ := consumeRateLimit_ok counted
  have stored : (table.set call.key row).get call.key = some row := by rw [Record.get_set, if_pos rfl]
  unfold rateAnswer
  rw [consumed]
  dsimp only [left, outcome]
  rw [stored, allowed]
  rfl

theorem rateAnswer_error {error : String} (failed : countRequest call.instant (table.get call.key) = .error error) :
    (rateAnswer table call).key = call.key ∧ (rateAnswer table call).openedAt = none ∧
      (rateAnswer table call).allowed = false := by
  unfold rateAnswer
  rw [consumeRateLimit_error failed]
  exact ⟨rfl, rfl, rfl⟩

theorem rateAnswer_key (table : Record RateRow) (call : RateCall) : (rateAnswer table call).key = call.key := by
  unfold rateAnswer
  dsimp only
  split <;> rfl

/-- The row of a key counts what its calls were allowed in its window. -/
structure RowCounts (limit : RateLimit) (key : String) (latest : ℤ) (row : RateRow) (past : List (Answer String)) :
    Prop where
  opened : row.windowStartedAt ≤ latest
  counts : Counts minute limit.maxPerMinute key row.windowStartedAt row.requestCount past
  answered : ∃ answer ∈ past, answer.key = key ∧ answer.openedAt = some row.windowStartedAt

structure TableCounts (limit : RateLimit) (key : String) (latest : ℤ) (table : Record RateRow)
    (past : List (Answer String)) : Prop where
  recovers : Recovers minute key past
  unknown : table.get key = none → ∀ answer ∈ past, answer.key ≠ key
  known : ∀ row, table.get key = some row → RowCounts limit key latest row past

theorem RowCounts.other {row : RateRow} {answer : Answer String} (counts : RowCounts limit key latest row past)
    (denied : ¬ (answer.key = key ∧ answer.allowed = true)) {later : ℤ} (order : latest ≤ later) {requestCount : ℕ}
    (more : row.requestCount ≤ requestCount) :
    RowCounts limit key later ⟨row.windowStartedAt, requestCount⟩ (past ++ [answer]) := by
  obtain ⟨earlier, member, own, window⟩ := counts.answered
  exact ⟨counts.opened.trans order, counts.counts.skip denied more, earlier, List.mem_append_left _ member, own, window⟩

/-- What a window that is opened counts. -/
theorem TableCounts.fresh (counts : TableCounts limit key latest table past) {instant : ℤ}
    (elapsed : ∀ row, table.get key = some row → row.windowStartedAt + minute ≤ instant) :
    Counts minute limit.maxPerMinute key instant 0 past := by
  cases stored : table.get key with
  | some row => exact (counts.known row stored).counts.restart (by decide) (elapsed row stored)
  | none =>
    refine .of_granted_nil (List.filter_eq_nil_iff.mpr fun answer member granted => ?_) instant 0
    exact counts.unknown stored answer member (of_decide_eq_true granted).1

/-- **A call keeps the counts** of every key. -/
theorem tableCounts_step (counts : TableCounts limit key latest table past) (order : latest ≤ call.instant)
    (same : call.key = key → call.maxPerMinute = limit) :
    TableCounts limit key call.instant (left (consumeRateLimit call table)) (past ++ [rateAnswer table call]) := by
  by_cases own : call.key = key
  · have maximum := same own
    rcases countRequest_cases call.instant (table.get call.key) with
      ⟨elapsed, counted⟩ | ⟨row, stored, inside, counted | ⟨error, failed⟩⟩
    · -- The call opens a window.
      obtain ⟨decision, consumed, _⟩ := consumeRateLimit_ok counted
      have seen := rateAnswer_ok counted
      have allowed : decide (1 ≤ call.maxPerMinute.maxPerMinute) = true := decide_eq_true call.maxPerMinute.positive
      rw [consumed, seen]
      dsimp only [left]
      rw [allowed]
      rw [own] at elapsed ⊢
      refine ⟨counts.recovers.append fun _ _ => rfl, fun absent => ?_, fun row found => ?_⟩
      · rw [Record.get_set, if_pos rfl] at absent
        cases absent
      · rw [Record.get_set, if_pos rfl] at found
        cases found
        refine ⟨le_rfl, ?_, _, List.mem_append_right _ List.mem_cons_self, rfl, rfl⟩
        exact (counts.fresh elapsed).grant rfl rfl rfl rfl le_rfl le_rfl (lt_add_of_pos_right _ (by decide)) limit.positive
    · -- The call is counted in the window.
      obtain ⟨decision, consumed, _⟩ := consumeRateLimit_ok counted
      have seen := rateAnswer_ok counted
      rw [own] at stored
      have known := counts.known row stored
      rw [consumed, seen]
      dsimp only [left]
      rw [own, maximum]
      refine ⟨counts.recovers.append fun _ elapsed => ?_, fun absent => ?_, fun later found => ?_⟩
      · obtain ⟨answer, member, ofKey, window⟩ := known.answered
        have passed := elapsed answer member ofKey _ window
        dsimp only at passed
        omega
      · rw [Record.get_set, if_pos rfl] at absent
        cases absent
      · rw [Record.get_set, if_pos rfl] at found
        cases found
        by_cases room : row.requestCount + 1 ≤ limit.maxPerMinute
        · rw [decide_eq_true room]
          refine ⟨known.opened.trans order, ?_, _, List.mem_append_right _ List.mem_cons_self, rfl, rfl⟩
          exact known.counts.grant rfl rfl rfl rfl le_rfl (known.opened.trans order) inside room
        · rw [decide_eq_false room]
          exact known.other (fun granted => absurd granted.2 Bool.false_ne_true) order (Nat.le_succ _)
    · -- The call fails, and the row stays as it is.
      obtain ⟨keyed, window, denied⟩ := rateAnswer_error failed
      rw [own] at stored
      have known := counts.known row stored
      rw [consumeRateLimit_error failed]
      dsimp only [left]
      refine ⟨counts.recovers.append fun _ elapsed => ?_, fun absent => ?_, fun later found => ?_⟩
      · obtain ⟨answer, member, ofKey, opened⟩ := known.answered
        have passed := elapsed answer member ofKey _ opened
        have instant : (rateAnswer table call).instant = call.instant := by
          unfold rateAnswer
          rw [consumeRateLimit_error failed]
          rfl
        omega
      · rw [stored] at absent
        cases absent
      · rw [stored] at found
        cases found
        exact known.other (fun granted => by rw [denied] at granted; cases granted.2) order le_rfl
  · have apart : (rateAnswer table call).key ≠ key := by rwa [rateAnswer_key]
    have kept : (left (consumeRateLimit call table)).get key = table.get key := by
      cases counted : countRequest call.instant (table.get call.key) with
      | ok row =>
        obtain ⟨decision, consumed, _⟩ := consumeRateLimit_ok counted
        rw [consumed]
        dsimp only [left]
        rw [Record.get_set, if_neg fun equal => own equal.symm]
      | error error =>
        rw [consumeRateLimit_error counted]
        rfl
    refine ⟨counts.recovers.append fun same => absurd same apart, fun absent answer member => ?_, fun row found => ?_⟩
    · rw [kept] at absent
      rcases List.mem_append.mp member with earlier | last
      · exact counts.unknown absent answer earlier
      · cases List.mem_singleton.mp last
        exact apart
    · rw [kept] at found
      exact (counts.known row found).other (fun granted => apart granted.1) order le_rfl

end Database

/-! ### What a request keeps in memory -/

section Memory

variable {limit : RateLimit} {key : String} {limiter : AdminLimiter} {call : AdminCall} {latest now : ℤ}
  {past : List (Answer String)}

/-- The windows of a generation count what was allowed in it. -/
structure GenerationCounts (limit : RateLimit) (key : String) (latest : ℤ) (limiter : AdminLimiter)
    (past : List (Answer String)) : Prop where
  positive : 0 < limiter.generationStartedAt
  started : limiter.generationStartedAt ≤ latest
  counts : Counts 60000 limit.maxPerMinute key limiter.generationStartedAt
    (((limiter.windows.get key).map AdminWindow.count).getD 0) past
  windows : ∀ window, limiter.windows.get key = some window → limiter.generationStartedAt ≤ window.startedAt ∧
    window.startedAt ≤ latest ∧ ∃ answer ∈ past, answer.key = key ∧ answer.openedAt = some window.startedAt

structure AdminCounts (limit : RateLimit) (key : String) (latest : ℤ) (limiter : AdminLimiter)
    (past : List (Answer String)) : Prop where
  recovers : Recovers 60000 key past
  generation : (limiter.generationStartedAt = 0 ∧ past = []) ∨ GenerationCounts limit key latest limiter past

theorem generationCounts_empty (positive : 0 < now) (counts : Counts 60000 limit.maxPerMinute key now 0 past) :
    GenerationCounts limit key now ⟨.empty, now⟩ past :=
  ⟨positive, le_rfl, counts, fun _ found => nomatch found⟩

/-- The generation that a request is counted in. -/
theorem AdminCounts.renewed (counts : AdminCounts limit key latest limiter past) (positive : 0 < now)
    (order : latest ≤ now) : GenerationCounts limit key now (limiter.renewed now) past ∧
      now < (limiter.renewed now).generationStartedAt + 60000 := by
  have opened : now < now + 60000 := lt_add_of_pos_right now (by decide)
  unfold AdminLimiter.renewed
  rcases counts.generation with ⟨first, rfl⟩ | generation
  · rw [if_pos (.inl first)]
    exact ⟨generationCounts_empty positive (.of_granted_nil rfl now 0), opened⟩
  · have started := generation.positive
    by_cases elapsed : limiter.generationStartedAt + 60000 ≤ now
    · rw [if_pos (.inr (by omega))]
      exact ⟨generationCounts_empty positive (generation.counts.restart (by decide) elapsed), opened⟩
    · rw [if_neg (by omega)]
      refine ⟨⟨started, generation.started.trans order, generation.counts, fun window found => ?_⟩, by omega⟩
      obtain ⟨after, before, answered⟩ := generation.windows window found
      exact ⟨after, before.trans order, answered⟩

/-- The window that a request is counted in, and what it makes of the windows. -/
theorem consume_eq (limit : RateLimit) (call : AdminCall) (limiter : AdminLimiter) :
    (limiter.consume limit call).2 = { limiter.renewed call.now with
      windows := (limiter.renewed call.now).windows.set call.key ((limiter.renewed call.now).counted call.now call.key) } ∧
    adminAnswer limit limiter call = ⟨call.key, call.now, (limiter.renewed call.now).generationStartedAt,
      some ((limiter.renewed call.now).counted call.now call.key).startedAt,
      decide (((limiter.renewed call.now).counted call.now call.key).count ≤ limit.maxPerMinute)⟩ := by
  unfold adminAnswer AdminLimiter.consume
  generalize limiter.renewed call.now = renewed
  have stored : (renewed.windows.set call.key (renewed.counted call.now call.key)).get call.key =
      some (renewed.counted call.now call.key) := by rw [Record.get_set, if_pos rfl]
  dsimp only
  split
  · next full =>
    dsimp only
    rw [stored, decide_eq_false (Nat.not_le.mpr full)]
    exact ⟨rfl, rfl⟩
  · next room =>
    dsimp only
    rw [stored, decide_eq_true (Nat.not_lt.mp room)]
    exact ⟨rfl, rfl⟩

/-- **A request keeps the counts** of every key. -/
theorem adminCounts_step (counts : AdminCounts limit key latest limiter past) (positive : 0 < call.now)
    (order : latest ≤ call.now) :
    AdminCounts limit key call.now (limiter.consume limit call).2 (past ++ [adminAnswer limit limiter call]) := by
  obtain ⟨generation, inside⟩ := counts.renewed positive order
  obtain ⟨after, seen⟩ := consume_eq limit call limiter
  rw [after, seen]
  generalize limiter.renewed call.now = renewed at generation inside
  by_cases own : call.key = key
  · rw [own]
    have counted : ∃ startedAt count, renewed.counted call.now key = ⟨startedAt, count + 1⟩ ∧
        (((renewed.windows.get key).map AdminWindow.count).getD 0) = count ∧
        renewed.generationStartedAt ≤ startedAt ∧ startedAt ≤ call.now ∧
        (count = 0 ∨ ∃ answer ∈ past, answer.key = key ∧ answer.openedAt = some startedAt) := by
      unfold AdminLimiter.counted
      cases found : renewed.windows.get key with
      | none => exact ⟨call.now, 0, rfl, rfl, generation.started, le_rfl, .inl rfl⟩
      | some window =>
        obtain ⟨started, before, answered⟩ := generation.windows window found
        exact ⟨window.startedAt, window.count, rfl, rfl, started, before, .inr answered⟩
    obtain ⟨startedAt, count, shape, stored, started, before, answered⟩ := counted
    have ownCounts := generation.counts
    rw [stored] at ownCounts
    rw [shape]
    refine ⟨counts.recovers.append fun _ elapsed => ?_, .inr ⟨generation.positive, generation.started, ?_, ?_⟩⟩
    · -- A window of the generation is not over.
      refine decide_eq_true ?_
      rcases answered with none | ⟨answer, member, ofKey, window⟩
      · rw [none]
        exact limit.positive
      · have passed := elapsed answer member ofKey _ window
        dsimp only at passed
        omega
    · dsimp only
      rw [Record.get_set, if_pos rfl]
      show Counts _ _ _ _ (count + 1) _
      by_cases room : count + 1 ≤ limit.maxPerMinute
      · rw [decide_eq_true room]
        exact ownCounts.grant rfl rfl rfl rfl started before inside room
      · rw [decide_eq_false room]
        exact ownCounts.skip (fun granted => absurd granted.2 Bool.false_ne_true) (Nat.le_succ count)
    · intro window found
      dsimp only at found
      rw [Record.get_set, if_pos rfl] at found
      cases found
      exact ⟨started, before, _, List.mem_append_right _ List.mem_cons_self, rfl, rfl⟩
  · have kept : (renewed.windows.set call.key (renewed.counted call.now call.key)).get key = renewed.windows.get key := by
      rw [Record.get_set, if_neg fun equal => own equal.symm]
    refine ⟨counts.recovers.append fun same => absurd same own, .inr ⟨generation.positive, generation.started, ?_, ?_⟩⟩
    · dsimp only
      rw [kept]
      exact generation.counts.skip (fun granted => own granted.1) le_rfl
    · intro window found
      dsimp only at found
      rw [kept] at found
      obtain ⟨started, before, answer, member, answered⟩ := generation.windows window found
      exact ⟨started, before, answer, List.mem_append_left _ member, answered⟩

end Memory

/-! ### Every run -/

/-- **Rate limits bound every window** and every minute, and recover, for each key: in the database, and in memory with
any mix of keys. -/
theorem rate_limits (limit : RateLimit) (key : String) :
    (∀ calls : List RateCall, (∀ call ∈ calls, 0 < call.instant) →
      calls.Pairwise (fun first second => first.instant ≤ second.instant) →
      (∀ call ∈ calls, call.key = key → call.maxPerMinute = limit) →
        IsBounded minute limit.maxPerMinute key (rateAnswers calls)) ∧
    ∀ calls : List AdminCall, (∀ call ∈ calls, 0 < call.now) →
      calls.Pairwise (fun first second => first.now ≤ second.now) →
        IsBounded 60000 limit.maxPerMinute key (adminAnswers limit calls) := by
  have initial : ∀ width, Recovers width key [] := fun width before answer after split =>
    absurd split (List.append_ne_nil_of_right_ne_nil before (List.cons_ne_nil answer after)).symm
  constructor
  · intro calls positive ordered same
    obtain ⟨latest, table, counts⟩ := answersOf_keeps _ rateAnswer
      (fun latest table past call counts order admitted => tableCounts_step counts order admitted) calls 0 .empty []
      ⟨initial minute, fun _ answer member => absurd member List.not_mem_nil, fun _ found => nomatch found⟩
      (fun call member => ⟨(positive call member).le, same call member⟩) ordered
    rw [List.nil_append] at counts
    cases stored : table.get key with
    | some row => exact (counts.known row stored).counts.isBounded counts.recovers
    | none =>
      have none : granted key (answersOf _ rateAnswer .empty calls) = [] := List.filter_eq_nil_iff.mpr
        fun answer member granted => counts.unknown stored answer member (of_decide_eq_true granted).1
      exact (Counts.of_granted_nil none 0 0).isBounded counts.recovers
  · intro calls positive ordered
    obtain ⟨latest, limiter, counts⟩ := answersOf_keeps _ (adminAnswer limit)
      (fun latest limiter past call counts order admitted => adminCounts_step counts admitted order) calls 0 .new []
      ⟨initial 60000, .inl ⟨rfl, rfl⟩⟩ (fun call member => ⟨(positive call member).le, positive call member⟩) ordered
    rw [List.nil_append] at counts
    rcases counts.generation with ⟨_, none⟩ | generation
    · exact (Counts.of_granted_nil (congrArg (granted key) none) 0 0).isBounded counts.recovers
    · exact generation.counts.isBounded counts.recovers

namespace Sample

def twice : RateLimit := ⟨2, by decide, by decide⟩

def rateCalls : List RateCall :=
  [⟨"workspace", twice, some 1000, 0, 1000⟩, ⟨"workspace", twice, some 1500, 0, 1500⟩,
    ⟨"workspace", twice, none, 2000000, 2000⟩, ⟨"workspace", twice, some 61000, 0, 61000⟩]

def adminCalls : List AdminCall :=
  [⟨"org", "human", "alice", 1000⟩, ⟨"org", "human", "bob", 60999⟩, ⟨"org", "human", "bob", 61000⟩]

end Sample

theorem rate_limits_twice :
    IsBounded minute 2 "workspace" (rateAnswers Sample.rateCalls) ∧
      IsBounded 60000 2 "org:human:bob" (adminAnswers Sample.twice Sample.adminCalls) :=
  ⟨(rate_limits Sample.twice "workspace").1 Sample.rateCalls (by decide) (by decide) (fun call member _ => by
      simp only [Sample.rateCalls, List.mem_cons, List.not_mem_nil, or_false] at member
      rcases member with rfl | rfl | rfl | rfl <;> rfl),
    (rate_limits Sample.twice "org:human:bob").2 Sample.adminCalls (by decide) (by decide)⟩

example : (rateAnswers Sample.rateCalls).map Answer.allowed = [true, true, false, true] := by decide +kernel

end FuseControlPlane.Product
