/-
The rate limiter of the control plane.

Every key has a bucket with the times of its accepted calls.  The buckets are kept in the order of
their last use, and expired ones are removed from the front of it.
-/
import Arena402.Lib.Dict

namespace Arena402.Gateway

open Py

/-- What `check` raises; an empty bucket has no `bucket[0]`. -/
inductive CheckError
  | rateLimitExceeded (retryAfterSeconds : Int)
  | indexError
  deriving DecidableEq

/-- `SlidingWindowRateLimiter`, with times in `τ`. -/
structure SlidingWindowRateLimiter (τ : Type) where
  attempts : Nat
  windowSeconds : Nat
  maxKeys : Nat := 4096
  buckets : Dict String (List τ) := []

/-- `move_to_end` -/
def moveToEnd {α : Type} (d : Dict String α) (key : String) : Dict String α :=
  match d.get key with
  | some v => d.erase key ++ [(key, v)]
  | none => d

namespace SlidingWindowRateLimiter

section Purge

variable {τ : Type} [LinearOrder τ]

/-- `while bucket and bucket[0] <= cutoff: bucket.popleft()` -/
def popExpired (cutoff : τ) (bucket : List τ) : List τ :=
  bucket.dropWhile fun time => time ≤ cutoff

/-- `_purge_expired_buckets`: up to the first bucket that is not empty then. -/
def purgeExpiredBuckets (cutoff : τ) : Dict String (List τ) → Dict String (List τ)
  | [] => []
  | (key, bucket) :: rest =>
    match popExpired cutoff bucket with
    | [] => purgeExpiredBuckets cutoff rest
    | time :: times => (key, time :: times) :: rest

end Purge

variable {τ : Type} [Field τ] [LinearOrder τ] [FloorRing τ] (limiter : SlidingWindowRateLimiter τ)

/-- Calls up to this time do not count any more. -/
def cutoff (now : τ) : τ :=
  now - limiter.windowSeconds

/-- The end of `check`, with the bucket of the key in hand. -/
def tryAccept (buckets : Dict String (List τ)) (key : String) (bucket : List τ) (now : τ) :
    SlidingWindowRateLimiter τ × Except CheckError Unit :=
  let bucket := popExpired (limiter.cutoff now) bucket
  if bucket.length ≥ limiter.attempts then
    ({ limiter with buckets := buckets.set key bucket },
      match bucket with
      | time :: _ =>
        .error (.rateLimitExceeded (max 1 ⌈time + limiter.windowSeconds - now⌉))
      | [] => .error .indexError)
  else ({ limiter with buckets := buckets.set key (bucket ++ [now]) }, .ok ())

/-- `check`, where `now` is `time.monotonic()`. -/
def check (key : String) (now : τ) : SlidingWindowRateLimiter τ × Except CheckError Unit :=
  let buckets := purgeExpiredBuckets (limiter.cutoff now) limiter.buckets
  match buckets.get key with
  | none =>
    if buckets.length ≥ limiter.maxKeys then
      ({ limiter with buckets }, .error (.rateLimitExceeded limiter.windowSeconds))
    else limiter.tryAccept (buckets.set key []) key [] now
  | some bucket => limiter.tryAccept (moveToEnd buckets key) key bucket now

/-! ### Runs -/

/-- A limiter and the calls that it accepted, in order. -/
structure Run (τ : Type) where
  limiter : SlidingWindowRateLimiter τ
  accepted : List (String × τ)

/-- The run after one more call. -/
def Run.call (run : Run τ) (call : String × τ) : Run τ :=
  match run.limiter.check call.1 call.2 with
  | (limiter, .ok ()) => { limiter, accepted := run.accepted ++ [call] }
  | (limiter, .error _) => { run with limiter }

/-- The run of a new limiter through calls. -/
def runOf (attempts windowSeconds maxKeys : Nat) (calls : List (String × τ)) : Run τ :=
  calls.foldl Run.call { limiter := { attempts, windowSeconds, maxKeys }, accepted := [] }

end SlidingWindowRateLimiter

end Arena402.Gateway
