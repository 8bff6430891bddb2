import DocumentGateway.Access.RateLimit
import DocumentGateway.Proofs.SortedMap

/-!
# What rate limits count

Within a window the limiter knows of a key no more than how many of its requests have come,
up to the limit. A request is let through exactly if fewer than the limit have come before
it, and only the requests with the same key matter for this.
-/
namespace DocumentGateway.RateLimiter

/-- No window holds more requests than the limit, so a counter of the width of the limit does
not overflow. -/
def Within (limit : Nat) (limiter : RateLimiter) : Prop :=
  ∀ key window, limiter.get? key = some window → window.count ≤ limit

/-- So many requests with a key have come since the start: without any, the last window of the
key has run out; else one was opened since and counts them up to the limit. -/
inductive Counts (limiter : RateLimiter) (limit start : Nat) (key : String) : Nat → Prop where
  | none (runOut : ∀ window, limiter.get? key = some window → span < start - window.start) :
      Counts limiter limit start key 0
  | some {opened earlier : Nat} (since : start ≤ opened)
      (window : limiter.get? key = some ⟨opened, min (earlier + 1) limit⟩) :
      Counts limiter limit start key (earlier + 1)

variable {limiter : RateLimiter} {limit start now earlier : Nat} {key other : String}

/-- A decision is about one key, and what is known of the others stays. -/
theorem get?_allow (limiter : RateLimiter) (limit : Nat) (key : String) (now : Nat)
    (other : String) :
    (limiter.allow limit key now).2.get? other =
      if key = other then
        let window := limiter.windowAt key now
        some { window with count := if window.count < limit then window.count + 1 else window.count }
      else limiter.get? other := by
  unfold allow
  by_cases within : (limiter.windowAt key now).count < limit <;> simp [within]

/-- A request is let through exactly if its window has not yet taken as many as the limit. -/
theorem allow_eq_true_iff :
    (limiter.allow limit key now).1 = true ↔ (limiter.windowAt key now).count < limit := by
  unfold allow
  by_cases within : (limiter.windowAt key now).count < limit <;> simp [within]

/-- A window is opened empty. -/
theorem Within.windowAt (within : limiter.Within limit) (key : String) (now : Nat) :
    (limiter.windowAt key now).count ≤ limit := by
  unfold RateLimiter.windowAt
  split
  · rename_i window found
    split
    · exact Nat.zero_le limit
    · exact within key window found
  · exact Nat.zero_le limit

/-- No decision takes a count past the limit. -/
theorem Within.allow (within : limiter.Within limit) (key : String) (now : Nat) :
    (limiter.allow limit key now).2.Within limit := by
  intro other window found
  rw [get?_allow] at found
  split at found
  · obtain rfl := Option.some.inj found
    have before := within.windowAt key now
    dsimp only
    split
    · omega
    · exact before
  · exact within other window found

/-- Within the span after the start the requests of a key all fall into the window that its
first one opens. -/
theorem Counts.windowAt (counts : limiter.Counts limit start key earlier) (begun : start ≤ now)
    (soon : now ≤ start + span) :
    ∃ opened, start ≤ opened ∧ limiter.windowAt key now = ⟨opened, min earlier limit⟩ := by
  cases counts with
  | none runOut =>
    refine ⟨now, begun, ?_⟩
    unfold RateLimiter.windowAt
    cases found : limiter.get? key with
    | none => simp
    | some window =>
      have passed : span < now - window.start := by
        have := runOut window found
        omega
      simp [passed]
  | @some opened _ since window =>
    refine ⟨opened, since, ?_⟩
    have running : ¬ span < now - opened := by omega
    simp [RateLimiter.windowAt, window, running]

/-- A request is let through exactly if fewer than the limit have come before it. -/
theorem Counts.allow_iff (counts : limiter.Counts limit start key earlier) (begun : start ≤ now)
    (soon : now ≤ start + span) :
    (limiter.allow limit key now).1 = true ↔ earlier < limit := by
  obtain ⟨opened, -, window⟩ := counts.windowAt begun soon
  rw [allow_eq_true_iff, window]
  simp only
  omega

/-- Every request of a key is one more, whether it is let through or not. -/
theorem Counts.allow_self (counts : limiter.Counts limit start key earlier)
    (begun : start ≤ now) (soon : now ≤ start + span) :
    (limiter.allow limit key now).2.Counts limit start key (earlier + 1) := by
  obtain ⟨opened, since, window⟩ := counts.windowAt begun soon
  refine .some since ?_
  rw [get?_allow, if_pos rfl, window]
  simp only [Option.some.injEq, Window.mk.injEq, true_and]
  split <;> omega

/-- The requests of another key are none of this one. -/
theorem Counts.allow_other (counts : limiter.Counts limit start key earlier)
    (different : other ≠ key) (now : Nat) :
    (limiter.allow limit other now).2.Counts limit start key earlier := by
  have same : (limiter.allow limit other now).2.get? key = limiter.get? key := by
    rw [get?_allow, if_neg different]
  cases counts with
  | none runOut => exact .none (same ▸ runOut)
  | some since window => exact .some since (same ▸ window)

end DocumentGateway.RateLimiter
