import DocumentGateway.SortedMap

/-!
# Rate limits

Requests are counted by key in windows of time. A window opens with the first request
of a key and lasts as long as no more than its span has passed; the next request after
that opens a new one. Within a window the first requests up to the limit are let
through and all later ones are refused, and a refused request is not counted. Keys do
not share windows.
-/
namespace DocumentGateway

/-- The requests let through since the start of a window. -/
structure Window where
  start : Nat
  count : Nat
  deriving DecidableEq, Repr

/-- The window of every key that has been seen. -/
abbrev RateLimiter := SortedMap Window

namespace RateLimiter

/-- The span of a window in nanoseconds: one minute. -/
def span : Nat := 60 * 1000000000

/-- The window in which a request at the given time falls. -/
def windowAt (limiter : RateLimiter) (key : String) (now : Nat) : Window :=
  match limiter.get? key with
  | some window => if span < now - window.start then ⟨now, 0⟩ else window
  | none => ⟨now, 0⟩

/-- Decides on a request with a key at a time, and counts it if it is let through. -/
def allow (limiter : RateLimiter) (limit : Nat) (key : String) (now : Nat) :
    Bool × RateLimiter :=
  let window := limiter.windowAt key now
  if window.count < limit then
    (true, limiter.insert key { window with count := window.count + 1 })
  else (false, limiter.insert key window)

end RateLimiter

end DocumentGateway
