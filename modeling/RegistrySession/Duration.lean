/-!
# Spans of time

A clock counts whole milliseconds, as do the intervals and timeouts of a session. Whoever else asks
for a delay may ask for nanoseconds, which a timer rounds up. Spans are waited for up to a longest
one. A diagnostic text shows a span in seconds as soon as it reaches a second, with the fraction down
to its last digit that is not zero.
-/

namespace RegistrySession

/-- A span of time in milliseconds. -/
abbrev Millis := Nat

namespace Millis

/-- The longest span that is waited for: thirty years of 365 days. -/
def longest : Millis := 946080000000

/-- The moment at which a span that starts now is over. -/
def after (span : Millis) (now : Nat) : Nat :=
  now + min span longest

theorem le_after (span : Millis) (now : Nat) : now ≤ span.after now :=
  Nat.le_add_right now _

/-- The moment at which a span is over is the one that it asks for, as far as waits go. -/
theorem le_after_iff {span : Millis} {now moment : Nat} (h : moment ≤ now + longest) :
    moment ≤ span.after now ↔ moment ≤ now + span := by
  rw [after]
  omega

/-- The milliseconds that a timer waits for so many nanoseconds: one that has begun counts. -/
def ofNanos (nanos : Nat) : Millis :=
  (nanos + 999999) / 1000000

/-- A timer does not fire before its span is over, and it fires at the first whole millisecond after
that. -/
theorem after_ofNanos_le_iff {nanos now moment : Nat} :
    (ofNanos nanos).after now ≤ moment ↔
      now * 1000000 + min nanos (longest * 1000000) ≤ moment * 1000000 := by
  rw [after, ofNanos]
  generalize longest = longest
  omega

/-- The decimal digits after the point for a number of thousandths, without trailing zeros. -/
def fraction (thousandths : Nat) : String :=
  let hundreds := thousandths / 100
  let tens := thousandths / 10 % 10
  let ones := thousandths % 10
  if ones ≠ 0 then s!".{hundreds}{tens}{ones}"
  else if tens ≠ 0 then s!".{hundreds}{tens}"
  else if hundreds ≠ 0 then s!".{hundreds}"
  else ""

/-- `0ns`, `999ms`, `1s`, `1.5s`, `3600s`. -/
def text (span : Millis) : String :=
  if span = 0 then "0ns"
  else if span < 1000 then s!"{span}ms"
  else s!"{span / 1000}{fraction (span % 1000)}s"

end Millis

end RegistrySession
