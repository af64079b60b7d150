/-!
# Lengths of time

A duration is a number of whole seconds and a rest below a second, in nanoseconds. Its text is
exact: a decimal number in the largest unit in which the value is at least one, with as many
fraction digits as the value needs and no trailing zeros. Zero is written in nanoseconds.

The text is built from two numbers, the whole units and what is left in nanoseconds, so that the
value can be read back from it.
-/

namespace SnippetForge

/-- A length of time. -/
structure Duration where
  secs : Nat
  nanos : Nat
  nanos_lt : nanos < 1000000000
  deriving DecidableEq, Repr

namespace Duration

/-- The units a duration is written in, largest first. -/
inductive Scale
  | second
  | milli
  | micro
  | nano
  deriving DecidableEq, Repr

/-- How many nanoseconds a unit has. -/
def Scale.size : Scale → Nat
  | .second => 1000000000
  | .milli => 1000000
  | .micro => 1000
  | .nano => 1

/-- How many decimal digits separate a unit from a nanosecond. -/
def Scale.places : Scale → Nat
  | .second => 9
  | .milli => 6
  | .micro => 3
  | .nano => 0

/-- The sign of a unit. -/
def Scale.sign : Scale → String
  | .second => "s"
  | .milli => "ms"
  | .micro => "µs"
  | .nano => "ns"

theorem Scale.size_eq (u : Scale) : u.size = Nat.pow 10 u.places := by
  cases u <;> rfl

/-- The duration in nanoseconds. -/
def totalNanos (d : Duration) : Nat :=
  d.secs * 1000000000 + d.nanos

/-- The duration of a number of nanoseconds. -/
def ofNanos (n : Nat) : Duration :=
  ⟨n / 1000000000, n % 1000000000, Nat.mod_lt _ (by decide)⟩

@[simp]
theorem totalNanos_ofNanos (n : Nat) : (ofNanos n).totalNanos = n := by
  simp only [totalNanos, ofNanos]
  omega

@[simp]
theorem ofNanos_totalNanos (d : Duration) : ofNanos d.totalNanos = d := by
  obtain ⟨secs, nanos, h⟩ := d
  simp only [totalNanos, ofNanos, mk.injEq]
  omega

/-- The duration of a number of milliseconds. -/
def ofMillis (n : Nat) : Duration :=
  ofNanos (n * 1000000)

/-- The duration of a number of seconds. -/
def ofSecs (n : Nat) : Duration :=
  ⟨n, 0, by decide⟩

/-- The largest unit in which the duration is at least one; nanoseconds for zero. -/
def scale (d : Duration) : Scale :=
  let n := d.totalNanos
  if 1000000000 ≤ n then .second
  else if 1000000 ≤ n then .milli
  else if 1000 ≤ n then .micro
  else .nano

/-- The lowest `width` decimal digits of a number, highest first. -/
def fixedDigits (width n : Nat) : List Char :=
  match width with
  | 0 => []
  | w + 1 => fixedDigits w (n / 10) ++ [Nat.digitChar (n % 10)]

/-- Digits without the zeros they end with. -/
def dropTrailingZeros (digits : List Char) : List Char :=
  (digits.reverse.dropWhile (· == '0')).reverse

/-- The digits after the point. -/
def fraction (d : Duration) : List Char :=
  dropTrailingZeros (fixedDigits d.scale.places (d.totalNanos % d.scale.size))

/-- Digits with the point in front of them; nothing if there are none. -/
def pointed : List Char → List Char
  | [] => []
  | digits => '.' :: digits

/-- The decimal number of the duration in its unit. -/
def number (d : Duration) : List Char :=
  Nat.toDigits 10 (d.totalNanos / d.scale.size) ++ pointed d.fraction

/-- The exact text of a duration, such as `1.5s` or `100µs`. -/
def text (d : Duration) : String :=
  String.ofList d.number ++ d.scale.sign

end Duration

end SnippetForge
