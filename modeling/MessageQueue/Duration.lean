import MessageQueue.Decimal.Notation
import MessageQueue.Text.Shown

/-!
# Spans of time

A duration is a whole number of nanoseconds.  Seconds given as a binary floating point number become
the nearest duration, a half going to the even one; seconds that are negative, too many or no number
have none.
-/

namespace MessageQueue

/-- A span of time. -/
structure Duration where
  nanoseconds : Nat
deriving DecidableEq, Repr, Inhabited

namespace Duration

/-- A second has a thousand million nanoseconds. -/
def perSecond : Nat := 1000000000

/-- So many seconds. -/
def ofSeconds (n : Nat) : Duration := ⟨n * perSecond⟩

/-- So many thousandths of a second. -/
def ofMilliseconds (n : Nat) : Duration := ⟨n * 1000000⟩

/-- The whole seconds of a duration. -/
def seconds (d : Duration) : Nat := d.nanoseconds / perSecond

/-- The nanoseconds beyond the whole seconds. -/
def subsecond (d : Duration) : Nat := d.nanoseconds % perSecond

/-- The whole thousandths of a second of a duration. -/
def milliseconds (d : Duration) : Nat := d.nanoseconds / 1000000

/-- A natural below 2⁶⁴ as the closest floating point number. -/
def float (n : Nat) : Float := (UInt64.ofNat n).toFloat

/-- The duration in seconds: the whole seconds and the rest are rounded one by one. -/
def toFloat (d : Duration) : Float := float d.seconds + float d.subsecond / 1e9

/-- The nearest duration to a number of seconds taken apart. -/
def ofBinary? : Binary64 → Option Duration
  | .finite negative mantissa exponent =>
    if negative ∧ mantissa ≠ 0 then none
    else if 64 < exponent + mantissa.log2 then none
    else
      let (n, d) := Binary64.scaled (mantissa * perSecond) 1 exponent
      let nanoseconds := roundQuotient n d
      if nanoseconds < Nat.pow 2 64 * perSecond then some ⟨nanoseconds⟩ else none
  | _ => none

/-- The nearest duration to a number of seconds. -/
def ofFloat? (x : Float) : Option Duration := ofBinary? (Binary64.ofFloat x)

/-- A number with a fraction of so many digits, zeros at its end dropped. -/
def fractional (whole fraction digits : Nat) : List Char :=
  let ds := Nat.toDigits 10 fraction
  let padded := Decimal.zeros (digits - ds.length) ++ ds
  let kept := (padded.reverse.dropWhile (· = '0')).reverse
  Nat.toDigits 10 whole ++ if kept.isEmpty then [] else '.' :: kept

/-- The duration in the largest unit that leaves a whole part, with its fraction. -/
def text (d : Duration) : String :=
  let n := d.nanoseconds
  if perSecond ≤ n then String.ofList (fractional (n / perSecond) (n % perSecond) 9) ++ "s"
  else if 1000000 ≤ n then String.ofList (fractional (n / 1000000) (n % 1000000) 6) ++ "ms"
  else if 1000 ≤ n then String.ofList (fractional (n / 1000) (n % 1000) 3) ++ "µs"
  else String.ofList (Nat.toDigits 10 n) ++ "ns"

instance : Shown Duration := ⟨text⟩

theorem seconds_ofSeconds (n : Nat) : (ofSeconds n).seconds = n := by
  simp [ofSeconds, seconds, perSecond]

theorem ofSeconds_seconds_add_subsecond (d : Duration) :
    (ofSeconds d.seconds).nanoseconds + d.subsecond = d.nanoseconds := by
  simp only [ofSeconds, seconds, subsecond, perSecond]
  omega

end Duration
end MessageQueue
