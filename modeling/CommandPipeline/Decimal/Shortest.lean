/-!
# The fewest digits that identify a binary fraction

A finite double stands for the real number `m * 2 ^ q`, and every real in an interval around it
rounds to it. `shortest` finds the decimal in that interval with the fewest digits. It works on
exact natural numbers: for one digit, two digits and so on it looks at the two neighbours of the
value on the grid of that many digits. The first grid with a neighbour inside the interval wins; of
two neighbours inside, the nearer one; of two equally near, the greater one. Seventeen digits are
always enough.
-/

namespace CommandPipeline.Decimal

/-- A decimal `digits * 10 ^ exponent`. -/
structure Scientific where
  digits : Nat
  exponent : Int
  deriving DecidableEq, Repr

/-- The reals that round to a double, as three numerators over one denominator: the lower end, the
value and the upper end. -/
structure Rounding where
  low : Nat
  value : Nat
  high : Nat
  denominator : Nat
  /-- The ends themselves round to the double. -/
  closed : Bool

/-- The significand of the least number of a binade, below which doubles lie twice as dense. -/
def leastSignificand : Nat := Nat.pow 2 52

/-- The rounding interval of `m * 2 ^ q`, scaled by four so that its ends are whole. -/
def Rounding.of (m : Nat) (q : Int) : Rounding :=
  let below := if m = leastSignificand then 1 else 2
  let scale := Nat.pow 2 (q - 2).toNat
  { low := (4 * m - below) * scale
    value := 4 * m * scale
    high := (4 * m + 2) * scale
    denominator := Nat.pow 2 (2 - q).toNat
    closed := m % 2 = 0 }

/-- Decimal places within which the first digit of every positive double lies. -/
def leadingPlaces : Nat := 330

/-- The `k` with `10 ^ (k - 1) ≤ value < 10 ^ k`. -/
def Rounding.magnitude (r : Rounding) : Int :=
  (Nat.toDigits 10 (r.value * Nat.pow 10 leadingPlaces / r.denominator)).length -
    (leadingPlaces : Int)

/-- The nearer neighbour of the value on the grid `10 ^ exponent` inside the interval, if any. -/
def Rounding.onGrid? (r : Rounding) (exponent : Int) : Option Scientific :=
  let up := Nat.pow 10 (-exponent).toNat
  let unit := r.denominator * Nat.pow 10 exponent.toNat
  let floor := r.value * up / unit
  let remainder := r.value * up % unit
  let inside (n : Nat) : Bool :=
    if r.closed then decide (r.low * up ≤ n * unit) && decide (n * unit ≤ r.high * up)
    else decide (r.low * up < n * unit) && decide (n * unit < r.high * up)
  let upperNearer := decide (unit ≤ 2 * remainder)
  if inside floor && !(upperNearer && inside (floor + 1)) then some ⟨floor, exponent⟩
  else if inside (floor + 1) then some ⟨floor + 1, exponent⟩
  else none

/-- The first grid from `places` digits on, up to seventeen, that has a point in the interval. -/
def Rounding.firstGrid (r : Rounding) (magnitude : Int) : Nat → Nat → Scientific
  | 0, _ => ⟨r.value / r.denominator, 0⟩
  | fuel + 1, places =>
    match r.onGrid? (magnitude - places) with
    | some found => found
    | none => firstGrid r magnitude fuel (places + 1)

/-- Moves trailing zeros of the digits into the exponent, at most `fuel` of them. -/
def Scientific.trimmed : Nat → Scientific → Scientific
  | 0, s => s
  | fuel + 1, s =>
    if s.digits ≠ 0 ∧ s.digits % 10 = 0 then trimmed fuel ⟨s.digits / 10, s.exponent + 1⟩ else s

/-- The shortest decimal that rounds to the positive number `m * 2 ^ q`. -/
def shortest (m : Nat) (q : Int) : Scientific :=
  let r := Rounding.of m q
  (r.firstGrid r.magnitude 17 1).trimmed 17

end CommandPipeline.Decimal
