/-! # Binary floating point, exactly

The magnitude of a finite double is `mantissa * 2 ^ exponent`.  Everything that has to be exact
about doubles is computed on these two integers: `truncated` drops the fraction, and the shortest
decimals are selected against the interval of reals that round to the value. -/
set_option autoImplicit false
namespace RecordMapper.Decimal

/-- The magnitude of a finite double. -/
structure Binary where
  mantissa : Nat
  exponent : Int
  /-- The gap to the value below is half the gap to the value above. -/
  narrowBelow : Bool
deriving DecidableEq, Repr

def isNegative (x : Float) : Bool := x.toBits >>> 63 == 1

/-- The magnitude of `x`; infinities and NaN have none, and are to be told apart before. -/
def Binary.ofFloat (x : Float) : Binary :=
  let biased := ((x.toBits >>> 52) &&& 0x7FF).toNat
  let fraction := (x.toBits &&& 0xFFFFFFFFFFFFF).toNat
  if biased = 0 then ⟨fraction, -1074, false⟩
  else ⟨0x10000000000000 + fraction, (biased : Int) - 1075, fraction == 0 && biased > 1⟩

def Binary.whole (b : Binary) : Nat :=
  b.mantissa <<< b.exponent.toNat >>> (-b.exponent).toNat

def truncated (x : Float) : Int :=
  let whole := (Binary.ofFloat x).whole
  if isNegative x then -(whole : Int) else whole

example : truncated 2.75 = 2 ∧ truncated (-2.75) = -2 ∧ truncated 1e19 = 10 ^ 19 := by
  decide +kernel

end RecordMapper.Decimal
