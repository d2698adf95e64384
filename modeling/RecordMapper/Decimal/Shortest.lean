import RecordMapper.Decimal.Binary
/-! # The fewest digits that read back

`Binary.shortest` is the decimal with the fewest digits among those that round to a given double,
and of those the nearest one.  The test is exact: `Binary.reads` compares a decimal with the two
ends of the interval of reals that round to the value, which belong to it when the mantissa is
even.  On each decimal grid only the value's two neighbours need to be tried. -/
set_option autoImplicit false
namespace RecordMapper.Decimal

structure Scientific where
  coefficient : Nat
  exponent : Int
deriving DecidableEq, Repr

inductive Tie
  | even
  | up
deriving DecidableEq, Repr

/-- The order of `a * 10 ^ i` and `n * 2 ^ j`. -/
def compareScaled (a : Nat) (i : Int) (n : Nat) (j : Int) : Ordering :=
  compare ((a * Nat.pow 10 i.toNat) <<< (-j).toNat) ((n * Nat.pow 10 (-i).toNat) <<< j.toNat)

/-- `d` lies among the reals that round to `b`. -/
def Binary.reads (b : Binary) (d : Scientific) : Bool :=
  let low := if b.narrowBelow then 4 * b.mantissa - 1 else 4 * b.mantissa - 2
  let high := 4 * b.mantissa + 2
  let closed := b.mantissa % 2 == 0
  let below := compareScaled d.coefficient d.exponent low (b.exponent - 2)
  let above := compareScaled d.coefficient d.exponent high (b.exponent - 2)
  (below == .gt || (closed && below == .eq)) && (above == .lt || (closed && above == .eq))

def digitCount (n : Nat) : Nat := (Nat.toDigits 10 n).length

/-- The least `k` with `b < 10 ^ k`, for `b` other than zero. -/
def Binary.magnitude (b : Binary) : Int :=
  let unit := 1 <<< (-b.exponent).toNat
  if b.whole = 0 then 1 - (digitCount ((unit - 1) / b.mantissa) : Int)
  else digitCount b.whole

def Binary.floorOn (b : Binary) (grid : Int) : Nat :=
  (b.mantissa * Nat.pow 10 (-grid).toNat) <<< b.exponent.toNat /
    (Nat.pow 10 grid.toNat <<< (-b.exponent).toNat)

/-- The nearer of `n` and `n + 1` on the grid `10 ^ grid`, where `b` lies between the two. -/
def Binary.nearerOn (b : Binary) (tie : Tie) (grid : Int) (n : Nat) : Nat :=
  match compareScaled (2 * n + 1) grid (2 * b.mantissa) b.exponent with
  | .lt => n + 1
  | .gt => n
  | .eq => if tie = .even && n % 2 == 0 then n else n + 1

def Binary.onGrid? (b : Binary) (tie : Tie) (grid : Int) : Option Scientific :=
  let n := b.floorOn grid
  match b.reads ⟨n, grid⟩, b.reads ⟨n + 1, grid⟩ with
  | true, true => some ⟨b.nearerOn tie grid n, grid⟩
  | true, false => some ⟨n, grid⟩
  | false, true => some ⟨n + 1, grid⟩
  | false, false => none

def Binary.exact (b : Binary) : Scientific :=
  if 0 ≤ b.exponent then ⟨b.mantissa <<< b.exponent.toNat, 0⟩
  else ⟨b.mantissa * Nat.pow 5 (-b.exponent).toNat, b.exponent⟩

def Scientific.strip : Nat → Scientific → Scientific
  | 0, d => d
  | n + 1, d =>
    if d.coefficient != 0 && d.coefficient % 10 == 0 then
      Scientific.strip n ⟨d.coefficient / 10, d.exponent + 1⟩
    else d

/-- The decimal with the fewest digits that reads back as `b`, and of those the nearest.  Seventeen
digits always suffice. -/
def Binary.shortest (b : Binary) (tie : Tie) : Scientific :=
  if b.mantissa = 0 then ⟨0, 0⟩
  else
    let top := b.magnitude
    let found := (List.range 17).findSome? fun (i : Nat) => b.onGrid? tie (top - 1 - i)
    let chosen := found.getD b.exact
    Scientific.strip (digitCount chosen.coefficient) chosen

end RecordMapper.Decimal
