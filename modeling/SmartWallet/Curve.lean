import SmartWallet.Bytes

/-!
# The Ed25519 curve

`Curve.contains` decides whether 32 bytes are the compressed form of a point of the curve
`-x² + y² = 1 + d x² y²` over the field of `2²⁵⁵ - 19` elements.
-/

namespace SmartWallet.Curve

/-- The field's order. -/
def order : Nat := Nat.pow 2 255 - 19

/-- The curve's coefficient, `-121665 / 121666` in the field. -/
def coefficient : Nat :=
  37095705934669439343138083508754565189542113879843219016388785533085940283555

/-- The power `x ^ e` modulo the order, for exponents of at most the given number of bits. -/
def power (x : Nat) : Nat → Nat → Nat
  | 0, _ => 1
  | bits + 1, e =>
    let r := power x bits (e / 2)
    if e % 2 = 0 then r * r % order else r * r % order * x % order

/-- Zero and the squares of the field, by Euler's criterion. -/
def isSquare (x : Nat) : Bool := power x 254 ((order - 1) / 2) ≤ 1

/-- Whether the bytes decompress to a point. The sign bit, which is the highest one, is not looked
at, and the other bits are read modulo the order: `x² = (y² - 1) / (d y² + 1)` must have a root,
and the quotient is a square exactly when the product of its two parts is one. -/
def contains (point : Key) : Bool :=
  let y := ofLittleEndian point.toList % Nat.pow 2 255
  let yy := y * y % order
  isSquare ((yy + (order - 1)) * (coefficient * yy + 1) % order)

end SmartWallet.Curve
