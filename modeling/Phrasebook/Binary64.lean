/-!
# Phrasebook.Binary64

Numbers in the IEEE 754 format of 64 bits, read from decimal text.

A decimal number `digits · 10 ^ exponent` is rounded once, from its exact value, to the nearest
number of the format; of two equally near ones the one with the even last bit is taken.  A magnitude
too large for the format becomes infinity.
-/

namespace Phrasebook

/-- A number in the IEEE 754 format of 64 bits. -/
structure Binary64 where
  bits : UInt64
  deriving DecidableEq, Repr

namespace Binary64

/-- The bits of infinity, which also bound those of every finite magnitude. -/
def infinityBits : Nat := 0x7FF0000000000000

/-- The bit of the minus sign. -/
def signBit : Nat := 0x8000000000000000

/-- The quotient `num / den` rounded to a whole number, a half to the even neighbour. -/
def roundQuotient (num den : Nat) : Nat :=
  let quotient := num / den
  let twice := 2 * (num % den)
  if twice < den then quotient
  else if den < twice then quotient + 1
  else quotient + quotient % 2

/-- The bits of the number nearest to the positive quotient `num / den`.

The number is `m · 2 ^ q` with `m < 2 ^ 53`; `q` is the least exponent that allows this, but no less
than -1074.  The bits of `m · 2 ^ q` are `(q + 1074) · 2 ^ 52 + m` for every such pair, also where
rounding makes `m` reach `2 ^ 53`. -/
def magnitudeBits (num den : Nat) : Nat :=
  let guess : Int := (num.log2 : Int) - (den.log2 : Int)
  let log : Int :=
    if den <<< guess.toNat ≤ num <<< (-guess).toNat then guess else guess - 1
  let q : Int := max (log - 52) (-1074)
  let m := roundQuotient (num <<< (-q).toNat) (den <<< q.toNat)
  min ((q + 1074).toNat <<< 52 + m) infinityBits

/-- The number of decimal digits of a natural number, zero having none. -/
def digitCount (n : Nat) : Nat := if n = 0 then 0 else (Nat.toDigits 10 n).length

/-- The bits of the number nearest to `digits · 10 ^ exponent`.  Exponents far outside the range of
the format are told by the number of digits alone. -/
def decimalBits (digits : Nat) (exponent : Int) : Nat :=
  let top : Int := digitCount digits + exponent
  if digits = 0 then 0
  else if 310 < top then infinityBits
  else if top < -330 then 0
  else magnitudeBits (digits * Nat.pow 10 exponent.toNat) (Nat.pow 10 (-exponent).toNat)

/-- The number nearest to `digits · 10 ^ exponent`, with a minus sign if `negative`. -/
def ofDecimal (negative : Bool) (digits : Nat) (exponent : Int) : Binary64 :=
  ⟨(decimalBits digits exponent + if negative then signBit else 0).toUInt64⟩

/-- Whether a number is neither infinite nor "not a number". -/
def isFinite (x : Binary64) : Bool := x.bits.toNat % signBit < infinityBits

end Binary64

end Phrasebook
