/-!
# Binary floating-point numbers of double precision

Numbers with a fraction or an exponent occur in documents that this library reads. None is ever
computed with: such a number is read, perhaps found to be a whole number, and perhaps written back.
So all there is to this type is reading, one test, and writing, and all three are exact arithmetic
on natural numbers.

Every finite number of the format is a whole multiple of `2 ^ (-1074)`. A finite number is kept as
that multiple, and comparing two of them or one with a decimal needs no fractions.
-/

namespace Reckoner

/-- A number of the format. -/
inductive Binary64 where
  /-- The number `scaled * 2 ^ (-1074)`, or its negative. -/
  | finite (negative : Bool) (scaled : Nat)
  | infinite (negative : Bool)
  | nan
  deriving DecidableEq, Repr

namespace Binary64

/-- Whether a number is neither infinite nor undefined. -/
def isFinite : Binary64 → Bool
  | finite .. => true
  | _ => false

/-- The number of halvings that make one the smallest positive number of the format. -/
def places : Nat := 1074

/-- How many bits a significand has. -/
def precision : Nat := 53

/-- The distance between a number and the next greater one, where both are given scaled. Numbers of
fewer bits than a significand has lie one apart; above, the significand's last bit counts. -/
def spacing (scaled : Nat) : Nat :=
  if scaled < Nat.pow 2 precision then 1 else Nat.pow 2 (scaled.log2 + 1 - precision)

/-- The whole number nearest to `n / d`. Of two that are equally near it is the even one. -/
def roundedQuotient (n d : Nat) : Nat :=
  let floor := n / d
  if 2 * (n % d) < d then floor
  else if d < 2 * (n % d) then floor + 1
  else if floor % 2 = 0 then floor
  else floor + 1

/-! ## Reading -/

/-- The number of the format that is nearest to `coefficient * 10 ^ exponent`. Decimals that are
beyond every number of the format, or nearer to zero than half of its smallest, are told by their
magnitude alone, so that no power larger than needed is computed. -/
def ofDecimal (negative : Bool) (coefficient : Nat) (exponent : Int) : Binary64 :=
  let magnitude := exponent + (Nat.repr coefficient).length
  if coefficient = 0 ∨ magnitude < -330 then .finite negative 0
  else if 310 < magnitude then .infinite negative
  else
    let n := coefficient * Nat.pow 10 exponent.toNat * Nat.pow 2 places
    let d := Nat.pow 10 (-exponent).toNat
    let unit := spacing (n / d)
    let scaled := roundedQuotient n (d * unit) * unit
    if scaled < Nat.pow 2 (1024 + places) then .finite negative scaled else .infinite negative

/-- The whole number that a number of the format is, if it is one. -/
def toInt? : Binary64 → Option Int
  | finite negative scaled =>
    if scaled % Nat.pow 2 places = 0 then
      let n : Int := (scaled / Nat.pow 2 places : Nat)
      some (if negative then -n else n)
    else none
  | _ => none

/-! ## Writing -/

/-- Whether the decimal `digits * 10 ^ exponent` is read back as the positive number `scaled`. It is
so when it lies in the interval halfway to the two neighbours, and on its borders if the
significand is even. Below a power of two the neighbour is half as far away as above it. -/
def readsBack (scaled digits : Nat) (exponent : Int) : Bool :=
  let unit := spacing scaled
  let even := scaled / unit % 2 = 0
  let below := if 1 < unit ∧ scaled = Nat.pow 2 (precision - 1) * unit then unit / 2 else unit
  let value := 2 * digits * Nat.pow 10 exponent.toNat * Nat.pow 2 places
  let lower := (2 * scaled - below) * Nat.pow 10 (-exponent).toNat
  let upper := (2 * scaled + unit) * Nat.pow 10 (-exponent).toNat
  if even then lower ≤ value && value ≤ upper else lower < value && value < upper

/-- The `p` with `10 ^ (p - 1) ≤ x < 10 ^ p`, where `x` is the positive number `scaled`. -/
def decimalPoint (scaled : Nat) : Int :=
  (Nat.repr (scaled * Nat.pow 10 400 / Nat.pow 2 places)).length - 400

/-- The decimal of the given number of digits that is read back as `scaled`, if there is one: the
nearer of the two neighbours on that grid, as digits and exponent. -/
def decimalOf? (scaled count : Nat) : Option (Nat × Int) :=
  let exponent := decimalPoint scaled - count
  let n := scaled * Nat.pow 10 (-exponent).toNat
  let d := Nat.pow 10 exponent.toNat * Nat.pow 2 places
  let nearest := roundedQuotient n d
  if readsBack scaled nearest exponent then some (nearest, exponent)
  else if readsBack scaled (n / d) exponent then some (n / d, exponent)
  else if readsBack scaled (n / d + 1) exponent then some (n / d + 1, exponent)
  else none

/-- The shortest decimal that is read back as `scaled`. Seventeen digits always suffice. -/
def shortestDecimal (scaled : Nat) : Nat × Int :=
  ((List.range 17).findSome? fun n => decimalOf? scaled (n + 1)).getD (0, 0)

/-- Decimal digits with the point after the first `point` of them. From `10 ^ 16` on and below
`10 ^ (-4)` the exponent is written out; otherwise zeros are filled in, and a whole number keeps a
zero behind the point. -/
def written (digits : List Char) (point : Int) : List Char :=
  if -4 < point ∧ point ≤ 16 then
    if point ≤ 0 then '0' :: '.' :: (List.replicate (-point).toNat '0' ++ digits)
    else if digits.length ≤ point.toNat then
      digits ++ List.replicate (point.toNat - digits.length) '0' ++ ['.', '0']
    else digits.take point.toNat ++ '.' :: digits.drop point.toNat
  else
    let mantissa :=
      match digits with
      | [] => []
      | [d] => [d]
      | d :: rest => d :: '.' :: rest
    let power := (Nat.repr (point - 1).natAbs).toList
    mantissa ++ 'e' :: (if point - 1 < 0 then '-' else '+')
      :: (if power.length < 2 then '0' :: power else power)

/-- The shortest text that is read back as the number. -/
def text : Binary64 → String
  | nan => "NaN"
  | infinite negative => if negative then "-Infinity" else "Infinity"
  | finite negative scaled =>
    let sign := if negative then "-" else ""
    if scaled = 0 then sign ++ "0.0"
    else
      let decimal := shortestDecimal scaled
      let digits := (Nat.repr decimal.1).toList
      let significant := (digits.reverse.dropWhile (· = '0')).reverse
      sign ++ String.ofList (written significant (digits.length + decimal.2))

end Binary64

end Reckoner
