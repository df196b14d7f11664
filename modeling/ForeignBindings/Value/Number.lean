/-!
# Numbers in texts

Digits of a base, and which decimal numbers have a value in double precision. All
of it is arithmetic on natural numbers; no number is ever rounded into a float.
-/

namespace ForeignBindings.Value

/-- The value of a digit in bases up to sixteen. -/
def digit? (character : Char) : Option Nat :=
  if character.isDigit then some (character.toNat - '0'.toNat)
  else if 'a' ≤ character ∧ character ≤ 'f' then some (character.toNat - 'a'.toNat + 10)
  else if 'A' ≤ character ∧ character ≤ 'F' then some (character.toNat - 'A'.toNat + 10)
  else none

/-- The number that digits of a base denote; there has to be one at least. -/
def number? (base : Nat) (digits : List Char) : Option Nat :=
  if digits.isEmpty then none
  else digits.foldlM
    (fun number character => do
      let digit ← digit? character
      if digit < base then some (number * base + digit) else none) 0

/-- The least magnitude that double precision rounds to infinity. -/
def doubleBound : Nat := Nat.pow 2 1024 - Nat.pow 2 970

/-- Whether a number of the form `digits · 10 ^ exponent` has a finite double precision
value. -/
def isFiniteDouble (digits : List Char) (exponent : Int) : Bool :=
  let significant := digits.dropWhile (· == '0')
  let magnitude := Int.ofNat significant.length + exponent
  if significant.isEmpty || magnitude < 309 then true
  else if 309 < magnitude then false
  else
    let number := (number? 10 significant).getD 0
    if 0 ≤ exponent then number * Nat.pow 10 exponent.toNat < doubleBound
    else number < doubleBound * Nat.pow 10 (-exponent).toNat

/-- The double precision value next to a number; of two that are equally near it is the one
with the even significand. -/
def nearestDouble (number : Nat) : Nat :=
  let unit := Nat.pow 2 (Nat.log2 number - 52)
  let units := number / unit
  let excess := number % unit
  if unit < 2 * excess || (unit == 2 * excess && units % 2 == 1) then (units + 1) * unit
  else units * unit

/-- The first digits of a number, as many as fit into 64 bits, and how many others there
are. -/
def leadingDigits (digits : List Char) : Nat × Nat :=
  digits.foldl
    (fun (leading, others) character =>
      let longer := leading * 10 + (digit? character).getD 0
      if others == 0 && longer < Nat.pow 2 64 then (longer, 0) else (leading, others + 1))
    (0, 0)

/-- Whether `digits · 10 ^ exponent` has a finite double precision value if it is computed in
double precision as well, as the product of its leading digits and a power of ten. -/
def isFiniteProduct (digits : List Char) (exponent : Int) : Bool :=
  let (leading, others) := leadingDigits digits
  let power := exponent + Int.ofNat others
  if leading == 0 || power < 0 then true
  else if 308 < power then false
  else nearestDouble leading * nearestDouble (Nat.pow 10 power.toNat) < doubleBound

end ForeignBindings.Value
