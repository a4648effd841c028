/-
# Numbers of a JSON text

A number is an optional minus sign, digits without a superfluous zero in front, and optionally a
fraction and an exponent.  Written without both, and within 64 bits, it is an integer; the text `-0`
is not one, because its sign would be lost.

Any other number has a value nothing here needs, so only its range is decided: it is read as a
double, and a number too large for a double cannot be read.  The significand is made of the leading
digits that fit 64 bits; it and the power of ten are rounded to doubles, and so is their product.
-/

import GroovyNew.Json.Basic

namespace GroovyNew
namespace Json
namespace Number

/-- The digits at the start of a text, and the text after them. -/
def digits (cs : List Char) : List Nat × List Char :=
  ((cs.takeWhile Char.isDigit).map fun c => c.toNat - '0'.toNat, cs.dropWhile Char.isDigit)

/-- The digits of an integer: at least one, and no zero in front of another digit. -/
def whole? (cs : List Char) : Option (List Nat × List Char) :=
  match digits cs with
  | ([], _) | (0 :: _ :: _, _) => none
  | (ds, rest) => some (ds, rest)

/-- The digits of an optional fraction, none if there is no fraction. -/
def fraction? : List Char → Option (List Nat × List Char)
  | '.' :: cs =>
    match digits cs with
    | ([], _) => none
    | (ds, rest) => some (ds, rest)
  | cs => some ([], cs)

/-- The largest exponent told apart from larger ones. -/
def maxExponent : Nat := Nat.pow 2 31

/-- The digits of an exponent. -/
def exponentDigits? (cs : List Char) : Option (Nat × List Char) :=
  match digits cs with
  | ([], _) => none
  | (ds, rest) => some (ds.foldl (fun n d => min (n * 10 + d) maxExponent) 0, rest)

/-- An optional exponent. -/
def exponent? : List Char → Option (Option Int × List Char)
  | 'e' :: cs | 'E' :: cs =>
    match cs with
    | '-' :: cs => (exponentDigits? cs).map fun (n, rest) => (some (-(n : Int)), rest)
    | '+' :: cs => (exponentDigits? cs).map fun (n, rest) => (some (n : Int), rest)
    | cs => (exponentDigits? cs).map fun (n, rest) => (some (n : Int), rest)
  | cs => some (none, cs)

/-- The significand after the digits of `n`, and the digits that no longer fit 64 bits. -/
def fill (n : Nat) : List Nat → Nat × List Nat
  | [] => (n, [])
  | d :: ds => if n * 10 + d < Nat.pow 2 64 then fill (n * 10 + d) ds else (n, d :: ds)

theorem fill_lt {n : Nat} (h : n < Nat.pow 2 64) (ds : List Nat) : (fill n ds).1 < Nat.pow 2 64 := by
  induction ds generalizing n with
  | nil => exact h
  | cons d ds ih =>
    rw [fill]
    split
    · next hd => exact ih hd
    · exact h

/-- The number of at most `bits` significant bits nearest to `n`; of two equally near ones the one
whose last bit is zero. -/
def roundTo (bits n : Nat) : Nat :=
  let unit := Nat.pow 2 (n.log2 + 1 - bits)
  let low := n / unit
  let rest := n % unit
  if unit < 2 * rest || (unit == 2 * rest && low % 2 == 1) then (low + 1) * unit else low * unit

/-- A number of at most `bits` bits is its own nearest. -/
theorem roundTo_of_lt {bits n : Nat} (h : n < Nat.pow 2 bits) : roundTo bits n = n := by
  rcases Nat.eq_zero_or_pos n with rfl | hn
  · simp [roundTo]
  · have hb := (Nat.log2_lt (by omega)).2 h
    have hz : n.log2 + 1 - bits = 0 := by omega
    simp [roundTo, hz, Nat.mod_one]

/-- The largest power of ten that is a double. -/
def maxPower : Nat := 308

/-- The significand times the power of ten is too large for a double. -/
def isTooLarge (significand : Nat) : (power : Int) → Bool
  | .ofNat power =>
    significand != 0 &&
      (maxPower < power ||
        Nat.pow 2 1024 ≤
          roundTo 53 (roundTo 53 significand * roundTo 53 (Nat.pow 10 power)))
  | .negSucc _ => false

/-- The value of a number that is read as a double. -/
def double (whole fraction : List Nat) (exponent : Int) : Json :=
  let (n, left) := fill 0 whole
  let (m, ignored) := fill n fraction
  let power := exponent + left.length - (fraction.length - ignored.length : Nat)
  if isTooLarge m power then .unreadable else .fractional

/-- The value of an integer text. -/
def integer (negative : Bool) (whole : List Nat) : Json :=
  match fill 0 whole, negative with
  | (n, []), false => .int n
  | (n, []), true => if n == 0 || Nat.pow 2 63 < n then .fractional else .int (-n)
  | _, _ => double whole [] 0

/-- The number at the start of a text, its sign already consumed, and the text after it. -/
def read? (negative : Bool) (cs : List Char) : Option (Json × List Char) := do
  let (whole, rest) ← whole? cs
  let (fraction, rest) ← fraction? rest
  let (exponent, rest) ← exponent? rest
  let value := match fraction, exponent with
    | [], none => integer negative whole
    | _, _ => double whole fraction (exponent.getD 0)
  return (value, rest)

end Number
end Json
end GroovyNew
