/-
FullText/Value.lean

Plain data, as it is handed in where a mode, a setting or a node of a query is
expected.  Such a value is checked before it is used, and shown in the message
that refuses it.  A number that is not whole is shown in its shortest form, so two
ways to write one number are shown alike (`displayDecimal_mul_ten`).
-/
import FullText.Text.Quoted

namespace FullText

open Text

/-- The digits of a number, read as one whole number, with a sign of their own: one
of the two zeros is negative. -/
structure Mantissa where
  negative : Bool
  digits : Nat

instance : Coe Int Mantissa := ⟨fun n => ⟨n < 0, n.natAbs⟩⟩

/-- A plain value.  The entries of a dictionary keep the order in which they
were given; `decimal m n` is the number `m` with the last `n` digits behind the
point. -/
inductive Value where
  | null
  | bool (b : Bool)
  | int (n : Int)
  | decimal (mantissa : Mantissa) (places : Nat)
  | str (text : String)
  | list (items : List Value)
  | dict (entries : List (String × Value))

namespace Value

/-! ### Numbers -/

/-- The digits of a number that count: all but the zeros at the end. -/
def countedDigits (digits : Nat) : List Char :=
  ((Nat.toDigits 10 digits).reverse.dropWhile (· = '0')).reverse

/-- Digits with a point, where the first of them is worth `10 ^ exponent`.  They are
written out if there are sixteen or fewer in front of the point, and three zeros or
fewer behind it; else the point stands behind the first, and the exponent at the end. -/
def layoutDigits : List Char → Int → List Char
  | [], _ => ['0', '.', '0']
  | first :: rest, exponent =>
    if exponent < -4 ∨ 16 ≤ exponent then
      let power := Nat.toDigits 10 exponent.natAbs
      first :: (if rest = [] then [] else '.' :: rest) ++
        'e' :: (if exponent < 0 then '-' else '+') ::
        List.replicate (2 - power.length) '0' ++ power
    else if exponent < 0 then
      '0' :: '.' :: List.replicate (exponent.natAbs - 1) '0' ++ first :: rest
    else
      let whole := (first :: rest).take (exponent.toNat + 1)
      let part := (first :: rest).drop (exponent.toNat + 1)
      whole ++ List.replicate (exponent.toNat + 1 - whole.length) '0' ++
        '.' :: (if part = [] then ['0'] else part)

/-- A number with the last `places` of its digits behind the point, in its shortest
form. -/
def displayDecimal (mantissa : Mantissa) (places : Nat) : String :=
  let exponent : Int := (Nat.toDigits 10 mantissa.digits).length - 1 - places
  (if mantissa.negative then "-" else "") ++
    String.ofList (layoutDigits (countedDigits mantissa.digits) exponent)

/-- **A zero at the end does not count.** -/
theorem displayDecimal_mul_ten (negative : Bool) (digits places : Nat) :
    displayDecimal ⟨negative, digits * 10⟩ (places + 1)
      = displayDecimal ⟨negative, digits⟩ places := by
  by_cases hzero : digits = 0
  · -- zero has no digits that count, so nothing tells where the point was
    have hnone : countedDigits 0 = [] := by decide
    simp only [hzero, Nat.zero_mul, displayDecimal, hnone, layoutDigits]
  · have hdigits : Nat.toDigits 10 (digits * 10) = Nat.toDigits 10 digits ++ ['0'] := by
      rw [Nat.toDigits_of_base_le (by decide) (by omega), Nat.mul_div_cancel _ (by decide),
        Nat.mul_mod_left]
      rfl
    have hcounted : countedDigits (digits * 10) = countedDigits digits := by
      rw [countedDigits, hdigits, List.reverse_append, List.reverse_singleton,
        List.singleton_append, List.dropWhile_cons_of_pos (by decide)]
      rfl
    have hexponent : ((Nat.toDigits 10 digits ++ ['0']).length : Int) - 1 - (places + 1 : Nat)
        = (Nat.toDigits 10 digits).length - 1 - places := by
      rw [List.length_append, List.length_singleton]
      omega
    simp only [displayDecimal, hcounted, hdigits, hexponent]

example : displayDecimal (-150 : Int) 2 = "-1.5" := by decide

example : displayDecimal (12 * 10 ^ 22 : Int) 1 = "1.2e+22" := by decide

/-! ### The shown form -/

mutual

/-- A value as messages show it. -/
def display : Value → String
  | null => "None"
  | bool b => if b then "True" else "False"
  | int n => toString n
  | decimal mantissa places => displayDecimal mantissa places
  | str text => quoted text
  | list items => "[" ++ displayItems items ++ "]"
  | dict entries => "\x7b" ++ displayEntries entries ++ "\x7d"

/-- The items of a list, parted by commas. -/
def displayItems : List Value → String
  | [] => ""
  | [item] => item.display
  | item :: items => item.display ++ ", " ++ displayItems items

/-- The entries of a dictionary, parted by commas. -/
def displayEntries : List (String × Value) → String
  | [] => ""
  | [(key, value)] => quoted key ++ ": " ++ value.display
  | (key, value) :: entries =>
    quoted key ++ ": " ++ value.display ++ ", " ++ displayEntries entries

end

end Value

end FullText
