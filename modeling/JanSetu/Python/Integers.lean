import JanSetu.Python.Json

/-!
# `int(value)` and the members of a `dict`

What the conversions and method calls of a payload do to a decoded value of any
shape.
-/

namespace Python

/-- The zeros of the decimal digits of Unicode; the digits follow each. -/
def decimalZeros : List Nat :=
  [
    48, 1632, 1776, 1984, 2406, 2534, 2662, 2790, 2918, 3046, 3174, 3302, 3430,
    3558, 3664, 3792, 3872, 4160, 4240, 6112, 6160, 6470, 6608, 6784, 6800,
    6992, 7088, 7232, 7248, 42528, 43216, 43264, 43472, 43504, 43600, 44016,
    65296, 66720, 68912, 69734, 69872, 69942, 70096, 70384, 70736, 70864,
    71248, 71360, 71472, 71904, 72016, 72784, 73040, 73120, 92768, 92864,
    93008, 120782, 120792, 120802, 120812, 120822, 123200, 123632, 125264,
    130032 ]

def decimalDigit (char : Char) : Option Nat :=
  (decimalZeros.find? fun first =>
    first ≤ char.toNat && char.toNat < first + 10).map (char.toNat - ·)

/-- The white space around an integer; `str.strip` takes off the four ASCII
separators too. -/
def isIntSpace (char : Char) : Bool :=
  isSpace char && !(28 ≤ char.toNat && char.toNat ≤ 31)

/-- Further digits, an underscore before any of them. -/
def moreDigits : List Char → Option (List Nat)
  | [] => some []
  | '_' :: char :: chars => do
      let digit ← decimalDigit char
      let digits ← moreDigits chars
      pure (digit :: digits)
  | char :: chars => do
      let digit ← decimalDigit char
      let digits ← moreDigits chars
      pure (digit :: digits)

def digitsOf : List Char → Option (List Nat)
  | [] => none
  | char :: chars => do
      let digit ← decimalDigit char
      let digits ← moreDigits chars
      pure (digit :: digits)

/-- An integer of at most 4300 digits. -/
def natOf (chars : List Char) : Option Nat :=
  match digitsOf chars with
  | some digits =>
      if digits.length ≤ 4300 then
        some (digits.foldl (fun value digit => 10 * value + digit) 0)
      else none
  | none => none

/-- `int(text)`, none where it raises. -/
def intOfText (text : String) : Option ℤ :=
  let left := text.toList.dropWhile isIntSpace
  match (left.reverse.dropWhile isIntSpace).reverse with
  | '-' :: chars => (natOf chars).map fun value => -value
  | '+' :: chars => (natOf chars).map fun value => value
  | chars => (natOf chars).map fun value => value

example : intOfText " -12_0\n" = some (-120) := by decide +kernel

/-- `int(value)`. -/
def intOf : Json → Except Raised ℤ
  | .bool value => .ok (if value then 1 else 0)
  | .int value => .ok value
  | .float (.finite value) => .ok (value.num.tdiv value.den)
  | .float .nan => .error .valueError
  | .float _ => .error .overflowError
  | .string text =>
      match intOfText text with
      | some value => .ok value
      | none => .error .valueError
  | _ => .error .typeError

/-- Only an infinity overflows. -/
theorem intOf_error {value : Json} {raised : Raised}
    (failed : intOf value = .error raised) :
    (raised = .typeError ∨ raised = .valueError) ∨
      raised = .overflowError ∧
        (value = .float .infinity ∨ value = .float .negativeInfinity) := by
  cases value with
  | float number => cases number <;> simp_all [intOf]
  | string text =>
      cases read : intOfText text <;> simp_all [intOf]
  | _ => simp_all [intOf]

namespace Json

/-- `value.get(name, default)`; only a `dict` has the method. -/
def callGet (value : Json) (name : String) (default : Json) :
    Except Raised Json :=
  match value with
  | .object _ => .ok (value.getD name default)
  | _ => .error .attributeError

/-- `value.get(key, {})` on a `dict`, with a key of any type: the members have
strings for keys. -/
def getKey (value key : Json) : Except Raised Json :=
  if key.hashable then
    match key with
    | .string name => .ok (value.getD name (.object []))
    | _ => .ok (.object [])
  else .error .typeError

/-- `value in names` for a set of strings. -/
def isIn (value : Json) (names : List String) : Except Raised Bool :=
  if value.hashable then .ok (value.text.any (· ∈ names))
  else .error .typeError

/-- `isinstance(value, dict)`. -/
def isObject : Json → Bool
  | .object _ => true
  | _ => false

theorem isObject_iff {value : Json} : value.isObject = true ↔ value.IsObject := by
  cases value <;> simp [isObject, IsObject]

theorem callGet_ok {value found default : Json} {name : String} :
    value.callGet name default = .ok found ↔
      value.IsObject ∧ value.getD name default = found := by
  cases value <;> simp [callGet, IsObject]

theorem returns_getKey {value key : Json} :
    Returns (value.getKey key) ↔ key.hashable = true := by
  unfold getKey
  cases hashable : key.hashable with
  | true => cases key <;> simp [returns_ok]
  | false => simp [not_returns_error]

theorem returns_isIn {value : Json} {names : List String} :
    Returns (value.isIn names) ↔ value.hashable = true := by
  unfold isIn
  cases value.hashable with
  | true => simp [returns_ok]
  | false => simp [not_returns_error]

end Json

end Python
