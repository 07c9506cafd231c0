import Mathlib.Data.Rat.Floor

/-! JSON values as a Python program reads them: `str`, truth, equality and `int`. -/

/-- `other` is a list or a dict, which is not hashable. -/
inductive JsonValue where
  | null
  | bool (value : Bool)
  | int (value : Int)
  | real (value : Rat) (printed : String)
  | text (value : String)
  | other (printed : String) (truthy : Bool)
  deriving DecidableEq

inductive PythonError where
  | valueError | typeError | runtimeError | overflowError | dataError | providerError
  deriving DecidableEq

def PythonError.name : PythonError → String
  | valueError => "ValueError"
  | typeError => "TypeError"
  | runtimeError => "RuntimeError"
  | overflowError => "OverflowError"
  | dataError => "DBAPIError"
  | providerError => "RazorpayError"

/-- Python's functions on text; `none` is a `ValueError`. Nothing is assumed of them. -/
structure PythonText where
  int : String → Option Int
  /-- `text.strip().lstrip("-").isdigit()` -/
  isNumber : String → Bool
  upper : String → String
  /-- The value of `UUID(text)`. -/
  uuid : String → Option Nat
  /-- `datetime.fromisoformat`, in seconds since the epoch. -/
  fromIsoFormat : String → Option Int

namespace JsonValue

/-- `str(value)` -/
def str : JsonValue → String
  | null => "None"
  | bool true => "True"
  | bool false => "False"
  | int value => toString value
  | real _ printed => printed
  | text value => value
  | other printed _ => printed

def truthy : JsonValue → Bool
  | null => false
  | bool value => value
  | int value => value ≠ 0
  | real value _ => value ≠ 0
  | text value => value ≠ ""
  | other _ truthy => truthy

/-- `str(value or "")` -/
def strOrEmpty (value : JsonValue) : String :=
  if value.truthy then value.str else ""

def number? : JsonValue → Option Rat
  | bool value => some (if value then 1 else 0)
  | int value => some value
  | real value _ => some value
  | _ => none

/-- `first == second` -/
def same (first second : JsonValue) : Bool :=
  match first.number?, second.number? with
  | some left, some right => left = right
  | none, none => first = second
  | _, _ => false

/-- `int(value)` -/
def toInt (python : PythonText) : JsonValue → Except PythonError Int
  | bool value => .ok (if value then 1 else 0)
  | int value => .ok value
  | real value _ => .ok (if 0 ≤ value then ⌊value⌋ else ⌈value⌉)
  | text value =>
      match python.int value with
      | some number => .ok number
      | none => .error .valueError
  | _ => .error .typeError

/-- `_coerce_int`: integers, and text that looks like one; flags are no integers here. -/
def coerceInt (python : PythonText) : JsonValue → Except PythonError (Option Int)
  | int value => .ok (some value)
  | text value =>
      if python.isNumber value then
        match python.int value with
        | some number => .ok (some number)
        | none => .error .valueError
      else .ok none
  | _ => .ok none

/-- `value in texts` for a frozenset of texts. -/
def inTexts (texts : List String) : JsonValue → Except PythonError Bool
  | text value => .ok (value ∈ texts)
  | other _ _ => .error .typeError
  | _ => .ok false

end JsonValue
