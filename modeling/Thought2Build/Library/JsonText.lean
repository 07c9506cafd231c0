import Mathlib.Data.List.Basic
import Mathlib.Tactic.Ring

/-! The values of JSON, whose numbers are kept as they are written. -/

abbrev CodeUnits := List Nat

def ascii (text : String) : CodeUnits := text.toList.map Char.toNat

namespace Json

def isDigit (unit : Nat) : Bool := 0x30 ≤ unit && unit ≤ 0x39

def numberUnit (unit : Nat) : Bool := isDigit unit || unit ∈ ascii "+-.eE"

def afterDigits (units : CodeUnits) : Option CodeUnits :=
  if units.head?.any isDigit then some (units.dropWhile isDigit) else none

def exponent : CodeUnits → Bool
  | [] => true
  | mark :: rest =>
      mark ∈ ascii "eE" &&
        afterDigits (if rest.head?.any (· ∈ ascii "+-") then rest.tail else rest) = some []

def fraction (units : CodeUnits) : Bool :=
  if units.head? = some 0x2E then (afterDigits units.tail).any exponent else exponent units

def magnitude (units : CodeUnits) : Bool :=
  if units.head? = some 0x30 then fraction units.tail else (afterDigits units).any fraction

def numeral (units : CodeUnits) : Bool :=
  units.all numberUnit && magnitude (if units.head? = some 0x2D then units.tail else units)

end Json

structure JsonNumber where
  literal : CodeUnits
  numeral : Json.numeral literal = true

inductive Json (text : Type) where
  | null
  | bool (value : Bool)
  | number (value : JsonNumber)
  | text (value : text)
  | array (items : List (Json text))
  | object (members : List (text × Json text))
