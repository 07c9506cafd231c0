import Mathlib.Data.List.TakeWhile

/-! How a URI reference is read: its path is what is before the first number sign and the first question mark, and
each percent sign with two hexadecimal digits stands for an octet. -/

namespace UriTexts

def utf8 (text : List Char) : List UInt8 := text.flatMap String.utf8EncodeChar

theorem utf8_inj {first second : List Char} (same : utf8 first = utf8 second) : first = second := by
  have encoded : first.utf8Encode = second.utf8Encode := congrArg List.toByteArray same
  rw [← String.toByteArray_ofList, ← String.toByteArray_ofList, String.toByteArray_inj] at encoded
  exact String.ofList_injective encoded

theorem utf8_cons (letter : Char) (rest : List Char) : utf8 (letter :: rest) = String.utf8EncodeChar letter ++ utf8 rest :=
  List.flatMap_cons

theorem utf8_append (front back : List Char) : utf8 (front ++ back) = utf8 front ++ utf8 back := List.flatMap_append

theorem length_utf8_cons (letter : Char) (rest : List Char) : (utf8 rest).length < (utf8 (letter :: rest)).length := by
  rw [utf8_cons, List.length_append]
  have some_ := List.length_pos_iff.mpr (@String.utf8EncodeChar_ne_nil letter)
  omega

def hexDigit (letter : Char) : Option Nat :=
  if '0' ≤ letter ∧ letter ≤ '9' then some (letter.toNat - '0'.toNat)
  else if 'a' ≤ letter ∧ letter ≤ 'f' then some (letter.toNat - 'a'.toNat + 10)
  else if 'A' ≤ letter ∧ letter ≤ 'F' then some (letter.toNat - 'A'.toNat + 10)
  else none

def escapeAt : List Char → Option UInt8
  | letter :: high :: low :: _ =>
      if letter = '%' then
        (hexDigit high).bind fun high => (hexDigit low).map fun low => UInt8.ofNat (16 * high + low)
      else none
  | _ => none

def hasEscape : List Char → Bool
  | [] => false
  | letter :: rest => (escapeAt (letter :: rest)).isSome || hasEscape rest

theorem hasEscape_of_plain {text : List Char} (plain : '%' ∉ text) : hasEscape text = false := by
  induction text with
  | nil => rfl
  | cons letter rest ih =>
      have none : escapeAt (letter :: rest) = none := by
        have away : letter ≠ '%' := fun percent => plain (percent ▸ List.mem_cons_self)
        match rest with
        | [] | [_] => rfl
        | high :: low :: more => exact if_neg away
      rw [hasEscape, none, Option.isSome_none, Bool.false_or]
      exact ih fun member => plain (List.mem_cons_of_mem _ member)

/-- The octets of a text behind the letters that an escape takes -/
def decodeFrom : Nat → List Char → List UInt8
  | _, [] => []
  | taken + 1, _ :: rest => decodeFrom taken rest
  | 0, letter :: rest =>
      match escapeAt (letter :: rest) with
      | some octet => octet :: decodeFrom 2 rest
      | none => String.utf8EncodeChar letter ++ decodeFrom 0 rest

def percentDecode (text : List Char) : List UInt8 := decodeFrom 0 text

theorem escapeAt_length {letter : Char} {rest : List Char} {octet : UInt8} (found : escapeAt (letter :: rest) = some octet) :
    1 + (utf8 (rest.drop 2)).length < (utf8 (letter :: rest)).length := by
  match rest, found with
  | high :: low :: more, _ =>
      have first := length_utf8_cons letter (high :: low :: more)
      have second := length_utf8_cons high (low :: more)
      have third := length_utf8_cons low more
      rw [List.drop_succ_cons, List.drop_one, List.tail_cons]
      omega

theorem length_decodeFrom (taken : Nat) (text : List Char) :
    (decodeFrom taken text).length ≤ (utf8 (text.drop taken)).length := by
  induction text generalizing taken with
  | nil => rw [decodeFrom]; exact Nat.zero_le _
  | cons letter rest ih =>
      cases taken with
      | succ taken => exact ih taken
      | zero =>
          rw [decodeFrom, List.drop_zero]
          split
          · rename_i octet found
            have shorter := escapeAt_length found
            have later := ih 2
            rw [List.length_cons]
            omega
          · have later := ih 0
            rw [List.drop_zero] at later
            rw [utf8_cons, List.length_append, List.length_append]
            omega

theorem length_percentDecode {text : List Char} (escape : hasEscape text = true) :
    (percentDecode text).length < (utf8 text).length := by
  induction text with
  | nil => exact absurd escape Bool.false_ne_true
  | cons letter rest ih =>
      rw [percentDecode, decodeFrom]
      split
      · rename_i octet found
        have shorter := escapeAt_length found
        have later := length_decodeFrom 2 rest
        rw [List.length_cons]
        omega
      · rename_i none
        rw [hasEscape, none, Option.isSome_none, Bool.false_or] at escape
        have later := ih escape
        rw [percentDecode] at later
        rw [utf8_cons, List.length_append, List.length_append]
        omega

theorem percentDecode_plain {text : List Char} (plain : hasEscape text = false) : percentDecode text = utf8 text := by
  induction text with
  | nil => rfl
  | cons letter rest ih =>
      obtain ⟨here, later⟩ := Bool.or_eq_false_iff.mp plain
      rw [percentDecode, decodeFrom, Option.isSome_eq_false_iff.mp here |> Option.isNone_iff_eq_none.mp]
      exact (congrArg _ (ih later)).trans (utf8_cons letter rest).symm

theorem percentDecode_eq_iff (text : List Char) : percentDecode text = utf8 text ↔ hasEscape text = false := by
  constructor
  · intro same
    by_contra escape
    have shorter := length_percentDecode (by simpa using escape)
    rw [same] at shorter
    omega
  · exact percentDecode_plain

def pathOf (reference : List Char) : List Char := (reference.takeWhile (· ≠ '#')).takeWhile (· ≠ '?')

theorem pathOf_cons (letter : Char) (rest : List Char) :
    pathOf (letter :: rest) = if letter = '#' ∨ letter = '?' then [] else letter :: pathOf rest := by
  rw [pathOf, List.takeWhile_cons]
  by_cases fragment : letter = '#'
  · simp [fragment]
  · by_cases query : letter = '?'
    · simp [query]
    · simp [fragment, query, pathOf]

theorem pathOf_append {front : List Char} (plain : ∀ letter ∈ front, ¬(letter = '#' ∨ letter = '?')) (back : List Char) :
    pathOf (front ++ back) = front ++ pathOf back := by
  induction front with
  | nil => rfl
  | cons letter rest ih =>
      obtain ⟨here, later⟩ := List.forall_mem_cons.mp plain
      rw [List.cons_append, pathOf_cons, if_neg here, ih later, List.cons_append]

theorem pathOf_query (front back : List Char) : pathOf (front ++ '?' :: back) = pathOf front := by
  induction front with
  | nil => rw [List.nil_append, pathOf_cons, if_pos (.inr rfl)]; rfl
  | cons letter rest ih => rw [List.cons_append, pathOf_cons, pathOf_cons, ih]

theorem pathOf_eq_iff (text : List Char) :
    pathOf text = text ↔ ∀ letter ∈ text, ¬(letter = '#' ∨ letter = '?') := by
  constructor
  · intro whole letter member
    rw [← whole] at member
    have query := List.mem_takeWhile_imp member
    have fragment := List.mem_takeWhile_imp ((List.takeWhile_prefix _).subset member)
    rintro (rfl | rfl)
    · exact absurd fragment (by decide)
    · exact absurd query (by decide)
  · intro plain
    have whole := pathOf_append plain []
    rwa [List.append_nil, show pathOf [] = [] from rfl, List.append_nil] at whole

theorem decode_pathOf_iff (text : List Char) : percentDecode (pathOf text) = utf8 text ↔
    (∀ letter ∈ text, ¬(letter = '#' ∨ letter = '?')) ∧ hasEscape text = false := by
  rw [← pathOf_eq_iff]
  constructor
  · intro same
    have whole : pathOf text = text := by
      obtain ⟨rest, split⟩ : pathOf text <+: text := (List.takeWhile_prefix _).trans (List.takeWhile_prefix _)
      have shorter := length_decodeFrom 0 (pathOf text)
      have parts : (utf8 text).length = (utf8 (pathOf text)).length + (utf8 rest).length := by
        rw [← List.length_append, ← utf8_append, split]
      rw [List.drop_zero, show decodeFrom 0 (pathOf text) = utf8 text from same] at shorter
      cases rest with
      | nil => rwa [List.append_nil] at split
      | cons letter more =>
          have longer := length_utf8_cons letter more
          omega
    rw [whole] at same
    exact ⟨whole, (percentDecode_eq_iff text).mp same⟩
  · rintro ⟨whole, plain⟩
    rw [whole]
    exact percentDecode_plain plain

end UriTexts
