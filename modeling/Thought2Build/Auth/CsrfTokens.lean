import Mathlib.Data.List.TakeWhile
import Mathlib.Tactic.Linarith
import Thought2Build.Auth.CsrfCore

/-! A nonce is accepted once as long as no call comes after its key has expired, and a token only for its session. -/

namespace Thought2Build.Auth

open Histories
open Function (update)

variable {python : CsrfText} {keys : NonceKeys} {nonce : String} {call : CsrfCall} {calls rest : List CsrfCall}

def CsrfCall.claims (python : CsrfText) (nonce : String) (call : CsrfCall) : Option Int :=
  match call.check python with
  | .inl _ => none
  | .inr claim => if claim.nonce = nonce then some claim.remainingTtl else none

def Timely (python : CsrfText) (nonce : String) : List CsrfCall → Prop
  | [] => True
  | call :: rest =>
      match call.claims python nonce with
      | none => Timely python nonce rest
      | some ttl => ∀ later ∈ rest, (later.claims python nonce).isSome = true → later.now < call.now + ttl

def acceptance (python : CsrfText) (nonce : String) (keys : NonceKeys) (call : CsrfCall) : Nat :=
  if keys.accepts python call = true ∧ (call.claims python nonce).isSome = true then 1 else 0

section

attribute [local simp] total NonceKeys.verify NonceKeys.live CsrfCall.claims NonceKeys.step acceptance
  NonceKeys.accepts

end

theorem claims_eq_some {ttl : Int} : call.claims python nonce = some ttl ↔
    call.check python = .inr { nonce, remainingTtl := ttl } := by
  unfold CsrfCall.claims
  cases call.check python with
  | inl answer => simp
  | inr claim =>
      obtain ⟨claimed, lives⟩ := claim
      simp

theorem step_other (other : call.claims python nonce = none) : keys.step python call nonce = keys nonce := by
  unfold NonceKeys.step NonceKeys.verify
  cases checked : call.check python with
  | inl answer => rfl
  | inr claim =>
      have different : nonce ≠ claim.nonce := by
        rintro rfl
        simp [CsrfCall.claims, checked] at other
      dsimp only
      split
      · rfl
      · exact Function.update_of_ne different ..

theorem acceptance_other (other : call.claims python nonce = none) : acceptance python nonce keys call = 0 := by
  simp [acceptance, other]

theorem verify_live {ttl : Int} (claim : call.claims python nonce = some ttl) (live : keys.live nonce call.now = true) :
    keys.step python call = keys ∧ acceptance python nonce keys call = 0 := by
  have checked := claims_eq_some.mp claim
  simp [NonceKeys.step, acceptance, NonceKeys.accepts, NonceKeys.verify, checked, live]

theorem verify_free {ttl : Int} (claim : call.claims python nonce = some ttl)
    (free : keys.live nonce call.now = false) :
    keys.step python call = update keys nonce (some (call.now + ttl)) ∧ acceptance python nonce keys call = 1 := by
  have checked := claims_eq_some.mp claim
  simp [NonceKeys.step, acceptance, NonceKeys.accepts, NonceKeys.verify, checked, free, claim]

theorem total_held {expiry : Rat} (held : keys nonce = some expiry)
    (within : ∀ later ∈ calls, (later.claims python nonce).isSome = true → later.now < expiry) :
    total (NonceKeys.step python) (acceptance python nonce) keys calls = 0 := by
  induction calls generalizing keys with
  | nil => rfl
  | cons call rest ih =>
      obtain ⟨here, later⟩ := List.forall_mem_cons.mp within
      cases claim : call.claims python nonce with
      | none => rw [total, acceptance_other claim, ih ((step_other claim).trans held) later]
      | some ttl =>
          have live : keys.live nonce call.now = true := by
            have soon := here (by simp [claim])
            simp [NonceKeys.live, held, soon]
          obtain ⟨same, none⟩ := verify_live claim live
          rw [total, none, same, ih held later]

theorem total_expired {expiry : Rat} (held : keys nonce = some expiry) {later : CsrfCall} (member : later ∈ calls)
    (claimed : (later.claims python nonce).isSome = true) (late : expiry ≤ later.now) :
    1 ≤ total (NonceKeys.step python) (acceptance python nonce) keys calls := by
  induction calls generalizing keys with
  | nil => cases member
  | cons call rest ih =>
      rw [total]
      cases claim : call.claims python nonce with
      | none =>
          have tail : later ∈ rest := by
            rcases List.mem_cons.mp member with same | tail
            · rw [same, claim] at claimed
              contradiction
            · exact tail
          exact (ih ((step_other claim).trans held) tail).trans (Nat.le_add_left ..)
      | some ttl =>
          by_cases soon : call.now < expiry
          · have tail : later ∈ rest := by
              rcases List.mem_cons.mp member with same | tail
              · rw [same] at late
                exact absurd soon (not_lt.mpr late)
              · exact tail
            have live : keys.live nonce call.now = true := by simp [NonceKeys.live, held, soon]
            rw [(verify_live claim live).1]
            exact (ih held tail).trans (Nat.le_add_left ..)
          · have free : keys.live nonce call.now = false := by simp [NonceKeys.live, held, not_lt.mp soon]
            rw [(verify_free claim free).2]
            exact Nat.le_add_right ..

theorem total_le_one_iff (fresh : keys nonce = none) :
    total (NonceKeys.step python) (acceptance python nonce) keys calls ≤ 1 ↔ Timely python nonce calls := by
  induction calls generalizing keys with
  | nil => exact iff_of_true (Nat.zero_le 1) trivial
  | cons call rest ih =>
      rw [total, Timely]
      cases claim : call.claims python nonce with
      | none => rw [acceptance_other claim, Nat.zero_add, ih ((step_other claim).trans fresh)]
      | some ttl =>
          have free : keys.live nonce call.now = false := by simp [NonceKeys.live, fresh]
          obtain ⟨stored, one⟩ := verify_free claim free
          have held : keys.step python call nonce = some (call.now + ttl) := by
            rw [stored]
            exact Function.update_self ..
          rw [one]
          constructor
          · intro once later member claimed
            by_contra late
            have more := total_expired held member claimed (not_lt.mp late)
            omega
          · intro within
            rw [total_held held within]

theorem cut_dot {front : List Char} (plain : '.' ∉ front) (back : List Char) :
    (front ++ '.' :: back).takeWhile (· ≠ '.') = front ∧ (front ++ '.' :: back).dropWhile (· ≠ '.') = '.' :: back := by
  have other : ∀ letter ∈ front, decide (letter ≠ '.') = true := by
    intro letter member
    exact decide_eq_true fun same => plain (same ▸ member)
  constructor
  · rw [List.takeWhile_append_of_pos other]
    simp
  · rw [List.dropWhile_append_of_pos other]
    simp

theorem splitToken_join {timestamp nonce : String} (first : '.' ∉ timestamp.toList) (second : '.' ∉ nonce.toList)
    (signature : String) :
    splitToken (timestamp ++ "." ++ nonce ++ "." ++ signature) = some (timestamp, nonce, signature) := by
  have letters : (timestamp ++ "." ++ nonce ++ "." ++ signature).toList =
      timestamp.toList ++ '.' :: (nonce.toList ++ '.' :: signature.toList) := by
    simp
  obtain ⟨taken, dropped⟩ := cut_dot first (nonce.toList ++ '.' :: signature.toList)
  obtain ⟨takenNonce, droppedNonce⟩ := cut_dot second signature.toList
  rw [splitToken, letters, taken, dropped]
  dsimp only
  rw [takenNonce, droppedNonce]
  simp

theorem toString_plain (number : Int) : '.' ∉ (toString number).toList := by
  have digits : ∀ natural : Nat, '.' ∉ (toString natural).toList := by
    intro natural member
    have digit : '.'.isDigit = true :=
      Nat.isDigit_of_mem_toDigits (b := 10) (n := natural) (by decide) (by decide) (by simpa using member)
    exact absurd digit (by decide)
  cases number with
  | ofNat natural => exact digits natural
  | negSucc natural =>
      change '.' ∉ ("-" ++ toString (natural + 1)).toList
      rw [String.toList_append, List.mem_append, not_or]
      exact ⟨by decide, digits _⟩

theorem CsrfNonce.plain (nonce : CsrfNonce) : '.' ∉ nonce.text.toList := by
  intro member
  have digit := List.all_eq_true.mp nonce.hex '.' member
  exact absurd digit (by decide)

theorem cut_dot_inj {front front' back back' : List Char} (plain : '.' ∉ front) (plain' : '.' ∉ front')
    (same : front ++ '.' :: back = front' ++ '.' :: back') : front = front' ∧ back = back' := by
  obtain ⟨taken, dropped⟩ := cut_dot plain back
  obtain ⟨taken', dropped'⟩ := cut_dot plain' back'
  rw [same] at taken dropped
  exact ⟨taken.symm.trans taken', (List.cons.inj (dropped.symm.trans dropped')).2⟩

theorem message_inj {session session' timestamp timestamp' nonce nonce' : String} (first : '.' ∉ timestamp.toList)
    (first' : '.' ∉ timestamp'.toList) (second : '.' ∉ nonce.toList) (second' : '.' ∉ nonce'.toList)
    (same : session ++ "." ++ timestamp ++ "." ++ nonce = session' ++ "." ++ timestamp' ++ "." ++ nonce') :
    session = session' ∧ timestamp = timestamp' ∧ nonce = nonce' := by
  have letters := congrArg (fun text : String => text.toList.reverse) same
  simp only [String.toList_append, List.reverse_append, List.append_assoc] at letters
  change nonce.toList.reverse ++ '.' :: (timestamp.toList.reverse ++ '.' :: session.toList.reverse) =
    nonce'.toList.reverse ++ '.' :: (timestamp'.toList.reverse ++ '.' :: session'.toList.reverse) at letters
  obtain ⟨nonces, rest⟩ := cut_dot_inj (by simpa using second) (by simpa using second') letters
  obtain ⟨timestamps, sessions⟩ := cut_dot_inj (by simpa using first) (by simpa using first') rest
  exact ⟨String.toList_inj.mp (List.reverse_injective sessions),
    String.toList_inj.mp (List.reverse_injective timestamps), String.toList_inj.mp (List.reverse_injective nonces)⟩

theorem dot_of_dropWhile {letters rest : List Char} {letter : Char}
    (dropped : letters.dropWhile (· ≠ '.') = letter :: rest) :
    letters = letters.takeWhile (· ≠ '.') ++ '.' :: rest ∧ '.' ∉ letters.takeWhile (· ≠ '.') := by
  have dot : letter = '.' := by
    have head := List.head_dropWhile_not (· ≠ '.') (l := letters) (by rw [dropped]; simp)
    simp only [dropped, List.head_cons] at head
    simpa using head
  refine ⟨?_, fun member => by simpa using List.mem_takeWhile_imp member⟩
  subst dot
  rw [← dropped, List.takeWhile_append_dropWhile]

theorem splitToken_eq_some {token timestamp nonce signature : String}
    (found : splitToken token = some (timestamp, nonce, signature)) :
    token = timestamp ++ "." ++ nonce ++ "." ++ signature ∧ '.' ∉ timestamp.toList ∧ '.' ∉ nonce.toList := by
  unfold splitToken at found
  split at found
  · contradiction
  · rename_i letter rest dropped
    split at found
    · contradiction
    · rename_i second signed droppedNonce
      obtain ⟨rfl, rfl, rfl⟩ := by simpa using found
      obtain ⟨whole, plain⟩ := dot_of_dropWhile dropped
      obtain ⟨tail, plainNonce⟩ := dot_of_dropWhile droppedNonce
      refine ⟨String.toList_inj.mp ?_, by simpa using plain, by simpa using plainNonce⟩
      rw [tail] at whole
      simpa using whole

theorem check_ne_true : call.check python ≠ .inl (.returned true) := by
  unfold CsrfCall.check
  split
  · simp
  · split
    · simp
    · dsimp only
      split
      · simp
      · split
        · simp
        · split <;> simp

theorem accepts_cases (accepted : keys.accepts python call = true) : ∃ timestamp nonce issuedAt,
    splitToken call.token = some (timestamp, nonce, python.sign call.sessionId timestamp nonce) ∧
      python.int timestamp = some issuedAt ∧ issuedAt ≤ ⌊call.now⌋ ∧ ⌊call.now⌋ - issuedAt ≤ call.maxAgeSeconds ∧
      (call.claims python nonce).isSome = true := by
  cases checked : call.check python with
  | inl answer =>
      simp only [NonceKeys.accepts, NonceKeys.verify, checked, decide_eq_true_eq] at accepted
      rw [accepted] at checked
      exact absurd checked check_ne_true
  | inr claim =>
      have passed := checked
      unfold CsrfCall.check at passed
      split at passed
      · contradiction
      · rename_i timestamp nonce signature found
        split at passed
        · contradiction
        · rename_i issuedAt reads
          dsimp only at passed
          split at passed
          · contradiction
          · rename_i young
            split at passed
            · contradiction
            · split at passed
              · contradiction
              · rename_i signed
                obtain ⟨soon, recent⟩ := not_or.mp young
                obtain rfl := Sum.inr.inj passed
                refine ⟨timestamp, nonce, issuedAt, ?_, reads, not_lt.mp soon, not_lt.mp recent, ?_⟩
                · rw [found, not_not.mp signed]
                · simp [CsrfCall.claims, checked]

def tokenAcceptance (python : CsrfText) (token : String) (keys : NonceKeys) (call : CsrfCall) : Nat :=
  if keys.accepts python call = true ∧ call.token = token then 1 else 0

variable {sessionId : String} {issued : Rat} {random : CsrfNonce}

theorem splitToken_generate : splitToken (python.generateCsrfToken sessionId issued random) =
    some (toString ⌊issued⌋, random.text, python.sign sessionId (toString ⌊issued⌋) random.text) :=
  splitToken_join (toString_plain _) random.plain _

theorem total_token_le : total (NonceKeys.step python)
      (tokenAcceptance python (python.generateCsrfToken sessionId issued random)) keys calls ≤
    total (NonceKeys.step python) (acceptance python random.text) keys calls := by
  induction calls generalizing keys with
  | nil => exact le_refl _
  | cons call rest ih =>
      rw [total, total]
      refine Nat.add_le_add ?_ ih
      unfold tokenAcceptance
      split
      · rename_i with_token
        obtain ⟨accepted, same⟩ := with_token
        obtain ⟨timestamp, nonce, issuedAt, found, _, _, _, claimed⟩ := accepts_cases accepted
        rw [same, splitToken_generate] at found
        have nonces : random.text = nonce := (Prod.mk.inj (Prod.mk.inj (Option.some.inj found)).2).1
        rw [← nonces] at claimed
        exact (if_pos ⟨accepted, claimed⟩).ge
      · exact Nat.zero_le _

structure CsrfSound (python : CsrfText) (calls : List CsrfCall) : Prop where
  nonce_once : ∀ nonce, total (NonceKeys.step python) (acceptance python nonce) (fun _ => none) calls ≤ 1 ↔
    Timely python nonce calls
  token_once : ∀ sessionId issued random, Timely python random.text calls →
    total (NonceKeys.step python) (tokenAcceptance python (python.generateCsrfToken sessionId issued random))
      (fun _ => none) calls ≤ 1
  genuine : ∀ sessionId issued (random : CsrfNonce), ∀ front call back, calls = front ++ call :: back →
    (∃ timestamp nonce, splitToken call.token =
      some (timestamp, nonce, python.sign sessionId (toString ⌊issued⌋) random.text)) →
    (play (NonceKeys.step python) (fun _ => none) front).accepts python call = true →
    call.token = python.generateCsrfToken sessionId issued random ∧ call.sessionId = sessionId ∧
      ⌊issued⌋ ≤ ⌊call.now⌋ ∧ ⌊call.now⌋ - ⌊issued⌋ ≤ call.maxAgeSeconds

/-- Whatever is called with whatever tokens, where `int` reads what `str` writes and signatures do not collide -/
theorem csrf_sound {python : CsrfText} (reads : ∀ number : Int, python.int (toString number) = some number)
    (injective : Function.Injective python.hmac) (calls : List CsrfCall) : CsrfSound python calls where
  nonce_once nonce := total_le_one_iff rfl
  token_once sessionId issued random timely := total_token_le.trans ((total_le_one_iff rfl).mpr timely)
  genuine sessionId issued random front call back _ carries accepted := by
    obtain ⟨timestamp, nonce, signed⟩ := carries
    obtain ⟨stamp, claimed, issuedAt, found, parsed, soon, recent, _⟩ := accepts_cases accepted
    obtain ⟨whole, plain, plainNonce⟩ := splitToken_eq_some signed
    rw [signed] at found
    rw [Option.some_inj, Prod.mk.injEq, Prod.mk.injEq] at found
    obtain ⟨rfl, rfl, signatures⟩ := found
    obtain ⟨sessions, stamps, nonces⟩ :=
      message_inj (toString_plain _) plain random.plain plainNonce (injective signatures)
    rw [← stamps, reads, Option.some_inj] at parsed
    subst parsed
    refine ⟨?_, sessions.symm, soon, recent⟩
    rw [whole, ← stamps, ← nonces]
    rfl

def decimalInt (text : String) : Option Int :=
  let digits := text.toList.dropWhile (· = '-')
  if digits.isEmpty || !digits.all Char.isDigit then none
  else if text.toList.length = digits.length then some (Nat.ofDigitChars 10 digits 0)
  else if text.toList.length = digits.length + 1 then some (-(Nat.ofDigitChars 10 digits 0 : Int))
  else none

theorem decimalInt_toString (number : Int) : decimalInt (toString number) = some number := by
  have read : ∀ natural : Nat, (Nat.toDigits 10 natural).all Char.isDigit = true := fun natural =>
    List.all_eq_true.mpr fun letter member => Nat.isDigit_of_mem_toDigits (by decide) (by decide) member
  have kept : ∀ natural : Nat, (Nat.toDigits 10 natural).dropWhile (· = '-') = Nat.toDigits 10 natural := by
    intro natural
    have digits := read natural
    cases same : Nat.toDigits 10 natural with
    | nil => rfl
    | cons digit rest =>
        have other : digit ≠ '-' := by
          rintro rfl
          simp [same] at digits
        simp [other]
  cases number with
  | ofNat natural =>
      change decimalInt (toString natural) = _
      simp [decimalInt, kept, read, Nat.ofDigitChars_ten_toDigits]
  | negSucc natural =>
      change decimalInt ("-" ++ toString (natural + 1)) = _
      simp [decimalInt, kept, read, Nat.ofDigitChars_ten_toDigits, Int.negSucc_eq]

def openText : CsrfText := { int := decimalInt, hmac := id }

def zeroNonce : CsrfNonce := { text := "00000000000000000000000000000000", hex := by decide, size := by decide }

theorem csrf_sound_twice : CsrfSound openText
    [{ token := openText.generateCsrfToken "s" 0 zeroNonce, sessionId := "s", maxAgeSeconds := 3600, now := 1 },
      { token := openText.generateCsrfToken "s" 0 zeroNonce, sessionId := "s", maxAgeSeconds := 3600, now := 3600 }] :=
  csrf_sound decimalInt_toString Function.injective_id _

theorem csrf_late :
    let token := openText.generateCsrfToken "s" 0 zeroNonce
    total (NonceKeys.step openText) (tokenAcceptance openText token) (fun _ => none)
      [{ token, sessionId := "s", maxAgeSeconds := 3600, now := 1 / 2 },
        { token, sessionId := "s", maxAgeSeconds := 3600, now := 3600 + 3 / 4 }] = 2 := by
  decide +kernel

end Thought2Build.Auth
