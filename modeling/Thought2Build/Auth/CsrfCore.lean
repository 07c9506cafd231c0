import Mathlib.Algebra.Order.Field.Rat
import Mathlib.Data.Rat.Floor
import Mathlib.Logic.Function.Basic
import Thought2Build.Library.Histories

/-!
CSRF tokens and the nonces that Redis keeps. Times are those of one clock, in seconds after the epoch, and a step reads
it once. Redis answers: what the code does without it is left out, and so is `fail_closed`, which only that reads.
-/

namespace Thought2Build.Auth

open Function (update)

structure CsrfNonce where
  text : String
  hex : text.toList.all ("0123456789abcdef".toList.contains ·) = true
  size : text.toList.length = 32

structure CsrfText where
  /-- `int(text)`; `none` is a `ValueError`. -/
  int : String → Option Int
  /-- `hmac.new(secret, message, sha256).hexdigest()` -/
  hmac : String → String

namespace CsrfText

variable (python : CsrfText)

def sign (sessionId timestamp nonce : String) : String :=
  python.hmac (sessionId ++ "." ++ timestamp ++ "." ++ nonce)

def generateCsrfToken (sessionId : String) (now : Rat) (nonce : CsrfNonce) : String :=
  let timestamp := toString ⌊now⌋
  timestamp ++ "." ++ nonce.text ++ "." ++ python.sign sessionId timestamp nonce.text

end CsrfText

def splitToken (token : String) : Option (String × String × String) :=
  match token.toList.dropWhile (· ≠ '.') with
  | [] => none
  | _ :: rest =>
      match rest.dropWhile (· ≠ '.') with
      | [] => none
      | _ :: signature =>
          some (String.ofList (token.toList.takeWhile (· ≠ '.')), String.ofList (rest.takeWhile (· ≠ '.')),
            String.ofList signature)

structure CsrfCall where
  token : String
  sessionId : String
  maxAgeSeconds : Int
  now : Rat

structure NonceClaim where
  nonce : String
  remainingTtl : Int

inductive CsrfAnswer where
  | returned (valid : Bool)
  /-- `hmac.compare_digest` takes ASCII texts only. -/
  | typeError
  | alreadyUsed
  deriving DecidableEq

def CsrfCall.check (python : CsrfText) (call : CsrfCall) : CsrfAnswer ⊕ NonceClaim :=
  match splitToken call.token with
  | none => .inl (.returned false)
  | some (timestamp, nonce, signature) =>
      match python.int timestamp with
      | none => .inl (.returned false)
      | some issuedAt =>
          let now := ⌊call.now⌋
          if now < issuedAt ∨ call.maxAgeSeconds < now - issuedAt then .inl (.returned false)
          else if !signature.toList.all (·.toNat < 128) then .inl .typeError
          else if signature ≠ python.sign call.sessionId timestamp nonce then .inl (.returned false)
          else .inr { nonce, remainingTtl := max 1 (call.maxAgeSeconds - (now - issuedAt)) }

abbrev NonceKeys := String → Option Rat

def NonceKeys.live (keys : NonceKeys) (nonce : String) (now : Rat) : Bool := (keys nonce).any (now < ·)

def NonceKeys.verify (keys : NonceKeys) (python : CsrfText) (call : CsrfCall) : CsrfAnswer × NonceKeys :=
  match call.check python with
  | .inl answer => (answer, keys)
  | .inr claim =>
      if keys.live claim.nonce call.now then (.alreadyUsed, keys)
      else (.returned true, update keys claim.nonce (some (call.now + claim.remainingTtl)))

def NonceKeys.step (python : CsrfText) (keys : NonceKeys) (call : CsrfCall) : NonceKeys := (keys.verify python call).2

def NonceKeys.accepts (python : CsrfText) (keys : NonceKeys) (call : CsrfCall) : Bool :=
  (keys.verify python call).1 = .returned true

end Thought2Build.Auth
