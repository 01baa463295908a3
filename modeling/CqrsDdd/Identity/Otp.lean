import CqrsDdd.Expiring
import Mathlib.Algebra.Order.Ring.Int

/-! One-time codes by e-mail and by SMS, over the in-memory stores. Times are in seconds;
the number of `secrets.randbelow` is an argument. -/
namespace CqrsDdd.Identity

open Expiring

structure OtpConfig where
  codeLength : Nat := 6
  ttlSeconds : Int := 300
  maxAttempts : Int := 3
  cooldownSeconds : Int := 60

inductive OtpError
  | mfaInvalid (message : String)
  | mfaSetup (message : String)
  | typeError (message : String)
  deriving DecidableEq, Repr

/-- `secrets.compare_digest` on texts. -/
def compareDigest (stored given : String) : Except OtpError Bool :=
  if stored.toList.all (·.val < 128) && given.toList.all (·.val < 128) then .ok (stored = given)
  else .error (.typeError "comparing strings with non-ASCII characters is not supported")

abbrev InMemoryOtpChallengeStore := Table Int String String

namespace InMemoryOtpChallengeStore

def create (now : Int) (identifier code : String) (ttl : Int) (challenges : InMemoryOtpChallengeStore) :
    InMemoryOtpChallengeStore :=
  challenges.set identifier ⟨code,some (now + ttl)⟩

/-- A challenge is deleted when its code was given, or when it has expired. -/
def verify (now : Int) (identifier code : String) (challenges : InMemoryOtpChallengeStore) :
    Except OtpError Bool × InMemoryOtpChallengeStore :=
  match Dict.get challenges identifier with
  | none => (.ok false,challenges)
  | some entry =>
    if entry.expired now then (.ok false,challenges.erase identifier)
    else match compareDigest entry.value code with
      | .error error => (.error error,challenges)
      | .ok true => (.ok true,challenges.erase identifier)
      | .ok false => (.ok false,challenges)

def delete (identifier : String) (challenges : InMemoryOtpChallengeStore) : InMemoryOtpChallengeStore :=
  challenges.erase identifier

end InMemoryOtpChallengeStore

abbrev InMemoryOtpRateLimitStore := Dict String Int

namespace InMemoryOtpRateLimitStore

def recordSend (now : Int) (identifier : String) (sent : InMemoryOtpRateLimitStore) : InMemoryOtpRateLimitStore :=
  sent.set identifier now

def secondsSinceLastSend (now : Int) (identifier : String) (sent : InMemoryOtpRateLimitStore) : Option Int :=
  (Dict.get sent identifier).map (now - ·)

end InMemoryOtpRateLimitStore

inductive OtpMessage
  | email (address code : String)
  | sms (phone code : String)
  deriving DecidableEq, Repr

structure OtpStores where
  challenges : InMemoryOtpChallengeStore := Dict.empty
  sent : InMemoryOtpRateLimitStore := Dict.empty
  delivered : List OtpMessage := []

/-- The two services differ in the hook that they call. -/
structure OtpService where
  config : OtpConfig
  message : String → String → OtpMessage

def emailOtpService (config : OtpConfig) : OtpService := ⟨config,.email⟩

def smsOtpService (config : OtpConfig) : OtpService := ⟨config,.sms⟩

namespace OtpService

def generateCode (service : OtpService) (number : Nat) : String :=
  String.ofList ((Nat.repr number).toList.leftpad service.config.codeLength '0')

def send (service : OtpService) (now : Int) (number : Nat) (identifier : String) (stores : OtpStores) :
    String × OtpStores :=
  let code := service.generateCode number
  (code,{
    challenges := stores.challenges.create now identifier code service.config.ttlSeconds
    sent := stores.sent.recordSend now identifier
    delivered := stores.delivered ++ [service.message identifier code] })

def verify (now : Int) (identifier code : String) (stores : OtpStores) : Except OtpError Bool × OtpStores :=
  let left := stores.challenges.verify now identifier code
  let after := {stores with challenges := left.2}
  match left.1 with
  | .error error => (.error error,after)
  | .ok true => (.ok true,after)
  | .ok false => (.error (.mfaInvalid "Invalid or expired OTP code"),after)

def resend (service : OtpService) (now : Int) (number : Nat) (identifier : String) (stores : OtpStores) :
    Except OtpError String × OtpStores :=
  let again :=
    let sent := service.send now number identifier {stores with challenges := stores.challenges.delete identifier}
    (.ok sent.1,sent.2)
  match stores.sent.secondsSinceLastSend now identifier with
  | none => again
  | some seconds =>
    if seconds < service.config.cooldownSeconds then
      let wait := service.config.cooldownSeconds - seconds
      (.error (.mfaSetup s!"Please wait {wait} seconds before requesting a new code"),stores)
    else again

end OtpService
end CqrsDdd.Identity
