import Telga.Domain.Ids
import Telga.Domain.Money
import Telga.Domain.Text
import Telga.Library.Hex

namespace Telga.Domain
open Library

/-- The logical request a merchant intends. -/
structure SaleIntent where
  merchantId : MerchantId
  deviceId : DeviceId
  productId : ProductId
  amount : Money
  recipient : String
  clientRequestId : String

/-- FNV-1a, 32-bit. -/
def fnv1a (units : List Nat) : Nat :=
  units.foldl (fun hash unit => ((hash ^^^ unit) * 0x01000193) % 0x100000000) 0x811c9dc5

/-- FNV-1a rendered as 8 hex characters. -/
def fingerprint (input : String) : String :=
  let digits := Nat.toDigits 16 (fnv1a (utf16 input))
  String.ofList (List.replicate (8 - digits.length) '0' ++ digits)

/-- Canonical string form of an intent. Field order is fixed, so the hash is stable. -/
def canonicalPayload (intent : SaleIntent) : String :=
  "|".intercalate [intent.merchantId, intent.deviceId, intent.productId, "ETB",
    toString intent.amount.minor, intent.recipient, intent.clientRequestId]

def payloadFingerprint (intent : SaleIntent) : String :=
  fingerprint (canonicalPayload intent)

/-- The part of an intent that identifies the request, as opposed to its contents. -/
def canonicalKeySource (intent : SaleIntent) : String :=
  "|".intercalate [intent.merchantId, intent.deviceId, intent.clientRequestId]

/-- Derived from the request identity only, so that a changed payload can be noticed. -/
def deriveIdempotencyKey (intent : SaleIntent) : IdempotencyKey :=
  "idem_" ++ fingerprint (canonicalKeySource intent)

/-- Two intents under one merchant, device and client request id share their key. -/
theorem deriveIdempotencyKey_congr {a b : SaleIntent} (merchant : a.merchantId = b.merchantId)
    (device : a.deviceId = b.deviceId) (request : a.clientRequestId = b.clientRequestId) :
    deriveIdempotencyKey a = deriveIdempotencyKey b := by
  unfold deriveIdempotencyKey canonicalKeySource
  rw [merchant, device, request]

/-- A fingerprint is its hash written out: texts with one fingerprint have one hash. -/
theorem fingerprint_inj {a b : String} :
    fingerprint a = fingerprint b ↔ fnv1a (utf16 a) = fnv1a (utf16 b) := by
  constructor
  · intro same
    have digits := congrArg (fun text => hexValue text.toList) same
    simp only [fingerprint, String.toList_ofList] at digits
    rwa [hexValue_padded, hexValue_padded] at digits
  · intro same
    unfold fingerprint
    rw [same]

/-- Keys tell two requests apart exactly as far as the hashes of their joined identities do. -/
theorem deriveIdempotencyKey_inj {a b : SaleIntent} :
    deriveIdempotencyKey a = deriveIdempotencyKey b ↔
      fnv1a (utf16 (canonicalKeySource a)) = fnv1a (utf16 (canonicalKeySource b)) := by
  rw [← fingerprint_inj]
  unfold deriveIdempotencyKey
  exact String.append_right_inj _

end Telga.Domain
