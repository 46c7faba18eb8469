namespace Telga.Domain

abbrev MerchantId := String
abbrev DeviceId := String
abbrev MerchantUserId := String
abbrev ProductId := String
abbrev ProviderId := String
abbrev TransactionId := String
abbrev ReservationId := String
abbrev PostingId := String
abbrev IdempotencyKey := String
abbrev CorrelationId := String
abbrev AuditEventId := String

/-- An instant, in milliseconds. The source's ISO strings sort as these numbers do. -/
abbrev Timestamp := Int

/-- A calendar month. -/
structure Period where
  year : Nat
  month : Nat
deriving DecidableEq, Repr

end Telga.Domain
