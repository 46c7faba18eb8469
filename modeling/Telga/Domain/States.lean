namespace Telga.Domain

inductive TransactionState
  | created
  | validated
  | reserved
  | submitted
  | processing
  | pending
  | underReview
  | reversalRequired
  | successful
  | failed
  | reversed
  | rejected
deriving DecidableEq, Repr

open TransactionState

/-- States from which no further transition is legal. -/
def terminalStates : List TransactionState := [successful, failed, reversed, rejected]

def initialState : TransactionState := created

/-- Every legal transition, keyed by origin state. -/
def validTransitions : TransactionState → List TransactionState
  | created => [validated, rejected]
  | validated => [reserved, rejected]
  | reserved => [submitted, processing]
  | submitted => [processing]
  | processing => [successful, failed, pending]
  | pending => [successful, failed, underReview, reversalRequired]
  | underReview => [successful, failed, reversalRequired]
  | reversalRequired => [reversed]
  | successful => []
  | failed => []
  | reversed => []
  | rejected => []

/-- Which balance bucket holds the merchant's value while a transaction sits in a state. -/
inductive ValueDisposition
  | none
  | reserved
  | underReview
  | debited
  | released
deriving DecidableEq, Repr

def valueDisposition : TransactionState → ValueDisposition
  | created => .none
  | validated => .none
  | reserved => .reserved
  | submitted => .reserved
  | processing => .reserved
  | pending => .reserved
  | underReview => .underReview
  | reversalRequired => .underReview
  | successful => .debited
  | failed => .released
  | reversed => .released
  | rejected => .released

def isTerminal (state : TransactionState) : Bool :=
  terminalStates.contains state

def canTransition (origin target : TransactionState) : Bool :=
  (validTransitions origin).contains target

end Telga.Domain
