/-!
# Misreadings

Why a text, a status code or a written event could not be understood, and how
each cause is put into words (`Error.message`).
-/

namespace ShuffleWatch

/-- Why a written event is no event. -/
inductive EventDefect
  /-- No event has this name. -/
  | unknownName (name : String)
  /-- The event of this name needs an address and has none. -/
  | missingAddress (name : String)
  /-- The text is no game identifier. -/
  | badGameId (text : String)
  /-- The text is no address. -/
  | badAddress (text : String)
  deriving DecidableEq

/-- Why something read from outside could not be understood. -/
inductive Error
  /-- The local client has no identity, so it has no role. -/
  | noIdentity
  /-- The text is no address. -/
  | badAddress (text : String)
  /-- The text is no game identifier. -/
  | badGameId (text : String)
  /-- The contract knows no status of this code. -/
  | unknownStatus (code : UInt8)
  /-- The written event is no event. -/
  | malformedEvent (defect : EventDefect)
  deriving DecidableEq

/-- The wording of an address that could not be read. -/
def badAddressMessage (text : String) : String := "invalid address: " ++ text

/-- The wording of a game identifier that could not be read. -/
def badGameIdMessage (text : String) : String := "invalid game id: " ++ text

/-- The defect in words. -/
def EventDefect.message : EventDefect → String
  | unknownName name => "unknown event name: " ++ name
  | missingAddress name => name ++ " is missing an address"
  | badGameId text => badGameIdMessage text
  | badAddress text => badAddressMessage text

/-- The cause in words. -/
def Error.message : Error → String
  | noIdentity => "no local identity is connected"
  | badAddress text => badAddressMessage text
  | badGameId text => badGameIdMessage text
  | unknownStatus code => "unknown game status: " ++ toString code.toNat
  | malformedEvent defect => "malformed event: " ++ defect.message

end ShuffleWatch
