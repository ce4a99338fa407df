import Mathlib.Tactic.TypeStar

namespace FritzboxVpn.Exceptions

/-- An exception, seen through the `isinstance` tests the handlers make and
through its text. The implications are Python's class hierarchy. -/
structure PyError where
  isValueError : Bool := false
  isJSONDecodeError : Bool := false
  isOSError : Bool := false
  isConnectionError : Bool := false
  isTimeoutError : Bool := false
  isClientConnectorError : Bool := false
  message : String
  decode_value : isJSONDecodeError = true → isValueError = true := by decide
  connection_os : isConnectionError = true → isOSError = true := by decide
  timeout_os : isTimeoutError = true → isOSError = true := by decide
  connector_os : isClientConnectorError = true → isOSError = true := by decide

def valueError (message : String) : PyError := { isValueError := true, message }

def connectionError (message : String) : PyError :=
  { isOSError := true, isConnectionError := true, message }

def osError (message : String) : PyError := { isOSError := true, message }

def timeoutError (message : String) : PyError :=
  { isOSError := true, isTimeoutError := true, message }

def jsonDecodeError (message : String) : PyError :=
  { isValueError := true, isJSONDecodeError := true, message }

def clientConnectorError (message : String) : PyError :=
  { isOSError := true, isClientConnectorError := true, message }

def otherError (message : String) : PyError := { message }

theorem toOption_eq_some {ε γ : Type} {x : Except ε γ} {c : γ} (h : x.toOption = some c) :
    x = .ok c := by
  cases x with
  | ok b => exact congrArg _ (Option.some.inj h)
  | error e => cases h

end FritzboxVpn.Exceptions
