import PrismGateway.Lib.GoStrings

namespace PrismGateway.Router
open Lib

inductive ErrorType where
  | timeout
  | rateLimited
  | upstream5xx
  | network
  | auth
  | invalidRequest
  | unknown
  deriving DecidableEq, Repr

-- what errors.Is and errors.As find in the chain of an error, and its text
structure GoError where
  streamingNotSupported : Bool := false
  deadlineExceeded : Bool := false
  netTimeout : Option Bool := none
  dnsError : Bool := false
  upstreamStatus : Option Int := none
  message : String
  deriving DecidableEq, Repr

def classifyStatus (status : Int) : Option ErrorType :=
  if status = 429 then some .rateLimited
  else if status = 401 ∨ status = 403 then some .auth
  else if status = 400 then some .invalidRequest
  else if 500 ≤ status ∧ status < 600 then some .upstream5xx
  else none

def classifyMessage (message : String) : ErrorType :=
  let has := GoStrings.contains (GoStrings.toLower message)
  if has "timeout" || has "deadline exceeded" then .timeout
  else if has "429" || has "rate limit" then .rateLimited
  else if has "connection refused" || has "no such host" then .network
  else if has "401" || has "403" || has "unauthorized" then .auth
  else if has "400" || has "bad request" then .invalidRequest
  else if has "500" || has "502" || has "503" then .upstream5xx
  else .unknown

def classify (err : GoError) : ErrorType :=
  if err.deadlineExceeded then .timeout
  else
    match err.netTimeout with
    | some true => .timeout
    | some false => .network
    | none =>
      if err.dnsError then .network
      else
        match err.upstreamStatus.bind classifyStatus with
        | some errType => errType
        | none => classifyMessage err.message

def isRetryable : ErrorType → Bool
  | .timeout | .rateLimited | .upstream5xx | .network | .unknown => true
  | .auth | .invalidRequest => false

def isCBFailure : ErrorType → Bool
  | .rateLimited | .auth | .invalidRequest => false
  | .timeout | .upstream5xx | .network | .unknown => true

end PrismGateway.Router
