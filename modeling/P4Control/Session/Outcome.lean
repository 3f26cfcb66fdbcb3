import P4Control.Wire.Status

namespace P4Control

/-!
# What a failed call means for the session

Two status codes mean more than that the call failed: a call refused for lack of
permission says that mastership is lost, and an unavailable channel ends the session.
-/

/-- What a status means for the session. -/
inductive Outcome where
  | mastershipLost
  | channelError
  | plainFailure
deriving DecidableEq, Repr

/-- The name under which an outcome is shown. -/
def Outcome.name : Outcome → String
  | mastershipLost => "MastershipLost"
  | channelError => "ChannelError"
  | plainFailure => "PlainFailure"

/-- The meaning of a status code. -/
def StatusCode.outcome : StatusCode → Outcome
  | permissionDenied => .mastershipLost
  | unavailable => .channelError
  | _ => .plainFailure

end P4Control
