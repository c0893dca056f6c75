import CatchAll.Journal

/-!
# Transport

What a request for a web address yields: a reply, or a failure of one of the
kinds that are told apart.
-/

set_option autoImplicit false

namespace CatchAll.Web

open scoped Text

structure Reply where
  status : Int
  body : Text
  contentType : Text

/-- The status that came with a failed request, if any reply came at all. -/
inductive Status where
  | code (n : Int)
  | blank
  | unknown

namespace Status

def text : Status → Text
  | code n => Text.ofInt n
  | blank => "None"
  | unknown => "unknown"

end Status

inductive TransportFailure where
  | timeout
  | connection (text : Text)
  | status (s : Status)
  | badRequest (text : Text)
  | other (text : Text)
  | unexpected (o : Outside)

abbrev Transport := Text → Except TransportFailure Reply

/-- A transport for those who cannot reach the web. -/
def offline : Transport := fun _ => .error (.connection "No connection")

/-- A reply that reports an error is a failure. -/
def checked (r : Reply) : Except TransportFailure Reply :=
  if 400 ≤ r.status ∧ r.status < 600 then .error (.status (.code r.status)) else .ok r

end CatchAll.Web
