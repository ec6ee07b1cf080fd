import AdaptiveView.Calendar.Rfc3339
import AdaptiveView.Json.Decode

/-!
# Dates in documents

A date and time is a text in RFC 3339.
-/

set_option autoImplicit false

namespace AdaptiveView.Json

open AdaptiveView.Calendar

def takeInstant : Decoder Instant := fun node => do
  let s ← takeTextAs "an RFC 3339 formatted date and time string" node
  match Instant.ofText? s with
  | some t => return t
  | none => .error (.data .badDate)

def instantValue (t : Instant) : Value :=
  .text t.text

end AdaptiveView.Json
