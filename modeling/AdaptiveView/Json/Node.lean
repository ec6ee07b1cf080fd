import AdaptiveView.Json.Number

/-!
# A JSON text as far as it reads

A document is used from front to back: a value of the wrong kind is noticed where it stands, even
when the text breaks off later.  A node therefore keeps what the text holds and where it fails.  A
member that nobody asks for is only skipped, and skipping forgives what taking does not: a number
beyond all doubles, or half of a surrogate pair.
-/

set_option autoImplicit false

namespace AdaptiveView.Json

mutual

inductive Node where
  | null
  | bool (b : Bool)
  | number (n : Except Fault Number)
  | text (s : Except Fault String)
  | array (items : Items)
  | object (members : Members)
  /-- No complete value stands here; taking it and skipping it may fail differently. -/
  | broken (taken skipped : Fault)

inductive Items where
  | close
  | broken (fault : Fault)
  | next (item : Node) (rest : Items)

inductive Members where
  | close
  | broken (taken skipped : Fault)
  | next (key : Except Fault String) (value : Node) (rest : Members)

end

instance : Inhabited Node := ⟨.null⟩

/-- A document: its value and the fault that something else after it is. -/
structure Document where
  root : Node
  trailing : Option Fault

mutual

/-- Passes over a value that is not used. -/
def Node.skip : Node → Except Fault Unit
  | .null | .bool _ | .number _ | .text _ => .ok ()
  | .array items => items.skip
  | .object members => members.skip
  | .broken _ skipped => .error skipped

def Items.skip : Items → Except Fault Unit
  | .close => .ok ()
  | .broken fault => .error fault
  | .next item rest => item.skip >>= fun _ => rest.skip

def Members.skip : Members → Except Fault Unit
  | .close => .ok ()
  | .broken _ skipped => .error skipped
  | .next _ value rest => value.skip >>= fun _ => rest.skip

end

mutual

/-- The whole value, if the text holds one without a fault. -/
def Node.toValue : Node → Except Fault Value
  | .null => .ok .null
  | .bool b => .ok (.bool b)
  | .number n => n.map .number
  | .text s => s.map .text
  | .array items => items.toValues.map .array
  | .object members => members.toValues.map .object
  | .broken taken _ => .error taken

def Items.toValues : Items → Except Fault (List Value)
  | .close => .ok []
  | .broken fault => .error fault
  | .next item rest => do
      let v ← item.toValue
      let vs ← rest.toValues
      return v :: vs

def Members.toValues : Members → Except Fault (List (String × Value))
  | .close => .ok []
  | .broken taken _ => .error taken
  | .next key value rest => do
      let k ← key
      let v ← value.toValue
      let vs ← rest.toValues
      return (k, v) :: vs

end

mutual

def Value.toNode : Value → Node
  | .null => .null
  | .bool b => .bool b
  | .number n => .number (.ok n)
  | .text s => .text (.ok s)
  | .array items => .array (itemsOf items)
  | .object members => .object (membersOf members)

def itemsOf : List Value → Items
  | [] => .close
  | v :: rest => .next v.toNode (itemsOf rest)

def membersOf : List (String × Value) → Members
  | [] => .close
  | (key, v) :: rest => .next (.ok key) v.toNode (membersOf rest)

end

end AdaptiveView.Json
