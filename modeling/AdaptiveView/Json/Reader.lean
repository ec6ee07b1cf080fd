import AdaptiveView.Json.Node

/-!
# Reading JSON texts

Every reader takes something from the front of the characters and hands on what is left, which is
shorter; where the text fails nothing is left.  The result is always a node: a text that fails
gives the node that says where.
-/

set_option autoImplicit false

namespace AdaptiveView.Json

/-- What is left of `cs` after a reader took at least one character. -/
abbrev Rest (cs : List Char) := { rest : List Char // rest.length < cs.length }

def isSpace (c : Char) : Bool :=
  c = ' ' || c = '\n' || c = '\t' || c = '\r'

def dropSpace (cs : List Char) : List Char :=
  cs.dropWhile isSpace

theorem length_dropSpace_le (cs : List Char) : (dropSpace cs).length ≤ cs.length :=
  (List.dropWhile_suffix isSpace).length_le

/-- The fault of a text that stops here or goes on wrongly. -/
def faultAt : List Char → Fault
  | [] => .unfinished
  | _ :: _ => .malformed

/-! ## Texts in quotes -/

/-- A piece of a quoted text: a character, or a 16-bit unit given by its digits. -/
inductive Piece where
  | char (c : Char)
  | unit (code : Nat)

def hexValue? (c : Char) : Option Nat :=
  if c.isDigit then some (c.toNat - '0'.toNat)
  else if 'a' ≤ c && c ≤ 'f' then some (c.toNat - 'a'.toNat + 10)
  else if 'A' ≤ c && c ≤ 'F' then some (c.toNat - 'A'.toNat + 10)
  else none

/-- Four hexadecimal digits.  Fewer than four bytes are a text that breaks off. -/
def readUnit : List Char → Except Fault (Nat × List Char)
  | a :: b :: c :: d :: rest =>
      match hexValue? a, hexValue? b, hexValue? c, hexValue? d with
      | some a, some b, some c, some d => .ok (((a * 16 + b) * 16 + c) * 16 + d, rest)
      | _, _, _, _ => .error .malformed
  | cs => if (String.ofList cs).utf8ByteSize < 4 then .error .unfinished else .error .malformed

/-- What a backslash stands for. -/
def readEscape : List Char → Except Fault (Piece × List Char)
  | [] => .error .unfinished
  | '"' :: rest => .ok (.char '"', rest)
  | '\\' :: rest => .ok (.char '\\', rest)
  | '/' :: rest => .ok (.char '/', rest)
  | 'b' :: rest => .ok (.char '\x08', rest)
  | 'f' :: rest => .ok (.char '\x0c', rest)
  | 'n' :: rest => .ok (.char '\n', rest)
  | 'r' :: rest => .ok (.char '\r', rest)
  | 't' :: rest => .ok (.char '\t', rest)
  | 'u' :: rest => (readUnit rest).map fun (code, rest) => (.unit code, rest)
  | _ => .error .malformed

theorem length_readUnit {cs rest : List Char} {code : Nat} (h : readUnit cs = .ok (code, rest)) :
    rest.length < cs.length := by
  unfold readUnit at h
  split at h
  · split at h
    · simp only [Except.ok.injEq, Prod.mk.injEq] at h
      obtain ⟨-, rfl⟩ := h
      simp only [List.length_cons]
      omega
    · simp at h
  · split at h <;> simp at h

theorem length_readEscape {cs rest : List Char} {piece : Piece}
    (h : readEscape cs = .ok (piece, rest)) : rest.length < cs.length := by
  unfold readEscape at h
  split at h
  case h_10 tail =>
    cases unit : readUnit tail with
    | error _ => simp [unit, Except.map] at h
    | ok found =>
        have shorter : found.2.length < tail.length := length_readUnit unit
        simp only [unit, Except.map, Except.ok.injEq, Prod.mk.injEq] at h
        obtain ⟨-, rfl⟩ := h
        simp only [List.length_cons]
        omega
  all_goals first
    | (simp at h; done)
    | (simp only [Except.ok.injEq, Prod.mk.injEq] at h
       obtain ⟨-, rfl⟩ := h
       simp)

/-- The pieces up to the closing quote, last first, and what follows it, or the fault. -/
def readPieces (cs : List Char) (pieces : List Piece) :
    List Piece × Except Fault { rest : List Char // rest.length < cs.length } :=
  match cs with
  | [] => (pieces, .error .unfinished)
  | '"' :: rest => (pieces, .ok ⟨rest, by simp⟩)
  | '\\' :: rest =>
      match h : readEscape rest with
      | .error fault => (pieces, .error fault)
      | .ok (piece, after) =>
          have shorter := length_readEscape h
          match readPieces after (piece :: pieces) with
          | (all, .ok ⟨left, below⟩) => (all, .ok ⟨left, by simp only [List.length_cons]; omega⟩)
          | (all, .error fault) => (all, .error fault)
  | c :: rest =>
      if c < ' ' then (pieces, .error .malformed)
      else
        match readPieces rest (.char c :: pieces) with
        | (all, .ok ⟨left, below⟩) => (all, .ok ⟨left, by simp only [List.length_cons]; omega⟩)
        | (all, .error fault) => (all, .error fault)
termination_by cs.length
decreasing_by all_goals (simp only [List.length_cons]; omega)

def isLeadUnit (code : Nat) : Bool := 0xD800 ≤ code && code ≤ 0xDBFF
def isTrailUnit (code : Nat) : Bool := 0xDC00 ≤ code && code ≤ 0xDFFF

/-- The characters of the pieces, added to `done`, last first.  A lead unit needs its trail unit at
once; where the pieces end instead the fault is `atEnd`. -/
def joinPieces (atEnd : Fault) (done : List Char) : List Piece → Except Fault (List Char)
  | [] => .ok done
  | .char c :: rest => joinPieces atEnd (c :: done) rest
  | .unit code :: rest =>
      if isTrailUnit code then .error .malformed
      else if isLeadUnit code then
        match rest with
        | [] => .error atEnd
        | .char _ :: _ => .error .malformed
        | .unit trail :: rest =>
            if isTrailUnit trail then
              let c := Char.ofNat (0x10000 + (code - 0xD800) * 0x400 + (trail - 0xDC00))
              joinPieces atEnd (c :: done) rest
            else .error .malformed
      else joinPieces atEnd (Char.ofNat code :: done) rest

/-- A quoted text after its first quote. -/
structure QuotedText (cs : List Char) where
  content : Except Fault String
  rest : Except Fault (Rest cs)

def readQuoted (cs : List Char) : QuotedText cs :=
  let (pieces, rest) := readPieces cs []
  match rest with
  | .ok left =>
      ⟨(joinPieces .malformed [] pieces.reverse).map (String.ofList ·.reverse), .ok left⟩
  | .error fault =>
      let content := do
        let _ ← joinPieces fault [] pieces.reverse
        .error fault
      ⟨content, .error fault⟩

/-- The fault that taking a text meets which never closes. -/
def QuotedText.taken {cs : List Char} (q : QuotedText cs) (fault : Fault) : Fault :=
  match q.content with
  | .error taken => taken
  | .ok _ => fault

/-! ## Numbers and names -/

/-- A number, or the two faults of a text that only begins like one, and what is left. -/
structure NumberText (cs : List Char) where
  node : Node
  rest : Option (Rest cs)

/-- The digits of a part of a number that must have some.  Taking tells a text that breaks off from
one that goes on wrongly; skipping does not. -/
def requireDigits (cs : List Char) : Except Node (List Char × List Char) :=
  let digits := cs.takeWhile Char.isDigit
  let rest := cs.dropWhile Char.isDigit
  if digits.isEmpty then .error (.broken (faultAt rest) .malformed) else .ok (digits, rest)

def readSign : List Char → Bool × List Char
  | '-' :: rest => (true, rest)
  | cs => (false, cs)

/-- The digits before the point, without a zero in front. -/
def readWhole (cs : List Char) : Except Node (List Char × List Char) :=
  match requireDigits cs with
  | .error node => .error node
  | .ok (whole, rest) =>
      if 1 < whole.length ∧ whole.head? = some '0' then .error (.broken .malformed .malformed)
      else .ok (whole, rest)

/-- The digits after a point, if there is one. -/
def readPlaces : List Char → Except Node (Option (List Char) × List Char)
  | '.' :: rest => (requireDigits rest).map fun (digits, rest) => (some digits, rest)
  | cs => .ok (none, cs)

/-- The sign and the digits of an exponent, if there is one. -/
def readPower : List Char → Except Node (Option (Bool × List Char) × List Char)
  | [] => .ok (none, [])
  | c :: rest =>
      if c = 'e' || c = 'E' then
        let (isNegative, rest) := match rest with
          | '-' :: rest => (true, rest)
          | '+' :: rest => (false, rest)
          | rest => (false, rest)
        (requireDigits rest).map fun (digits, rest) => (some (isNegative, digits), rest)
      else .ok (none, c :: rest)

/-- The parts of a number and what is left. -/
def readNumeral (cs : List Char) : Except Node (Numeral × List Char) := do
  let (isNegative, cs) := readSign cs
  let (whole, cs) ← readWhole cs
  let (places, cs) ← readPlaces cs
  let (exponent, cs) ← readPower cs
  return (⟨isNegative, whole, places, exponent⟩, cs)

def readNumber (cs : List Char) : NumberText cs :=
  match readNumeral cs with
  | .error node => ⟨node, none⟩
  | .ok (numeral, rest) =>
      ⟨.number numeral.value, if h : rest.length < cs.length then some ⟨rest, h⟩ else none⟩

/-- The rest of one of the names `null`, `true` and `false`. -/
def readName (node : Node) : (name cs : List Char) → Except Fault (Node × List Char)
  | [], cs => .ok (node, cs)
  | _ :: _, [] => .error .unfinished
  | n :: name, c :: cs => if n = c then readName node name cs else .error .malformed

theorem length_readName {node found : Node} {name cs rest : List Char}
    (h : readName node name cs = .ok (found, rest)) : rest.length ≤ cs.length := by
  induction name generalizing cs with
  | nil =>
      simp only [readName, Except.ok.injEq, Prod.mk.injEq] at h
      obtain ⟨-, rfl⟩ := h
      exact Nat.le_refl _
  | cons n name ih =>
      cases cs with
      | nil => simp [readName] at h
      | cons c cs =>
          unfold readName at h
          split at h
          · exact Nat.le_succ_of_le (ih h)
          · simp at h

/-- A name after its first character. -/
def readNamed (node : Node) (name cs : List Char) :
    Node × Option { rest : List Char // rest.length ≤ cs.length } :=
  match h : readName node name cs with
  | .ok (found, rest) => (found, some ⟨rest, length_readName h⟩)
  | .error fault => (.broken fault fault, none)

/-! ## Values -/

mutual

/-- A value at the front of the characters. -/
def readValue (cs : List Char) : Node × Option (Rest cs) :=
  match cs with
  | [] => (.broken .unfinished .unfinished, none)
  | '[' :: rest =>
      match readItems rest with
      | (items, some ⟨left, below⟩) =>
          (.array items, some ⟨left, by simp only [List.length_cons]; omega⟩)
      | (items, none) => (.array items, none)
  | '\x7b' :: rest =>
      match readMembers rest with
      | (members, some ⟨left, below⟩) =>
          (.object members, some ⟨left, by simp only [List.length_cons]; omega⟩)
      | (members, none) => (.object members, none)
  | '"' :: rest =>
      let q := readQuoted rest
      match q.rest with
      | .ok ⟨left, below⟩ =>
          (.text q.content, some ⟨left, by simp only [List.length_cons]; omega⟩)
      | .error fault => (.broken (q.taken fault) fault, none)
  | c :: rest =>
      let named := fun (node : Node) (name : List Char) =>
        match readNamed node name rest with
        | (found, some ⟨left, below⟩) =>
            ((found, some ⟨left, by simp only [List.length_cons]; omega⟩) :
              Node × Option (Rest (c :: rest)))
        | (found, none) => (found, none)
      if c = 'n' then named .null ['u', 'l', 'l']
      else if c = 't' then named (.bool true) ['r', 'u', 'e']
      else if c = 'f' then named (.bool false) ['a', 'l', 's', 'e']
      else if c = '-' || c.isDigit then
        let number := readNumber (c :: rest)
        (number.node, number.rest)
      else (.broken .malformed .malformed, none)
termination_by (cs.length, 0)

/-- The items of an array after its bracket. -/
def readItems (cs : List Char) : Items × Option (Rest cs) :=
  have trimmed := length_dropSpace_le cs
  match hd : dropSpace cs with
  | [] => (.broken .unfinished, none)
  | ']' :: rest =>
      (.close, some ⟨rest, by rw [hd] at trimmed; simp only [List.length_cons] at trimmed; omega⟩)
  | c :: rest =>
      match readElements (c :: rest) with
      | (items, some ⟨left, below⟩) =>
          (items, some ⟨left, by
            rw [hd] at trimmed
            simp only [List.length_cons] at trimmed below
            omega⟩)
      | (items, none) => (items, none)
termination_by (cs.length, 2)
decreasing_by
  rw [hd] at trimmed
  simp only [List.length_cons] at trimmed ⊢
  rcases Nat.lt_or_eq_of_le trimmed with h | h
  · exact Prod.Lex.left _ _ h
  · rw [h]; exact Prod.Lex.right _ (by decide)

/-- The items of an array from one of them on. -/
def readElements (cs : List Char) : Items × Option (Rest cs) :=
  match readValue cs with
  | (item, none) => (.next item (.broken .malformed), none)
  | (item, some ⟨left, below⟩) =>
      have trimmed := length_dropSpace_le left
      match hd : dropSpace left with
      | [] => (.next item (.broken .unfinished), none)
      | ']' :: rest =>
          (.next item .close, some ⟨rest, by
            rw [hd] at trimmed
            simp only [List.length_cons] at trimmed
            omega⟩)
      | ',' :: rest =>
          have again := length_dropSpace_le rest
          have smaller : (dropSpace rest).length < cs.length := by
            rw [hd] at trimmed
            simp only [List.length_cons] at trimmed
            omega
          if (dropSpace rest).head? = some ']' then (.next item (.broken .malformed), none)
          else
            match readElements (dropSpace rest) with
            | (items, some ⟨left, below⟩) => (.next item items, some ⟨left, by omega⟩)
            | (items, none) => (.next item items, none)
      | _ :: _ => (.next item (.broken .malformed), none)
termination_by (cs.length, 1)

/-- The members of an object after its brace. -/
def readMembers (cs : List Char) : Members × Option (Rest cs) :=
  have trimmed := length_dropSpace_le cs
  match hd : dropSpace cs with
  | '\x7d' :: rest =>
      (.close, some ⟨rest, by rw [hd] at trimmed; simp only [List.length_cons] at trimmed; omega⟩)
  | left =>
      match readPairs left with
      | (members, some ⟨rest, below⟩) =>
          (members, some ⟨rest, by rw [hd] at trimmed; omega⟩)
      | (members, none) => (members, none)
termination_by (cs.length, 2)
decreasing_by
  rw [hd] at trimmed
  rcases Nat.lt_or_eq_of_le trimmed with h | h
  · exact Prod.Lex.left _ _ h
  · rw [h]; exact Prod.Lex.right _ (by decide)

/-- The members of an object from one of them on. -/
def readPairs (cs : List Char) : Members × Option (Rest cs) :=
  match cs with
  | '"' :: rest =>
      let q := readQuoted rest
      match q.rest with
      | .error fault => (.broken (q.taken fault) fault, none)
      | .ok ⟨afterKey, belowKey⟩ =>
          have trimmedKey := length_dropSpace_le afterKey
          match hk : dropSpace afterKey with
          | ':' :: afterColon =>
              have trimmedColon := length_dropSpace_le afterColon
              have smallerValue : (dropSpace afterColon).length < ('"' :: rest).length := by
                rw [hk] at trimmedKey
                simp only [List.length_cons] at trimmedKey ⊢
                omega
              match readValue (dropSpace afterColon) with
              | (value, none) => (.next q.content value (.broken .malformed .malformed), none)
              | (value, some ⟨left, below⟩) =>
                  have trimmed := length_dropSpace_le left
                  match hd : dropSpace left with
                  | '\x7d' :: after =>
                      (.next q.content value .close, some ⟨after, by
                        rw [hd] at trimmed
                        simp only [List.length_cons] at trimmed smallerValue ⊢
                        omega⟩)
                  | ',' :: after =>
                      have again := length_dropSpace_le after
                      have smaller : (dropSpace after).length < ('"' :: rest).length := by
                        rw [hd] at trimmed
                        simp only [List.length_cons] at trimmed smallerValue ⊢
                        omega
                      match readPairs (dropSpace after) with
                      | (members, some ⟨left, below⟩) =>
                          (.next q.content value members, some ⟨left, by omega⟩)
                      | (members, none) => (.next q.content value members, none)
                  | stopped =>
                      let fault := faultAt stopped
                      (.next q.content value (.broken fault fault), none)
          | stopped =>
              let fault := faultAt stopped
              (.next q.content (.broken fault fault) (.broken fault fault), none)
  | cs =>
      let fault := faultAt cs
      (.broken fault fault, none)
termination_by (cs.length, 1)

end

def Document.ofText (s : String) : Document :=
  match readValue (dropSpace s.toList) with
  | (root, none) => ⟨root, none⟩
  | (root, some left) =>
      ⟨root, if (dropSpace left.val).isEmpty then none else some .malformed⟩

end AdaptiveView.Json
