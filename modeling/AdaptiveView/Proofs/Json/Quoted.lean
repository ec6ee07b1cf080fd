import AdaptiveView.Json.Reader
import Mathlib.Tactic.IntervalCases

/-!
# Texts in quotes, written and read

A text is written in quotes with some of its characters escaped.  The reader takes one piece for each
character and ends at the closing quote, because a quote inside the text is escaped; the pieces make up
the text again.
-/

set_option autoImplicit false

namespace AdaptiveView.Json

/-- The controls that have an escape of their own. -/
def namedControls : List Char := ['\n', '\r', '\t', '\x08', '\x0c']

/-- The piece that is read for a character: other controls are written by their number. -/
def pieceOf (c : Char) : Piece :=
  if c.toNat < 32 ∧ c ∉ namedControls then .unit c.toNat else .char c

/-- What is read and what is left, without the proof that this is shorter. -/
def bare {T F : Type} {p : List Char → Prop} (outcome : T × Except F { rest // p rest }) :
    T × Except F (List Char) :=
  (outcome.1, outcome.2.map Subtype.val)

theorem readUnit_control {n : Nat} (control : n < 32) (rest : List Char) :
    readUnit (List.replicate (4 - (Nat.toDigits 16 n).length) '0' ++ Nat.toDigits 16 n ++ rest) =
      .ok (n, rest) := by
  interval_cases n <;> rfl

theorem escapeChar_of_unnamed {c : Char} (noQuote : c ≠ '"') (noEscape : c ≠ '\\')
    (unnamed : c ∉ namedControls) :
    escapeChar c =
      if c.toNat < 32 then
        ['\\', 'u'] ++ List.replicate (4 - (Nat.toDigits 16 c.toNat).length) '0' ++
          Nat.toDigits 16 c.toNat
      else [c] := by
  unfold escapeChar
  split
  case h_1 => exact absurd rfl noQuote
  case h_2 => exact absurd rfl noEscape
  case h_8 => rfl
  all_goals exact absurd (by decide) unnamed

theorem bare_readPieces_escape {body rest : List Char} {piece : Piece} (pieces : List Piece)
    (escape : readEscape body = .ok (piece, rest)) :
    bare (readPieces ('\\' :: body) pieces) = bare (readPieces rest (piece :: pieces)) := by
  rw [readPieces]
  split
  case h_1 fault failed =>
    rw [escape] at failed
    cases failed
  case h_2 found after taken =>
    rw [escape] at taken
    cases taken
    rcases readPieces rest (piece :: pieces) with ⟨all, left | left⟩ <;> rfl

theorem bare_readPieces_char {c : Char} (rest : List Char) (pieces : List Piece)
    (noQuote : c ≠ '"') (noEscape : c ≠ '\\') (printed : ¬ c < ' ') :
    bare (readPieces (c :: rest) pieces) = bare (readPieces rest (.char c :: pieces)) := by
  rw [readPieces]
  · rw [if_neg printed]
    rcases readPieces rest (.char c :: pieces) with ⟨all, left | left⟩ <;> rfl
  · exact noQuote
  · exact noEscape

theorem bare_readPieces_escapeChar (c : Char) (rest : List Char) (pieces : List Piece) :
    bare (readPieces (escapeChar c ++ rest) pieces) =
      bare (readPieces rest (pieceOf c :: pieces)) := by
  by_cases named : c ∈ '"' :: '\\' :: namedControls
  · simp only [namedControls, List.mem_cons, List.not_mem_nil, or_false] at named
    rcases named with rfl | rfl | rfl | rfl | rfl | rfl | rfl <;>
      exact bare_readPieces_escape pieces rfl
  · obtain ⟨noQuote, noEscape, unnamed⟩ : c ≠ '"' ∧ c ≠ '\\' ∧ c ∉ namedControls := by
      simpa only [List.mem_cons, not_or] using named
    by_cases control : c.toNat < 32
    · have unit := readUnit_control control rest
      have escape := congrArg (Except.map fun read => (Piece.unit read.1, read.2)) unit
      rw [escapeChar_of_unnamed noQuote noEscape unnamed, if_pos control, pieceOf,
        if_pos ⟨control, unnamed⟩]
      exact bare_readPieces_escape pieces escape
    · rw [escapeChar_of_unnamed noQuote noEscape unnamed, if_neg control, pieceOf,
        if_neg (fun both => control both.1)]
      exact bare_readPieces_char rest pieces noQuote noEscape control

theorem bare_readPieces (cs : List Char) (pieces : List Piece) (rest : List Char) :
    bare (readPieces (cs.flatMap escapeChar ++ '"' :: rest) pieces) =
      ((cs.map pieceOf).reverse ++ pieces, .ok rest) := by
  induction cs generalizing pieces with
  | nil =>
      rw [List.flatMap_nil, List.nil_append, readPieces]
      rfl
  | cons c cs later =>
      rw [List.flatMap_cons, List.append_assoc, bare_readPieces_escapeChar, later, List.map_cons,
        List.reverse_cons, List.append_assoc]
      rfl

theorem joinPieces_pieceOf (atEnd : Fault) (done : List Char) (c : Char) (pieces : List Piece) :
    joinPieces atEnd done (pieceOf c :: pieces) = joinPieces atEnd (c :: done) pieces := by
  by_cases control : c.toNat < 32 ∧ c ∉ namedControls
  · have noTrail : isTrailUnit c.toNat = false := by
      simp only [isTrailUnit, Bool.and_eq_false_iff, decide_eq_false_iff_not]
      omega
    have noLead : isLeadUnit c.toNat = false := by
      simp only [isLeadUnit, Bool.and_eq_false_iff, decide_eq_false_iff_not]
      omega
    rw [pieceOf, if_pos control, joinPieces.eq_def]
    simp only [noTrail, noLead, Bool.false_eq_true, if_false, Char.ofNat_toNat]
  · rw [pieceOf, if_neg control, joinPieces]

theorem joinPieces_map (atEnd : Fault) (done cs : List Char) :
    joinPieces atEnd done (cs.map pieceOf) = .ok (cs.reverse ++ done) := by
  induction cs generalizing done with
  | nil => rfl
  | cons c cs later =>
      rw [List.map_cons, joinPieces_pieceOf, later, List.reverse_cons, List.append_assoc]
      rfl

theorem toList_renderText (s : String) :
    (renderText s).toList = '"' :: (s.toList.flatMap escapeChar ++ ['"']) := by
  rw [renderText, String.toList_ofList]
  rfl

/-- A text that was written is read back, and what follows its closing quote is left. -/
theorem readQuoted_escaped (s : String) (rest : List Char) :
    ∃ shorter, readQuoted (s.toList.flatMap escapeChar ++ '"' :: rest) =
      ⟨.ok s, .ok ⟨rest, shorter⟩⟩ := by
  have found := bare_readPieces s.toList [] rest
  rw [List.append_nil] at found
  unfold readQuoted
  generalize readPieces (s.toList.flatMap escapeChar ++ '"' :: rest) [] = outcome at found
  obtain ⟨pieces, left⟩ := outcome
  obtain ⟨all, stop⟩ := Prod.mk.inj found
  cases left with
  | error fault => cases stop
  | ok left =>
      obtain ⟨left, shorter⟩ := left
      have same : left = rest := Except.ok.inj stop
      subst same
      refine ⟨shorter, ?_⟩
      simp only at all
      simp only [all, List.reverse_reverse, joinPieces_map, Except.map, List.append_nil,
        String.ofList_toList]

end AdaptiveView.Json
