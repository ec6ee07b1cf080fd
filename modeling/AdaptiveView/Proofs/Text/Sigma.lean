import AdaptiveView.Text.Lowercase
import Mathlib.Data.List.Infix
import Mathlib.Data.List.TakeWhile

/-!
# The capital sigma

Lower case goes character by character but for the capital sigma, whose form hangs on whether a cased
letter is next to it on either side, where characters that case passes over do not count.  Of what
stands around a text nothing else is seen from inside.  So a text has one lower case wherever it stands,
unless it has a capital sigma that nothing in the text itself settles; such a text can be surrounded so
that its own lower case is not in the lower case of the whole.
-/

set_option autoImplicit false

namespace AdaptiveView.Text

/-- Lower case of a text that stands between the characters `before`, nearest first, and `after`. -/
def lowerBetween (before : List Char) : List Char → List Char → List Char
  | [], _ => []
  | c :: rest, after =>
      (if c = 'Σ' then [lowerSigma before (rest ++ after)] else lowerChar c) ++
        lowerBetween (c :: before) rest after

theorem lowerBetween_cons (before after rest : List Char) (c : Char) :
    lowerBetween before (c :: rest) after =
      (if c = 'Σ' then [lowerSigma before (rest ++ after)] else lowerChar c) ++
        lowerBetween (c :: before) rest after :=
  rfl

theorem lowerAfter_append (before text after : List Char) :
    lowerAfter before (text ++ after) =
      lowerBetween before text after ++ lowerAfter (text.reverse ++ before) after := by
  induction text generalizing before with
  | nil => rfl
  | cons c rest ih =>
      rw [List.cons_append, lowerAfter, ih, lowerBetween_cons, List.append_assoc,
        List.reverse_cons, List.append_assoc]
      rfl

theorem lowerBetween_nil (before text : List Char) :
    lowerBetween before text [] = lowerAfter before text := by
  have whole := lowerAfter_append before text []
  rw [List.append_nil, lowerAfter, List.append_nil] at whole
  exact whole.symm

/-! ## What is seen of the surroundings -/

/-- Characters that are skipped in the search for a cased letter. -/
def PassedOver (cs : List Char) : Prop :=
  ∀ c ∈ cs, caseIgnorableRanges.holds c = true

theorem casedFirst_append_of_passedOver {cs : List Char} (skipped : PassedOver cs)
    (others : List Char) : casedFirst (cs ++ others) = casedFirst others := by
  rw [casedFirst, List.dropWhile_append_of_pos skipped, casedFirst]

theorem casedFirst_append_of_not_passedOver {cs : List Char} (stops : ¬ PassedOver cs)
    (others : List Char) : casedFirst (cs ++ others) = casedFirst cs := by
  have rest : cs.dropWhile caseIgnorableRanges.holds ≠ [] := by
    intro nothing
    exact stops (List.dropWhile_eq_nil_iff.mp nothing)
  rw [casedFirst, casedFirst, List.dropWhile_append]
  cases left : cs.dropWhile caseIgnorableRanges.holds with
  | nil => exact absurd left rest
  | cons c rest => rfl

theorem casedFirst_of_passedOver {cs : List Char} (skipped : PassedOver cs) :
    casedFirst cs = false := by
  have alone := casedFirst_append_of_passedOver skipped []
  rw [List.append_nil] at alone
  exact alone

theorem casedFirst_append_congr {one other : List Char} (alike : casedFirst one = casedFirst other)
    (cs : List Char) : casedFirst (cs ++ one) = casedFirst (cs ++ other) := by
  by_cases skipped : PassedOver cs
  · rw [casedFirst_append_of_passedOver skipped, casedFirst_append_of_passedOver skipped, alike]
  · rw [casedFirst_append_of_not_passedOver skipped, casedFirst_append_of_not_passedOver skipped]

theorem lowerSigma_congr {before before' after after' : List Char}
    (alikeBefore : casedFirst before = casedFirst before')
    (alikeAfter : casedFirst after = casedFirst after') :
    lowerSigma before after = lowerSigma before' after' := by
  rw [lowerSigma, lowerSigma, alikeBefore, alikeAfter]

/-- Lower case inside a text is the same where cased letters are next to it on the same sides. -/
theorem lowerBetween_congr {before before' after after' : List Char}
    (alikeBefore : casedFirst before = casedFirst before')
    (alikeAfter : casedFirst after = casedFirst after') (text : List Char) :
    lowerBetween before text after = lowerBetween before' text after' := by
  induction text generalizing before before' with
  | nil => rfl
  | cons c rest ih =>
      have next := ih (casedFirst_append_congr alikeBefore [c])
      have sigma := lowerSigma_congr alikeBefore (casedFirst_append_congr alikeAfter rest)
      rw [List.singleton_append, List.singleton_append] at next
      rw [lowerBetween_cons, lowerBetween_cons, next, sigma]

/-! ## The sigma itself -/

theorem casedFirst_cons_of_cased {c : Char} (stops : caseIgnorableRanges.holds c = false)
    (cased : casedRanges.holds c = true) (rest : List Char) : casedFirst (c :: rest) = true := by
  rw [casedFirst, List.dropWhile_cons_of_neg (Bool.eq_false_iff.mp stops)]
  exact cased

theorem casedFirst_sigma (rest : List Char) : casedFirst ('Σ' :: rest) = true :=
  casedFirst_cons_of_cased (by decide +kernel) (by decide +kernel) rest

theorem PassedOver.ne_sigma {cs : List Char} (skipped : PassedOver cs) {c : Char} (among : c ∈ cs) :
    c ≠ 'Σ' := by
  rintro rfl
  exact absurd (skipped 'Σ' among) (by decide +kernel)

theorem lowerBetween_of_passedOver {text : List Char} (skipped : PassedOver text)
    (before after : List Char) : lowerBetween before text after = text.flatMap lowerChar := by
  induction text generalizing before with
  | nil => rfl
  | cons c rest ih =>
      have plain : c ≠ 'Σ' := skipped.ne_sigma List.mem_cons_self
      have later := ih (fun other among => skipped other (List.mem_cons_of_mem c among))
      rw [lowerBetween_cons, if_neg plain, later, List.flatMap_cons]

theorem lowerAfter_sigma_split (before left right : List Char) :
    lowerAfter before (left ++ 'Σ' :: right) =
      lowerBetween before left ('Σ' :: right) ++
        lowerSigma (left.reverse ++ before) right ::
          lowerAfter ('Σ' :: (left.reverse ++ before)) right := by
  rw [lowerAfter_append, lowerAfter, if_pos rfl]
  rfl

/-- A capital sigma that has only skipped characters on one side of it in the text, so that what stands
around the text decides its form. -/
def HasOpenSigma (text : List Char) : Prop :=
  ∃ left right, text = left ++ 'Σ' :: right ∧
    (PassedOver left ∧ casedFirst right = false ∨
      PassedOver right ∧ casedFirst left.reverse = true)

theorem PassedOver.reverse {cs : List Char} (skipped : PassedOver cs) : PassedOver cs.reverse :=
  fun c among => skipped c (List.mem_reverse.mp among)

/-- The form of a sigma after the characters `seen`, nearest first, where the text settles it. -/
theorem lowerSigma_of_settled (before after : List Char) {seen rest : List Char}
    (settled : ¬ HasOpenSigma (seen.reverse ++ 'Σ' :: rest)) :
    lowerSigma (seen ++ before) (rest ++ after) = lowerSigma seen rest := by
  by_cases skipped : PassedOver seen
  · have cased : casedFirst rest = true := by
      cases first : casedFirst rest with
      | true => rfl
      | false => exact absurd ⟨seen.reverse, rest, rfl, Or.inl ⟨skipped.reverse, first⟩⟩ settled
    have stops : ¬ PassedOver rest := by
      intro all
      rw [casedFirst_of_passedOver all] at cased
      exact Bool.noConfusion cased
    -- a cased letter follows within the text
    simp only [lowerSigma, casedFirst_append_of_not_passedOver stops, cased, Bool.not_true,
      Bool.and_false]
  · rw [lowerSigma, lowerSigma, casedFirst_append_of_not_passedOver skipped]
    cases first : casedFirst seen with
    | false => rfl
    | true =>
        have stops : ¬ PassedOver rest := by
          intro all
          refine settled ⟨seen.reverse, rest, rfl, Or.inr ⟨all, ?_⟩⟩
          rw [List.reverse_reverse]
          exact first
        rw [casedFirst_append_of_not_passedOver stops]

/-- The rest of a text, of which the characters `seen`, nearest first, stand before it. -/
theorem lowerBetween_rest (before after : List Char) {seen rest : List Char}
    (settled : ¬ HasOpenSigma (seen.reverse ++ rest)) :
    lowerBetween (seen ++ before) rest after = lowerAfter seen rest := by
  induction rest generalizing seen with
  | nil => rfl
  | cons c rest ih =>
      have moved : seen.reverse ++ c :: rest = (c :: seen).reverse ++ rest := by
        rw [List.reverse_cons, List.append_assoc, List.singleton_append]
      have later := ih (moved ▸ settled)
      rw [List.cons_append] at later
      rw [lowerBetween_cons, lowerAfter, later]
      by_cases sigma : c = 'Σ'
      · subst sigma
        rw [lowerSigma_of_settled before after settled]
      · rw [if_neg sigma, if_neg sigma]

/-! ## Lower case within lower case -/

theorem infix_lowerAfter_of_eq {before text after : List Char}
    (same : lowerBetween before.reverse text after = lowerAfter [] text) :
    lowerAfter [] text <:+: lowerAfter [] (before ++ text ++ after) := by
  rw [List.append_assoc, lowerAfter_append, lowerAfter_append, List.append_nil, same,
    ← List.append_assoc]
  exact ⟨_, _, rfl⟩

/-- A text that settles its sigmas keeps its lower case wherever it stands. -/
theorem infix_lowerAfter_of_settled {text : List Char} (settled : ¬ HasOpenSigma text)
    (before after : List Char) :
    lowerAfter [] text <:+: lowerAfter [] (before ++ text ++ after) := by
  have same : lowerBetween ([] ++ before.reverse) text after = lowerAfter [] text :=
    @lowerBetween_rest before.reverse after [] text settled
  exact infix_lowerAfter_of_eq same

/-- Any text keeps its lower case where no cased letter is next to it. -/
theorem infix_lowerAfter_of_apart {before after : List Char}
    (apartBefore : casedFirst before.reverse = false) (apartAfter : casedFirst after = false)
    (text : List Char) :
    lowerAfter [] text <:+: lowerAfter [] (before ++ text ++ after) := by
  apply infix_lowerAfter_of_eq
  rw [← lowerBetween_nil]
  exact lowerBetween_congr apartBefore apartAfter text

/-! ## Surroundings that hide a text -/

/-- A character that is its own lower case and no form of the sigma. -/
def IsPlain (c : Char) : Prop :=
  (c ≠ 'Σ' ∧ c ≠ 'σ' ∧ c ≠ 'ς') ∧ lowerChar c = [c]

instance : DecidablePred IsPlain := fun c =>
  inferInstanceAs (Decidable ((c ≠ 'Σ' ∧ c ≠ 'σ' ∧ c ≠ 'ς') ∧ lowerChar c = [c]))

theorem plain_of_all {cs : List Char} (all : cs.all (fun c => decide (IsPlain c)) = true) :
    ∀ c ∈ cs, IsPlain c :=
  fun c among => of_decide_eq_true (List.all_eq_true.mp all c among)

theorem lowerAfter_cons_of_plain {c : Char} (plain : IsPlain c) (before rest : List Char) :
    lowerAfter before (c :: rest) = c :: lowerAfter (c :: before) rest := by
  rw [lowerAfter, if_neg plain.1.1, plain.2, List.singleton_append]

theorem lowerAfter_of_plain {cs : List Char} (plain : ∀ c ∈ cs, IsPlain c) (before : List Char) :
    lowerAfter before cs = cs := by
  induction cs generalizing before with
  | nil => rfl
  | cons c rest ih =>
      rw [List.forall_mem_cons] at plain
      rw [lowerAfter_cons_of_plain plain.1, ih plain.2]

theorem count_sigma_of_plain {cs : List Char} (plain : ∀ c ∈ cs, IsPlain c)
    (before after : List Char) : cs.count (lowerSigma before after) = 0 := by
  apply List.count_eq_zero_of_not_mem
  intro among
  obtain ⟨⟨-, notMedial, notFinal⟩, -⟩ := plain _ among
  rw [lowerSigma] at notMedial notFinal
  split at notMedial
  · exact notFinal (if_pos ‹_›)
  · exact notMedial rfl

theorem not_infix_of_plain {cs : List Char} (plain : ∀ c ∈ cs, IsPlain c) (left right : List Char) :
    ¬ lowerAfter [] (left ++ 'Σ' :: right) <:+: lowerAfter [] cs := by
  intro within
  rw [lowerAfter_of_plain plain, lowerAfter_sigma_split] at within
  have among : lowerSigma (left.reverse ++ []) right ∈ cs := within.subset (by simp)
  rw [← List.count_pos_iff, count_sigma_of_plain plain] at among
  exact Nat.lt_irrefl 0 among

/-- The part of a text before a sigma and the part after it see nothing beyond it. -/
theorem lowerAfter_around_sigma (before left right after : List Char) :
    lowerAfter before (left ++ 'Σ' :: (right ++ after)) =
      lowerBetween before left ['Σ'] ++ lowerSigma (left.reverse ++ before) (right ++ after) ::
        (lowerBetween ['Σ'] right after ++
          lowerAfter (right.reverse ++ 'Σ' :: (left.reverse ++ before)) after) := by
  have leftSees : lowerBetween before left ('Σ' :: (right ++ after)) =
      lowerBetween before left ['Σ'] :=
    lowerBetween_congr rfl ((casedFirst_sigma _).trans (casedFirst_sigma []).symm) left
  have rightSees : lowerBetween ('Σ' :: (left.reverse ++ before)) right after =
      lowerBetween ['Σ'] right after :=
    lowerBetween_congr ((casedFirst_sigma _).trans (casedFirst_sigma []).symm) rfl right
  rw [lowerAfter_sigma_split, leftSees, lowerAfter_append, rightSees]

/-- Where one sigma of a text takes another form and all else of it stays, its lower case is gone: it
would need that form once more. -/
theorem hidden_of_other_form {left right after : List Char} {first : Char}
    (plainFirst : IsPlain first) (plainAfter : ∀ c ∈ after, IsPlain c)
    (sameLeft : lowerBetween [first] left ['Σ'] = lowerBetween [] left ['Σ'])
    (sameRight : lowerBetween ['Σ'] right after = lowerBetween ['Σ'] right [])
    (otherForm : lowerSigma (left.reverse ++ [first]) (right ++ after) ≠
      lowerSigma left.reverse right) :
    ¬ lowerAfter [] (left ++ 'Σ' :: right) <:+:
      lowerAfter [] (first :: (left ++ 'Σ' :: right ++ after)) := by
  intro within
  have alone := lowerAfter_around_sigma [] left right []
  have among := lowerAfter_around_sigma [first] left right after
  rw [List.append_nil, List.append_nil, lowerAfter, List.append_nil] at alone
  rw [lowerAfter_of_plain plainAfter] at among
  rw [lowerAfter_cons_of_plain plainFirst, List.append_assoc, List.cons_append, among, alone,
    sameLeft, sameRight] at within
  have counts := within.sublist.count_le (lowerSigma left.reverse right)
  have none := count_sigma_of_plain plainAfter left.reverse right
  have noneFirst : [first].count (lowerSigma left.reverse right) = 0 :=
    count_sigma_of_plain (List.forall_mem_singleton.mpr plainFirst) left.reverse right
  rw [List.count_cons, List.count_nil] at noneFirst
  simp only [List.count_append, List.count_cons, beq_self_eq_true, if_true, none,
    beq_eq_false_iff_ne.mpr otherForm, Bool.false_eq_true, if_false] at counts
  omega

/-- A text with an open sigma can be put where its lower case is not in that of the whole. -/
theorem exists_hiding {text : List Char} (unsettled : HasOpenSigma text) :
    ∃ first ∈ ['a', '@'], ∃ middle : List Char,
      ¬ lowerAfter [] text <:+: lowerAfter [] (first :: (text ++ (middle ++ ['@']))) := by
  have uncasedAt : casedFirst ['@'] = casedFirst [] := by decide +kernel
  have casedA : ∀ rest, casedFirst ('a' :: rest) = true :=
    casedFirst_cons_of_cased (by decide +kernel) (by decide +kernel)
  obtain ⟨left, right, rfl, ⟨skipped, uncased⟩ | ⟨skipped, cased⟩⟩ := unsettled
  · -- a letter before the sigma makes it final
    refine ⟨'a', by decide, [], ?_⟩
    apply hidden_of_other_form (by decide : IsPlain 'a') (plain_of_all (by decide))
    · rw [lowerBetween_of_passedOver skipped, lowerBetween_of_passedOver skipped]
    · exact lowerBetween_congr rfl uncasedAt right
    · have before : casedFirst (left.reverse ++ ['a']) = true := by
        rw [casedFirst_append_of_passedOver skipped.reverse]
        exact casedA []
      have after : casedFirst (right ++ ['@']) = false := by
        rw [casedFirst_append_congr uncasedAt, List.append_nil, uncased]
      simp [lowerSigma, before, after, casedFirst_of_passedOver skipped.reverse]
  · -- a letter after the final sigma makes it medial
    refine ⟨'@', by decide, ['a'], ?_⟩
    apply hidden_of_other_form (by decide : IsPlain '@') (plain_of_all (by decide))
    · exact lowerBetween_congr uncasedAt rfl left
    · rw [lowerBetween_of_passedOver skipped, lowerBetween_of_passedOver skipped]
    · have after : casedFirst (right ++ ['a', '@']) = true := by
        rw [casedFirst_append_of_passedOver skipped]
        exact casedA ['@']
      simp [lowerSigma, after, cased, casedFirst_of_passedOver skipped]

end AdaptiveView.Text
