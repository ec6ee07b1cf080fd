import AdaptiveView.Account
import AdaptiveView.Email
import AdaptiveView.Filter
import AdaptiveView.Proofs.Text.Sigma

/-!
# Searching

The typed text and the search fields are each put into lower case by themselves, and then one is looked
for in the other.  For a text whose capital sigmas are settled by the text itself this finds every place
where it stands letter by letter, and typing more never finds more.  For any other text both fail, in
either kind of list; such a text is still found where it stands apart from other letters.
-/

set_option autoImplicit false

namespace AdaptiveView

open AdaptiveView.Text

theorem Text.contains_iff {text needle : String} :
    Text.contains text needle = true ↔ needle.toList <:+: text.toList := by
  rw [Text.contains, occursIn_iff]
  constructor
  · rintro ⟨before, after, whole⟩
    exact ⟨before, after, whole.symm⟩
  · rintro ⟨before, after, whole⟩
    exact ⟨before, after, whole.symm⟩

theorem Text.toList_lowercase (s : String) : (lowercase s).toList = lowerAfter [] s.toList :=
  String.toList_ofList

theorem Text.lowerAfter_eq_nil_iff {before cs : List Char} : lowerAfter before cs = [] ↔ cs = [] := by
  cases cs with
  | nil => simp [lowerAfter]
  | cons c rest =>
      rw [lowerAfter]
      split <;> simp [lowerChar_ne_nil]

namespace Filters

section
variable {R : Type} [Record R]

/-- The filters of a search without any other filter. -/
def searching (typed : String) : Filters R :=
  { none with searchText := typed }

theorem accepts_searching_iff {typed : String} {record : R} :
    (searching typed).accepts record = true ↔
      (trim typed).toList = [] ∨
        ∃ field ∈ Record.searchFields record,
          lowerAfter [] (trim typed).toList <:+: lowerAfter [] field.toList := by
  have accepted : (searching typed : Filters R).accepts record =
      finds (lowercase (trim typed)) record := by
    simp [accepts, searching, none, query, FieldFilter.accepts]
  have empty : (lowercase (trim typed)).isEmpty = true ↔ (trim typed).toList = [] := by
    rw [String.isEmpty_iff, ← String.toList_eq_nil_iff, toList_lowercase, lowerAfter_eq_nil_iff]
  simp only [accepted, finds, Bool.or_eq_true, empty, List.any_eq_true, contains_iff,
    toList_lowercase]

theorem accepts_of_found {typed : String} {record : R} {field : String}
    (among : field ∈ Record.searchFields record)
    (found : lowerAfter [] (trim typed).toList <:+: lowerAfter [] field.toList) :
    (searching typed).accepts record = true :=
  accepts_searching_iff.mpr (Or.inr ⟨field, among, found⟩)

/-! ## What a search promises -/

variable (R) in
/-- A record passes when the typed text stands letter by letter in one of its search fields. -/
def FindsVerbatim (typed : String) : Prop :=
  ∀ (record : R), ∀ field ∈ Record.searchFields record,
    (trim typed).toList <:+: field.toList → (searching typed).accepts record = true

variable (R) in
/-- What passes when more is typed has passed before. -/
def NarrowsByTyping (typed : String) : Prop :=
  ∀ (longer : String) (record : R), (trim typed).toList <:+: (trim longer).toList →
    (searching longer).accepts record = true → (searching typed).accepts record = true

variable (R) in
/-- A record passes when the typed text stands in one of its search fields and no cased letter is next
to it there. -/
def FindsApart (typed : String) : Prop :=
  ∀ (record : R), ∀ field ∈ Record.searchFields record, ∀ before after,
    field.toList = before ++ (trim typed).toList ++ after → casedFirst before.reverse = false →
      casedFirst after = false → (searching typed).accepts record = true

variable {typed : String}

theorem findsApart (typed : String) : FindsApart R typed := by
  intro record field among before after whole apartBefore apartAfter
  apply accepts_of_found among
  rw [whole]
  exact infix_lowerAfter_of_apart apartBefore apartAfter _

theorem findsVerbatim_of_settled (settled : ¬ HasOpenSigma (trim typed).toList) :
    FindsVerbatim R typed := by
  rintro record field among ⟨before, after, whole⟩
  apply accepts_of_found among
  rw [← whole]
  exact infix_lowerAfter_of_settled settled before after

theorem narrowsByTyping_of_settled (settled : ¬ HasOpenSigma (trim typed).toList) :
    NarrowsByTyping R typed := by
  intro longer record within accepted
  rcases accepts_searching_iff.mp accepted with empty | ⟨field, among, found⟩
  · rw [empty, List.infix_nil] at within
    exact accepts_searching_iff.mpr (Or.inl within)
  · obtain ⟨before, after, whole⟩ := within
    have shorter : lowerAfter [] (trim typed).toList <:+: lowerAfter [] (trim longer).toList := by
      rw [← whole]
      exact infix_lowerAfter_of_settled settled before after
    exact accepts_of_found among (shorter.trans found)

/-! ## Texts that a search misses -/

/-- The text is a search field of the record, and the others do not matter to a sigma. -/
structure Shows (record : R) (text : String) : Prop where
  among : text ∈ Record.searchFields record
  others : ∀ field ∈ Record.searchFields record, field = text ∨ ∀ c ∈ field.toList, IsPlain c

variable (R) in
/-- Every text that ends in an at-sign can be a search field. -/
def ShowsAny : Prop :=
  ∀ cs : List Char, ∃ record : R, Shows record (String.ofList (cs ++ ['@']))

theorem trimChars_of_ends {first : Char} (solid : isBlank first = false) (cs : List Char) :
    trimChars (first :: (cs ++ ['@'])) = first :: (cs ++ ['@']) := by
  have solidAt : isBlank '@' = false := by decide
  rw [trimChars, dropBlanks, dropBlanks, List.dropWhile_cons_of_neg (Bool.eq_false_iff.mp solid),
    List.reverse_cons, List.reverse_append, List.reverse_singleton, List.singleton_append,
    List.cons_append, List.dropWhile_cons_of_neg (Bool.eq_false_iff.mp solidAt)]
  simp

/-- Such a text is missed in some record that has it, and found there when more of it is typed. -/
theorem exists_missed (shown : ShowsAny R) (unsettled : HasOpenSigma (trim typed).toList) :
    ∃ (text : String) (record : R), (trim typed).toList <:+: text.toList ∧ trim text = text ∧
      text ∈ Record.searchFields record ∧ (searching typed).accepts record = false := by
  obtain ⟨first, solid, middle, hidden⟩ := exists_hiding unsettled
  obtain ⟨record, among, others⟩ := shown (first :: ((trim typed).toList ++ middle))
  have solidFirst : isBlank first = false := by
    rcases List.mem_pair.mp solid with rfl | rfl <;> decide
  rw [List.cons_append, List.append_assoc] at among others
  refine ⟨_, record, ?_, ?_, among, ?_⟩
  · rw [String.toList_ofList]
    exact ⟨[first], middle ++ ['@'], by simp⟩
  · rw [trim, String.toList_ofList, ← List.append_assoc, trimChars_of_ends solidFirst]
  · rw [← Bool.not_eq_true, accepts_searching_iff]
    obtain ⟨left, right, text, -⟩ := unsettled
    rintro (empty | ⟨field, amongToo, found⟩)
    · rw [empty] at text
      exact List.cons_ne_nil _ _ (List.append_eq_nil_iff.mp text.symm).2
    · rcases others field amongToo with rfl | plain
      · rw [String.toList_ofList] at found
        exact hidden found
      · rw [text] at found
        exact not_infix_of_plain plain left right found

theorem findsVerbatim_iff (shown : ShowsAny R) :
    FindsVerbatim R typed ↔ ¬ HasOpenSigma (trim typed).toList := by
  constructor
  · intro finds unsettled
    obtain ⟨text, record, within, -, among, missed⟩ := exists_missed shown unsettled
    rw [finds record text among within] at missed
    cases missed
  · exact findsVerbatim_of_settled

theorem narrowsByTyping_iff (shown : ShowsAny R) :
    NarrowsByTyping R typed ↔ ¬ HasOpenSigma (trim typed).toList := by
  constructor
  · intro narrows unsettled
    obtain ⟨text, record, within, solid, among, missed⟩ := exists_missed shown unsettled
    have found : (searching text).accepts record = true :=
      accepts_of_found among (by rw [solid])
    rw [narrows text record (by rw [solid]; exact within) found] at missed
    cases missed
  · exact narrowsByTyping_of_settled

end

/-! ## Accounts and messages -/

def accountAt (address : String) : Account where
  uid := "a"
  email := address
  provider := .imap
  protocol := "imap"
  status := .active
  syncEnabled := true
  lastSyncAt := Option.none
  lastSyncStatus := Option.none
  lastSyncError := Option.none
  totalEmails := Option.none
  unreadCount := Option.none
  createdAt := Option.none

def messageAbout (subject : String) : Email where
  id := 1
  accountUid := "a"
  subject
  fromAddress := ""
  fromName := Option.none
  snippet := Option.none
  isRead := false
  isStarred := false
  isArchived := false
  hasAttachments := false
  sentAt := Option.none
  sizeBytes := Option.none

theorem afterLastAt_append_at (cs : List Char) : afterLastAt (cs ++ ['@']) = some [] := by
  induction cs with
  | nil => rfl
  | cons c rest ih => rw [List.cons_append, afterLastAt, ih]

theorem showsAny_account : ShowsAny Account := by
  intro cs
  have hostless : mailDomain? (String.ofList (cs ++ ['@'])) = Option.none := by
    rw [mailDomain?, String.toList_ofList, afterLastAt_append_at]
    rfl
  have fields : Record.searchFields (accountAt (String.ofList (cs ++ ['@']))) =
      [String.ofList (cs ++ ['@']), "imap"] := by
    change [_, _] ++ (mailDomain? (String.ofList (cs ++ ['@']))).toList = _
    rw [hostless]
    rfl
  refine ⟨accountAt (String.ofList (cs ++ ['@'])), ?_, ?_⟩
  · rw [fields]
    exact List.mem_cons_self
  · rw [fields, List.forall_mem_cons, List.forall_mem_singleton]
    exact ⟨Or.inl rfl, Or.inr (plain_of_all (by decide))⟩

theorem showsAny_email : ShowsAny Email := by
  intro cs
  refine ⟨messageAbout (String.ofList (cs ++ ['@'])), ?_, ?_⟩
  · exact List.mem_cons_self
  · change ∀ field ∈ [String.ofList (cs ++ ['@']), ""], _
    rw [List.forall_mem_cons, List.forall_mem_singleton]
    exact ⟨Or.inl rfl, Or.inr (plain_of_all (by decide))⟩

/-- In either list a search finds its text letter by letter, and typing more never finds more, exactly
for the texts that settle their sigmas.  Every text is found apart from other letters. -/
theorem search_is_verbatim_iff (typed : String) :
    (FindsVerbatim Account typed ↔ ¬ HasOpenSigma (trim typed).toList) ∧
      (FindsVerbatim Email typed ↔ ¬ HasOpenSigma (trim typed).toList) ∧
      (NarrowsByTyping Account typed ↔ ¬ HasOpenSigma (trim typed).toList) ∧
      (NarrowsByTyping Email typed ↔ ¬ HasOpenSigma (trim typed).toList) ∧
      FindsApart Account typed ∧ FindsApart Email typed :=
  ⟨findsVerbatim_iff showsAny_account, findsVerbatim_iff showsAny_email,
    narrowsByTyping_iff showsAny_account, narrowsByTyping_iff showsAny_email,
    findsApart typed, findsApart typed⟩

/-- Typing towards a name loses it at each sigma that ends what has been typed so far. -/
theorem sigma_so_far_is_final :
    let message := messageAbout "ΚΩΣΤΑΣ"
    "ΚΩΣΤΑΣ" ∈ Record.searchFields message ∧ "ΚΩΣ".toList <:+: "ΚΩΣΤΑΣ".toList ∧
      (searching "ΚΩΣ").accepts message = false ∧
      (searching "ΚΩΣΤ").accepts message = true := by
  decide +kernel

end Filters

end AdaptiveView
