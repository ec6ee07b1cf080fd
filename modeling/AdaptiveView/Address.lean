import AdaptiveView.Text.Blank

/-!
# Mail addresses

The domain of an address is what follows its last `@`, without blanks around it.
-/

set_option autoImplicit false

namespace AdaptiveView

open AdaptiveView.Text

/-- The characters after the last `@`, if there is one. -/
def afterLastAt : List Char → Option (List Char)
  | [] => none
  | c :: rest =>
      match afterLastAt rest with
      | some found => some found
      | none => if c = '@' then some rest else none

/-- The domain of a mail address, unless it is blank. -/
def mailDomain? (address : String) : Option String :=
  match (afterLastAt address.toList).map trimChars with
  | none | some [] => none
  | some domain => some (String.ofList domain)

/-- Names of mail services that are shown instead of their domain. -/
def knownDomains : List (String × String) :=
  [("gmail.com", "Gmail"), ("outlook.com", "Outlook"), ("hotmail.com", "Hotmail"),
   ("qq.com", "QQ Mail"), ("163.com", "NetEase 163"), ("126.com", "NetEase 126"),
   ("sina.com", "Sina Mail"), ("icloud.com", "iCloud"), ("yahoo.com", "Yahoo Mail")]

def domainTitle (domain : String) : String :=
  (knownDomains.lookup domain).getD ("@" ++ domain)

end AdaptiveView
