import GitDrift.Text.Blank
import GitDrift.Url.Domain.Canonical
import GitDrift.Url.Domain.Direction
import GitDrift.Url.Domain.Joining
import GitDrift.Url.Domain.Mapping
import GitDrift.Url.Domain.Mark
import GitDrift.Url.Domain.Punycode

/-!
Domain names in ASCII (UTS #46, non-transitional). A name is mapped and normalized, and each label
that has other characters is checked and written in Punycode. Hyphens may stand anywhere, and labels
may be empty, or longer than the name system takes them.
-/
namespace GitDrift.Url.Domain

open Text

/-- What the ASCII form of a label of other characters starts with. -/
def codedMark : List Char := ['x', 'n', '-', '-']

/-- ASCII characters that stand in no domain. -/
def isForbidden (c : Char) : Bool :=
  c.toNat ≤ 0x20 || c.toNat = 0x7f ||
    ['%', '#', '/', ':', '<', '>', '?', '@', '[', '\\', ']', '^', '|'].contains c

def isAscii (s : List Char) : Bool := s.all (·.toNat < 0x80)

/-- Whether the mapping leaves a text as it is. -/
def isMapped (s : List Char) : Bool := map? s = some s && normalize s = s

/-- A label of a mapped domain. -/
structure Label where
  /-- The characters that it is shown with. -/
  shown : List Char
  /-- Its ASCII form, if it was given in that form. -/
  coded : Option (List Char) := none

/-- The longest code that is decoded, and the longest label that is encoded. -/
def longestCode : Nat := 2000
def longestEncoded : Nat := 1000

/-- A label as it is written. A coded one is decoded, and has to be what its characters are mapped
to. -/
def Label.ofText? (s : List Char) : Option Label :=
  match afterStart? codedMark s with
  | none => some ⟨s, none⟩
  | some code =>
    if isAscii code && code.length ≤ longestCode then
      ((Punycode.decode? code).filter fun t => !isAscii t && isMapped t).map fun t => ⟨t, some s⟩
    else none

/-- Whether a shown label may stand in a domain. -/
def labelAllowed (label : List Char) : Bool :=
  !label.any isForbidden && !(label.head?.map isCombining).getD false && joinersAllowed [] label

/-- The ASCII form of a label, unless it is too long to have one. -/
def Label.ascii? (l : Label) : Option (List Char) :=
  if l.coded.isSome || isAscii l.shown then some (l.coded.getD l.shown)
  else if l.shown.length ≤ longestEncoded then some (codedMark ++ Punycode.encode l.shown)
  else none

/-- The ASCII form of a domain, unless it is no domain. -/
def toAscii? (s : List Char) : Option (List Char) := do
  let mapped ← map? s
  let labels ← (pieces '.' (normalize mapped)).mapM Label.ofText?
  let shown := labels.map Label.shown
  if shown.all labelAllowed && (!shown.any hasRightToLeft || shown.all keepsDirection) then
    return ['.'].intercalate (← labels.mapM Label.ascii?)
  else none

end GitDrift.Url.Domain
