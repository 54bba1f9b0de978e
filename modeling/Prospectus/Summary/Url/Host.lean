import Prospectus.Summary.Url.Domain
import Prospectus.Summary.Url.Ipv4
import Prospectus.Summary.Url.Ipv6

/-!
# Hosts

A host is named, or given by its number.  Schemes that everyone knows have names
that are looked up, so these are brought into the one form of each; other
schemes take a name as it is.
-/

namespace Prospectus.Summary.Url

/-- The host of an address. -/
inductive Host where
  /-- A name. -/
  | named (name : String)
  /-- A number of four bytes. -/
  | ipv4 (address : Nat)
  /-- A number of eight groups. -/
  | ipv6 (groups : List Nat)
deriving Repr, DecidableEq

namespace Host

/-- A host as text. -/
def text : Host → String
  | .named name => name
  | .ipv4 address => Ipv4.text address
  | .ipv6 groups => "[" ++ Ipv6.text groups ++ "]"

/-- The number in brackets. -/
def ofBrackets? (cs : List Char) : Option Host :=
  if cs.head? = some '[' && cs.getLast? = some ']'
    then (Ipv6.read? (cs.drop 1).dropLast).map .ipv6 else none

/-- A host that is looked up by its name. -/
def ofDomain? (cs : List Char) : Option Host := do
  if cs.head? = some '[' then ofBrackets? cs
  else
    let labels ← Domain.labels? (← decode? cs).toList
    if labels = [[]] then failure
    if Ipv4.isMeant labels then (Ipv4.read? labels).map .ipv4
    else return .named (String.ofList (['.'].intercalate labels))

/-- Characters that no name has. -/
def forbidden : List Char :=
  ['\x00', '\t', '\n', '\r', ' ', '#', '/', ':', '<', '>', '?', '@',
    '[', '\\', ']', '^', '|']

/-- A host that is named in a way of the scheme's own. -/
def ofName? (cs : List Char) : Option Host :=
  if cs.head? = some '[' then ofBrackets? cs
  else if cs.any forbidden.contains then none
  else some (.named (String.ofList (encode [] cs)))

/-- Characters that a name may have, but no request. -/
def unsendable : List Char := ['"', '\x60', '\x7b', '\x7d']

/-- Whether requests can be sent to a host. -/
def isSendable (h : Host) : Bool :=
  h.text.toList.all fun c => !unsendable.contains c

end Host

end Prospectus.Summary.Url
