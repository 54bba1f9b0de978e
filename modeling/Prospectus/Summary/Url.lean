import Prospectus.Summary.Url.Host
import Prospectus.Summary.Url.Path

/-!
# Addresses of services

An address is read the way browsers read it: blanks at its ends are dropped,
tabs and line ends are passed over, hosts and paths are brought into one form,
and characters that may not stand in a part of an address are written as percent
signs with two hexadecimal digits.
-/

namespace Prospectus.Summary

namespace Url

/-- A user of a host. -/
structure User where
  /-- The name, without characters that could not stand in it. -/
  name : List Char
  /-- The password, likewise, if there is one. -/
  password : Option (List Char) := none
deriving Repr, DecidableEq

/-- Where an address leads. -/
structure Authority where
  user : Option User := none
  host : Option Host := none
  /-- The port, unless it is the usual one. -/
  port : Option Nat := none
deriving Repr, DecidableEq

end Url

/-- An address. -/
structure Url where
  scheme : String
  authority : Option Url.Authority := none
  path : String
  query : Option String := none
  fragment : Option String := none
deriving Repr, DecidableEq

namespace Url

/-- What a scheme's addresses are like. -/
inductive Kind where
  /-- They have a host, with a usual port. -/
  | known (port : Nat)
  /-- They are of files. -/
  | file
  /-- They follow only the general rules. -/
  | other
deriving Repr, DecidableEq

/-- The kind of a scheme. -/
def Kind.ofScheme (scheme : String) : Kind :=
  match scheme with
  | "http" | "ws" => .known 80
  | "https" | "wss" => .known 443
  | "ftp" => .known 21
  | "file" => .file
  | _ => .other

/-- Whether a character divides segments; backslashes do unless only the general
rules hold. -/
def Kind.divides (kind : Kind) (c : Char) : Bool :=
  c = '/' || (c = '\\' && kind ≠ .other)

/-- The scheme of an address and what follows its colon. -/
def splitScheme? (cs : List Char) : Option (String × List Char) :=
  match cs with
  | first :: _ =>
    let (scheme, rest) := breakAt (· = ':') cs
    let allowed (c : Char) : Bool := c.isAlphanum || c = '+' || c = '-' || c = '.'
    match rest with
    | _ :: rest =>
      if first.isAlpha && scheme.all allowed
        then some (String.ofList (scheme.map Char.toLower), rest) else none
    | [] => none
  | [] => none

/-- A user as written before the at sign; an empty password is none. -/
def User.read? (cs : List Char) : Option User :=
  let (name, password) := breakAt (· = ':') cs
  let user : User :=
    ⟨encode userSet name, if password.length ≤ 1 then none
      else some (encode userSet (password.drop 1))⟩
  if user.name.isEmpty && user.password.isNone then none else some user

/-- The end of a host: a colon outside brackets. -/
def splitHost (inside : Bool) : List Char → List Char × List Char
  | [] => ([], [])
  | c :: rest =>
    if c = ':' && !inside then ([], c :: rest)
    else
      let (host, rest) := splitHost (if c = '[' then true
        else if c = ']' then false else inside) rest
      (c :: host, rest)

/-- A port that follows a host, with what stands after it. -/
def readPort? (usual : Option Nat) (cs : List Char) :
    Option (Option Nat × List Char) :=
  match cs with
  | ':' :: rest =>
    let (digits, rest) := breakAt (!·.isDigit) rest
    let port := digits.foldl (fun n c => 10 * n + (c.toNat - '0'.toNat)) 0
    if 65535 < port then none
    else some (if digits.isEmpty || some port = usual then none
      else some port, rest)
  | _ => some (none, cs)

/-- An authority, with what follows it. -/
def Authority.read? (kind : Kind) (cs : List Char) :
    Option (Authority × List Char) := do
  let (text, path) := breakAt kind.divides cs
  let (user, text) ← match breakAtLast? '@' text with
    | some (user, text) =>
      if text.isEmpty then none else some (User.read? user, text)
    | none => some (none, text)
  let (host, rest) := splitHost false text
  let usual := match kind with
    | .known port => some port
    | _ => none
  let host ← if !host.isEmpty
    then some <$> (if kind = .other then Host.ofName? host else Host.ofDomain? host)
    else if kind = .other && rest.isEmpty && user.isNone then some none
    else none
  let (port, rest) ← readPort? usual rest
  if !rest.isEmpty && rest.head? ≠ some '\\' then failure
  return (⟨user, host, port⟩, rest ++ path)

/-- The segments of a path, one divider at its start left out. -/
def Kind.segments (kind : Kind) (cs : List Char) : List (List Char) :=
  match cs with
  | c :: rest =>
    if kind.divides c then split kind.divides [] rest else split kind.divides [] cs
  | [] => [[]]

/-- The path after a host; only where the general rules hold it may be empty. -/
def Kind.path (kind : Kind) (cs : List Char) : String :=
  if kind = .other && cs.isEmpty then ""
    else pathText (resolveDots [] (kind.segments cs))

/-- The address of a file: two slashes at its start announce a host, which is
left out if it is this one, or if the path starts with a drive. -/
def readFile? (cs : List Char) : Option (Authority × String) :=
  let path (cs : List Char) : String := filePath (Kind.file.segments cs)
  let isDivider := Kind.file.divides
  match cs with
  | a :: b :: rest =>
    if isDivider a && isDivider b then
      let (host, after) := breakAt isDivider rest
      if isDrive host then some ({}, path rest)
      else if host.isEmpty then some ({}, path after)
      else (Host.ofDomain? host).map fun host =>
        let startsWithDrive := (Kind.file.segments after).head?.any isDrive
        if host = .named "localhost" || startsWithDrive then ({}, path after)
          else (⟨none, some host, none⟩, path after)
    else some ({}, path cs)
  | _ => some ({}, path cs)

/-- The part of an address between its scheme and its query. -/
def readMain? (kind : Kind) (cs : List Char) : Option (Option Authority × String) :=
  match kind with
  | .known _ =>
    (Authority.read? kind (cs.dropWhile kind.divides)).map fun (a, path) =>
      (some a, kind.path path)
  | .file => (readFile? cs).map fun (a, path) => (some a, path)
  | .other =>
    match cs with
    | '/' :: '/' :: rest =>
      (Authority.read? kind rest).map fun (a, path) => (some a, kind.path path)
    | '/' :: _ => some (none, kind.path cs)
    | _ => some (none, String.ofList (encode [] cs))

/-- Reads an address. -/
def read? (s : String) : Option Url := do
  let isEdge (c : Char) : Bool := c.toNat ≤ 0x20
  let trimmed := ((s.toList.dropWhile isEdge).reverse.dropWhile isEdge).reverse
  let (scheme, rest) ← splitScheme?
    (trimmed.filter fun c => !(c = '\t' || c = '\n' || c = '\r'))
  let kind := Kind.ofScheme scheme
  let (rest, fragment) := breakAt (· = '#') rest
  let (main, query) := breakAt (· = '?') rest
  let (authority, path) ← readMain? kind main
  let querySet := if kind = .other then querySet else '\x27' :: querySet
  let after (set : List Char) (part : List Char) : Option String :=
    part.tail?.map fun part => String.ofList (encode set part)
  return { scheme, authority, path, query := after querySet query,
           fragment := after fragmentSet fragment }

/-- The host of an address. -/
def host? (u : Url) : Option Host := u.authority.bind (·.host)

/-- Whether a user can be told to the host apart from the address: the name is
text, and if it is empty there is a password that is. -/
def User.isReadable (u : User) : Bool :=
  match decode? u.name with
  | some name => name ≠ "" || (u.password.bind decode?).isSome
  | none => false

/-- The address without a user that can be told apart from it. -/
def withoutUser (u : Url) : Url :=
  { u with authority := u.authority.map fun a => if a.user.any User.isReadable
    then { a with user := none } else a }

/-- The path and the query, as they are sent. -/
def target (u : Url) : String :=
  u.path ++ match u.query with
    | some q => "?" ++ q
    | none => ""

/-- A user as text, with the at sign. -/
def User.text (u : User) : String :=
  String.ofList (u.name ++ (u.password.elim [] (':' :: ·)) ++ ['@'])

/-- An authority as text. -/
def Authority.text (a : Authority) : String :=
  "//" ++ a.user.elim "" User.text ++ a.host.elim "" Host.text ++
    a.port.elim "" fun port => ":" ++ toString port

/-- What stands between the scheme and the path: without a host, a path of two
slashes is kept apart by a dot. -/
def opening (u : Url) : String :=
  match u.authority with
  | some a => a.text
  | none => if ['/', '/'].isPrefixOf u.path.toList then "/." else ""

/-- The address as text. -/
def text (u : Url) : String :=
  u.scheme ++ ":" ++ u.opening ++ u.target ++ match u.fragment with
    | some f => "#" ++ f
    | none => ""

/-- How many bytes an address may have in a request. -/
def maxSize : Nat := 65534

/-- Whether requests can be sent to the address. -/
def isSendable (u : Url) : Bool :=
  (u.scheme = "http" || u.scheme = "https") && u.host?.any Host.isSendable &&
    u.text.utf8ByteSize ≤ maxSize

end Url

end Prospectus.Summary
