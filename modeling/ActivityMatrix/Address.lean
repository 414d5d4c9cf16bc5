import ActivityMatrix.Address.Host
import ActivityMatrix.Number.Whole

/-!
# Addresses

The address of something on a server: a scheme, a user, a host with a number, a path, a query and a
fragment, of which each but the path may be missing. An address is read into its normal form: scheme
and host in small letters, no number when it is the usual one of the scheme, no steps to the same
directory or the one above in the path, and escapes for what may not stand where it stands.
-/

namespace ActivityMatrix

/-- The address of something on a server. -/
structure Address where
  scheme : String := ""
  user : String := ""
  host : String := ""
  /-- The number at which the server is met, if it is not the usual one. -/
  number : Option Int := none
  path : String := ""
  query : Option String := none
  fragment : Option String := none
  deriving DecidableEq, Repr, Inhabited

/-- Why a text is no address. -/
inductive AddressError where
  | tooLong
  | controlCharacter
  | badHost (host : String)
  | badNumber (number : String)
  /-- Its path may not stand without a scheme and a host. -/
  | badPath (path : String)
  deriving DecidableEq, Repr, Inhabited

def AddressError.message : AddressError → String
  | tooLong => "The address is too long"
  | controlCharacter => "The address has a control character"
  | badHost host => "Not a host: " ++ Text.quoted host
  | badNumber number => "Not a number behind a host: " ++ Text.quoted number
  | badPath path => "Not a path without a host: " ++ Text.quoted path

namespace Address

/-! ## Parts of an address -/

/-- Characters up to the first that satisfies a test, and the rest. -/
def cutBefore (test : Char → Bool) (cs : List Char) : List Char × List Char :=
  (cs.takeWhile (!test ·), cs.dropWhile (!test ·))

/-- The scheme, which may be empty in front of its colon, and what follows it. -/
def splitScheme (cs : List Char) : List Char × List Char :=
  let (name, rest) := cutBefore (fun c => !(c.isAlphanum || "+.-".contains c)) cs
  match rest with
  | ':' :: after => if name.head?.all Char.isAlpha then (name, after) else ([], cs)
  | _ => ([], cs)

/-- What stands behind two slashes up to the path, and what follows it. -/
def splitAuthority : List Char → List Char × List Char
  | '/' :: '/' :: rest => cutBefore (fun c => c == '/' || c == '?' || c == '#') rest
  | cs => ([], cs)

/-- What stands before and behind the last occurrence of a character; all stands behind it if there
is none. -/
def splitAtLast (mark : Char) (cs : List Char) : List Char × List Char :=
  let behind := (cs.reverse.takeWhile (· != mark)).reverse
  ((cs.take (cs.length - behind.length)).dropLast, behind)

/-- The host and what follows it: up to the last closing bracket, or up to a colon. -/
def splitHost (cs : List Char) : List Char × List Char :=
  let (inner, after) := splitAtLast ']' cs
  if cs.head? == some '[' && cs.contains ']' then (inner ++ [']'], after)
  else cutBefore (· == ':') cs

/-- What follows a character that comes first, if it does. -/
def after? (mark : Char) : List Char → Option (List Char)
  | c :: rest => if c == mark then some rest else none
  | [] => none

/-! ## Normal forms of the parts -/

def usualNumbers : List (String × Int) :=
  [("ftp", 21), ("http", 80), ("https", 443), ("ws", 80), ("wss", 443)]

/-- The number behind a host, if there is one and it is not the usual one of the scheme. The scheme
counts as it is written. -/
def numberOf (scheme cs : List Char) : Except AddressError (Option Int) :=
  if cs.isEmpty then .ok none
  else match wholeNumber? cs with
    | none => .error (.badNumber (String.ofList cs))
    | some n => .ok (if usualNumbers.lookup (String.ofList scheme) == some n then none else some n)

def hostOf (cs : List Char) : Except AddressError String :=
  if cs.isEmpty then .ok ""
  else match sentHost? cs with
    | none => .error (.badHost (String.ofList cs))
    | some sent => .ok (String.ofList sent)

/-- Parts of a path with the steps to the same directory and the one above worked off. -/
def workOffSteps (parts : List (List Char)) : List (List Char) :=
  (parts.foldl (fun done part =>
    if part = ['.'] then done
    else if part = ['.', '.'] then (if done = [] || done = [[]] then done else done.drop 1)
    else part :: done) []).reverse

/-- A path without steps to the same directory and the one above. -/
def withoutSteps (path : List Char) : List Char :=
  ['/'].intercalate (workOffSteps (Text.splitOnChar '/' path))

def lengthLimit : Nat := 65536

def isControl (c : Char) : Bool :=
  c.toNat < 0x20 || c.toNat == 0x7f

/-! ## Reading and writing -/

/-- The address that a text is. -/
def ofText? (text : String) : Except AddressError Address := do
  let cs := text.toList
  if lengthLimit < cs.length then throw .tooLong
  if cs.any isControl then throw .controlCharacter
  let (scheme, rest) := splitScheme cs
  let (authority, rest) := splitAuthority rest
  let (path, rest) := cutBefore (fun c => c == '?' || c == '#') rest
  let (query, rest) := cutBefore (· == '#') rest
  let (user, server) := splitAtLast '@' authority
  let (host, number) := splitHost server
  let address : Address := {
    scheme := (String.ofList scheme).toLower
    user := String.ofList (escape unsafeInUser user)
    host := ← hostOf host
    number := ← numberOf scheme ((after? ':' number).getD number)
    query := (after? '?' query).map fun cs => String.ofList (escape unsafeInQuery cs)
    fragment := (after? '#' rest).map fun cs => String.ofList (escape unsafeInFragment cs) }
  -- nothing but a path, possibly with a query and a fragment
  let isRelative := address == { query := address.query, fragment := address.fragment }
  if isRelative && ("//".toList.isPrefixOf path || path.head? == some ':') then
    throw (.badPath (String.ofList path))
  let path := if isRelative then path else withoutSteps path
  return { address with path := String.ofList (escape unsafeInPath path) }

def authority (address : Address) : String :=
  (if address.user.isEmpty then "" else address.user ++ "@")
    ++ (if address.host.contains ':' then "[" ++ address.host ++ "]" else address.host)
    ++ ((address.number.map fun n => ":" ++ toString n).getD "")

def target (address : Address) : String :=
  address.path ++ ((address.query.map ("?" ++ ·)).getD "")

def text (address : Address) : String :=
  (if address.scheme.isEmpty then "" else address.scheme ++ ":")
    ++ (if address.authority.isEmpty then "" else "//" ++ address.authority)
    ++ address.target ++ ((address.fragment.map ("#" ++ ·)).getD "")

/-- Whether the address says how and where to find the server. -/
def isComplete (address : Address) : Bool :=
  !address.scheme.isEmpty && !address.host.isEmpty

/-- The address below the root of a server that is not said. -/
def fromRoot (address : Address) : Address where
  path := "/" ++ String.ofList (address.path.toList.dropWhile (· == '/'))
  query := address.query

end Address

end ActivityMatrix
