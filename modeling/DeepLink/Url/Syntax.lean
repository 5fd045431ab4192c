import DeepLink.Url.Host

/-! # The syntax of addresses

The check that a text is an absolute URL. It says whether the path of the URL is hierarchical, or
why the text is no URL. Controls and spaces around a text, and tabs and line ends within it, are
ignored. -/

namespace DeepLink.Url

/-- How the path of a URL is built: from a root, or as one opaque text. -/
inductive Shape where
  | hierarchical
  | rootless
  deriving DecidableEq, Repr

/-- The three ways in which schemes read what follows them. -/
inductive SchemeClass where
  /-- Schemes of the web, whose host is a domain and may not be missing. -/
  | web
  | file
  | ordinary
  deriving DecidableEq

/-- A text without what the check ignores. -/
def significant (text : List Char) : List Char :=
  let isEdge := fun (c : Char) => decide (c.toNat ≤ 0x20)
  ((text.dropWhile isEdge).reverse.dropWhile isEdge).reverse.filter
    fun c => c ≠ '\t' && c ≠ '\n' && c ≠ '\r'

/-- Whether a character may stand in a scheme. -/
def isSchemeChar (c : Char) : Bool :=
  c.isAlphanum || c = '+' || c = '-' || c = '.'

/-- The scheme in lower case and the text after its colon. -/
def scheme? (text : List Char) : Option (List Char × List Char) :=
  let name := text.takeWhile isSchemeChar
  match name, text.dropWhile isSchemeChar with
  | c :: _, ':' :: rest => if c.isAlpha then some (name.map Char.toLower, rest) else none
  | _, _ => none

/-- The class of a scheme in lower case. -/
def SchemeClass.of (scheme : List Char) : SchemeClass :=
  let name := String.ofList scheme
  if name = "file" then .file
  else if ["http", "https", "ws", "wss", "ftp"].contains name then .web
  else .ordinary

/-- Whether a character is a slash; for some schemes a backslash is one too. -/
def isSlash (c : Char) : Bool := c = '/' || c = '\\'

/-- Whether a character ends the part of a URL that names the host. -/
def endsAuthority (special : Bool) (c : Char) : Bool :=
  c = '/' || c = '?' || c = '#' || (special && c = '\\')

/-- Separates credentials from the rest of an authority, and says whether there are any. The last
`@` ends them; a lone colon is none. An `@` in front has to be followed by a host, unless the text
ends there. -/
def splitCredentials (authority : List Char) (atEnd : Bool) : Except Fault (Bool × List Char) :=
  let rest := (authority.reverse.takeWhile (· != '@')).reverse
  match authority.take (authority.length - rest.length) with
  | [] => .ok (false, rest)
  | ['@'] => if rest.isEmpty && !atEnd then .error .emptyHost else .ok (false, rest)
  | credentials => .ok (credentials ≠ [':', '@'], rest)

/-- Checks a port. A backslash ends it. -/
def checkPort (text : List Char) : Except Fault Unit :=
  let digits := text.takeWhile (· != '\\')
  if digits.all Char.isDigit &&
      digits.foldl (fun value c => value * 10 + (c.toNat - 48)) 0 ≤ 65535 then .ok ()
  else .error .invalidPort

/-- Checks credentials, host and port. Only an ordinary scheme allows an empty host, and only
without credentials and port. -/
def checkAuthority (special : Bool) (text : List Char) : Except Fault Unit := do
  let authority := text.takeWhile (!endsAuthority special ·)
  let (credentials, rest) ← splitCredentials authority (authority.length = text.length)
  let (host, port) := Host.splitPort false rest
  if host.isEmpty && (special || credentials || !port.isEmpty) then throw .emptyHost
  if special then Host.checkSpecial host else Host.checkOrdinary host
  match port with
  | [] => pure ()
  | _ :: digits => checkPort digits

/-- Whether a text is a drive letter and a colon or a bar. -/
def isDriveLetter (text : List Char) : Bool :=
  match text with
  | [letter, mark] => letter.isAlpha && (mark = ':' || mark = '|')
  | _ => false

/-- Checks what follows `file:`. A host may be missing, and a drive letter is none. -/
def checkFile : List Char → Except Fault Unit
  | a :: b :: rest =>
      let host := rest.takeWhile (!endsAuthority true ·)
      if isSlash a && isSlash b && !host.isEmpty && !isDriveLetter host then Host.checkSpecial host
      else .ok ()
  | _ => .ok ()

/-- Checks a text and tells the shape of its path. -/
def check (text : List Char) : Except Fault Shape :=
  match scheme? (significant text) with
  | none => .error .noScheme
  | some (scheme, rest) =>
      match SchemeClass.of scheme, rest with
      | .file, rest => (checkFile rest).map fun _ => .hierarchical
      | .web, rest => (checkAuthority true (rest.dropWhile isSlash)).map fun _ => .hierarchical
      | .ordinary, '/' :: '/' :: rest => (checkAuthority false rest).map fun _ => .hierarchical
      | .ordinary, '/' :: _ => .ok .hierarchical
      | .ordinary, _ => .ok .rootless

end DeepLink.Url
