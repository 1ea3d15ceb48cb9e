import RowStore.Client.Hostname
import RowStore.Text.Digit
import RowStore.Validation.Numbers

/-!
The addresses of requests.

An address may name a scheme and a host in front of its path. If it lacks either, then its path is
taken from the root of the service's own host. What follows the path counts only for the length.
-/

namespace RowStore.Client

structure Url where
  scheme : List Char
  host : List Char
  path : List Char
  query : List Char := []
  deriving DecidableEq

namespace Url

inductive Problem
  | tooLong
  | longPart (name : String)
  | unprintable (c : Char) (position : Nat)
  | badHost (problem : Hostname.Problem) (host : String)
  | badPort (port : String)
  | slashesFirst
  | colonFirst
  deriving DecidableEq

def Problem.message : Problem → String
  | tooLong => "URL too long"
  | longPart name => "URL component '" ++ name ++ "' too long"
  | unprintable c position =>
      "Invalid non-printable ASCII character in URL, " ++ quote (String.ofList [c]) ++
        " at position " ++ toString position ++ "."
  | badHost .notFourBytes host => "Invalid IPv4 address: " ++ quote host
  | badHost .notInGroups host => "Invalid IPv6 address: " ++ quote host
  | badHost .notName host => "Invalid IDNA hostname: " ++ quote host
  | badPort port => "Invalid port: " ++ quote port
  | slashesFirst => "Relative URLs cannot have a path starting with '//'"
  | colonFirst => "Relative URLs cannot have a path starting with ':'"

def maxLength : Nat := 65536

def isControl (c : Char) : Bool := c.toNat < 0x20 || c.toNat = 0x7F

def isSchemeCharacter (c : Char) : Bool := c.isAlphanum || c = '+' || c = '.' || c = '-'

def splitScheme (text : List Char) : List Char × List Char :=
  let scheme := text.takeWhile isSchemeCharacter
  match text.dropWhile isSchemeCharacter with
  | ':' :: rest => if scheme.head?.all Char.isAlpha then (scheme, rest) else ([], text)
  | _ => ([], text)

def splitAuthority : List Char → List Char × List Char
  | '/' :: '/' :: text => text.span fun c => c ≠ '/' && c ≠ '?' && c ≠ '#'
  | text => ([], text)

def splitAtLast (c : Char) (text : List Char) : List Char × List Char :=
  let (after, upTo) := text.reverse.span (· ≠ c)
  (upTo.reverse, after.reverse)

/-- A host in brackets may hold colons; any other ends at the first one. -/
def splitHost (text : List Char) : List Char × List Char :=
  if text.head? = some '[' && ']' ∈ text then splitAtLast ']' text else text.span (· ≠ ':')

def afterColon : List Char → List Char
  | ':' :: text => text
  | text => text

def isPort (text : List Char) : Bool :=
  match Validation.ungrouped? (Numeral.sign (Validation.trim text)).2 with
  | some digits => digits.all Text.isDecimalDigit && digits.length ≤ Numeral.maxDigits
  | none => false

/-- Adds a segment to those kept so far, the last of them first. One dot is no segment, and two dots
take back the last one. -/
def addSegment (kept : List (List Char)) (segment : List Char) : List (List Char) :=
  if segment = ['.'] then kept
  else if segment = ['.', '.'] then if kept = [[]] then kept else kept.tail
  else segment :: kept

def withoutDots (path : List Char) : List Char :=
  Text.join ['/'] ((Text.pieces ['/'] path).foldl addSegment []).reverse

def checkPath (path : List Char) : Except Problem Unit :=
  match path with
  | '/' :: '/' :: _ => .error .slashesFirst
  | ':' :: _ => .error .colonFirst
  | _ => .ok ()

def splitQuery : List Char → List Char
  | '?' :: text => text.takeWhile (· ≠ '#')
  | _ => []

def ofCharacters (text : List Char) : Except Problem Url := do
  let (scheme, rest) := splitScheme text
  let (authority, rest) := splitAuthority rest
  let (user, place) := splitAtLast '@' authority
  let (host, rest') := splitHost place
  let port := afterColon rest'
  let (path, rest) := rest.span fun c => c ≠ '?' && c ≠ '#'
  let query := splitQuery rest
  let sent ← (Hostname.sent host).mapError (.badHost · (String.ofList host))
  if port ≠ [] && !isPort port then throw (.badPort (String.ofList port))
  if scheme = [] && user.dropLast = [] && host = [] && port = [] then
    checkPath path
    return ⟨scheme, sent, path, query⟩
  else return ⟨scheme, sent, withoutDots path, query⟩

def isAbsolute (url : Url) : Bool := url.scheme ≠ [] && url.host ≠ []

def sentLength (barred : List Char) (c : Char) : Nat :=
  if c.toNat < 0x80 && c ∉ barred then 1 else 3 * (String.utf8EncodeChar c).length

def sentLengths (barred : List Char) (text : List Char) : Nat :=
  text.foldl (fun length c => length + sentLength barred c) 0

/-- The parts of an address without a host are checked once more when they are put behind the
service's own host. -/
def checkParts (url : Url) : Except Problem Unit :=
  let path := '/' :: url.path.dropWhile (· = '/')
  if url.isAbsolute then .ok ()
  else if maxLength < sentLengths " \"<>`\x7b\x7d".toList path then .error (.longPart "path")
  else if maxLength < sentLengths " \"<>".toList url.query then .error (.longPart "query")
  else .ok ()

def parse (text : String) : Except Problem Url :=
  let characters := text.toList
  if maxLength < characters.length then .error .tooLong
  else
    match characters.find? isControl with
    | some c => .error (.unprintable c (characters.idxOf c))
    | none => do
        let url ← ofCharacters characters
        url.checkParts
        return url

def fullPath (url : Url) : List Char :=
  if url.isAbsolute then if url.path = [] then ['/'] else url.path
  else withoutDots ('/' :: url.path.dropWhile (· = '/'))

/-- Reads the bytes that are written as two digits behind a percent sign. Bytes beyond ASCII are
read as the replacement character. -/
def decode : List Char → List Char
  | '%' :: high :: low :: text =>
      match Text.hexByte? high low with
      | none => '%' :: decode (high :: low :: text)
      | some byte => (if byte < 0x80 then Char.ofNat byte else '\uFFFD') :: decode text
  | c :: text => c :: decode text
  | [] => []

/-- The path that the service sees, which is decoded once on the way and once on arrival. -/
def target (url : Url) : List Char := decode (decode url.fullPath)

def unknownScheme? (url : Url) : Option String :=
  let scheme := String.ofList (url.scheme.map Char.toLower)
  if url.isAbsolute && scheme ∉ ["http", "https"] then some scheme else none

example : (parse "x/../a%2562").toOption.map target = some "/ab".toList := by decide

end Url

end RowStore.Client
