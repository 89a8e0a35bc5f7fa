import ChefAccess.Error
import ChefAccess.Text.Affix
import ChefAccess.Text.LetterCase
import ChefAccess.Text.Utf8

/-!
# Addresses

The address of a request is read before it is sent.  It is a path alone, an authority
alone, or a scheme with an authority, a path and a query.  What stands behind a number
sign is dropped.

Main definitions:

- {lit}`Uri`: the parts of an address.
- {lit}`Uri.parse`: the address of a text, or the reason why there is none.
- {lit}`Uri.render`: the text of an address.
-/

namespace ChefAccess
namespace Http

/-- The parts of an address.  The path is empty if none is written. -/
structure Uri where
  scheme : Option String
  authority : String
  path : String
  query : Option String
  deriving DecidableEq, Repr

namespace Uri

/-- Why a text is no address. -/
inductive Fault where
  | tooLong
  | empty
  | character
  | authority
  | format
  | schemeTooLong
  deriving DecidableEq, Repr

/-- The words for a fault. -/
def Fault.message : Fault → String
  | tooLong => "uri too long"
  | empty => "empty string"
  | character => "invalid uri character"
  | authority => "invalid authority"
  | format => "invalid format"
  | schemeTooLong => "scheme too long"

/-! ## The authority -/

/-- The characters that end an authority. -/
def endsAuthority (c : Char) : Bool :=
  c == '/' || c == '?' || c == '#'

/-- The characters of an authority without a meaning of their own. -/
def isAuthorityChar (c : Char) : Bool :=
  c.isAlphanum || "!$&'()*+,-.;=_~".toList.contains c

/-- What is known of an authority of which a part is read: the colons, the brackets and
the percent signs that may still turn out to be out of place. -/
structure Scan where
  colons : Nat
  opened : Bool
  closed : Bool
  percent : Bool
  deriving DecidableEq, Repr

/-- The colons that may stand between brackets. -/
def maxColons : Nat :=
  8

/-- Read one more character.  A closing bracket and an at sign forgive the colons and
percent signs before them. -/
def Scan.step (scan : Scan) (c : Char) : Except Fault Scan :=
  if c = ':' then
    if maxColons ≤ scan.colons then .error .authority
    else .ok { scan with colons := scan.colons + 1 }
  else if c = '[' then
    if scan.percent || scan.opened then .error .authority else .ok { scan with opened := true }
  else if c = ']' then
    if !scan.opened || scan.closed then .error .authority
    else .ok { scan with closed := true, colons := 0, percent := false }
  else if c = '@' then .ok { scan with colons := 0, percent := false }
  else if c = '%' then .ok { scan with percent := true }
  else if isAuthorityChar c then .ok scan
  else .error .character

/-- Check a whole authority. -/
def checkAuthority (text : List Char) : Except Fault Unit := do
  let scan ← text.foldlM Scan.step ⟨0, false, false, false⟩
  if scan.opened != scan.closed || decide (1 < scan.colons) || text.getLast? == some '@' ||
      scan.percent then
    .error .authority
  else .ok ()

/-- The authority at the head of a text, and the rest. -/
def splitAuthority (text : List Char) : Except Fault (List Char × List Char) := do
  if text.isEmpty then .error .empty
  else
    let authority := text.takeWhile (!endsAuthority ·)
    checkAuthority authority
    .ok (authority, text.dropWhile (!endsAuthority ·))

/-- The address that is an authority alone. -/
def ofAuthority (text : List Char) : Uri :=
  ⟨none, String.ofList text, "", none⟩

/-! ## Path and query -/

/-- The characters of a path. -/
def isPathChar (c : Char) : Bool :=
  let n := c.toNat
  n == 0x21 || n == 0x22 || (decide (0x24 ≤ n) && decide (n ≤ 0x3B)) || n == 0x3D ||
    (decide (0x40 ≤ n) && decide (n ≤ 0x5F)) || (decide (0x61 ≤ n) && decide (n ≤ 0x7E)) ||
    decide (0x80 ≤ n)

/-- The characters of a query. -/
def isQueryChar (c : Char) : Bool :=
  let n := c.toNat
  n == 0x21 || (decide (0x24 ≤ n) && decide (n ≤ 0x3B)) || n == 0x3D ||
    (decide (0x3F ≤ n) && decide (n ≤ 0x7E)) || decide (0x80 ≤ n)

/-- The query at the head of a text, up to a number sign. -/
def readQuery (text : List Char) : Except Fault String :=
  let query := text.takeWhile (· != '#')
  if query.all isQueryChar then .ok (String.ofList query) else .error .character

/-- The path and the query of a text. -/
def readPath (text : List Char) : Except Fault (String × Option String) :=
  let endsPath := fun c => c == '?' || c == '#'
  let path := text.takeWhile (!endsPath ·)
  if path.all isPathChar then
    match text.dropWhile (!endsPath ·) with
    | '?' :: rest => (readQuery rest).map fun query => (String.ofList path, some query)
    | _ => .ok (String.ofList path, none)
  else .error .character

/-! ## The scheme -/

/-- The characters of a scheme. -/
def isSchemeChar (c : Char) : Bool :=
  c.isAlphanum || c == '+' || c == '-' || c == '.' || c == '~'

/-- The length that a scheme may have. -/
def maxSchemeLength : Nat :=
  64

/-- What ends a scheme. -/
def schemeEnd : List Char :=
  "://".toList

/-- The scheme at the head of a text and what follows it, if there is one.  The schemes
of HTTP are known in either letter case. -/
def splitScheme (text : List Char) : Except Fault (Option (String × List Char)) :=
  let lower := text.map Text.lowerAscii
  if (Text.after? "http://".toList lower).isSome then .ok (some ("http", text.drop 7))
  else if (Text.after? "https://".toList lower).isSome then .ok (some ("https", text.drop 8))
  else if text.length ≤ schemeEnd.length then .ok none
  else
    let scheme := text.takeWhile isSchemeChar
    match Text.after? schemeEnd (text.dropWhile isSchemeChar) with
    | none => .ok none
    | some rest =>
      if maxSchemeLength < scheme.length then .error .schemeTooLong
      else .ok (some (String.ofList scheme, rest))

/-! ## Addresses -/

/-- The number of bytes that an address may have. -/
def maxSize : Nat :=
  65534

/-- The address of a text that is no path. -/
def parseFull (text : List Char) : Except Fault Uri := do
  match ← splitScheme text with
  | none =>
    let parts ← splitAuthority text
    if parts.2.isEmpty then .ok (ofAuthority text) else .error .format
  | some (scheme, rest) =>
    let parts ← splitAuthority rest
    if parts.1.isEmpty then .error .format
    else
      let path ← readPath parts.2
      .ok ⟨some scheme, String.ofList parts.1, path.1, path.2⟩

/-- The address of a text. -/
def parseChars : List Char → Except Fault Uri
  | [] => .error .empty
  | ['*'] => .ok ⟨none, "", "*", none⟩
  | '/' :: rest => (readPath ('/' :: rest)).map fun path => ⟨none, "", path.1, path.2⟩
  | [c] => do
    let parts ← splitAuthority [c]
    if parts.2.isEmpty then .ok (ofAuthority [c]) else .error .character
  | text => parseFull text

/-- The address of a text, unless it is too long. -/
def parse (s : String) : Except Fault Uri :=
  if maxSize < Text.Utf8.size s.toList then .error .tooLong else parseChars s.toList

/-- The text of an address.  Behind a scheme an empty path is written as a slash. -/
def render (uri : Uri) : String :=
  (match uri.scheme with | some scheme => scheme ++ "://" | none => "") ++ uri.authority ++
    (if uri.path.isEmpty && uri.scheme.isSome then "/" else uri.path) ++
    (match uri.query with | some query => "?" ++ query | none => "")

end Uri
end Http
end ChefAccess
