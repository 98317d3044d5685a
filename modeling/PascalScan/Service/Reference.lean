import PascalScan.Json.Reader
import PascalScan.Text.Blank
import PascalScan.Text.Pieces
import PascalScan.Text.Quoted

/-!
# References

A reference names a resource: it may have a scheme, an authority behind two slashes (user
information, a host, a port) and a path, and what stands after a question mark or a number sign
is passed over here. The scheme and the authority may be left out.

* `read` cuts a reference into these parts and checks them.
* `normal` takes the dot segments out of a path.
-/

namespace PascalScan.Service

/-- What is wrong with a reference. -/
inductive ReferenceFault where
  | tooLong
  | unprintable (c : Char) (place : Nat)
  | notAddress4 (host : String)
  | notAddress6 (host : String)
  | notPort (text : String)
  | rootless
  | doubleSlash
  | colonFirst
  deriving DecidableEq, Repr

def ReferenceFault.message : ReferenceFault → String
  | tooLong => "URL too long"
  | unprintable c place =>
      "Invalid non-printable ASCII character in URL, " ++ Text.quote (String.ofList [c]) ++
        " at position " ++ toString place ++ "."
  | notAddress4 host => "Invalid IPv4 address: " ++ Text.quote host
  | notAddress6 host => "Invalid IPv6 address: " ++ Text.quote host
  | notPort text => "Invalid port: " ++ Text.quote text
  | rootless => "For absolute URLs, path must be empty or begin with '/'"
  | doubleSlash => "Relative URLs cannot have a path starting with '//'"
  | colonFirst => "Relative URLs cannot have a path starting with ':'"

namespace Reference

/-! ## Hosts and ports -/

/-- Digits, one or more, before a rest that satisfies a test. -/
def digitsThen (test : List Char → Bool) : List Char → Bool
  | [] => false
  | c :: cs => c.isDigit && (test cs || digitsThen test cs)

/-- One character before a rest that satisfies a test. -/
def anyThen (test : List Char → Bool) : List Char → Bool
  | [] => false
  | _ :: cs => test cs

/-- Whether a host is taken for four numbers, with any character between one and the next. -/
def looksNumeric : List Char → Bool :=
  digitsThen (anyThen (digitsThen (anyThen (digitsThen (anyThen (digitsThen List.isEmpty))))))

/-- A number up to 255, without zeros in front. -/
def isOctet (cs : List Char) : Bool :=
  !cs.isEmpty && cs.length ≤ 3 && cs.all Char.isDigit && (cs.length == 1 || cs.head? != some '0') &&
    cs.foldl (fun n d => n * 10 + (d.toNat - '0'.toNat)) 0 ≤ 255

/-- Four octets between points. -/
def isAddress4 (cs : List Char) : Bool :=
  let parts := Text.pieces '.' cs
  parts.length == 4 && parts.all isOctet

/-- One to four hexadecimal digits. -/
def isHextet (cs : List Char) : Bool :=
  !cs.isEmpty && cs.length ≤ 4 && cs.all fun c => (Json.hexDigit? c).isSome

/-- Hextets on one side of a double colon. The side may be empty, which shows as one empty part at
the end of the address. -/
def isSide (atEnd : List (List Char) → Option (List Char)) (parts : List (List Char)) : Bool :=
  if atEnd parts = some [] then parts.length == 1 else parts.all isHextet

/-- Eight hextets between colons. One double colon may stand for hextets left out, and an address of
four octets for the last two. -/
def isHextets (parts : List (List Char)) : Bool :=
  let inner := parts.dropLast.drop 1
  match inner.findIdx? List.isEmpty with
  | none => parts.length == 8 && parts.all isHextet
  | some i =>
      let before := parts.take (i + 1)
      let behind := parts.drop (i + 2)
      let count (side : List (List Char)) := (side.filter (!·.isEmpty)).length
      (inner.filter List.isEmpty).length == 1 && isSide List.head? before &&
        isSide List.getLast? behind && count before + count behind ≤ 7

/-- An address of hextets, perhaps with a scope behind a percent sign. -/
def isAddress6 (cs : List Char) : Bool :=
  let address := cs.takeWhile (· != '%')
  let scopeFine := match cs.drop address.length with
    | [] => true
    | _ :: scope => !scope.isEmpty && !scope.contains '%'
  let parts := Text.pieces ':' address
  let last := parts.getLast?.getD []
  scopeFine && 3 ≤ parts.length &&
    if last.contains '.' then isAddress4 last && isHextets (parts.dropLast ++ [['0'], ['0']])
    else isHextets parts

def hostFault? (host : List Char) : Option ReferenceFault :=
  if looksNumeric host then
    if isAddress4 host then none else some (.notAddress4 (String.ofList host))
  else if host.head? = some '[' ∧ host.getLast? = some ']' then
    if isAddress6 (host.drop 1).dropLast then none
    else some (.notAddress6 (String.ofList host))
  else none

/-- A port may have this many digits and no more. -/
def maxPortDigits : Nat := 4300

/-- Whether a text spells a port: perhaps a sign, and digits that single underscores may divide. -/
def isPort (text : List Char) : Bool :=
  let digits := match Text.trimWhile (· == ' ') text with
    | '-' :: rest => rest
    | '+' :: rest => rest
    | rest => rest
  (Text.pieces '_' digits).all (fun part => !part.isEmpty && part.all Char.isDigit) &&
    (digits.filter Char.isDigit).length ≤ maxPortDigits

/-! ## Parts -/

/-- What is between the scheme and the path. -/
structure Authority where
  user : List Char
  host : List Char
  port : List Char
  deriving DecidableEq, Repr

def Authority.none : Authority := ⟨[], [], []⟩

def Authority.isEmpty (a : Authority) : Bool :=
  a.user.isEmpty && a.host.isEmpty && a.port.isEmpty

/-- The host at the front of a text and what follows it. In brackets it may hold colons. -/
def takeHost (cs : List Char) : List Char × List Char :=
  let bracketed := (cs.reverse.dropWhile (· != ']')).reverse
  let host := if cs.head? = some '[' ∧ bracketed ≠ [] then bracketed else cs.takeWhile (· != ':')
  (host, cs.drop host.length)

/-- Cuts an authority: the user information ends at the last at sign. -/
def Authority.ofText (cs : List Char) : Authority :=
  let behind := (cs.reverse.takeWhile (· != '@')).reverse
  let user := (cs.take (cs.length - behind.length)).dropLast
  let (host, rest) := takeHost behind
  ⟨user, host, match rest with
    | ':' :: port => port
    | port => port⟩

structure Parts where
  scheme : List Char
  authority : Authority
  path : List Char
  deriving DecidableEq, Repr

def isSchemeChar (c : Char) : Bool := c.isAlphanum || c == '+' || c == '.' || c == '-'

/-- The scheme before a colon, which may be empty, and what follows. -/
def takeScheme (cs : List Char) : List Char × List Char :=
  let name := cs.takeWhile isSchemeChar
  match cs.drop name.length with
  | ':' :: rest => if name.head?.all Char.isAlpha then (name, rest) else ([], cs)
  | _ => ([], cs)

/-- Cuts a reference into its parts. -/
def Parts.ofText (cs : List Char) : Parts :=
  let (scheme, rest) := takeScheme cs
  let (authority, rest) := match rest with
    | '/' :: '/' :: rest =>
        let text := rest.takeWhile fun c => c != '/' && c != '?' && c != '#'
        (Authority.ofText text, rest.drop text.length)
    | rest => (Authority.none, rest)
  ⟨scheme, authority, rest.takeWhile fun c => c != '?' && c != '#'⟩

/-! ## Paths -/

/-- Takes dot segments out: one dot stands for nothing, two take back the segment before, but never
the empty one at the start. The segments kept so far come first, in reverse. -/
def dropDots (kept : List (List Char)) : List (List Char) → List (List Char)
  | [] => kept.reverse
  | s :: ss =>
      if s = ['.'] then dropDots kept ss
      else if s = ['.', '.'] then dropDots (if kept = [[]] then kept else kept.drop 1) ss
      else dropDots (s :: kept) ss

/-- A path without dot segments. -/
def normal (path : List Char) : List Char := ['/'].intercalate (dropDots [] (Text.pieces '/' path))

/-! ## Checks -/

/-- A reference may have this many characters and no more. -/
def maxLength : Nat := 65536

def isUnprintable (c : Char) : Bool := c.toNat < 0x20 || c.toNat == 0x7F

/-- What is wrong with the path of a reference that has neither scheme nor authority. -/
def relativeFault? (p : Parts) : Option ReferenceFault :=
  if p.scheme ≠ [] ∨ !p.authority.isEmpty then none
  else match p.path with
    | '/' :: '/' :: _ => some .doubleSlash
    | ':' :: _ => some .colonFirst
    | _ => none

/-- The parts of a reference, if each is fine. -/
def read (reference : String) : Except ReferenceFault Parts :=
  let cs := reference.toList
  if maxLength < cs.length then .error .tooLong
  else match cs.findIdx? isUnprintable with
    | some i => .error (.unprintable (cs.getD i ' ') i)
    | none =>
        let p := Parts.ofText cs
        match hostFault? p.authority.host with
        | some fault => .error fault
        | none =>
            if p.authority.port ≠ [] ∧ !isPort p.authority.port then
              .error (.notPort (String.ofList p.authority.port))
            else match relativeFault? p with
              | some fault => .error fault
              | none => .ok p

end Reference

end PascalScan.Service
