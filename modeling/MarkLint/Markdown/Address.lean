import MarkLint.Markdown.Punycode
import MarkLint.Text.Blank
import MarkLint.Text.Case
import MarkLint.Text.Lines
import MarkLint.Text.Numeral
import MarkLint.Text.Utf8

/-!
# Link addresses

An address is cut into its parts, its host name is put into ASCII, and what may not stand in an address is
percent-encoded (`Address.normalize`). The text of an automatic link goes the other way (`Address.display`). Addresses
that could run code are refused (`Address.isSafe`).
-/

namespace MarkLint.Markdown

open MarkLint.Text

/-- The parts of an address; a part that is missing is empty. -/
structure Address where
  scheme : List Char := []
  slashes : Bool := false
  user : List Char := []
  host : List Char := []
  number : List Char := []
  path : List Char := []
  query : List Char := []
  fragment : List Char := []

namespace Address

/-- May `c` stand in a scheme name? -/
def isSchemeChar (c : Char) : Bool := isLetterFolded c || c.isDigit || c == '.' || c == '+' || c == '-'

/-- Splits the scheme, with its colon, off an address. -/
def splitScheme (s : List Char) : List Char × List Char :=
  let name := s.takeWhile isSchemeChar
  match name, s.drop name.length with
  | _ :: _, ':' :: rest => (name ++ [':'], rest)
  | _, _ => ([], s)

/-- Schemes that never have a host. -/
def isHostless (scheme : List Char) : Bool := scheme == "javascript:".toList

/-- Schemes whose host follows two slashes. -/
def isSlashed (scheme : List Char) : Bool :=
  ["http:", "https:", "ftp:", "gopher:", "file:"].contains (String.ofList scheme)

/-- Characters that end the part in which a user name may stand. -/
def endsAuthority (c : Char) : Bool := c == '/' || c == '?' || c == '#'

/-- Characters that end a host name. -/
def endsHost (c : Char) : Bool :=
  endsAuthority c || "%;'\x7b\x7d|\\^\x60<>\" \r\n\t".toList.contains c

/-- Splits a user name, up to the last `@`, off what follows the scheme. -/
def splitUser (s : List Char) : List Char × List Char :=
  let authority := s.takeWhile fun c => !endsAuthority c
  let host := (authority.reverse.takeWhile (· ≠ '@')).reverse
  if host.length = authority.length then ([], s)
  else
    let size := authority.length - host.length
    (s.take (size - 1), s.drop size)

/-- Splits a number after a colon off the end of a host. -/
def splitNumber (s : List Char) : List Char × List Char :=
  let digits := (s.reverse.takeWhile Char.isDigit).reverse
  match s.reverse.drop digits.length with
  | ':' :: before => (before.reverse, digits)
  | _ => (s, [])

/-- May `c` stand in a label of a host name? -/
def isLabelChar (c : Char) : Bool := c.isAlphanum || c == '+' || c == '_' || c == '-'

/-- Is a label acceptable? It has at most 63 characters, and those outside ASCII are not looked at. -/
def isLabel (s : List Char) : Bool := s.length ≤ 63 && s.all fun c => isLabelChar c || 127 < c.toNat

/-- Splits the labels of a host at the first one that is not acceptable, inside which the host ends. -/
def splitLabels : List (List Char) → List (List Char) × List (List Char)
  | [] => ([], [])
  | label :: rest =>
    if isLabel label then
      let (good, bad) := splitLabels rest
      (label :: good, bad)
    else
      let good := (label.take 63).takeWhile isLabelChar
      ([good], label.drop good.length :: rest)

/-- Is the host an address in brackets? -/
def isBracketed (host : List Char) : Bool := host.head? == some '[' && host.getLast? == some ']'

/-- The acceptable part of a host name, and the text that its other part becomes. -/
def cleanHost (host : List Char) : List Char × List Char :=
  if isBracketed host then ((if host.length ≤ 255 then host.drop 1 |>.dropLast else []), [])
  else
    let (good, bad) := splitLabels (pieces '.' host)
    let name := List.intercalate ['.'] good
    ((if name.length ≤ 255 then name else []), List.intercalate ['.'] bad)

/-- Reads user, host and number at the start of what follows the scheme. -/
def readHost (a : Address) (s : List Char) : Address × List Char :=
  let (user, s) := splitUser s
  let upTo := (s.takeWhile fun c => !endsHost c).length
  let upTo := if 0 < upTo ∧ s[upTo - 1]? = some ':' then upTo - 1 else upTo
  let (host, number) := splitNumber (s.take upTo)
  let (host, excess) := cleanHost host
  ({ a with user := user, host := host, number := number }, excess ++ s.drop upTo)

/-- Reads path, query and fragment. -/
def readPath (a : Address) (s : List Char) : Address :=
  let fragment := s.dropWhile (· ≠ '#')
  let s := s.takeWhile (· ≠ '#')
  { a with fragment := fragment, query := s.dropWhile (· ≠ '?'), path := s.takeWhile (· ≠ '?') }

/-- Cuts an address into its parts. -/
def ofText (text : List Char) : Address :=
  let (scheme, s) := splitScheme (trim text)
  let slashes := "//".toList.isPrefixOf s && !isHostless scheme
  let a : Address := { scheme := scheme, slashes := slashes }
  let s := if slashes then s.drop 2 else s
  if !isHostless scheme && (slashes || (!scheme.isEmpty && !isSlashed scheme)) then
    let (a, s) := readHost a s
    readPath a s
  else readPath a s

/-- The text of an address. -/
def toText (a : Address) : List Char :=
  a.scheme ++ (if a.slashes then ['/', '/'] else []) ++ (if a.user.isEmpty then [] else a.user ++ ['@'])
    ++ (if a.host.contains ':' then ['['] ++ a.host ++ [']'] else a.host)
    ++ (if a.number.isEmpty then [] else ':' :: a.number) ++ a.path ++ a.query ++ a.fragment

/-- Is the host of this scheme a name in the domain name system? -/
def hasDomain (a : Address) : Bool :=
  !a.host.isEmpty && (a.scheme.isEmpty || ["http:", "https:", "mailto:"].contains (String.ofList a.scheme))

/-- The labels of a host name, between any of the four full stops. -/
def labels (host : List Char) : List (List Char) :=
  pieces '.' (host.map fun c => if c.toNat = 0x3002 ∨ c.toNat = 0xFF0E ∨ c.toNat = 0xFF61 then '.' else c)

/-- The host name in ASCII. -/
def asciiHost (host : List Char) : List Char :=
  List.intercalate ['.'] ((labels host).map fun label =>
    if label.all fun c => c.toNat < 127 then label else "xn--".toList ++ Punycode.encode label)

/-- The host name with its encoded labels decoded; as it is when one of them cannot be. -/
def displayHost (host : List Char) : List Char :=
  let decoded := (labels host).mapM fun label =>
    if "xn--".toList.isPrefixOf label then Punycode.decode? (lower (label.drop 4)) else some label
  (decoded.map (List.intercalate ['.'])).getD host

/-- Characters that stand for themselves in an address. -/
def isPlain (c : Char) : Bool := c.isAlphanum || ";/?:@&=+$,-_.!~*'()#".toList.contains c

/-- The percent-encoding of an octet. -/
def percent (n : Nat) : List Char := ['%', hexDigit (n / 16), hexDigit n]

/-- Percent-encodes what does not stand for itself; octets that are encoded already stay. -/
def encode : List Char → List Char
  | [] => []
  | '%' :: a :: b :: rest =>
    if (hexValue? a).isSome && (hexValue? b).isSome then '%' :: a :: b :: encode rest
    else percent 0x25 ++ encode (a :: b :: rest)
  | c :: rest => (if isPlain c then [c] else (utf8Octets c).flatMap percent) ++ encode rest

/-- The octets of the encoded octets at the start of a text, and how many there are. -/
def encodedOctets : List Char → List Nat
  | '%' :: a :: b :: rest =>
    match hexValue? a, hexValue? b with
    | some x, some y => (16 * x + y) :: encodedOctets rest
    | _, _ => []
  | _ => []

/-- The octets that stay encoded when an address is shown. -/
def staysEncoded (n : Nat) : Bool := ";/?:@&=+$,#%".toList.any fun c => c.toNat = n

/-- The replacement character. -/
def replacement : Char := Char.ofNat 0xFFFD

/-- Decodes octets into characters; the first `skip` octets have been dealt with. A malformed sequence gives as many
replacement characters as it has octets. -/
def decodeOctets (skip : Nat) : List Nat → List Char
  | [] => []
  | n :: rest =>
    match skip with
    | k + 1 => decodeOctets k rest
    | 0 =>
      if n < 0x80 then (if staysEncoded n then percent n else [Char.ofNat n]) ++ decodeOctets 0 rest
      else
        let size := if n / 32 = 6 then 1 else if n / 16 = 14 then 2 else if n / 8 = 30 then 3 else 0
        let tail := rest.take size
        if 0 < size ∧ tail.length = size ∧ tail.all (fun t => t / 64 = 2) then
          (match utf8Char? (n :: tail) with
            | some c => [c]
            | none => List.replicate (size + 1) replacement) ++ decodeOctets size rest
        else replacement :: decodeOctets 0 rest

/-- Decodes the encoded octets of an address for display; the first `skip` characters have been dealt with. -/
def decodeFrom (skip : Nat) : List Char → List Char
  | [] => []
  | c :: rest =>
    match skip with
    | k + 1 => decodeFrom k rest
    | 0 =>
      let octets := encodedOctets (c :: rest)
      if octets.isEmpty then c :: decodeFrom 0 rest
      else decodeOctets 0 octets ++ decodeFrom (3 * octets.length - 1) rest

/-- The address as it is written to a document tree. -/
def normalize (text : List Char) : List Char :=
  let a := ofText text
  encode (if a.hasDomain then { a with host := asciiHost a.host } else a).toText

/-- The address as it is shown to a reader. -/
def display (text : List Char) : List Char :=
  let a := ofText text
  decodeFrom 0 (if a.hasDomain then { a with host := displayHost a.host } else a).toText

/-- May a link lead to the address? Scripts, files and data are refused, with the exception of common images. -/
def isSafe (address : List Char) : Bool :=
  let a := lower (trim address)
  let startsWith (p : String) : Bool := p.toList.isPrefixOf a
  if ["vbscript:", "javascript:", "file:", "data:"].any startsWith then
    ["data:image/gif;", "data:image/png;", "data:image/jpeg;", "data:image/webp;"].any startsWith
  else true

end Address
end MarkLint.Markdown
