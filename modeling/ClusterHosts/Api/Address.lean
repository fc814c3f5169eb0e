import ClusterHosts.Text.Basic

/-! # Addresses of servers

The address of a server has a scheme, an authority and perhaps a path, which comes before the path
of every request. An address without a scheme is an authority alone, or a path alone.
-/

namespace ClusterHosts

/-- The address of a server. -/
structure ServerAddress where
  scheme : Option String
  authority : String
  path : String
  deriving DecidableEq, Inhabited

namespace ServerAddress

/-- The characters of a scheme. -/
def isSchemeChar (c : Char) : Bool := c.isAlphanum || c == '+' || c == '-' || c == '.'

/-- The characters of an address, outside of paths. -/
def isAddressChar (c : Char) : Bool :=
  c.isAlphanum || ['!', '#', '$', '&', '\'', '(', ')', '*', '+', ',', '-', '.', '/', ':', ';', '=',
    '?', '@', '[', ']', '_', '~'].contains c

/-- The characters of a path. -/
def isPathChar (c : Char) : Bool :=
  0x21 ≤ c.toNat && c.toNat != 0x7F && !(['#', '<', '>', '?', '\x60'].contains c)

/-- The characters of a query. -/
def isQueryChar (c : Char) : Bool :=
  0x21 ≤ c.toNat && c.toNat != 0x7F && !(['"', '#', '<', '>'].contains c)

/-- Whether a text is a path with perhaps a query; what follows a number sign does not count. -/
def isPathAndQuery (cs : List Char) : Bool :=
  let counted := cs.takeWhile (· != '#')
  (counted.takeWhile (· != '?')).all isPathChar &&
    ((counted.dropWhile (· != '?')).drop 1).all isQueryChar

/-- The characters of an authority before the path, the query or the end. -/
def authorityOf (cs : List Char) : List Char :=
  cs.takeWhile fun c => c != '/' && c != '?' && c != '#'

/-- What was found in an authority so far. -/
structure AuthorityScan where
  colons : Nat := 0
  opened : Bool := false
  closed : Bool := false
  /-- There is a percent sign that is not part of a user's name. -/
  percent : Bool := false

namespace AuthorityScan

/-- Looks at one character of an authority. Colons and percent signs before an `@` or inside
brackets do not count. -/
def step (scan : AuthorityScan) (c : Char) : Option AuthorityScan :=
  if c = ':' then if scan.colons ≥ 8 then none else some { scan with colons := scan.colons + 1 }
  else if c = '[' then
    if scan.percent || scan.opened then none else some { scan with opened := true }
  else if c = ']' then
    if !scan.opened || scan.closed then none
    else some { scan with closed := true, colons := 0, percent := false }
  else if c = '@' then some { scan with colons := 0, percent := false }
  else if c = '%' then some { scan with percent := true }
  else if isAddressChar c then some scan
  else none

/-- Whether an authority is complete. -/
def isComplete (scan : AuthorityScan) : Bool :=
  scan.opened == scan.closed && scan.colons ≤ 1 && !scan.percent

end AuthorityScan

/-- Whether a text is an authority. -/
def isAuthority (cs : List Char) : Bool :=
  match cs.foldlM AuthorityScan.step {} with
  | some scan => scan.isComplete && cs.getLast? != some '@'
  | none => false

/-- The scheme at the start of an address, and what follows it. -/
def splitScheme? (cs : List Char) : Option (List Char × List Char) :=
  let scheme := cs.takeWhile isSchemeChar
  match cs.drop scheme.length with
  | ':' :: '/' :: '/' :: rest => some (scheme, rest)
  | _ => none

/-- The address that a text stands for. -/
def parse? (text : String) : Option ServerAddress :=
  let cs := text.toList
  if text.utf8ByteSize > 65534 then none
  else match cs with
    | [] => none
    | '/' :: _ => if isPathAndQuery cs then some ⟨none, "", text⟩ else none
    | ['*'] => some ⟨none, "", text⟩
    | _ =>
        match splitScheme? cs with
        | none => if authorityOf cs == cs && isAuthority cs then some ⟨none, text, ""⟩ else none
        | some (scheme, rest) =>
            let authority := authorityOf rest
            let path := rest.drop authority.length
            if scheme.length ≤ 64 && !authority.isEmpty && isAuthority authority &&
                isPathAndQuery path then
              some ⟨some (String.ofList scheme), String.ofList authority, String.ofList path⟩
            else none

/-- Whether a path can follow the address: it has a scheme, or is a path itself. -/
def takesPaths (address : ServerAddress) : Bool :=
  address.scheme.isSome || (address.authority.isEmpty && address.path.startsWith "/")

/-- The target of a request to the server: the server's path comes first, without its query and
without slashes at its end. What follows a number sign is not sent. -/
def target (address : ServerAddress) (path : String) : String :=
  let own := address.path.toList.takeWhile fun c => c != '?' && c != '#'
  String.ofList ((own.reverse.dropWhile (· == '/')).reverse ++ path.toList.takeWhile (· != '#'))

end ServerAddress

end ClusterHosts

namespace ClusterHosts.HostName

/-! ## Names of servers

The names that a certificate can be for: names of the domain name system, and addresses of the
internet protocol.
-/

/-! ### Names -/

/-- The characters at the start and the end of a label. -/
def isLabelChar (c : Char) : Bool := c.isAlphanum || c == '_'

/-- Whether a text is a label: at most 63 letters, digits, underscores and, in between, hyphens. -/
def isLabel (cs : List Char) : Bool :=
  cs.length ≤ 63 && cs.all (fun c => isLabelChar c || c == '-') &&
    cs.head?.any isLabelChar && cs.getLast?.any isLabelChar

/-- Whether a text is a name. A point may end it, and the last label is not digits alone. -/
def isName (cs : List Char) : Bool :=
  let labels := Text.split '.' cs
  let labels := if labels.getLast? = some [] then labels.dropLast else labels
  cs.length ≤ 253 && labels.all isLabel && labels.getLast?.any (!·.all Char.isDigit)

/-! ### Addresses -/

/-- Whether a text is a number below 256 without zeros in front of it. -/
def isByte (cs : List Char) : Bool :=
  cs.length ≤ 3 && (Text.natural? cs).any (· < 256) && (cs.length == 1 || cs.head? != some '0')

/-- Whether a text is an address of four bytes. -/
def isShortAddress (cs : List Char) : Bool :=
  let bytes := Text.split '.' cs
  bytes.length == 4 && bytes.all isByte

/-- Whether a text is one group of an address: up to four digits of base sixteen. -/
def isGroup (cs : List Char) : Bool :=
  cs.length ≤ 4 && (Text.inBase? 16 cs).isSome

/-- How many groups a text has. The last two can be written as an address of four bytes. -/
def groups? (cs : List Char) : Option Nat :=
  let parts := Text.split ':' cs
  let isShort := parts.getLast?.any isShortAddress
  if cs.isEmpty then some 0
  else if isShort && parts.dropLast.all isGroup then some (parts.length + 1)
  else if parts.all isGroup then some parts.length
  else none

/-- What is before and behind the first two colons in a row. -/
def splitGap? : List Char → Option (List Char × List Char)
  | ':' :: ':' :: cs => some ([], cs)
  | c :: cs => (splitGap? cs).map fun (before, behind) => (c :: before, behind)
  | [] => none

/-- Whether a text is an address of eight groups. Two colons can stand for groups that are zero, but
not behind an address of four bytes. -/
def isLongAddress (cs : List Char) : Bool :=
  match splitGap? cs with
  | none => groups? cs == some 8
  | some (before, behind) =>
      match groups? before, groups? behind with
      | some first, some last => first + last ≤ 7 && !before.contains '.'
      | _, _ => false

/-- Whether a certificate can be for a text. -/
def isCertifiable (text : String) : Bool :=
  let cs := text.toList
  isName cs || isShortAddress cs || isLongAddress cs

end ClusterHosts.HostName
