import ClusterHosts.Text.Basic
import ClusterHosts.Text.Encoding

/-! # Certificates

Certificates and keys in files, as far as it matters whether they can be used. -/

namespace ClusterHosts.Der

/-! ## DER

Values as the distinguished encoding rules write them: a byte that tells the kind of a value, its
length, and its content. A length takes as few bytes as it can. Kinds of more than one byte, and
values of 65535 bytes or more, are not read.
-/

/-- A value as it is written. -/
structure Element where
  kind : UInt8
  content : List UInt8
  deriving DecidableEq

/-- A reader of bytes. -/
abbrev Reader := StateT (List UInt8) Option

/-! ### Kinds -/

/-- A truth value. -/
def truth : UInt8 := 0x01
/-- An integer. -/
def integer : UInt8 := 0x02
/-- Bits, of which the last byte may leave some over. -/
def bits : UInt8 := 0x03
/-- Bytes. -/
def octets : UInt8 := 0x04
/-- The name of an algorithm or an extension. -/
def identifier : UInt8 := 0x06
/-- A sequence of values. -/
def sequence : UInt8 := 0x30
/-- A value marked with a number. -/
def marked (number : UInt8) : UInt8 := 0xA0 + number

/-! ### Reading -/

/-- The number that bytes stand for, the highest byte first. -/
def natural (bytes : List UInt8) : Nat := bytes.foldl (fun value byte => 256 * value + byte.toNat) 0

/-- A length. -/
def length? : List UInt8 → Option (Nat × List UInt8)
  | 0x81 :: a :: rest => if 0x80 ≤ a then some (a.toNat, rest) else none
  | 0x82 :: a :: b :: rest =>
      let length := natural [a, b]
      if 0x100 ≤ length ∧ length < 0xFFFF then some (length, rest) else none
  | n :: rest => if n < 0x80 then some (n.toNat, rest) else none
  | [] => none

/-- A value. -/
def element : Reader Element := fun bytes =>
  match bytes with
  | [] => none
  | kind :: rest =>
      if kind % 32 = 31 then none
      else do
        let (length, rest) ← length? rest
        if rest.length < length then none
        else pure (⟨kind, rest.take length⟩, rest.drop length)

/-- The content of a value of a kind. -/
def content (kind : UInt8) : Reader (List UInt8) := do
  let value ← element
  if value.kind = kind then pure value.content else failure

/-- Whether a value of a kind comes next. -/
def isNext (kind : UInt8) : Reader Bool := do pure ((← get).head? == some kind)

/-- Whether all is read. -/
def isAtEnd : Reader Bool := do pure (← get).isEmpty

/-- What a reader makes of bytes, if it reads all of them. -/
def readAll? {α : Type} (reader : Reader α) (bytes : List UInt8) : Option α := do
  let (value, rest) ← reader.run bytes
  if rest.isEmpty then pure value else none

/-- What a reader makes of the content of a value of a kind, all of which it reads. -/
def inside {α : Type} (kind : UInt8) (reader : Reader α) : Reader α := do
  let bytes ← content kind
  liftM (readAll? reader bytes)

/-- Bits that fill all their bytes. -/
def wholeBits : Reader (List UInt8) := do
  match ← content bits with
  | 0 :: bytes => pure bytes
  | _ => failure

/-- An integer that is not below zero. A byte of zero stands in front only where the next byte needs
it. -/
def nonNegative : Reader Nat := do
  match ← content integer with
  | [] => failure
  | [0] => pure 0
  | 0 :: byte :: bytes => if 0x80 ≤ byte then pure (natural (byte :: bytes)) else failure
  | byte :: bytes => if byte < 0x80 then pure (natural (byte :: bytes)) else failure

/-- The values that are left, all of one kind. Their number is bounded. -/
def contents (kind : UInt8) : Nat → Reader (List (List UInt8))
  | 0 => failure
  | steps + 1 => do
      if ← isAtEnd then pure []
      else
        let first ← content kind
        pure (first :: (← contents kind steps))

end ClusterHosts.Der

namespace ClusterHosts

/-! ## Fields of certificates

Certificates as X.509 writes them, as far as it matters before any signature is checked. A
certificate that others are trusted by may be of the first version, which has no extensions.
-/

/-- What is known of a certificate. -/
structure Certificate where
  /-- The public key with its algorithm, as it is written. -/
  subjectKey : List UInt8
  deriving DecidableEq

namespace Certificate

open Der (Reader)

/-! ### Extensions -/

/-- An extension. A critical one must be understood. -/
structure Extension where
  name : List UInt8
  isCritical : Bool
  content : List UInt8
  deriving DecidableEq

/-- A truth value that is false if it is missing. -/
def criticality : Reader Bool := do
  if ← Der.isNext Der.truth then
    match ← Der.content Der.truth with
    | [0xFF] => pure true
    | [0x00] => pure false
    | _ => failure
  else pure false

/-- Reads an extension. -/
def extension : Reader Extension := do
  let name ← Der.content Der.identifier
  let isCritical ← criticality
  let content ← Der.content Der.octets
  pure ⟨name, isCritical, content⟩

/-- The number of an extension that is understood: the last byte of its name. -/
def Extension.number? (extension : Extension) : Option UInt8 :=
  match extension.name with
  | [0x55, 0x1D, number] => if [15, 17, 19, 30, 31, 37].contains number then some number else none
  | _ => none

/-- Whether an extension has the content that it should have: a sequence, but for the one about the
uses of the key. What is not understood may have any content if it is not critical. -/
def Extension.isWellFormed (extension : Extension) : Bool :=
  match extension.number? with
  | none => !extension.isCritical
  | some 15 => true
  | some _ => (Der.readAll? (Der.content Der.sequence) extension.content).isSome

/-- Whether extensions are well formed, and none of those that are understood comes twice. -/
def areWellFormed (extensions : List Extension) : Bool :=
  extensions.all Extension.isWellFormed &&
    decide (extensions.filterMap Extension.number?).Nodup

/-- Reads the extensions. -/
def extensions : Reader (List Extension) := do
  let written ← Der.inside Der.sequence do Der.contents Der.sequence ((← get).length + 1)
  liftM (written.mapM (Der.readAll? extension))

/-! ### Versions -/

/-- Reads a certificate of the third version without what surrounds it, given the algorithm that it
is signed with. -/
def thirdVersion (algorithm : List UInt8) : Reader Certificate := do
  let version ← Der.inside (Der.marked 0) Der.nonNegative
  let _serialNumber ← Der.content Der.integer
  let signature ← Der.content Der.sequence
  let _issuer ← Der.content Der.sequence
  let _validity ← Der.content Der.sequence
  let _subject ← Der.content Der.sequence
  let subjectKey ← Der.content Der.sequence
  let extensions ←
    if ← Der.isAtEnd then pure [] else Der.inside (Der.marked 3) extensions
  if version = 2 ∧ signature = algorithm ∧ areWellFormed extensions then pure ⟨subjectKey⟩
  else failure

/-- Reads a certificate of the first version without what surrounds it. -/
def firstVersion : Reader Certificate := do
  let _serialNumber ← Der.content Der.integer
  let _signature ← Der.content Der.sequence
  let _issuer ← Der.content Der.sequence
  let _validity ← Der.content Der.sequence
  let _subject ← Der.content Der.sequence
  let subjectKey ← Der.content Der.sequence
  pure ⟨subjectKey⟩

/-- What is signed, and the algorithm that it is signed with. -/
def signed : Reader (List UInt8 × List UInt8) := Der.inside Der.sequence do
  let content ← Der.content Der.sequence
  let algorithm ← Der.content Der.sequence
  let _signature ← Der.wholeBits
  pure (content, algorithm)

/-- The certificate of the third version that bytes stand for. -/
def ofBytes? (bytes : List UInt8) : Option Certificate := do
  let (content, algorithm) ← Der.readAll? signed bytes
  Der.readAll? (thirdVersion algorithm) content

/-- Whether others can be trusted by the certificate that bytes stand for. -/
def isAnchor (bytes : List UInt8) : Bool :=
  match Der.readAll? signed bytes with
  | none => false
  | some (content, algorithm) =>
      (Der.readAll? (thirdVersion algorithm) content).isSome ||
        (Der.readAll? firstVersion content).isSome

end Certificate

end ClusterHosts

namespace ClusterHosts.Pem

/-! ## PEM

Bytes in texts, in sections between two lines of dashes that name what the section is. There are two
ways to read the sections of a text, which differ in what they do about mistakes: one looks for the
dashes anywhere, the other one goes from line to line.
-/

/-- A section. -/
structure Section where
  label : String
  content : List UInt8
  deriving DecidableEq

/-- The bytes in front of the label of a section. -/
def beginMark : List UInt8 := "-----BEGIN ".toUTF8.toList

/-- The bytes in front of the label at the end of a section. -/
def endMark : List UInt8 := "-----END ".toUTF8.toList

/-- The bytes behind a label. -/
def dashes : List UInt8 := "-----".toUTF8.toList

/-- The text that bytes stand for. -/
def text? (bytes : List UInt8) : Option String := String.fromUTF8? ⟨bytes.toArray⟩

/-! ### Anywhere -/

/-- Passes over bytes up to the end of a mark, of which some bytes are missing still. A byte that
does not continue the mark is not looked at again as the start of another one. -/
def passMark? (mark : List UInt8) : (missing : List UInt8) → List UInt8 →
    Option (List UInt8 × List UInt8)
  | [], bytes => some ([], bytes)
  | _ :: _, [] => none
  | expected :: missing, byte :: bytes =>
      (passMark? mark (if byte = expected then missing else mark) bytes).map
        fun (passed, rest) => (byte :: passed, rest)

/-- The bytes before a mark, and those behind it. -/
def splitAt? (mark bytes : List UInt8) : Option (List UInt8 × List UInt8) :=
  (passMark? mark mark bytes).map fun (passed, rest) =>
    (passed.take (passed.length - mark.length), rest)

/-- Bytes behind blanks and line breaks. -/
def dropSpace (bytes : List UInt8) : List UInt8 :=
  bytes.dropWhile fun byte => byte == 32 || byte == 9 || byte == 10 || byte == 13

/-- What is between the marks of a section. -/
structure Draft where
  label : List UInt8
  body : List UInt8
  endLabel : List UInt8

/-- The first section, and the bytes behind it. -/
def draft? (bytes : List UInt8) : Option (Draft × List UInt8) := do
  let (_, rest) ← splitAt? beginMark bytes
  let (label, rest) ← splitAt? dashes rest
  let (body, rest) ← splitAt? endMark (dropSpace rest)
  let (endLabel, rest) ← splitAt? dashes rest
  pure (⟨label, body, endLabel⟩, dropSpace rest)

/-- At most a number of sections. -/
def drafts : Nat → List UInt8 → List Draft
  | 0, _ => []
  | steps + 1, bytes =>
      match draft? bytes with
      | none => []
      | some (draft, rest) => draft :: drafts steps rest

/-- The headers of a section, which stand before an empty line, and the rest. -/
def splitHeaders (body : List UInt8) : List UInt8 × List UInt8 :=
  ((splitAt? [10, 10] body).or (splitAt? [13, 10, 13, 10] body)).getD ([], body)

/-- The lines of headers. -/
def headerLines (headers : List Char) : List (List Char) :=
  let lines := Text.split '\n' headers
  if lines.getLast? = some [] then lines.dropLast else lines

/-- The section, unless there is a mistake in it. Its labels must agree, and each header has a
colon. -/
def Draft.section? (draft : Draft) : Option Section := do
  let label ← text? draft.label
  let endLabel ← text? draft.endLabel
  let (headers, data) := splitHeaders draft.body
  let data ← text? data
  let headers ← text? headers
  let content ← Text.ofBase64? (data.toList.filter fun c => !Text.isBlank c)
  if label.isEmpty || label != endLabel then none
  else if (headerLines headers.toList).all (·.contains ':') then pure ⟨label, content⟩
  else none

/-- The sections that are found anywhere in bytes, unless there is a mistake in one of them. -/
def sections? (bytes : List UInt8) : Option (List Section) :=
  (drafts (bytes.length + 1) bytes).mapM Draft.section?

/-! ### From line to line -/

/-- The lines of bytes, each with its line break, which is one byte. -/
def lines : List UInt8 → List (List UInt8)
  | [] => []
  | byte :: bytes =>
      if byte = 10 ∨ byte = 13 then [byte] :: lines bytes
      else match lines bytes with
        | [] => [[byte]]
        | line :: lines => (byte :: line) :: lines

/-- The label in a line that starts a section. Five dashes must end the line. -/
def labelOfLine? (line : List UInt8) : Option (List UInt8) :=
  let name := (line.drop beginMark.length).reverse
  let name := name.dropWhile fun byte => byte == 32 || byte == 10 || byte == 13
  if (name.takeWhile (· == 45)).length = 5 then some (name.drop 5).reverse else none

/-- The labels of sections that are not passed over. -/
def knownLabels : List String := ["CERTIFICATE", "PUBLIC KEY", "RSA PRIVATE KEY", "PRIVATE KEY",
  "EC PRIVATE KEY", "X509 CRL", "CERTIFICATE REQUEST"]

/-- The content of lines in a section. -/
def contentOfLines? (bytes : List UInt8) : Option (List UInt8) :=
  Text.ofBase64? ((bytes.filter fun byte => !([32, 9, 10, 13] : List UInt8).contains byte).map
    fun byte => Char.ofNat byte.toNat)

/-- The sections of lines. Behind the first line of a section comes its content so far. -/
def sectionsOfLines? : Option (List UInt8 × List UInt8) → List (List UInt8) → Option (List Section)
  | some _, [] => none
  | none, [] => some []
  | current, line :: lines =>
      if beginMark.isPrefixOf line then do
        let label ← labelOfLine? line
        sectionsOfLines? (some (label, (current.map Prod.snd).getD [])) lines
      else match current with
        | none => sectionsOfLines? none lines
        | some (label, content) =>
            if (endMark ++ label ++ dashes).isPrefixOf line then do
              let sections ← sectionsOfLines? none lines
              match text? label with
              | none => pure sections
              | some label =>
                  if knownLabels.contains label then
                    pure (⟨label, ← contentOfLines? content⟩ :: sections)
                  else pure sections
            else sectionsOfLines? (some (label, content ++ line)) lines

/-- The sections that start and end in lines of their own. Those with unknown labels are passed
over. -/
def lineSections? (bytes : List UInt8) : Option (List Section) :=
  sectionsOfLines? none (lines bytes)

end ClusterHosts.Pem

namespace ClusterHosts

/-! ## Identities

A certificate that someone shows, with the private key that belongs to it. A key is for RSA, or for
one of a few elliptic curves; that it is the key of the certificate is seen from the public half of
the key where the key has it.
-/

open Der (Reader)

/-! ### Algorithms -/

/-- The algorithm RSA, with no parameters. -/
def Der.rsa : List UInt8 :=
  [0x06, 0x09, 0x2A, 0x86, 0x48, 0x86, 0xF7, 0x0D, 0x01, 0x01, 0x01, 0x05, 0x00]

/-- The name of the algorithms on elliptic curves. -/
def Der.curves : List UInt8 := [0x06, 0x07, 0x2A, 0x86, 0x48, 0xCE, 0x3D, 0x02, 0x01]

/-- The names of the elliptic curves of 256, 384 and 521 bits, and how many bytes a private key has
there. -/
def Der.curveNames : List (List UInt8 × Nat) := [
  ([0x06, 0x08, 0x2A, 0x86, 0x48, 0xCE, 0x3D, 0x03, 0x01, 0x07], 32),
  ([0x06, 0x05, 0x2B, 0x81, 0x04, 0x00, 0x22], 48),
  ([0x06, 0x05, 0x2B, 0x81, 0x04, 0x00, 0x23], 66)]

/-- The algorithm on the Edwards curve of 255 bits. -/
def Der.edwards : List UInt8 := [0x06, 0x03, 0x2B, 0x65, 0x70]

/-! ### Public keys -/

/-- A public key as it is written: the algorithm and the bits. -/
structure PublicKey where
  algorithm : List UInt8
  key : List UInt8
  deriving DecidableEq

/-- Reads a public key. -/
def PublicKey.reader : Reader PublicKey := do
  let algorithm ← Der.content Der.sequence
  let key ← Der.wholeBits
  pure ⟨algorithm, key⟩

/-- The public key of a certificate. -/
def Certificate.key? (certificate : Certificate) : Option PublicKey :=
  Der.readAll? PublicKey.reader certificate.subjectKey

/-! ### Private keys -/

/-- A private key, as far as it tells the public one. -/
inductive PrivateKey where
  | rsa (modulus exponent : Nat)
  /-- A key on a curve with a name, perhaps with the bits of the public key. -/
  | curve (name : List UInt8) (key : Option (List UInt8))
  | edwards

namespace PrivateKey

/-- Reads a key for RSA: the modulus, the two exponents, the two primes and three numbers that
follow from them. -/
def rsaNumbers : Reader PrivateKey := Der.inside Der.sequence do
  let version ← Der.nonNegative
  let modulus ← Der.nonNegative
  let exponent ← Der.nonNegative
  let secret ← Der.nonNegative
  let first ← Der.nonNegative
  let second ← Der.nonNegative
  let firstSecret ← Der.nonNegative
  let secondSecret ← Der.nonNegative
  let inverse ← Der.nonNegative
  if version = 0 ∧ first * second = modulus ∧ Nat.pow 2 2047 ≤ modulus ∧
      modulus < Nat.pow 2 8192 ∧ secret % (first - 1) = firstSecret ∧
      secret % (second - 1) = secondSecret ∧ exponent * firstSecret % (first - 1) = 1 ∧
      exponent * secondSecret % (second - 1) = 1 ∧ inverse * second % first = 1 then
    pure (.rsa modulus exponent)
  else failure

/-- Reads what is there under a mark, if it is there. -/
def marked? {α : Type} (number : UInt8) (reader : Reader α) : Reader (Option α) := do
  if ← Der.isNext (Der.marked number) then
    pure (some (← Der.inside (Der.marked number) reader))
  else pure none

/-- Reads all bytes that are left. -/
def remaining : Reader (List UInt8) := do
  let bytes ← get
  set ([] : List UInt8)
  pure bytes

/-- Reads a key on a curve. The curve is named in the key or known from elsewhere. -/
def curveNumbers (known : Option (List UInt8)) : Reader PrivateKey := Der.inside Der.sequence do
  let version ← Der.nonNegative
  let secret ← Der.content Der.octets
  let own ← marked? 0 remaining
  let key ← marked? 1 Der.wholeBits
  match known.or own with
  | none => failure
  | some name =>
      if version = 1 ∧ (own.all (· == name)) ∧ Der.curveNames.lookup name = some secret.length then
        pure (.curve name key)
      else failure

/-- The key that bytes stand for, given its algorithm. -/
def ofAlgorithm? (algorithm bytes : List UInt8) : Option PrivateKey :=
  if algorithm = Der.rsa then Der.readAll? rsaNumbers bytes
  else if algorithm = Der.edwards then
    match Der.readAll? (Der.content Der.octets) bytes with
    | some secret => if secret.length = 32 then some .edwards else none
    | none => none
  else if Der.curves.isPrefixOf algorithm then
    Der.readAll? (curveNumbers (some (algorithm.drop Der.curves.length))) bytes
  else none

/-- Reads a key behind its algorithm. -/
def anyAlgorithm : Reader PrivateKey := Der.inside Der.sequence do
  let version ← Der.nonNegative
  let algorithm ← Der.content Der.sequence
  let bytes ← Der.content Der.octets
  let _attributes ← remaining
  if version ≤ 1 then liftM (ofAlgorithm? algorithm bytes) else failure

/-- The labels of private keys, the ones that count more first, and how to read them. -/
def readers : List (String × Reader PrivateKey) := [
  ("PRIVATE KEY", anyAlgorithm),
  ("RSA PRIVATE KEY", rsaNumbers),
  ("EC PRIVATE KEY", curveNumbers none)]

/-- Whether a private key is that of a public one, as far as it can be seen. -/
def isOf (key : PublicKey) : PrivateKey → Bool
  | .rsa modulus exponent =>
      key.algorithm == Der.rsa &&
        Der.readAll? (Der.inside Der.sequence do
          pure ((← Der.nonNegative), (← Der.nonNegative))) key.key == some (modulus, exponent)
  | .curve name own => key.algorithm == Der.curves ++ name && own.all (· == key.key)
  | .edwards => key.algorithm == Der.edwards

end PrivateKey

namespace Identity

/-- The key of the sections: the last one of the kind that counts most. -/
def privateKey? (sections : List Pem.Section) : Option PrivateKey :=
  (PrivateKey.readers.findSome? fun (label, reader) =>
    ((sections.filter (·.label == label)).getLast?).map fun found =>
      Der.readAll? reader found.content).join

/-- Whether bytes hold an identity: certificates and a key, which is that of the first of them, and
nothing else. -/
def isUsable (bytes : List UInt8) : Bool :=
  match Pem.lineSections? bytes with
  | none => false
  | some sections =>
      let labels := "CERTIFICATE" :: PrivateKey.readers.map Prod.fst
      let certificate? := (sections.find? (·.label == "CERTIFICATE")).bind fun found =>
        (Certificate.ofBytes? found.content).bind Certificate.key?
      match certificate?, privateKey? sections with
      | some key, some privateKey =>
          sections.all (fun found => labels.contains found.label) && privateKey.isOf key
      | _, _ => false

end Identity

end ClusterHosts
