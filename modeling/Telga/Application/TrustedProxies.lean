import Telga.Domain.Text
import Telga.Library.Addresses

namespace Telga.Application
open Domain Library
open Ip (Address Family decimalValue hexLower)

/-- Strip the prefix of an IPv6-mapped IPv4 address, or else the zone. -/
def normalizeText (trimmed : List Char) : List Char :=
  if "::ffff:".toList.isPrefixOf trimmed then trimmed.drop 7
  else trimmed.takeWhile (· ≠ '%')

def normalizeAddress (toLowerCase : String → String) : Option String → List Char
  | none => []
  | some address => if address = "" then [] else normalizeText (toLowerCase (trim address)).toList

/-- The numbers of a dotted quad, one by one. -/
def readOctets : List (List Char) → Option (List Nat)
  | [] => some []
  | part :: parts =>
    if part = [] ∨ 3 < part.length ∨ part.all Char.isDigit = false then none
    else
      let value := decimalValue part
      if 255 < value then none else (readOctets parts).map (value :: ·)

/-- Rejects anything that is not exactly four bytes. -/
def parseIpv4 (text : List Char) : Option Address :=
  let parts := splitAtEach '.' text
  if parts.length ≠ 4 then none else (readOctets parts).map (⟨·, .v4⟩)

def readGroups : List (List Char) → Option (List Nat)
  | [] => some []
  | group :: groups =>
    if '.' ∈ group then
      -- A dotted quad is only legal as the final element.
      if groups ≠ [] then none else (parseIpv4 group).map Address.bytes
    else if group = [] ∨ 4 < group.length ∨ group.all hexLower = false then none
    else
      let value := hexValue group
      (readGroups groups).map ([value >>> 8 &&& 0xff, value &&& 0xff] ++ ·)

def readSegment (segment : List Char) : Option (List Nat) :=
  if segment = [] then some [] else readGroups (splitAtEach ':' segment)

def parseIpv6 (text : List Char) : Option Address :=
  if text = [] then none
  else
    match splitAtPairs ':' text with
    | [whole] => do
      let head ← readSegment whole
      if head.length = 16 then some ⟨head, .v6⟩ else none
    | [first, second] => do
      let head ← readSegment first
      let tail ← readSegment second
      -- `::` must stand for at least one elided group.
      let missing : Int := 16 - head.length - tail.length
      if missing < 1 then none
      else some ⟨head ++ List.replicate missing.toNat 0 ++ tail, .v6⟩
    | _ => none

def parseNormalized (normalized : List Char) : Option Address :=
  if normalized = [] then none
  else if ':' ∈ normalized then parseIpv6 normalized
  else parseIpv4 normalized

/-- Parse an address of either family. -/
def parseAddress (toLowerCase : String → String) (text : Option String) : Option Address :=
  parseNormalized (normalizeAddress toLowerCase text)

/-- A trusted-proxy entry, once parsed: one address, or a range of them. -/
structure TrustedRange where
  address : Address
  prefixLength : Nat
deriving DecidableEq

/-- The text before the last slash and the text behind it. -/
def splitAtSlash (entry : List Char) : Option (List Char × List Char) :=
  if '/' ∈ entry then
    let suffix := (entry.reverse.takeWhile (· ≠ '/')).reverse
    some (entry.take (entry.length - suffix.length - 1), suffix)
  else none

/-- Parse one `--trust-proxy` entry: `10.0.0.7`, or `100.64.0.0/10`. -/
def parseTrustedEntry (toLowerCase : String → String) (entry : String) : Option TrustedRange :=
  let trimmed := trim entry
  if trimmed = "" then none
  else
    match splitAtSlash trimmed.toList with
    | none => (parseAddress toLowerCase (some trimmed)).map fun address =>
        ⟨address, address.bytes.length * 8⟩
    | some (front, suffix) => do
      let address ← parseAddress toLowerCase (some (String.ofList front))
      if suffix = [] ∨ suffix.all Char.isDigit = false then none
      else
        let prefixLength := decimalValue suffix
        let width := address.bytes.length * 8
        if prefixLength < 1 ∨ width < prefixLength then none else some ⟨address, prefixLength⟩

/-- The bytes whose leading bits are to be compared. -/
def leadingEqual : List Nat → List Nat → Nat → Bool
  | [], _, _ => true
  | byte :: bytes, others, remaining =>
    if remaining = 0 then true
    else
      let bits := min 8 remaining
      let mask := (0xff <<< (8 - bits)) &&& 0xff
      if byte &&& mask ≠ others.headD 0 &&& mask then false
      else leadingEqual bytes others.tail (remaining - bits)

/-- Whether an address falls inside a range. Families never match each other. -/
def addressInRange (candidate : Address) (range : TrustedRange) : Bool :=
  if candidate.family ≠ range.address.family then false
  else leadingEqual candidate.bytes range.address.bytes range.prefixLength

/-- Whether a connection came from a configured trusted proxy. -/
def fromTrustedProxy (toLowerCase : String → String) (trustProxy : Option (List String))
    (remoteAddress : Option String) : Bool :=
  match trustProxy with
  | none => false
  | some trusted =>
    match parseAddress toLowerCase remoteAddress with
    | none =>
      -- Not parseable as an address: the exact comparison of the texts.
      let normalized := normalizeAddress toLowerCase remoteAddress
      if normalized = [] then false
      else trusted.any fun entry => normalizeAddress toLowerCase (some entry) = normalized
    | some candidate =>
      trusted.any fun entry =>
        match parseTrustedEntry toLowerCase entry with
        | none => false
        | some range => addressInRange candidate range

end Telga.Application
