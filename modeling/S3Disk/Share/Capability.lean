import S3Disk.Share.Reader
import S3Disk.SnapshotClosure

/-! One exact-key, time-limited GET authority: how it is made from a URL, exported as a
bearer and imported again. -/

namespace S3Disk.Share

open Concurrent

def maximumCapabilityURLBytes : Nat := 16 * 1024
def maximumCapabilityHeaders : Nat := 32
def maximumCapabilityHeaderValues : Nat := 64
def maximumCapabilityHeaderBytes : Nat := 16 * 1024
def maximumCapabilityLifetime : Int := 7 * 24 * 60 * 60 * 1000000000
def maximumBearerExportBytes : Nat := 128 * 1024

/-- What `net/url` makes of a URL; `text` is its `String()`. -/
structure URL where
  scheme : Bytes
  host : Bytes
  hostname : Bytes
  port : Bytes
  opaquePart : Bytes
  rawQuery : Bytes
  fragment : Bytes
  user : Bool
  text : Bytes
  deriving DecidableEq, Repr

structure IPAddress where
  text : Bytes
  loopback : Bool
  deriving DecidableEq, Repr

structure WireTime where
  instant : Time
  offset : Int
  deriving DecidableEq, Repr

structure WireHeader where
  name : Bytes
  values : List Bytes
  deriving DecidableEq, Repr

structure BearerExport where
  format : Int
  exactKey : Bytes
  url : Bytes
  headers : List WireHeader
  expiresAt : WireTime
  deriving DecidableEq, Repr

structure WireExactCapability where
  key : Bytes
  url : Bytes
  headers : List WireHeader
  expiresAt : WireTime
  deriving DecidableEq, Repr

structure BundlePayload where
  format : Int
  repositoryID : RepositoryID
  repositoryPrefix : Bytes
  referenceKey : Bytes
  shareID : ShareID
  revision : Nat
  referenceGeneration : Nat
  referenceCommit : Digest
  reference : Object
  authorizationExpiresAt : WireTime
  keyID : Bytes
  capabilities : List WireExactCapability
  deriving DecidableEq, Repr

structure SignedBundle where
  format : Int
  payload : BundlePayload
  signature : Bytes
  deriving DecidableEq, Repr

/-- `encoding/json` at one type, with unknown fields disallowed. Marshalling fails on a
time outside the years of RFC 3339; decoding also tells whether another value follows. -/
structure StreamJSON (α : Type) where
  marshal : α → Option Bytes
  decode : Bytes → Option (α × Bool)

def StreamJSON.ofList {α : Type} [DecidableEq α] (values : List α) : StreamJSON α where
  marshal value :=
    if values.contains value then some (List.replicate (values.idxOf value + 1) 0) else none
  decode data := (values.drop ((data.filter (· == 0)).length - 1)).head?.map fun value =>
    (value, false)

theorem StreamJSON.ofList_reads {α : Type} [DecidableEq α] {values : List α} {value : α}
    {data rest : Bytes} (marshalled : (ofList values).marshal value = some data)
    (others : ∀ byte ∈ rest, byte ≠ 0) :
    data ≠ [] ∧ (ofList values).decode (data ++ rest) = some (value, false) := by
  simp only [ofList, Option.ite_none_right_eq_some, List.contains_iff_mem,
    Option.some.injEq] at marshalled
  obtain ⟨member, rfl⟩ := marshalled
  have none : rest.filter (· == 0) = [] := by
    simpa [List.filter_eq_nil_iff] using others
  refine ⟨by simp, ?_⟩
  simp [ofList, none, List.head?_drop, List.getElem?_idxOf member]

structure Platform where
  wire : Wire
  sha256 : Bytes → Digest
  parseURL : Bytes → Option URL
  parseIP : Bytes → Option IPAddress
  toLower : Bytes → Bytes
  bearer : StreamJSON BearerExport
  payload : BundlePayload → Option Bytes
  bundle : StreamJSON SignedBundle

def invalidCapability (reason : String) : Err := Sentinel.invalidCapability.tagged [reason]

def validObjectKey (key : Bytes) : Bool :=
  key != [] && key.length ≤ 1024 && validUTF8 key && !key.contains 0

def parsePort (port : Bytes) : Option Nat :=
  if port = [] ∨ port.head? = some 48 ∨ ¬port.all (fun digit => 48 ≤ digit && digit ≤ 57) ∨
      port.length > 5 then none
  else
    let number := port.foldl (fun value digit => value * 10 + (digit.toNat - 48)) 0
    if number < 1 ∨ number > 65535 then none else some number

def joinHostPort (host port : Bytes) : Bytes :=
  if host.contains 58 then ascii "[" ++ host ++ ascii "]:" ++ port else host ++ ascii ":" ++ port

def validHeaderName (name : Bytes) : Bool :=
  name != [] && name.length ≤ 256 && name.all fun character =>
    (97 ≤ character && character ≤ 122) || (65 ≤ character && character ≤ 90) ||
      (48 ≤ character && character ≤ 57) || (ascii "!#$%&'*+-.^_`|~").contains character

def canonicalHeaderKey (name : Bytes) : Bytes := go true name
where
  go : Bool → Bytes → Bytes
    | _, [] => []
    | upper, character :: rest =>
        let canonical :=
          if upper && 97 ≤ character && character ≤ 122 then character - 32
          else if !upper && 65 ≤ character && character ≤ 90 then character + 32
          else character
        canonical :: go (canonical == 45) rest

def forbiddenCapabilityHeaders : List String :=
  ["authorization", "connection", "content-length", "cookie", "host", "if-none-match",
    "keep-alive", "if-match", "if-modified-since", "if-range", "if-unmodified-since",
    "proxy-authorization", "proxy-connection", "range", "set-cookie", "te", "trailer",
    "transfer-encoding", "upgrade", "forwarded", "x-forwarded-for", "x-forwarded-host",
    "x-forwarded-port", "x-forwarded-prefix", "x-forwarded-proto", "x-forwarded-server",
    "x-forwarded-uri", "x-forwarded-url", "x-http-method", "x-http-method-override",
    "x-method-override", "x-original-method", "x-rewrite-method", "x-original-host",
    "x-original-uri", "x-original-url", "x-rewrite-uri", "x-rewrite-url",
    "x-amz-server-side-encryption-customer-key", "x-amz-server-side-encryption-customer-key-md5"]

def forbiddenCapabilityHeader (name : Bytes) : Bool :=
  forbiddenCapabilityHeaders.any fun forbidden => ascii forbidden == name.map lowerASCII

abbrev Headers := List (Bytes × List Bytes)

structure HeaderTally where
  canonical : Headers
  totalBytes : Nat
  totalValues : Nat

def addHeaderValue (name : Bytes) (totalBytes : Nat) (value : Bytes) : Except Err Nat := do
  failIf (validUTF8 value = false ∨ value.any (fun byte => byte == 0 || byte == 13 || byte == 10))
    (invalidCapability "header value is invalid")
  let totalBytes := totalBytes + (name.length + value.length)
  failIf (totalBytes > maximumCapabilityHeaderBytes)
    (invalidCapability "headers exceed the byte bound")
  return totalBytes

def addHeader (tally : HeaderTally) (header : Bytes × List Bytes) : Except Err HeaderTally := do
  failIf (validHeaderName header.1 = false) (invalidCapability "header name is invalid")
  let name := canonicalHeaderKey header.1
  failIf (forbiddenCapabilityHeader name)
    (invalidCapability "hop-by-hop or framing header is forbidden")
  failIf (tally.canonical.any fun earlier => earlier.1 == name)
    (invalidCapability "duplicate canonical header name")
  failIf (header.2 = []) (invalidCapability "header has no value")
  let totalValues := tally.totalValues + header.2.length
  failIf (totalValues > maximumCapabilityHeaderValues)
    (invalidCapability "too many header values")
  let totalBytes ← header.2.foldlM (addHeaderValue name) tally.totalBytes
  return ⟨tally.canonical ++ [(name, header.2)], totalBytes, totalValues⟩

def validateCapabilityHeaders (headers : Headers) : Except Err Headers := do
  failIf (headers.length > maximumCapabilityHeaders) (invalidCapability "too many headers")
  let tally ← headers.foldlM addHeader ⟨[], 0, 0⟩
  return tally.canonical

def headersToWire (headers : Headers) : List WireHeader :=
  (headers.insertionSort fun left right => left.1 ≤ right.1).map
    fun header => ⟨header.1, header.2⟩

def checkWireHeaders : Bytes → List WireHeader → Except Err Unit
  | _, [] => .ok ()
  | previous, header :: rest => do
      failIf (previous ≠ [] ∧ header.name ≤ previous)
        (invalidCapability "wire headers are not uniquely sorted")
      checkWireHeaders header.name rest

def headersFromWire (headers : List WireHeader) : Except Err Headers := do
  failIf (headers.length > maximumCapabilityHeaders) (invalidCapability "too many headers")
  checkWireHeaders [] headers
  validateCapabilityHeaders (headers.map fun header => (header.name, header.values))

section

variable (platform : Platform)

def isLiteralLoopback (host : Bytes) : Bool :=
  (platform.parseIP host).any (·.loopback)

def validateCapabilityURL (rawURL : Bytes) (allowInsecureLoopback : Bool) :
    Except Err (Bytes × Bytes) := do
  failIf (rawURL = [] ∨ rawURL.length > maximumCapabilityURLBytes ∨ validUTF8 rawURL = false)
    (invalidCapability "URL length is outside the permitted bound")
  match platform.parseURL rawURL with
  | none => .error (invalidCapability "URL must be absolute")
  | some parsed => do
      failIf (parsed.scheme = [] ∨ parsed.host = [] ∨ parsed.opaquePart ≠ [])
        (invalidCapability "URL must be absolute")
      failIf (parsed.user ∨ parsed.fragment ≠ [])
        (invalidCapability "URL userinfo and fragments are forbidden")
      failIf (parsed.scheme ≠ ascii "https" ∧ (parsed.scheme ≠ ascii "http" ∨
          allowInsecureLoopback = false ∨ isLiteralLoopback platform parsed.hostname = false))
        (invalidCapability "URL must use HTTPS")
      let hostname := platform.toLower parsed.hostname
      failIf (hostname = [] ∨ hostname.any fun byte => byte == 0 || byte == 13 || byte == 10)
        (invalidCapability "URL host is invalid")
      failIf (hostname.any fun byte => byte > 0x7f || byte == 37)
        (invalidCapability "URL host is invalid")
      failIf (parsed.host.getLast? = some 58) (invalidCapability "URL port is invalid")
      let port := if parsed.port ≠ [] then parsed.port
        else if parsed.scheme = ascii "https" then ascii "443" else ascii "80"
      failIf (parsePort port = none) (invalidCapability "URL port is invalid")
      let hostname := ((platform.parseIP hostname).map (·.text)).getD hostname
      return (parsed.text, parsed.scheme ++ ascii "://" ++ joinHostPort hostname port)

structure CapabilityMaterial where
  exactKey : Bytes
  rawURL : Bytes
  headers : Headers
  expiresAt : Time

def newCapability (material : CapabilityMaterial) (allowInsecureLoopback : Bool) (now : Time)
    (provenance : CapabilityProvenance) : Except Err Capability := do
  failIf (validObjectKey material.exactKey = false)
    (invalidCapability "claimed exact object key is invalid")
  failIf (material.expiresAt = zeroTime ∨ material.expiresAt ≤ now ∨
      material.expiresAt - now > maximumCapabilityLifetime)
    (invalidCapability "expiry is outside the permitted lifetime")
  let (rawURL, origin) ← validateCapabilityURL platform material.rawURL allowInsecureLoopback
  let headers ← validateCapabilityHeaders material.headers
  return { rawURL, headers, expiresAt := material.expiresAt, origin,
           exactKey := material.exactKey, provenance }

def encodeBearer (capability : Capability) : Except Err Bytes :=
  match platform.bearer.marshal
    ⟨1, capability.exactKey, capability.rawURL, headersToWire capability.headers,
      ⟨capability.expiresAt, 0⟩⟩ with
  | none => .error (invalidCapability "bearer export exceeds its encoding bound")
  | some encoded =>
      if encoded.length > maximumBearerExportBytes then
        .error (invalidCapability "bearer export exceeds its encoding bound")
      else .ok encoded

def exportBearer (capability : Capability) : Except Err Bytes := do
  failIf (capability.configured = false)
    (invalidCapability "cannot export an unconfigured value")
  failIf (capability.provenance ≠ .exactGET ∧ capability.provenance ≠ .importedBearer)
    (invalidCapability "capability lacks verified exact-GET mint provenance")
  encodeBearer platform capability

def decodeBearer (data : Bytes) : Except Err BearerExport := do
  failIf (data = [] ∨ data.length > maximumBearerExportBytes)
    (invalidCapability "bearer encoding length is outside the permitted bound")
  match platform.bearer.decode data with
  | none => .error (invalidCapability "bearer encoding is malformed")
  | some (wire, another) => do
      failIf another (invalidCapability "bearer encoding has a trailing JSON value")
      failIf (platform.bearer.marshal wire ≠ some data ∨ wire.format ≠ 1)
        (invalidCapability "bearer encoding is not canonical")
      return wire

def parseBearer (data : Bytes) (allowInsecureLoopback : Bool) : Sharing Capability := do
  let wire ← .ofExcept (decodeBearer platform data)
  let headers ← .ofExcept ((headersFromWire wire.headers).mapError
    fun _ => invalidCapability "bearer headers are invalid")
  let time ← now
  .ofExcept ((newCapability platform
    ⟨wire.exactKey, wire.url, headers, wire.expiresAt.instant⟩ allowInsecureLoopback time
      .importedBearer).mapError fun _ => invalidCapability "bearer capability is invalid")

end

end S3Disk.Share
