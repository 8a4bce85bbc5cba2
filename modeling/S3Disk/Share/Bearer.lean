import Mathlib.Data.List.Sort
import S3Disk.ConcreteWire
import S3Disk.JsonShapes
import S3Disk.Library.Checks
import S3Disk.Library.JsonLengths
import S3Disk.Library.Rfc3339
import S3Disk.Library.Urls
import S3Disk.Share.Capability

/-! The bearer of a capability is the JSON of its key, its URL, its headers and its expiry. -/

namespace S3Disk.Share

open Concurrent
open Json (Value)

def readURL (url : Urls.Url) : URL :=
  let (hostname, port) := Urls.splitHostPort url.host
  { scheme := url.scheme, host := url.host, hostname, port, opaquePart := url.opaquePart,
    rawQuery := url.rawQuery, fragment := url.fragment, user := url.user, text := url.render }

def wireHeaderValue (header : WireHeader) : Value :=
  .object [(ascii "name", .string header.name),
    (ascii "values", .array (header.values.map Value.string))]

def bearerValue (bearer : BearerExport) (time : Bytes) : Value :=
  .object [(ascii "format", .number bearer.format), (ascii "exact_key", .string bearer.exactKey),
    (ascii "url", .string bearer.url), (ascii "headers", .array (bearer.headers.map wireHeaderValue)),
    (ascii "expires_at", .string time)]

def marshalBearer (bearer : BearerExport) : Option Bytes :=
  (Rfc3339.format bearer.expiresAt.instant bearer.expiresAt.offset).map fun time =>
    (bearerValue bearer time).encode

def readWireText : Value → Option Bytes
  | .string text => some text
  | _ => none

def readWireHeader : Value → Option WireHeader
  | .object [(name, .string text), (values, .array items)] =>
      if name = ascii "name" ∧ values = ascii "values" then
        (items.mapM readWireText).map fun texts => ⟨text, texts⟩
      else none
  | _ => none

def readBearer : Value → Option BearerExport
  | .object [(format, .number number), (exactKey, .string key), (url, .string text),
      (headers, .array items), (expiresAt, .string time)] =>
      if format = ascii "format" ∧ exactKey = ascii "exact_key" ∧ url = ascii "url" ∧
          headers = ascii "headers" ∧ expiresAt = ascii "expires_at" then do
        let wires ← items.mapM readWireHeader
        let (instant, offset) ← Rfc3339.parse time
        return ⟨number, key, text, wires, ⟨instant, offset⟩⟩
      else none
  | _ => none

def unmarshalBearer (data : Bytes) : Option BearerExport := (Json.parse data).bind readBearer

namespace SampleBearer

def platform : Platform where
  wire := concreteWire
  sha256 bytes := ⟨bytes⟩
  parseURL text := (Urls.parse text).map readURL
  parseIP _ := none
  toLower text := text.map lowerASCII
  bearer := ⟨marshalBearer, fun data => (unmarshalBearer data).map fun read => (read, false)⟩
  payload _ := none
  bundle := .ofList []

end SampleBearer

end S3Disk.Share
