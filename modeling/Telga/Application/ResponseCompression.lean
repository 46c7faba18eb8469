import Telga.Library.Search
import Telga.Library.Utf8

namespace Telga.Application
open Library

/-- A response's headers by name. A cookie header has several values. -/
abbrev HeaderRecord := List (String × List String)

/-- `headers[name] = values`, where the name keeps its place when it is there. -/
def HeaderRecord.put (headers : HeaderRecord) (name : String) (values : List String) :
    HeaderRecord :=
  if headers.any (·.1 = name) then
    headers.map fun header => if header.1 = name then (name, values) else header
  else headers ++ [(name, values)]

/-- `delete headers[name]`. -/
def HeaderRecord.delete (headers : HeaderRecord) (name : String) : HeaderRecord :=
  headers.filter (·.1 ≠ name)

structure ResponseHead where
  status : Nat
  headers : HeaderRecord

/-- What a route hands to `write` or `end`. -/
inductive BodyChunk
  | text (value : String)
  | buffer (value : List UInt8)

def BodyChunk.bytes : BodyChunk → List UInt8
  | text value => utf8Bytes value.toList
  | buffer value => value

/-- What may be thrown while a response is written. -/
inductive ResponseError
  | headersSent
  | routeFailed
deriving DecidableEq

/-- Node's response: the head once it is written, and the body so far. -/
structure NodeResponse where
  head : Option ResponseHead := none
  body : List UInt8 := []
  ended : Bool := false

/-- A call of one of a response's methods. What was changed before it throws stays changed. -/
abbrev ResponseCall (σ α : Type) := EStateM ResponseError σ α

namespace NodeResponse

def writeHead (head : ResponseHead) : ResponseCall NodeResponse Unit := do
  let response ← get
  if response.head.isSome then throw .headersSent
  set { response with head := some head }

def removeHeader (_name : String) : ResponseCall NodeResponse Unit := do
  let response ← get
  -- The headers a route gives to `writeHead` were never set one by one.
  if response.head.isSome then throw .headersSent

def write (bytes : List UInt8) : ResponseCall NodeResponse Unit :=
  modify fun response =>
    { response with head := response.head <|> some ⟨200, []⟩, body := response.body ++ bytes }

def finish (bytes : List UInt8) : ResponseCall NodeResponse Unit := do
  write bytes
  modify fun response => { response with ended := true }

end NodeResponse

/-- The three methods a route writes its response with. -/
structure ResponseMethods (σ : Type) where
  writeHead : ResponseHead → ResponseCall σ Unit
  write : BodyChunk → ResponseCall σ Unit
  finish : Option BodyChunk → ResponseCall σ Unit

def chunkBytes (chunk : Option BodyChunk) : List UInt8 :=
  (chunk.map BodyChunk.bytes).getD []

def nodeMethods : ResponseMethods NodeResponse where
  writeHead := NodeResponse.writeHead
  write chunk := NodeResponse.write chunk.bytes
  finish chunk := NodeResponse.finish (chunkBytes chunk)

/-- What is wrapped around a response: whether it is compressed, what was written so far, and what
`gzip` was given. -/
structure CompressedResponse where
  original : NodeResponse := {}
  compress : Bool := false
  chunks : List UInt8 := []
  packing : Option (List UInt8) := none

/-- A call of one of the methods which were there before. -/
def callOriginal (call : ResponseCall NodeResponse Unit) : ResponseCall CompressedResponse Unit :=
  fun wrapped =>
    match call wrapped.original with
    | .ok result original => .ok result { wrapped with original }
    | .error error original => .error error { wrapped with original }

def includesText (text pattern : String) : Bool :=
  (indexOf pattern.toList text.toList).isSome

/-- `/text\/|application\/(json|javascript|manifest)/`. -/
def compressible (contentType : String) : Bool :=
  ["text/", "application/json", "application/javascript", "application/manifest"].any
    (includesText contentType)

/-- `String(headers['content-type'] ?? '')`. -/
def contentTypeOf (headers : HeaderRecord) : String :=
  ((headers.lookup "content-type").map (String.intercalate ",")).getD ""

/-- The headers of a response that is compressed. -/
def mergedHeaders (headers : HeaderRecord) : HeaderRecord :=
  let merged := (headers.put "content-encoding" ["gzip"]).put "vary" ["accept-encoding"]
  (merged.delete "content-length").delete "Content-Length"

/-- Below about a kilobyte the gzip header costs more than it saves. -/
def smallestPacked : Nat := 1024

def compressedMethods : ResponseMethods CompressedResponse where
  writeHead head := do
    let compress := compressible (contentTypeOf head.headers)
    modify fun wrapped => { wrapped with compress }
    if compress then
      callOriginal (NodeResponse.writeHead ⟨head.status, mergedHeaders head.headers⟩)
    else callOriginal (NodeResponse.writeHead head)
  write chunk := do
    let wrapped ← get
    if wrapped.compress then
      set { wrapped with chunks := wrapped.chunks ++ chunk.bytes }
    else callOriginal (NodeResponse.write chunk.bytes)
  finish chunk := do
    let wrapped ← get
    if wrapped.compress then
      let raw := wrapped.chunks ++ chunkBytes chunk
      set { wrapped with chunks := raw }
      if raw.length < smallestPacked then
        callOriginal (NodeResponse.removeHeader "content-encoding")
        callOriginal (NodeResponse.finish raw)
      else
        set { wrapped with chunks := raw, packing := some raw }
    else callOriginal (NodeResponse.finish (chunkBytes chunk))

/-- `gzip` has finished. Where it failed, the bytes go out as they were written. -/
def CompressedResponse.packed (gzip : List UInt8 → Option (List UInt8))
    (wrapped : CompressedResponse) : NodeResponse :=
  match wrapped.packing with
  | none => wrapped.original
  | some raw =>
    match NodeResponse.finish ((gzip raw).getD raw) wrapped.original with
    | .ok _ original | .error _ original => original

/-- The response a route writes: one head, writes, and an end. The till's routes name headers in
small letters, encode nothing themselves, and give no length but that of what they write. -/
structure RouteResponse where
  head : ResponseHead
  writes : List BodyChunk := []
  last : Option BodyChunk
  lowercase : ∀ header ∈ head.headers, header.1.toList.all (fun char => !char.isUpper) = true
  uncoded : ∀ header ∈ head.headers, header.1 ≠ "content-encoding" ∧ header.1 ≠ "vary"
  measured : ∀ values, head.headers.lookup "content-length" = some values →
    values = [toString (writes.flatMap BodyChunk.bytes ++ chunkBytes last).length]

/-- The bytes a route wrote. -/
def RouteResponse.bytes (response : RouteResponse) : List UInt8 :=
  response.writes.flatMap BodyChunk.bytes ++ chunkBytes response.last

variable {σ : Type}

def writeAll (methods : ResponseMethods σ) : List BodyChunk → ResponseCall σ Unit
  | [] => pure ()
  | chunk :: chunks => do
    methods.write chunk
    writeAll methods chunks

def respond (methods : ResponseMethods σ) (response : RouteResponse) : ResponseCall σ Unit := do
  methods.writeHead response.head
  writeAll methods response.writes
  methods.finish response.last

/-- Never a stack trace and never a message: a safe code is the floor. -/
def unexpectedError : RouteResponse where
  head := ⟨500, [("content-type", ["application/json; charset=utf-8"])]⟩
  last := some (.text
    "\x7b\"ok\":false,\"error\":\x7b\"reasonCode\":\"POS_UNEXPECTED_ERROR\"\x7d\x7d")
  lowercase := by simp
  uncoded := by simp
  measured := by simp [List.lookup_cons]

/-- What a request leads to: the response a route writes, or an error before it wrote one. -/
inductive RouteOutcome
  | responds (response : RouteResponse)
  | fails

/-- The response that is to reach the client. -/
def RouteOutcome.written : RouteOutcome → RouteResponse
  | responds response => response
  | fails => unexpectedError

def runRoute (methods : ResponseMethods σ) : RouteOutcome → ResponseCall σ Unit
  | .responds response => respond methods response
  | .fails => throw .routeFailed

/-- The handler of one request. What its `catch` throws is a rejection nobody handles. -/
def serveRoute (methods : ResponseMethods σ) (outcome : RouteOutcome) : ResponseCall σ Unit :=
  tryCatch (runRoute methods outcome) fun _ => respond methods unexpectedError

/-- The response a client is sent. There is none when a rejection ended the process. -/
def withCompression (gzip : List UInt8 → Option (List UInt8)) (acceptEncoding : Option String)
    (outcome : RouteOutcome) : Option NodeResponse :=
  if includesText (acceptEncoding.getD "") "gzip" = false then
    match serveRoute nodeMethods outcome {} with
    | .ok _ response => some response
    | .error _ _ => none
  else
    match serveRoute compressedMethods outcome {} with
    | .ok _ wrapped => some (wrapped.packed gzip)
    | .error _ _ => none

end Telga.Application
