import Telga.Library.Entries
import Telga.Application.ResponseCompression

namespace Telga.Proofs.ResponseCompression
open Application Library

/-- The names a body's encoding is told under. -/
def Encoding (name : String) : Prop :=
  name ∈ ["content-encoding", "vary", "content-length"]

instance (name : String) : Decidable (Encoding name) :=
  inferInstanceAs (Decidable (name ∈ ["content-encoding", "vary", "content-length"]))

/-- The headers which are not about how a body is encoded. -/
def described (headers : HeaderRecord) : HeaderRecord :=
  headers.filter fun header => ¬ Encoding header.1

/-- What a client makes of a body: it undoes the encoding the head declares. -/
def undone (gunzip : List UInt8 → Option (List UInt8)) (head : ResponseHead) (body : List UInt8) :
    Option (List UInt8) :=
  match head.headers.lookup "content-encoding" with
  | none => some body
  | some values => if values = ["gzip"] then gunzip body else none

/-- A head has a response's status and its headers, and tells no wrong length of a body. -/
structure Headed (response : RouteResponse) (head : ResponseHead) (body : List UInt8) : Prop where
  status : head.status = response.head.status
  headers : described head.headers = described response.head.headers
  measured : ∀ values, head.headers.lookup "content-length" = some values →
    values = [toString body.length]

/-- The process is still there, and its client has what the route wrote. -/
def Delivered (gunzip : List UInt8 → Option (List UInt8)) (response : RouteResponse) :
    Option NodeResponse → Prop
  | none => False
  | some sent => sent.ended = true ∧ ∃ head, sent.head = some head ∧
      Headed response head sent.body ∧ undone gunzip head sent.body = some response.bytes

/-- A response that is to be compressed has a kilobyte, and `gzip` makes something of it, unless
its bytes are those which they pack themselves. -/
def Packs (gzip gunzip : List UInt8 → Option (List UInt8)) (acceptEncoding : Option String)
    (response : RouteResponse) : Prop :=
  includesText (acceptEncoding.getD "") "gzip" = true →
    compressible (contentTypeOf response.head.headers) = true →
      smallestPacked ≤ response.bytes.length ∧
        (gzip response.bytes = none → gunzip response.bytes = some response.bytes)

section Headers

variable {headers : HeaderRecord} {name other : String} {values : List String}

theorem described_nil : described [] = [] := rfl

theorem described_about (header : String × List String) (about : Encoding header.1) :
    described (header :: headers) = described headers := by
  apply List.filter_cons_of_neg
  simpa using about

theorem described_other (header : String × List String) (other : ¬ Encoding header.1) :
    described (header :: headers) = header :: described headers := by
  apply List.filter_cons_of_pos
  simpa using other

theorem described_append (more : HeaderRecord) :
    described (headers ++ more) = described headers ++ described more :=
  List.filter_append headers more

/-- Giving a header about the encoding changes no other. -/
theorem described_put (about : Encoding name) :
    described (headers.put name values) = described headers := by
  unfold HeaderRecord.put
  split
  · clear * - about
    induction headers with
    | nil => rfl
    | cons header headers ih =>
      rw [List.map_cons]
      by_cases same : header.1 = name
      · rw [if_pos same, described_about (name, values) about,
          described_about header (same ▸ about), ih]
      · rw [if_neg same]
        by_cases about' : Encoding header.1
        · rw [described_about header about', described_about header about', ih]
        · rw [described_other header about', described_other header about', ih]
  · rw [described_append, described_about (name, values) about, described_nil, List.append_nil]

/-- Nor does taking one away. -/
theorem described_delete (about : Encoding name) :
    described (headers.delete name) = described headers := by
  unfold described HeaderRecord.delete
  rw [List.filter_filter]
  apply List.filter_congr
  intro header _
  by_cases same : header.1 = name
  · have dropped : Encoding header.1 := same ▸ about
    simp [dropped]
  · simp [same]

/-- A header that is not there cannot be taken away. -/
theorem delete_missing (missing : ∀ header ∈ headers, header.1 ≠ name) :
    headers.delete name = headers := by
  apply List.filter_eq_self.mpr
  intro header listed
  exact decide_eq_true (missing header listed)

theorem lookup_put : (headers.put name values).lookup name = some values :=
  Entries.lookup_put

theorem lookup_put_other (differs : other ≠ name) :
    (headers.put name values).lookup other = headers.lookup other :=
  Entries.lookup_put_other differs

theorem lookup_delete_other (differs : other ≠ name) :
    (headers.delete name).lookup other = headers.lookup other :=
  Entries.lookup_delete_other differs

theorem lookup_delete : (headers.delete name).lookup name = none :=
  Entries.lookup_delete

end Headers

section Heads

variable {response : RouteResponse}

theorem lowercase_missing : ∀ header ∈ described response.head.headers,
    header.1 ≠ "Content-Length" := by
  intro header listed same
  have small := response.lowercase header (List.mem_of_mem_filter listed)
  rw [same] at small
  exact absurd small (by decide)

/-- The headers of a compressed response are those the route gave, about the encoding apart. -/
theorem described_merged :
    described (mergedHeaders response.head.headers) = described response.head.headers := by
  have swapped : ∀ headers : HeaderRecord,
      described (headers.delete "Content-Length") =
        (described headers).delete "Content-Length" :=
    fun headers => List.filter_comm _ _ headers
  rw [mergedHeaders, swapped, described_delete (by simp [Encoding]),
    described_put (by simp [Encoding]), described_put (by simp [Encoding]),
    delete_missing lowercase_missing]

theorem merged_encoding (headers : HeaderRecord) :
    (mergedHeaders headers).lookup "content-encoding" = some ["gzip"] := by
  rw [mergedHeaders, lookup_delete_other (by decide), lookup_delete_other (by decide),
    lookup_put_other (by decide), lookup_put]

theorem merged_unmeasured (headers : HeaderRecord) :
    (mergedHeaders headers).lookup "content-length" = none := by
  rw [mergedHeaders, lookup_delete_other (by decide), lookup_delete]

/-- The head a route gave goes with the bytes it wrote. -/
theorem plainly_headed : Headed response response.head response.bytes :=
  ⟨rfl, rfl, response.measured⟩

theorem merged_headed (body : List UInt8) :
    Headed response ⟨response.head.status, mergedHeaders response.head.headers⟩ body := by
  refine ⟨rfl, described_merged, ?_⟩
  intro values told
  rw [merged_unmeasured] at told
  cases told

/-- No route declares an encoding. -/
theorem undone_plain (gunzip : List UInt8 → Option (List UInt8)) (body : List UInt8) :
    undone gunzip response.head body = some body := by
  have none : response.head.headers.lookup "content-encoding" = none := by
    apply List.lookup_eq_none_iff.mpr
    intro header listed
    simpa using fun equal => (response.uncoded header listed).1 equal.symm
  rw [undone, none]

theorem undone_merged (gunzip : List UInt8 → Option (List UInt8)) (body : List UInt8) :
    undone gunzip ⟨response.head.status, mergedHeaders response.head.headers⟩ body =
      gunzip body := by
  rw [undone, merged_encoding]
  exact if_pos rfl

end Heads

section Calls

variable {σ α β : Type} {response : RouteResponse} {outcome : RouteOutcome}

/-- A call that went through is followed by the next. -/
theorem then_ok {call : ResponseCall σ α} {next : α → ResponseCall σ β} {result : α}
    {state state' : σ} (went : call state = .ok result state') :
    (call >>= next) state = next result state' := by
  change EStateM.bind call next state = next result state'
  rw [EStateM.bind, went]

/-- Nothing follows one that threw. -/
theorem then_error {call : ResponseCall σ α} {next : α → ResponseCall σ β} {state state' : σ}
    (threw : call state = .error error state') :
    (call >>= next) state = .error error state' := by
  change EStateM.bind call next state = .error error state'
  rw [EStateM.bind, threw]

theorem catch_ok {methods : ResponseMethods σ} {state state' : σ}
    (went : runRoute methods outcome state = .ok () state') :
    serveRoute methods outcome state = .ok () state' := by
  change EStateM.tryCatch _ _ state = _
  rw [EStateM.tryCatch, went]

/-- After an error the safe response is written on what is there. -/
theorem catch_error {methods : ResponseMethods σ} {state state' : σ}
    (threw : runRoute methods outcome state = .error error state') :
    serveRoute methods outcome state = respond methods unexpectedError state' := by
  change EStateM.tryCatch _ _ state = _
  rw [EStateM.tryCatch, threw]
  rfl

/-- Writes to Node's response are added to its body. -/
theorem writeAll_node (chunks : List BodyChunk) {head : ResponseHead} {body : List UInt8} :
    writeAll nodeMethods chunks ⟨some head, body, false⟩ =
      .ok () ⟨some head, body ++ chunks.flatMap BodyChunk.bytes, false⟩ := by
  induction chunks generalizing body with
  | nil => simp [writeAll, pure, EStateM.pure]
  | cons chunk chunks ih =>
    rw [List.flatMap_cons, ← List.append_assoc, ← ih]
    rfl

/-- Without the wrapper, what a route writes is what is sent. -/
theorem respond_node :
    respond nodeMethods response {} = .ok () ⟨some response.head, response.bytes, true⟩ := by
  have headed : nodeMethods.writeHead response.head {} = .ok () ⟨some response.head, [], false⟩ :=
    rfl
  rw [respond, then_ok headed, then_ok (writeAll_node response.writes)]
  rfl

theorem serveRoute_node :
    serveRoute nodeMethods outcome {} =
      .ok () ⟨some outcome.written.head, outcome.written.bytes, true⟩ := by
  cases outcome with
  | responds response => exact catch_ok respond_node
  | fails =>
    have threw : runRoute nodeMethods .fails {} = .error .routeFailed {} := rfl
    rw [catch_error threw]
    exact respond_node

/-- A response whose type is not compressed is left to Node. -/
theorem writeAll_passing (chunks : List BodyChunk) {head : ResponseHead} {body : List UInt8} :
    writeAll compressedMethods chunks { original := ⟨some head, body, false⟩ } =
      .ok () { original := ⟨some head, body ++ chunks.flatMap BodyChunk.bytes, false⟩ } := by
  induction chunks generalizing body with
  | nil => simp [writeAll, pure, EStateM.pure]
  | cons chunk chunks ih =>
    rw [List.flatMap_cons, ← List.append_assoc, ← ih]
    rfl

theorem writeHead_passing {head : ResponseHead}
    (other : compressible (contentTypeOf head.headers) = false) :
    compressedMethods.writeHead head {} = .ok () { original := ⟨some head, [], false⟩ } := by
  simp only [compressedMethods, other]
  rfl

theorem respond_passing
    (other : compressible (contentTypeOf response.head.headers) = false) :
    respond compressedMethods response {} =
      .ok () { original := ⟨some response.head, response.bytes, true⟩ } := by
  rw [respond, then_ok (writeHead_passing other), then_ok (writeAll_passing response.writes)]
  rfl

/-- A response that is being compressed: nothing but its head has gone out. -/
def packing (head : ResponseHead) (chunks : List UInt8) : CompressedResponse :=
  { original := ⟨some ⟨head.status, mergedHeaders head.headers⟩, [], false⟩
    compress := true
    chunks }

theorem writeHead_packing {head : ResponseHead}
    (typed : compressible (contentTypeOf head.headers) = true) :
    compressedMethods.writeHead head {} = .ok () (packing head []) := by
  simp only [compressedMethods, typed]
  rfl

theorem writeAll_packing (chunks : List BodyChunk) {head : ResponseHead} {before : List UInt8} :
    writeAll compressedMethods chunks (packing head before) =
      .ok () (packing head (before ++ chunks.flatMap BodyChunk.bytes)) := by
  induction chunks generalizing before with
  | nil => simp [writeAll, pure, EStateM.pure]
  | cons chunk chunks ih =>
    rw [List.flatMap_cons, ← List.append_assoc, ← ih]
    rfl

/-- The end of a response that is being compressed is decided by its size. -/
theorem finish_packing {head : ResponseHead} {before : List UInt8} {last : Option BodyChunk} :
    compressedMethods.finish last (packing head before) =
      if (before ++ chunkBytes last).length < smallestPacked then
        .error .headersSent (packing head (before ++ chunkBytes last))
      else .ok () { packing head (before ++ chunkBytes last) with
        packing := some (before ++ chunkBytes last) } := by
  change (if (before ++ chunkBytes last).length < smallestPacked then _ else _ :
    ResponseCall CompressedResponse Unit) (packing head (before ++ chunkBytes last)) = _
  by_cases small : (before ++ chunkBytes last).length < smallestPacked
  · rw [if_pos small, if_pos small]
    rfl
  · rw [if_neg small, if_neg small]
    rfl

/-- What is compressed is handed to `gzip` whole. -/
theorem respond_packing (typed : compressible (contentTypeOf response.head.headers) = true)
    (enough : smallestPacked ≤ response.bytes.length) :
    respond compressedMethods response {} =
      .ok () { packing response.head response.bytes with packing := some response.bytes } := by
  rw [respond, then_ok (writeHead_packing typed), then_ok (writeAll_packing response.writes)]
  exact finish_packing.trans (if_neg (Nat.not_lt.mpr enough))

/-- Below a kilobyte a header is taken back which has gone out, and Node throws. -/
theorem respond_small (typed : compressible (contentTypeOf response.head.headers) = true)
    (small : response.bytes.length < smallestPacked) :
    respond compressedMethods response {} =
      .error .headersSent (packing response.head response.bytes) := by
  rw [respond, then_ok (writeHead_packing typed), then_ok (writeAll_packing response.writes)]
  exact finish_packing.trans (if_pos small)

/-- Once a head has gone out no other can, and the handler's own `catch` throws. -/
theorem respond_headed {head : ResponseHead} {chunks : List UInt8} :
    ∃ state, respond compressedMethods response (packing head chunks) =
      .error .headersSent state := by
  cases typed : compressible (contentTypeOf response.head.headers) with
  | true =>
    refine ⟨packing head chunks, ?_⟩
    rw [respond]
    apply then_error
    simp only [compressedMethods, typed]
    rfl
  | false =>
    refine ⟨{ packing head chunks with compress := false }, ?_⟩
    rw [respond]
    apply then_error
    simp only [compressedMethods, typed]
    rfl

end Calls

section Served

variable {response : RouteResponse} {outcome : RouteOutcome}

theorem unexpected_typed :
    compressible (contentTypeOf unexpectedError.head.headers) = true := by decide

theorem unexpected_small : unexpectedError.bytes.length < smallestPacked := by decide

/-- A response whose type is not compressed leaves as it was written. -/
theorem serveRoute_passing
    (other : compressible (contentTypeOf outcome.written.head.headers) = false) :
    serveRoute compressedMethods outcome {} =
      .ok () { original := ⟨some outcome.written.head, outcome.written.bytes, true⟩ } := by
  cases outcome with
  | responds response => exact catch_ok (respond_passing other)
  | fails =>
    rw [RouteOutcome.written, unexpected_typed] at other
    cases other

/-- A compressed response below a kilobyte ends the process. -/
theorem serveRoute_small
    (typed : compressible (contentTypeOf outcome.written.head.headers) = true)
    (small : outcome.written.bytes.length < smallestPacked) :
    ∃ state, serveRoute compressedMethods outcome {} = .error .headersSent state := by
  cases outcome with
  | responds response =>
    have threw : runRoute compressedMethods (.responds response) {} =
        .error .headersSent (packing response.head response.bytes) := respond_small typed small
    rw [catch_error threw]
    exact respond_headed
  | fails =>
    have threw : runRoute compressedMethods .fails {} = .error .routeFailed {} := rfl
    rw [catch_error threw]
    exact ⟨_, respond_small typed small⟩

theorem serveRoute_packing
    (typed : compressible (contentTypeOf outcome.written.head.headers) = true)
    (enough : smallestPacked ≤ outcome.written.bytes.length) :
    serveRoute compressedMethods outcome {} =
      .ok () { packing outcome.written.head outcome.written.bytes with
        packing := some outcome.written.bytes } := by
  cases outcome with
  | responds response => exact catch_ok (respond_packing typed enough)
  | fails => exact absurd unexpected_small (Nat.not_lt.mpr enough)

/-- A response that leaves as it was written is delivered. -/
theorem delivered_plain {gunzip : List UInt8 → Option (List UInt8)} :
    Delivered gunzip response (some ⟨some response.head, response.bytes, true⟩) :=
  ⟨rfl, response.head, rfl, plainly_headed, undone_plain gunzip response.bytes⟩

/-- A packed one is, when its client can unpack it. -/
theorem delivered_merged {gunzip : List UInt8 → Option (List UInt8)} {body : List UInt8} :
    Delivered gunzip response
        (some ⟨some ⟨response.head.status, mergedHeaders response.head.headers⟩, body, true⟩) ↔
      gunzip body = some response.bytes := by
  constructor
  · intro ⟨_, head, same, _, read⟩
    cases same
    rw [← undone_merged gunzip body]
    exact read
  · intro read
    refine ⟨rfl, _, rfl, merged_headed body, ?_⟩
    rw [undone_merged]
    exact read

end Served

/-- A client has what a route wrote, and the process goes on, exactly where what is to be
compressed has a kilobyte and `gzip` does not fail. -/
theorem compression_delivers (gzip gunzip : List UInt8 → Option (List UInt8))
    (unpacks : ∀ raw packed, gzip raw = some packed → gunzip packed = some raw)
    (acceptEncoding : Option String) (outcome : RouteOutcome) :
    Delivered gunzip outcome.written (withCompression gzip acceptEncoding outcome) ↔
      Packs gzip gunzip acceptEncoding outcome.written := by
  unfold withCompression Packs
  cases asked : includesText (acceptEncoding.getD "") "gzip" with
  | false =>
    rw [if_pos rfl, serveRoute_node]
    exact ⟨fun _ no => absurd no Bool.false_ne_true, fun _ => delivered_plain⟩
  | true =>
    rw [if_neg (Ne.symm Bool.false_ne_true)]
    cases typed : compressible (contentTypeOf outcome.written.head.headers) with
    | false =>
      rw [serveRoute_passing typed]
      exact ⟨fun _ _ no => absurd no Bool.false_ne_true, fun _ => delivered_plain⟩
    | true =>
      rcases Nat.lt_or_ge outcome.written.bytes.length smallestPacked with small | enough
      · obtain ⟨state, ended⟩ := serveRoute_small typed small
        rw [ended]
        exact ⟨False.elim, fun packs => absurd small (Nat.not_lt.mpr (packs rfl rfl).1)⟩
      · rw [serveRoute_packing typed enough]
        have sent : CompressedResponse.packed gzip
            { packing outcome.written.head outcome.written.bytes with
              packing := some outcome.written.bytes } =
            ⟨some ⟨outcome.written.head.status, mergedHeaders outcome.written.head.headers⟩,
              (gzip outcome.written.bytes).getD outcome.written.bytes, true⟩ := rfl
        simp only [sent]
        rw [delivered_merged]
        cases packed : gzip outcome.written.bytes with
        | none => exact ⟨fun read _ _ => ⟨enough, fun _ => read⟩, fun packs => (packs trivial trivial).2 rfl⟩
        | some bytes =>
          exact ⟨fun _ _ _ => ⟨enough, nofun⟩, fun _ => unpacks _ bytes packed⟩

/-- A little JSON, as most answers of the interface are. -/
def shortJson : RouteResponse where
  head := ⟨200, [("content-type", ["application/json; charset=utf-8"])]⟩
  last := some (.text "\x7b\"ok\":true\x7d")
  lowercase := unexpectedError.lowercase
  uncoded := unexpectedError.uncoded
  measured := by simp [List.lookup_cons]

/-- Its end throws, and so does the response to the error: the process ends. -/
theorem shortJson_lost :
    ¬ ∀ (gzip gunzip : List UInt8 → Option (List UInt8))
      (_ : ∀ raw packed, gzip raw = some packed → gunzip packed = some raw)
      (acceptEncoding : Option String) (outcome : RouteOutcome),
      Delivered gunzip outcome.written (withCompression gzip acceptEncoding outcome) := by
  intro claimed
  have delivered := claimed some some (fun _ _ packed => packed ▸ rfl) (some "gzip, deflate, br")
    (.responds shortJson)
  have ended : withCompression some (some "gzip, deflate, br") (.responds shortJson) = none := rfl
  rw [ended] at delivered
  exact delivered

/-- A page of 1024 bytes. -/
def pageBytes : List UInt8 :=
  List.replicate 1024 0x61

def longPage : RouteResponse where
  head := ⟨200, [("content-type", ["text/html; charset=utf-8"])]⟩
  last := some (.buffer pageBytes)
  lowercase := by simp
  uncoded := by simp
  measured := by
    intro values told
    cases told

/-- What `gzip` makes of that page. -/
def packedPage : List UInt8 :=
  [0x1f, 0x8b, 0x08, 0x00, 0x00, 0x00, 0x00, 0x00, 0x00, 0x03, 0x4b, 0x4c, 0x1c, 0x05, 0xa3,
    0x60, 0x14, 0x8c, 0x54, 0x00, 0x00, 0xb9, 0x97, 0x55, 0x7c, 0x00, 0x04, 0x00, 0x00]

def gzipPage (raw : List UInt8) : Option (List UInt8) :=
  if raw = pageBytes then some packedPage else none

def gunzipPage (packed : List UInt8) : Option (List UInt8) :=
  if packed = packedPage then some pageBytes else none

theorem longPage_delivered :
    Delivered gunzipPage (RouteOutcome.responds longPage).written
      (withCompression gzipPage (some "gzip, deflate, br") (.responds longPage)) := by
  have unpacks : ∀ raw packed, gzipPage raw = some packed → gunzipPage packed = some raw := by
    intro raw packed made
    rw [gzipPage] at made
    split at made
    · rename_i page
      cases made
      rw [page]
      exact if_pos rfl
    · cases made
  have bytes : (RouteOutcome.responds longPage).written.bytes = pageBytes := rfl
  have packs : Packs gzipPage gunzipPage (some "gzip, deflate, br")
      (RouteOutcome.responds longPage).written := by
    intro _ _
    rw [bytes]
    constructor
    · rw [pageBytes, List.length_replicate]
      exact Nat.le_refl 1024
    · intro failed
      rw [gzipPage, if_pos rfl] at failed
      cases failed
  have holds := compression_delivers gzipPage gunzipPage unpacks (some "gzip, deflate, br")
    (.responds longPage)
  rw [holds]
  exact packs

end Telga.Proofs.ResponseCompression
