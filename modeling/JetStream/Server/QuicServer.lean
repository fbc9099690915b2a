import JetStream.Stream.Duplex
import JetStream.Coding.FrameLaws
import JetStream.Ufs.Handlers
import JetStream.Ufs.TreeFs

/-!
# The streams of `QuicServer::serve`

`QuicServer::serve` spawns a task for every bidirectional stream of every
connection it accepts.  The task loops: it decodes a request from the
stream's reader, and when that fails, at the end of the stream or on bytes
that do not decode, it breaks out; otherwise it calls the service, unwraps
the reply, encodes it to the stream's writer, unwraps that, and flushes.

`serveStream` is that loop for any request and reply types and any service.
On a stream that holds the images of some requests and then bytes no request
decodes from, the task answers the requests in order with what the service
answers when it gets them one after the other, writes exactly the images of
those replies, and ends by itself (`serveStream_answers`).  With the server
of `server/ufs.rs` as the service, a stream of request frames gets the
replies `Server::handle` makes to them, frame by frame
(`stream_answers_frames`).
-/

namespace JetStream

namespace QuicServer

open ByteStream Proc Duplex

variable {Req Resp σ ε : Type}

/-- Why the task of a stream panics: the `unwrap` of a failed call of the
service, or of a failed write of its reply. -/
inductive Panic (ε : Type) where
  | call (error : ε)
  | encode (error : IoError)

section Stream

variable (decodeReq : ByteM IoError Req) (encodeResp : Resp → ByteM IoError Unit)
  (call : Req → Proc σ ε Resp)

/-- One round of the loop of a stream's task; `false` is its `break`. -/
def streamRound : Proc (Duplex σ) (Panic ε) Bool := do
  match ← onInput (attempt decodeReq) with
  | .error _ => pure false
  | .ok req => do
      let resp ← onState (mapError .call (call req))
      onOutput (mapError .encode (encodeResp resp))
      pure true

/-- The loop of a stream's task, for at most `fuel` rounds. -/
def serveStream (fuel : Nat) : Proc (Duplex σ) (Panic ε) Bool :=
  loopWhile (streamRound decodeReq encodeResp call) fuel

variable {decodeReq encodeResp call}

theorem onInput_attempt_of_ok {input input' : List UInt8} {req : Req}
    (hdecode : decodeReq input = .ok req input') (svc : σ) (output : List UInt8) :
    (onInput (attempt decodeReq) : Proc (Duplex σ) (Panic ε) _) ⟨svc, input, output⟩ =
      .ok (.ok req) ⟨svc, input', output⟩ :=
  onInput_of_ok (by simp only [attempt, hdecode]) svc output

/-- A round on a request that decodes: the service's reply to it is written
after what the stream has written. -/
theorem streamRound_of_decode {input input' : List UInt8} {req : Req}
    (hdecode : decodeReq input = .ok req input') {svc svc' : σ} {resp : Resp}
    (hcall : call req svc = .ok resp svc') {out : List UInt8}
    (hwrites : Writes (encodeResp resp) out) (output : List UInt8) :
    streamRound decodeReq encodeResp call ⟨svc, input, output⟩ =
      .ok true ⟨svc', input', output ++ out⟩ := by
  have hcall' : (onState (mapError Panic.call (call req)) : Proc (Duplex σ) (Panic ε) Resp)
      ⟨svc, input', output⟩ = .ok resp ⟨svc', input', output⟩ :=
    onState_of_ok (mapError_of_ok hcall) input' output
  have hwrite : (onOutput (mapError Panic.encode (encodeResp resp)) : Proc (Duplex σ) (Panic ε) Unit)
      ⟨svc', input', output⟩ = .ok () ⟨svc', input', output ++ out⟩ :=
    onOutput_of_ok (mapError_of_ok (hwrites output)) svc' input'
  simp only [streamRound, bind_apply, onInput_attempt_of_ok hdecode, hcall', hwrite, pure_apply]

/-- A round on the image of a request. -/
theorem streamRound_of_request {bytes : List UInt8} {req : Req}
    (hreads : Reads decodeReq bytes req) {svc svc' : σ} {resp : Resp}
    (hcall : call req svc = .ok resp svc') {out : List UInt8}
    (hwrites : Writes (encodeResp resp) out) (rest output : List UInt8) :
    streamRound decodeReq encodeResp call ⟨svc, bytes ++ rest, output⟩ =
      .ok true ⟨svc', rest, output ++ out⟩ :=
  streamRound_of_decode (hreads rest) hcall hwrites output

/-- A round on bytes no request decodes from breaks out of the loop. -/
theorem streamRound_of_end {input input' : List UInt8} {error : IoError}
    (hend : decodeReq input = .error error input') (svc : σ) (output : List UInt8) :
    streamRound decodeReq encodeResp call ⟨svc, input, output⟩ =
      .ok false ⟨svc, input', output⟩ := by
  have hread : (onInput (attempt decodeReq) : Proc (Duplex σ) (Panic ε) _) ⟨svc, input, output⟩ =
      .ok (.error error) ⟨svc, input', output⟩ :=
    onInput_of_ok (by simp only [attempt, hend]) svc output
  simp only [streamRound, bind_apply, hread, pure_apply]

/-- A stream that holds the images of `reqs`, then bytes no request decodes
from: the task answers the requests in order with the replies the service
gives to them one after the other, writes exactly the images of those
replies, and breaks out of its loop, within one round more than there are
requests. -/
theorem serveStream_answers {reqs : List Req} {images : List (List UInt8)}
    (himages : List.Forall₂ (fun req image => Reads decodeReq image req) reqs images)
    {svc svc' : σ} {resps : List Resp} (hcall : reqs.mapM call svc = .ok resps svc')
    {outs : List (List UInt8)}
    (houts : List.Forall₂ (fun resp out => Writes (encodeResp resp) out) resps outs)
    {rest rest' : List UInt8} {error : IoError} (hend : decodeReq rest = .error error rest')
    {fuel : Nat} (hfuel : reqs.length < fuel) (output : List UInt8) :
    serveStream decodeReq encodeResp call fuel ⟨svc, images.flatten ++ rest, output⟩ =
      .ok true ⟨svc', rest', output ++ outs.flatten⟩ := by
  induction himages generalizing svc resps outs fuel output with
  | nil =>
      obtain ⟨rfl, rfl⟩ := mapM_nil_eq_ok hcall
      cases houts
      obtain ⟨fuel, rfl⟩ : ∃ rounds, fuel = rounds + 1 := ⟨fuel - 1, by omega⟩
      rw [List.flatten_nil, List.nil_append, List.append_nil]
      exact loopWhile_of_break (streamRound_of_end hend _ output)
  | @cons req image reqs images hreads _ ih =>
      obtain ⟨resp, resps', mid, hfirst, hrest, rfl⟩ := mapM_cons_eq_ok hcall
      obtain _ | ⟨hwrites, houts'⟩ := houts
      obtain ⟨fuel, rfl⟩ : ∃ rounds, fuel = rounds + 1 := ⟨fuel - 1, by omega⟩
      have hfuel' : reqs.length < fuel := by
        rw [List.length_cons] at hfuel
        omega
      rw [List.flatten_cons, List.append_assoc, serveStream,
        loopWhile_of_continue (streamRound_of_request hreads hfirst hwrites _ output),
        ← serveStream, ih hrest houts' hfuel', List.flatten_cons, List.append_assoc]

end Stream

section Ufs

open WireFormat

variable {σ File : Type}

/-- The image of a request frame: its size, type, tag and body. -/
def requestWire (request : UInt16 × Tmessage) : List UInt8 :=
  frameWire request.1 request.2.messageType request.2.wire

/-- The image of a reply frame. -/
def replyWire (reply : Rframe) : List UInt8 :=
  frameWire reply.tag reply.msg.messageType reply.msg.wire

/-- A stream, served by the server of `server/ufs.rs` alone, that holds
request frames within the codec's limits: the task answers each frame with
the reply `Server::handle` makes to it, the server going from one frame to
the next as `handle` leaves it, writes the images of those replies in order,
and ends at the end of the stream. -/
theorem stream_answers_frames (kernel : Kernel σ File) (world : World σ File)
    (requests : List (UInt16 × Tmessage))
    (hrequests : ∀ request ∈ requests, request.2.Fits ∧ 7 + request.2.wire.length < 2 ^ 32)
    {replies : List Rframe} {world' : World σ File}
    (hhandle : (requests.map fun request => (⟨request.1, .ok request.2⟩ : Tframe)).mapM
      (Server.handle kernel) world = .ok replies world')
    (hreplies : ∀ reply ∈ replies, reply.msg.Fits ∧ 7 + reply.msg.wire.length < 2 ^ 32)
    {fuel : Nat} (hfuel : requests.length < fuel) :
    serveStream Tframe.decode encode (Server.handle kernel) fuel
        ⟨world, (requests.map requestWire).flatten, []⟩ =
      .ok true ⟨world', [], (replies.map replyWire).flatten⟩ := by
  have himages : List.Forall₂ (fun frame image => Reads Tframe.decode image frame)
      (requests.map fun request => (⟨request.1, .ok request.2⟩ : Tframe))
      (requests.map requestWire) := by
    rw [List.forall₂_map_left_iff, List.forall₂_map_right_iff]
    refine List.forall₂_same.mpr fun request hmem => ?_
    exact (Tframe.travels request.1 (hrequests request hmem).1 (hrequests request hmem).2).2
  have houts : List.Forall₂ (fun reply out => Writes (encode reply) out) replies
      (replies.map replyWire) := by
    rw [List.forall₂_map_right_iff]
    refine List.forall₂_same.mpr fun reply hmem => ?_
    exact (Rframe.travels reply (hreplies reply hmem).1 (hreplies reply hmem).2).1
  have hend : Tframe.decode [] = .error unexpectedEof [] := rfl
  have hrun := serveStream_answers himages hhandle houts hend
    (by rw [List.length_map]; exact hfuel) []
  rwa [List.append_nil, List.nil_append] at hrun

/-- A version request and an attach of the export, on one stream to the
server for `/export`. -/
theorem export_stream_version_attach :
    ∃ replies world',
      ([((1 : UInt16), Tmessage.version ⟨8192, "9P2000.L"⟩), (2, .attach TreeFs.attachExport)].map
        fun request => (⟨request.1, .ok request.2⟩ : Tframe)).mapM (Server.handle TreeFs.kernel)
          (TreeFs.exportWorld 16) = .ok replies world' ∧
      serveStream Tframe.decode encode (Server.handle TreeFs.kernel) 3
          ⟨TreeFs.exportWorld 16, ([((1 : UInt16), Tmessage.version ⟨8192, "9P2000.L"⟩),
            (2, .attach TreeFs.attachExport)].map requestWire).flatten, []⟩ =
        .ok true ⟨world', [], (replies.map replyWire).flatten⟩ := by
  have hversion : "9P2000.L".utf8ByteSize ≤ 65535 := by decide
  have hempty : "".utf8ByteSize ≤ 65535 := by decide
  refine ⟨_, _, rfl,
    stream_answers_frames TreeFs.kernel (TreeFs.exportWorld 16) _ ?_ rfl ?_ (by decide)⟩
  · simp only [List.mem_cons, List.not_mem_nil, or_false, forall_eq_or_imp, forall_eq]
    exact ⟨⟨⟨trivial, hversion⟩, by decide⟩, ⟨⟨trivial, trivial, hempty, hempty, trivial⟩, by decide⟩⟩
  · simp only [List.reverse_cons, List.reverse_nil, List.nil_append, List.cons_append,
      List.mem_cons, List.not_mem_nil, or_false, forall_eq_or_imp, forall_eq, if_true]
    exact ⟨⟨⟨trivial, hversion⟩, by decide⟩, ⟨⟨trivial, trivial, trivial⟩, by decide⟩⟩

end Ufs

end QuicServer

end JetStream
