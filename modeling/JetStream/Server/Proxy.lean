import JetStream.Server.QuicServer
import JetStream.Ufs.Connection

/-!
# The relay of `Proxy::run`

For every connection it accepts on its listener, `Proxy::run` dials the QUIC
server, opens a stream to it and relays in lockstep: it decodes a request
frame from the client, and breaks out of its loop when that fails; otherwise
it encodes the frame to the server, decodes one reply frame from the server,
and encodes that to the client, unwrapping each of the three.

`relay` is that loop on the two streams, the client's (`Duplex`) with the
server's as its state.  On request frames within the codec's limits the
relay is transparent: it passes each request to the server byte for byte,
and a client behind it receives exactly the bytes the server would have sent
it directly (`relay_is_transparent`).
-/

namespace JetStream

namespace Proxy

open ByteStream Proc Duplex WireFormat QuicServer

/-- The three `unwrap`s of the loop: of the encoding of a request to the
server, of the decoding of the server's reply, and of the encoding of that
reply to the client. -/
inductive Panic where
  | sendUp (error : IoError)
  | recvUp (error : IoError)
  | sendDown (error : IoError)

/-- The two streams of a relay: the client's, whose state is the server's. -/
abbrev Relay := Duplex (Duplex Unit)

/-- One round of the relay's loop; `false` is its `break`. -/
def relayRound : Proc Relay Panic Bool := do
  match ← onInput (attempt Tframe.decode) with
  | .error _ => pure false
  | .ok tframe => do
      onState (onOutput (mapError .sendUp tframe.encode))
      let rframe ← onState (onInput (mapError .recvUp (decode : ByteM IoError Rframe)))
      onOutput (mapError .sendDown (encode rframe))
      pure true

/-- The relay's loop, for at most `fuel` rounds. -/
def relay (fuel : Nat) : Proc Relay Panic Bool :=
  loopWhile relayRound fuel

theorem onInput_attempt_decode_of_ok {input input' : List UInt8} {frame : Tframe}
    (hdecode : Tframe.decode input = .ok frame input') (up : Duplex Unit) (output : List UInt8) :
    (onInput (attempt Tframe.decode) : Proc Relay Panic _) ⟨up, input, output⟩ =
      .ok (.ok frame) ⟨up, input', output⟩ :=
  onInput_of_ok (by simp only [attempt, hdecode]) up output

/-- A round on the image of a request, with the image of a reply coming back
from the server: the request's image goes up, the reply's comes down. -/
theorem relayRound_of_frame (tag : UInt16) {msg : Tmessage} (hmsg : msg.Fits)
    (hbound : 7 + msg.wire.length < 2 ^ 32) {reply : Rframe} (hreply : reply.msg.Fits)
    (hreplyBound : 7 + reply.msg.wire.length < 2 ^ 32)
    (upRest upOutput rest output : List UInt8) :
    relayRound ⟨⟨(), replyWire reply ++ upRest, upOutput⟩, requestWire (tag, msg) ++ rest, output⟩ =
      .ok true ⟨⟨(), upRest, upOutput ++ requestWire (tag, msg)⟩, rest,
        output ++ replyWire reply⟩ := by
  have hdecode : Reads Tframe.decode (requestWire (tag, msg)) ⟨tag, .ok msg⟩ :=
    (Tframe.travels tag hmsg hbound).2
  have hencode : Writes (Tframe.encode ⟨tag, .ok msg⟩) (requestWire (tag, msg)) :=
    (Tframe.travels tag hmsg hbound).1
  obtain ⟨hreplyEncode, hreplyDecode⟩ := Rframe.travels reply hreply hreplyBound
  have hup : (onState (onOutput (mapError Panic.sendUp (Tframe.encode ⟨tag, .ok msg⟩))) :
      Proc Relay Panic Unit) ⟨⟨(), replyWire reply ++ upRest, upOutput⟩, rest, output⟩ =
        .ok () ⟨⟨(), replyWire reply ++ upRest, upOutput ++ requestWire (tag, msg)⟩, rest, output⟩ :=
    onState_of_ok (onOutput_of_ok (mapError_of_ok (hencode upOutput)) _ _) _ _
  have hback : (onState (onInput (mapError Panic.recvUp (decode : ByteM IoError Rframe))) :
      Proc Relay Panic Rframe)
        ⟨⟨(), replyWire reply ++ upRest, upOutput ++ requestWire (tag, msg)⟩, rest, output⟩ =
        .ok reply ⟨⟨(), upRest, upOutput ++ requestWire (tag, msg)⟩, rest, output⟩ :=
    onState_of_ok (onInput_of_ok (mapError_of_ok (hreplyDecode upRest)) _ _) _ _
  have hdown : (onOutput (mapError Panic.sendDown (encode reply)) : Proc Relay Panic Unit)
      ⟨⟨(), upRest, upOutput ++ requestWire (tag, msg)⟩, rest, output⟩ =
        .ok () ⟨⟨(), upRest, upOutput ++ requestWire (tag, msg)⟩, rest, output ++ replyWire reply⟩ :=
    onOutput_of_ok (mapError_of_ok (hreplyEncode output)) _ _
  simp only [relayRound, bind_apply, onInput_attempt_decode_of_ok (hdecode rest), hup, hback,
    hdown, pure_apply]

/-- A round on bytes no request frame decodes from breaks out of the loop. -/
theorem relayRound_of_end {input input' : List UInt8} {error : IoError}
    (hend : Tframe.decode input = .error error input') (up : Duplex Unit) (output : List UInt8) :
    relayRound ⟨up, input, output⟩ = .ok false ⟨up, input', output⟩ := by
  have hread : (onInput (attempt Tframe.decode) : Proc Relay Panic _) ⟨up, input, output⟩ =
      .ok (.error error) ⟨up, input', output⟩ :=
    onInput_of_ok (by simp only [attempt, hend]) up output
  simp only [relayRound, bind_apply, hread, pure_apply]

/-- The relay in lockstep: with the images of request frames from the client
and the images of as many reply frames from the server, it sends the server
the requests' images, the client the replies', and breaks out at the end of
the client's stream. -/
theorem relay_forwards (requests : List (UInt16 × Tmessage))
    (hrequests : ∀ request ∈ requests, request.2.Fits ∧ 7 + request.2.wire.length < 2 ^ 32)
    {replies : List Rframe} (hlength : replies.length = requests.length)
    (hreplies : ∀ reply ∈ replies, reply.msg.Fits ∧ 7 + reply.msg.wire.length < 2 ^ 32)
    (upRest upOutput output : List UInt8) {fuel : Nat} (hfuel : requests.length < fuel) :
    relay fuel ⟨⟨(), (replies.map replyWire).flatten ++ upRest, upOutput⟩,
        (requests.map requestWire).flatten, output⟩ =
      .ok true ⟨⟨(), upRest, upOutput ++ (requests.map requestWire).flatten⟩, [],
        output ++ (replies.map replyWire).flatten⟩ := by
  induction requests generalizing replies upOutput output fuel with
  | nil =>
      obtain rfl := List.eq_nil_of_length_eq_zero hlength
      obtain ⟨fuel, rfl⟩ : ∃ rounds, fuel = rounds + 1 := ⟨fuel - 1, by omega⟩
      simp only [List.map_nil, List.flatten_nil, List.nil_append, List.append_nil]
      exact loopWhile_of_break (relayRound_of_end rfl _ output)
  | cons request requests ih =>
      obtain _ | ⟨reply, replies⟩ := replies
      · cases hlength
      obtain ⟨tag, msg⟩ := request
      obtain ⟨hfits, hbound⟩ := hrequests (tag, msg) List.mem_cons_self
      obtain ⟨hreply, hreplyBound⟩ := hreplies reply List.mem_cons_self
      obtain ⟨fuel, rfl⟩ : ∃ rounds, fuel = rounds + 1 := ⟨fuel - 1, by omega⟩
      have hround := relayRound_of_frame tag hfits hbound hreply hreplyBound
        ((replies.map replyWire).flatten ++ upRest) upOutput (requests.map requestWire).flatten
        output
      have hrest := ih (fun request hmem => hrequests request (List.mem_cons_of_mem _ hmem))
        (by simpa using hlength) (fun reply hmem => hreplies reply (List.mem_cons_of_mem _ hmem))
        (upOutput ++ requestWire (tag, msg)) (output ++ replyWire reply) (by simpa using hfuel)
      simp only [List.map_cons, List.flatten_cons, List.append_assoc] at hrest ⊢
      rw [relay, loopWhile_of_continue hround, ← relay, hrest]

section Ufs

variable {σ File : Type}

/-- A client behind the relay sends request frames within the codec's limits
to a stream of a `QuicServer` serving the server of `server/ufs.rs`, whose
replies are within the limits too.  The server's stream, fed the bytes the
relay sends it, writes the images of the replies `Server::handle` makes; the
relay, fed those, sends the server exactly the client's bytes and gives the
client exactly the server's, which are what the client would have received
directly.  Both end at the end of the client's stream. -/
theorem relay_is_transparent (kernel : Kernel σ File) (world : World σ File)
    (requests : List (UInt16 × Tmessage))
    (hrequests : ∀ request ∈ requests, request.2.Fits ∧ 7 + request.2.wire.length < 2 ^ 32)
    {replies : List Rframe} {world' : World σ File}
    (hhandle : (requests.map fun request => (⟨request.1, .ok request.2⟩ : Tframe)).mapM
      (Server.handle kernel) world = .ok replies world')
    (hreplies : ∀ reply ∈ replies, reply.msg.Fits ∧ 7 + reply.msg.wire.length < 2 ^ 32)
    {fuel : Nat} (hfuel : requests.length < fuel) :
    serveStream Tframe.decode encode (Server.handle kernel) fuel
        ⟨world, (requests.map requestWire).flatten, []⟩ =
      .ok true ⟨world', [], (replies.map replyWire).flatten⟩ ∧
    relay fuel ⟨⟨(), (replies.map replyWire).flatten, []⟩, (requests.map requestWire).flatten, []⟩ =
      .ok true ⟨⟨(), [], (requests.map requestWire).flatten⟩, [], (replies.map replyWire).flatten⟩ := by
  have hlength : replies.length = requests.length := by
    rw [length_mapM_eq_ok hhandle, List.length_map]
  have hrelay := relay_forwards requests hrequests hlength hreplies [] [] [] hfuel
  rw [List.append_nil, List.nil_append, List.nil_append] at hrelay
  exact ⟨stream_answers_frames kernel world requests hrequests hhandle hreplies hfuel, hrelay⟩

/-- A version request and an attach of the export, through the relay to the
server for `/export`. -/
theorem export_relay_version_attach :
    ∃ replies world',
      ([((1 : UInt16), Tmessage.version ⟨8192, "9P2000.L"⟩), (2, .attach TreeFs.attachExport)].map
        fun request => (⟨request.1, .ok request.2⟩ : Tframe)).mapM (Server.handle TreeFs.kernel)
          (TreeFs.exportWorld 16) = .ok replies world' ∧
      relay 3 ⟨⟨(), (replies.map replyWire).flatten, []⟩,
          ([((1 : UInt16), Tmessage.version ⟨8192, "9P2000.L"⟩),
            (2, .attach TreeFs.attachExport)].map requestWire).flatten, []⟩ =
        .ok true ⟨⟨(), [], ([((1 : UInt16), Tmessage.version ⟨8192, "9P2000.L"⟩),
            (2, .attach TreeFs.attachExport)].map requestWire).flatten⟩, [],
          (replies.map replyWire).flatten⟩ := by
  have hversion : "9P2000.L".utf8ByteSize ≤ 65535 := by decide
  have hempty : "".utf8ByteSize ≤ 65535 := by decide
  have hrequests : ∀ request ∈ [((1 : UInt16), Tmessage.version ⟨8192, "9P2000.L"⟩),
      (2, .attach TreeFs.attachExport)], request.2.Fits ∧ 7 + request.2.wire.length < 2 ^ 32 := by
    simp only [List.mem_cons, List.not_mem_nil, or_false, forall_eq_or_imp, forall_eq]
    exact ⟨⟨⟨trivial, hversion⟩, by decide⟩, ⟨⟨trivial, trivial, hempty, hempty, trivial⟩, by decide⟩⟩
  refine ⟨_, _, rfl, (relay_is_transparent TreeFs.kernel (TreeFs.exportWorld 16) _ hrequests rfl
    ?_ (by decide)).2⟩
  simp only [List.reverse_cons, List.reverse_nil, List.nil_append, List.cons_append,
    List.mem_cons, List.not_mem_nil, or_false, forall_eq_or_imp, forall_eq, if_true]
  exact ⟨⟨⟨trivial, hversion⟩, by decide⟩, ⟨⟨trivial, trivial, trivial⟩, by decide⟩⟩

end Ufs

end Proxy

end JetStream
