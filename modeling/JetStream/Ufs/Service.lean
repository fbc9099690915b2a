import JetStream.Ufs.Lifecycle
import JetStream.Stream.Mailbox

/-!
# One server behind one queue

`server/ufs.rs` puts one `ufs::Server` behind a channel.  Every `Handler`
cloned from a `Ufs`, one for each QUIC stream of each connection that
`QuicServer::serve` accepts, sends its `Tframe` down one unbounded channel
together with a oneshot channel for the reply, and `Ufs::run` takes them off
one at a time, in the order they arrived, and sends each the `Rframe` that
`Server::handle` makes for it.  That is the mailbox of `Mailbox`, with
`Server::handle` as its handler and the streams as its callers.

So every call gets the reply computed for its own frame, once, in queue
order, and the loop never stops while calls wait.  What the calls do not get
is a server of their own: the fid table and the negotiated size are one for
all connections.  A request other than `Tversion` writes at most the fid it
names, but a `Tversion` from any connection forgets every fid, and a
`Tattach` or `Twalk` onto a fid number that another connection holds is
refused with `EBADF`.
-/

namespace JetStream

open Proc Server

variable {ι σ File : Type}

/-- A request that does not write `fid` leaves it as it was, whether it
succeeds or fails, and so does a frame whose body did not decode. -/
theorem keepsWrites_handle (kernel : Kernel σ File) (frame : Tframe) {fid : UInt32}
    (hfid : ∀ msg, frame.msg = .ok msg → ¬ msg.Writes fid) :
    Keeps (WritesOnly (· ≠ fid)) (handle kernel frame) := by
  refine Keeps.bind (Keeps.attempt ?_) fun _ => keeps_pure _
  split
  · rename_i msg hframe
    have hnot := hfid msg hframe
    have hversion : ∀ request, msg ≠ .version request := by
      rintro request rfl
      exact hnot trivial
    refine (keepsWrites_dispatch kernel msg hversion).imp fun _ _ hwrites => ?_
    exact hwrites.mono fun other (hother : msg.Writes other) (hsame : other = fid) =>
      hnot (hsame ▸ hother)
  · exact keeps_throw _

/-- `struct Ufs` with its `Handler`s: the server and the host it runs on, the
channel of `Handle`s, and the oneshot channel of every call made, the callers
being the streams that hold a `Handler`.  `Handler::call` is `Mailbox.send`,
and one turn of the loop of `Ufs::run` is `Mailbox.serve` with
`Server::handle`. -/
abbrev Ufs (ι σ File : Type) := Mailbox ι Tframe Rframe (World σ File)

namespace Ufs

/-- `Ufs::new`: a server for `path` with empty id maps; the `unwrap` panics
when it cannot be made. -/
def new (kernel : Kernel σ File) (path : List UInt8) (os : σ) : Option (Ufs ι σ File) :=
  match Server.new kernel path (fun _ => none) (fun _ => none) os with
  | .ok server os => some (Mailbox.init ⟨server, os⟩)
  | .error _ _ => none

/-- The host changes under the server; the server does not. -/
def HostChange (world world' : World σ File) : Prop :=
  world'.server = world.server

/-- A `Ufs` made by `Ufs::new` for `path`, after any interleaving of calls
from any streams, turns of `Ufs::run` and changes of the host. -/
def Reachable (kernel : Kernel σ File) (path : List UInt8) (ufs : Ufs ι σ File) : Prop :=
  ∃ os start, new kernel path os = some start ∧
    Relation.ReflTransGen (Mailbox.Step (handle kernel) HostChange) start ufs

theorem new_eq_some {kernel : Kernel σ File} {path : List UInt8} {os : σ}
    {start : Ufs ι σ File} (h : new kernel path os = some start) :
    ∃ world, start = Mailbox.init world := by
  unfold new at h
  split at h
  · cases h
    exact ⟨_, rfl⟩
  · cases h

section Serve

variable (kernel : Kernel σ File)

/-- The loop of `Ufs::run` never stops while a call waits: `Server::handle`
always answers, so the `unwrap` never panics. -/
theorem serve_isSome {ufs : Ufs ι σ File} (hqueue : ufs.queue ≠ []) :
    ∃ ufs', ufs.serve (handle kernel) = some ufs' := by
  obtain ⟨⟨slot, frame⟩, rest, hfront⟩ := List.exists_cons_of_ne_nil hqueue
  obtain ⟨reply, world', hrun⟩ := total_handle kernel frame ufs.state
  unfold Mailbox.serve
  rw [hfront]
  simp only [hrun]
  exact ⟨_, rfl⟩

/-- A turn of `Ufs::run` on a frame that does not write `fid` leaves `fid`
as it was, whichever stream sent the frame. -/
theorem serve_keeps_fid {ufs ufs' : Ufs ι σ File}
    (hserve : ufs.serve (handle kernel) = some ufs') {slot : Nat} {frame : Tframe}
    (hfront : ufs.queue.head? = some (slot, frame)) {fid : UInt32}
    (hfid : ∀ msg, frame.msg = .ok msg → ¬ msg.Writes fid) :
    ufs'.state.server.fids fid = ufs.state.server.fids fid := by
  obtain ⟨front, req, reply, hqueue, hrun, -, -⟩ := Mailbox.serve_eq_some hserve
  rw [hqueue, List.head?_cons, Option.some.injEq, Prod.mk.injEq] at hfront
  obtain ⟨-, rfl⟩ := hfront
  have hwrites := (keepsWrites_handle kernel req hfid).ok hrun
  exact hwrites.2 fid (fun hne => hne rfl)

end Serve

end Ufs

/-! ## What the connections share -/

section Shared

variable (kernel : Kernel σ File)

/-- A `Tversion` that succeeds forgets every fid, whichever connection bound
it. -/
theorem handle_version_forgets_fids (tag : UInt16) (request : Tversion)
    {world world' : World σ File} {reply : Rframe}
    (h : handle kernel ⟨tag, .ok (.version request)⟩ world = .ok reply world')
    (hsucceeded : ∀ err, reply.msg ≠ .lerror err) (fid : UInt32) :
    world'.server.fids fid = none := by
  obtain ⟨-, ⟨msg, rmsg, hmsg, hrun, -⟩ | ⟨err, hreply, -⟩⟩ := handle_eq_ok kernel h
  · cases hmsg
    obtain ⟨value, hrun, -⟩ := map_eq_ok hrun
    obtain ⟨-, rfl, -⟩ := version_eq_ok hrun
    rfl
  · exact absurd hreply (hsucceeded _)

/-- A `Tattach` of a fid that is bound, whichever connection bound it, is
refused with `EBADF` and changes nothing. -/
theorem handle_attach_of_bound (tag : UInt16) (request : Tattach) (world : World σ File)
    {entry : Fid File} (hbound : world.server.fids request.fid = some entry) :
    handle kernel ⟨tag, .ok (.attach request)⟩ world =
      .ok ⟨tag, .lerror ⟨Errno.EBADF.toUInt32⟩⟩ world := by
  simp [handle, dispatch, attach, hbound, Proc.attempt]
  rfl

/-- A `Twalk` onto another fid number that is bound, whichever connection
bound it, is refused with `EBADF` and changes nothing. -/
theorem handle_walk_onto_bound (tag : UInt16) (request : Twalk) (world : World σ File)
    {entry : Fid File} (hne : request.fid ≠ request.newfid)
    (hbound : world.server.fids request.newfid = some entry) :
    handle kernel ⟨tag, .ok (.walk request)⟩ world =
      .ok ⟨tag, .lerror ⟨Errno.EBADF.toUInt32⟩⟩ world := by
  simp [handle, dispatch, walk, hbound, hne, failIf, Proc.attempt]
  rfl

end Shared

end JetStream
