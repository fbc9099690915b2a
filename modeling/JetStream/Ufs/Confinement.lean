import JetStream.Ufs.Lifecycle

/-!
# What confines a walk to the export

The server holds every place as a descriptor and resolves each name of a
request from the descriptor of a fid, with `openat` and its kin.  Before a
name reaches the kernel, `string_to_cstring` checks it for a NUL byte and
nothing else: a name `..`, or one holding `/`, is resolved by the kernel as
it is, from the fid's place.  Nothing in the server keeps a fid below the
export root; whether one stays there is up to the kernel.

`walk_resolves_name_from_fid` states this for a walk of one name over any
kernel.  On the tree of `TreeFs`, where `..` goes to the parent, walking `..`
from the export root binds a fid to `/`, outside the export.
-/

namespace JetStream

namespace Server

section Walk

variable (kernel : Kernel σ File)

/-- A walk of one name from a bound fid to a free one (or to itself) binds
the new fid to what `openat` finds for the name's bytes from the fid's place,
with `O_NOFOLLOW` on that one name. -/
theorem walk_resolves_name_from_fid (msg : Twalk) (name : String) (world : World σ File)
    (start : Fid File) (next : File) (st : Stat) (os₁ os₂ : σ)
    (hnames : msg.wnames = [name]) (hfid : world.server.fids msg.fid = some start)
    (hnew : msg.fid = msg.newfid ∨ world.server.fids msg.newfid = none)
    (hname : 0 ∉ WireFormat.utf8Bytes name)
    (hopen : kernel.openat (some start.path) (WireFormat.utf8Bytes name)
      (Libc.O_PATH ||| Libc.O_NOFOLLOW ||| Libc.O_CLOEXEC) 0 world.os = .ok next os₁)
    (hstat : kernel.fstatat next [] (Libc.AT_EMPTY_PATH ||| Libc.AT_SYMLINK_NOFOLLOW) os₁ =
      .ok st os₂) :
    walk kernel msg world =
      .ok { wqids := [Qid.ofStat st] }
        { server := { world.server with
            fids := Function.update world.server.fids msg.newfid
              (some { path := next, file := none, filetype := FileType.ofMode st.stMode }) }
          os := os₂ } := by
  have hcheck : ¬(msg.fid ≠ msg.newfid ∧ (world.server.fids msg.newfid).isSome) := by
    rintro ⟨hne, hbound⟩
    rcases hnew with heq | hfree
    · exact hne heq
    · simp [hfree] at hbound
  simp [walk, getServer, failIf, hcheck, getFid, okOr, hfid, doWalk, hnames, doWalkNames,
    Proc.attempt, liftExcept, stringToCstring, hname, walkLookup, MaybeOwned.asRef, lookup, sys, hopen, stat, statat,
    hstat, walkOutcome, lastOrStat, setFid]

/-- On the tree of `TreeFs`, a walk of `..` from the export root binds fid `1`
to `/`, which is neither `/export` nor below it. -/
theorem walk_parent_leaves_export :
    ∃ qid world', walk TreeFs.kernel ⟨0, 1, [".."]⟩ (TreeFs.exportAttached 16) =
        .ok { wqids := [qid] } world' ∧
      world'.server.fids 1 = some { path := 2, file := none, filetype := .directory } ∧
      world'.os.object? 2 = .ok 0 ∧ world'.os.within 1 world'.os.nodes.length 0 = false :=
  ⟨_, _, walk_resolves_name_from_fid TreeFs.kernel _ ".." _ ⟨1, none, .directory⟩ 2 _ _ _
    rfl rfl (.inr rfl) (by decide) rfl rfl, rfl, rfl, rfl⟩

-- `Tmkdir` of `../x` in the export root makes `/x`, an entry of `/`.
example : (Proc.Result.state (mkdir TreeFs.kernel ⟨0, "../x", 0o755, 0⟩
    (TreeFs.exportAttached 16))).os.nodes[3]? = some ⟨0, [120], true⟩ := by
  decide

end Walk

end Server

end JetStream
