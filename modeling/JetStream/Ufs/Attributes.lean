import JetStream.Ufs.Descriptors
import JetStream.Ufs.TreeFs

/-!
# A request changes only the attributes it names

`set_attr` changes attributes through four host calls: `fchmodat` for the mode,
`fchownat` for the owner and group, `set_len` for the size, and `utimensat` for
the times. Bits of the request's `valid` guard each call. When the ctime is the
only attribute named, a `fchownat` with `-1` for both ids updates it. No other
handler makes any of the four calls.

`Kernel.refusing kernel call` is `kernel` with one of the four calls failing
with `EPERM` and changing nothing. Handling a frame over it is the same as over
`kernel`, unless the frame is a `Tsetattr` whose `valid` names the call
(`attributes_change_only_when_named`). So whatever the host does, the server
changes no attribute the client did not name, and none on any other request.
-/

namespace JetStream

open Proc Server

/-- The calls `set_attr` changes attributes with. -/
inductive AttrCall where
  | chmod
  | chown
  | truncate
  | utimens
  deriving DecidableEq, Repr

variable {σ File : Type}

/-- `kernel`, with `call` failing with `EPERM` and changing nothing. -/
def Kernel.refusing (kernel : Kernel σ File) : AttrCall → Kernel σ File
  | .chmod => { kernel with fchmodat := fun _ _ _ _ => throw Errno.EPERM }
  | .chown => { kernel with fchownat := fun _ _ _ _ _ => throw Errno.EPERM }
  | .truncate => { kernel with ftruncate := fun _ _ => throw Errno.EPERM }
  | .utimens => { kernel with utimensat := fun _ _ _ _ _ => throw Errno.EPERM }

/-- Whether `set_attr` makes `call` for a request with this `valid`. `fchownat`
serves both the owner and group and a lone ctime. -/
def AttrCall.Named (valid : UInt32) : AttrCall → Prop
  | .chmod => valid &&& P9_SETATTR_MODE ≠ 0
  | .chown => valid &&& (P9_SETATTR_UID ||| P9_SETATTR_GID) ≠ 0 ∨
      (valid &&& P9_SETATTR_CTIME ≠ 0 ∧ valid &&& ~~~P9_SETATTR_CTIME = 0)
  | .truncate => valid &&& P9_SETATTR_SIZE ≠ 0
  | .utimens => valid &&& (P9_SETATTR_ATIME ||| P9_SETATTR_MTIME) ≠ 0

instance (valid : UInt32) : DecidablePred (AttrCall.Named valid)
  | .chmod => inferInstanceAs (Decidable (valid &&& P9_SETATTR_MODE ≠ 0))
  | .chown => inferInstanceAs (Decidable (valid &&& (P9_SETATTR_UID ||| P9_SETATTR_GID) ≠ 0 ∨
      (valid &&& P9_SETATTR_CTIME ≠ 0 ∧ valid &&& ~~~P9_SETATTR_CTIME = 0)))
  | .truncate => inferInstanceAs (Decidable (valid &&& P9_SETATTR_SIZE ≠ 0))
  | .utimens => inferInstanceAs (Decidable (valid &&& (P9_SETATTR_ATIME ||| P9_SETATTR_MTIME) ≠ 0))

/-- A block of `set_attr` whose bits `valid` lacks does nothing. -/
theorem onMask_of_eq_zero {valid mask : UInt32} (h : valid &&& mask = 0)
    (action : UfsM σ File Unit) : onMask valid mask action = pure () :=
  if_neg (not_not.mpr h)

section Refusing

variable (kernel : Kernel σ File)

/-- `set_attr` makes no call its `valid` does not name. -/
theorem setAttr_refusing (call : AttrCall) (msg : Tsetattr) (hcall : ¬ call.Named msg.valid) :
    setAttr (kernel.refusing call) msg = setAttr kernel msg := by
  cases call with
  | chmod =>
      have hmode : msg.valid &&& P9_SETATTR_MODE = 0 := not_not.mp hcall
      simp only [setAttr, onMask_of_eq_zero hmode]
      rfl
  | chown =>
      have hids : msg.valid &&& (P9_SETATTR_UID ||| P9_SETATTR_GID) = 0 :=
        not_not.mp fun hids => hcall (.inl hids)
      have hctime : ¬ (msg.valid &&& P9_SETATTR_CTIME ≠ 0 ∧
          msg.valid &&& ~~~P9_SETATTR_CTIME = 0) := fun hctime => hcall (.inr hctime)
      simp only [setAttr, onMask_of_eq_zero hids, if_neg hctime]
      rfl
  | truncate =>
      have hsize : msg.valid &&& P9_SETATTR_SIZE = 0 := not_not.mp hcall
      simp only [setAttr, onMask_of_eq_zero hsize]
      rfl
  | utimens =>
      have htimes : msg.valid &&& (P9_SETATTR_ATIME ||| P9_SETATTR_MTIME) = 0 :=
        not_not.mp hcall
      simp only [setAttr, onMask_of_eq_zero htimes]
      rfl

theorem walk_refusing (call : AttrCall) : walk (kernel.refusing call) = walk kernel := by
  have hwalk : walkLookup (kernel.refusing call) = walkLookup kernel := by
    cases call <;> exact walkLookup_congr rfl rfl rfl
  have hdoWalk : doWalk (kernel.refusing call) = doWalk kernel := by
    cases call <;> exact doWalk_congr hwalk rfl rfl
  funext msg
  simp only [walk, hdoWalk]
  cases call <;> rfl

theorem readdir_refusing (call : AttrCall) : readdir (kernel.refusing call) = readdir kernel := by
  have hstatat : statat (kernel.refusing call) = statat kernel := by
    cases call <;> rfl
  funext msg
  simp only [readdir, packDirents_congr hstatat]
  cases call <;> rfl

/-- Only a `Tsetattr` that names a call makes it: `walk` and `readdir` reach
the host through loops that never make it, and the other handlers never make
it at all. -/
theorem dispatch_refusing (call : AttrCall) (msg : Tmessage)
    (hmsg : ∀ setattr, msg = .setAttr setattr → ¬ call.Named setattr.valid) :
    dispatch (kernel.refusing call) msg = dispatch kernel msg := by
  cases msg
  case setAttr setattr =>
    simp only [dispatch, setAttr_refusing kernel call setattr (hmsg setattr rfl)]
  all_goals first
    | (simp only [dispatch, walk_refusing, readdir_refusing]; done)
    | (cases call <;> rfl)

end Refusing

/-- Whatever the host, handling a frame over a kernel that refuses one of the
calls that change attributes is the same as over the kernel itself, unless the
frame is a `Tsetattr` whose `valid` names that call. The server changes no
attribute the client did not name, and none on any other request. -/
theorem attributes_change_only_when_named (kernel : Kernel σ File) (call : AttrCall)
    (frame : Tframe)
    (hframe : ∀ setattr, frame.msg = .ok (.setAttr setattr) → ¬ call.Named setattr.valid) :
    handle (kernel.refusing call) frame = handle kernel frame := by
  rcases frame with ⟨tag, err | msg⟩
  · rfl
  · have hmsg : ∀ setattr, msg = .setAttr setattr → ¬ call.Named setattr.valid :=
      fun setattr hsetattr => hframe setattr (congrArg Except.ok hsetattr)
    simp only [handle, dispatch_refusing kernel call msg hmsg]

/-- A `Tsetattr` of the mode alone, on fid `0`. -/
def modeOnly : Tsetattr :=
  ⟨0, P9_SETATTR_MODE, 0o644, 0, 0, 0, 0, 0, 0, 0⟩

/-- Setting the mode alone never truncates, whatever the host's `set_len` does. -/
theorem mode_setattr_never_truncates :
    (∀ setattr, (⟨1, .ok (.setAttr modeOnly)⟩ : Tframe).msg = .ok (.setAttr setattr) →
        ¬ AttrCall.truncate.Named setattr.valid) ∧
      handle (TreeFs.kernel.refusing .truncate) ⟨1, .ok (.setAttr modeOnly)⟩ =
        handle TreeFs.kernel ⟨1, .ok (.setAttr modeOnly)⟩ := by
  have hframe : ∀ setattr, (⟨1, .ok (.setAttr modeOnly)⟩ : Tframe).msg =
      .ok (.setAttr setattr) → ¬ AttrCall.truncate.Named setattr.valid := by
    rintro setattr ⟨⟩
    decide
  exact ⟨hframe, attributes_change_only_when_named TreeFs.kernel .truncate _ hframe⟩

end JetStream
