import JetStream.Stream.ByteStream

/-!
# One end of a two-way byte stream

A task that serves a stream holds the state of what it serves, reads from the
stream's receiving half and writes to its sending half.  `Duplex σ` is that:
the state, the bytes still to be read, and the bytes written so far.  Readers
and writers of `ByteStream` and actions on the state lift to it, each leaving
the other two parts as they were.

A relay between two parties holds a stream towards each; it is
`Duplex (Duplex Unit)`, the second stream being the first one's state.
-/

/-- The state of a task serving a stream, the bytes still to be read from the
stream and those written to it. -/
structure Duplex (σ : Type) where
  state : σ
  input : List UInt8
  output : List UInt8

namespace Duplex

open ByteStream Proc

variable {σ ε α : Type}

/-- An action on the state. -/
def onState (action : Proc σ ε α) : Proc (Duplex σ) ε α :=
  zoom Duplex.state (fun duplex state => { duplex with state }) action

/-- A read from the receiving half. -/
def onInput (reader : ByteM ε α) : Proc (Duplex σ) ε α :=
  zoom Duplex.input (fun duplex input => { duplex with input }) reader

/-- A write to the sending half. -/
def onOutput (writer : ByteM ε α) : Proc (Duplex σ) ε α :=
  zoom Duplex.output (fun duplex output => { duplex with output }) writer

theorem onState_of_ok {action : Proc σ ε α} {state state' : σ} {value : α}
    (h : action state = .ok value state') (input output : List UInt8) :
    onState action ⟨state, input, output⟩ = .ok value ⟨state', input, output⟩ :=
  zoom_of_ok h

theorem onState_of_error {action : Proc σ ε α} {state state' : σ} {error : ε}
    (h : action state = .error error state') (input output : List UInt8) :
    onState action ⟨state, input, output⟩ = .error error ⟨state', input, output⟩ :=
  zoom_of_error h

theorem onInput_of_ok {reader : ByteM ε α} {input input' : List UInt8} {value : α}
    (h : reader input = .ok value input') (state : σ) (output : List UInt8) :
    onInput reader ⟨state, input, output⟩ = .ok value ⟨state, input', output⟩ :=
  zoom_of_ok h

theorem onInput_of_error {reader : ByteM ε α} {input input' : List UInt8} {error : ε}
    (h : reader input = .error error input') (state : σ) (output : List UInt8) :
    onInput reader ⟨state, input, output⟩ = .error error ⟨state, input', output⟩ :=
  zoom_of_error h

/-- A reader that reads `bytes` takes them off the front of the stream. -/
theorem onInput_of_reads {reader : ByteM ε α} {bytes : List UInt8} {value : α}
    (hreads : Reads reader bytes value) (state : σ) (rest output : List UInt8) :
    onInput reader ⟨state, bytes ++ rest, output⟩ = .ok value ⟨state, rest, output⟩ :=
  onInput_of_ok (hreads rest) state output

theorem onOutput_of_ok {writer : ByteM ε α} {output output' : List UInt8} {value : α}
    (h : writer output = .ok value output') (state : σ) (input : List UInt8) :
    onOutput writer ⟨state, input, output⟩ = .ok value ⟨state, input, output'⟩ :=
  zoom_of_ok h

theorem onOutput_of_error {writer : ByteM ε α} {output output' : List UInt8} {error : ε}
    (h : writer output = .error error output') (state : σ) (input : List UInt8) :
    onOutput writer ⟨state, input, output⟩ = .error error ⟨state, input, output'⟩ :=
  zoom_of_error h

/-- A writer that writes `bytes` appends them to the stream. -/
theorem onOutput_of_writes {writer : ByteM ε Unit} {bytes : List UInt8}
    (hwrites : Writes writer bytes) (state : σ) (input output : List UInt8) :
    onOutput writer ⟨state, input, output⟩ = .ok () ⟨state, input, output ++ bytes⟩ :=
  onOutput_of_ok (hwrites output) state input

end Duplex
