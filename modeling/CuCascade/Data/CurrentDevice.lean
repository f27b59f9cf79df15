import CuCascade.Memory.Common

/-!
# The built-in converters and the current device

What the converters do to the device that is current for the thread. A converter
is the list of its steps: the calls that may throw, and the switches of the
device, which are plain calls of `cudaSetDevice` and may fail as well. A switch
that fails leaves the device. Everything else that is called leaves it too, and so
do the destructors that run when an exception passes.

An assertion that does not hold neither returns nor throws, and is left out.
-/

namespace CuCascade.Data

/-- A call of a converter that may throw. -/
inductive ConverterCall where
  /-- `source.cast` -/
  | cast
  | pack
  | acquireStream
  | allocateUvector
  | allocateBuffer
  | allocateMultipleBlocks
  | copyPeer
  /-- `multiple_blocks_allocation::at` in turn `i` of the copy loop -/
  | blockAt (i : Nat)
  /-- the copy in turn `i` -/
  | copy (i : Nat)
  | synchronize
  | makeBuffer
  | copyMetadata
  | unpack
  | makeTable
  | makeHostTable
  | makeRepresentation

inductive ConverterStep where
  | call (what : ConverterCall)
  /-- `cudaGetDevice(&previous_device)` -/
  | getDevice
  | setDevice (deviceId : Int)
  /-- `cudaSetDevice(previous_device)` -/
  | setPreviousDevice

/-- The current device, and the variable `previous_device`. -/
structure ThreadDevice where
  current : Int
  previousDevice : Int

def ConverterStep.run (t : ThreadDevice) : ConverterStep → ThreadDevice
  | .call _ => t
  | .getDevice => { t with previousDevice := t.current }
  | .setDevice deviceId => { t with current := deviceId }
  | .setPreviousDevice => { t with current := t.previousDevice }

/-- A built-in converter with the devices of its spaces, and the turns its copy loop
makes. -/
inductive BuiltinConverter where
  | convertGpuToGpu (sourceDeviceId targetDeviceId : Int)
  | convertGpuToHost (turns : Nat)
  | convertHostToGpu (targetDeviceId : Int) (turns : Nat)
  | convertHostToHost (turns : Nat)

namespace BuiltinConverter

/-- The calls of `convert_gpu_to_host`. -/
def gpuToHostCalls (turns : Nat) : List ConverterCall :=
  [.cast, .pack, .allocateMultipleBlocks] ++
    ((List.range turns).flatMap fun i => [.blockAt i, .copy i]) ++
    [.synchronize, .makeHostTable, .makeRepresentation]

/-- The calls of `convert_host_to_gpu` from its allocation to its last
synchronisation. -/
def hostToGpuCalls (turns : Nat) : List ConverterCall :=
  [.allocateBuffer] ++ ((List.range turns).flatMap fun i => [.blockAt i, .copy i]) ++
    [.copyMetadata, .makeBuffer, .unpack, .makeTable, .synchronize]

/-- The calls of `convert_host_to_host`, which looks up two blocks in each turn. -/
def hostToHostCalls (turns : Nat) : List ConverterCall :=
  [.cast, .allocateMultipleBlocks] ++
    ((List.range turns).flatMap fun i => [.blockAt i, .blockAt i, .copy i]) ++
    [.copyMetadata, .makeHostTable, .makeRepresentation]

def steps : BuiltinConverter → List ConverterStep
  | .convertGpuToGpu sourceDeviceId targetDeviceId =>
      [.call .cast, .call .pack, .call .acquireStream,
        .setDevice targetDeviceId, .call .allocateUvector, .call .synchronize,
        .setDevice sourceDeviceId, .call .copyPeer, .call .synchronize,
        .setDevice targetDeviceId, .call .makeBuffer, .call .unpack, .call .makeTable,
        .call .synchronize,
        .setDevice sourceDeviceId, .call .makeRepresentation]
  | .convertGpuToHost turns => (gpuToHostCalls turns).map .call
  | .convertHostToGpu targetDeviceId turns =>
      [.call .cast, .getDevice, .setDevice targetDeviceId] ++
        (hostToGpuCalls turns).map .call ++
        [.setPreviousDevice, .call .makeRepresentation]
  | .convertHostToHost turns => (hostToHostCalls turns).map .call

/-- The steps that are done when the one at `throwsAt` throws; a converter with no such
step returns. -/
def done (c : BuiltinConverter) (throwsAt : Option Nat) : List ConverterStep :=
  match throwsAt with
  | none => c.steps
  | some i => c.steps.take i

/-- The current device at the end of a converter that was entered with `device`. -/
def exitDevice (c : BuiltinConverter) (device : Int) (throwsAt : Option Nat) : Int :=
  ((c.done throwsAt).foldl ConverterStep.run ⟨device, -1⟩).current

end BuiltinConverter

end CuCascade.Data
