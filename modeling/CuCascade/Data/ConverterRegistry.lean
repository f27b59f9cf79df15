import CuCascade.Data.DataBatch
import CuCascade.Lib.Table

/-!
# `representation_converter_registry`

The converters by the types they lead from and to. A converter is a function of
the client, so what the registry gets from it is what it returns or throws. `T`
stands for `std::type_index`.
-/

namespace CuCascade.Data

open Memory

structure ConverterKey (T : Type) where
  sourceType : T
  targetType : T
deriving DecidableEq

/-- `representation_converter_fn`, given the source, the target space and the
stream. -/
abbrev RepresentationConverterFn :=
  Representation → Option Addr → Stream → Except Failure (Option Representation)

/-- `name` is `std::type_index::name`, and `typeOf` is `typeid` of an object. -/
structure ConverterRegistry (T : Type) where
  name : T → String
  typeOf : Representation → T
  converters : Table (ConverterKey T) RepresentationConverterFn

namespace ConverterRegistry

variable {T : Type} [DecidableEq T]

/-- The text about the two types of a key. -/
def describe (r : ConverterRegistry T) (key : ConverterKey T) : String :=
  "for source type '" ++ r.name key.sourceType ++ "' to target type '" ++
    r.name key.targetType ++ "'"

/-- `register_converter_impl`. -/
def registerConverter (r : ConverterRegistry T) (key : ConverterKey T)
    (converter : RepresentationConverterFn) : Result (ConverterRegistry T) Unit :=
  if key ∈ r.converters then
    (r, .error (.thrown (.runtimeError
      ("Converter already registered " ++ r.describe key))))
  else ({ r with converters := r.converters.insert key converter }, .ok ())

def hasConverter (r : ConverterRegistry T) (key : ConverterKey T) : Bool :=
  key ∈ r.converters

/-- `unregister_converter_impl`: whether there was one. -/
def unregisterConverter (r : ConverterRegistry T) (key : ConverterKey T) :
    ConverterRegistry T × Bool :=
  ({ r with converters := r.converters.erase key }, r.hasConverter key)

def clear (r : ConverterRegistry T) : ConverterRegistry T := { r with converters := ∅ }

/-- `convert`, with the key made of the type of the source. -/
def convert (r : ConverterRegistry T) (source : Representation) (targetType : T)
    (targetMemorySpace : Option Addr) (stream : Stream) :
    Except Failure (Option Representation) :=
  let key : ConverterKey T := ⟨r.typeOf source, targetType⟩
  match r.converters.lookup key with
  | none => .error (.thrown (.runtimeError
      ("No converter registered " ++ r.describe key)))
  | some converter => converter source targetMemorySpace stream

/-! ## The built-in converters -/

/-- The `type_index` of the two representations of the library, which are different
types. -/
structure BuiltinTypes (T : Type) where
  gpuTableRepresentation : T
  hostTableRepresentation : T
  ne : gpuTableRepresentation ≠ hostTableRepresentation

/-- The functions that are registered for them. -/
structure BuiltinConverters where
  convertGpuToGpu : RepresentationConverterFn
  convertGpuToHost : RepresentationConverterFn
  convertHostToGpu : RepresentationConverterFn
  convertHostToHost : RepresentationConverterFn

/-- Registrations one after the other; one that throws ends them. -/
def registerConverters (r : ConverterRegistry T) :
    List (ConverterKey T × RepresentationConverterFn) → Result (ConverterRegistry T) Unit
  | [] => (r, .ok ())
  | (key, converter) :: rest =>
      match r.registerConverter key converter with
      | (r, .ok ()) => r.registerConverters rest
      | (r, .error e) => (r, .error e)

/-- What `register_builtin_converters` registers, in its order. -/
def builtins (t : BuiltinTypes T) (b : BuiltinConverters) :
    List (ConverterKey T × RepresentationConverterFn) :=
  [(⟨t.gpuTableRepresentation, t.gpuTableRepresentation⟩, b.convertGpuToGpu),
    (⟨t.gpuTableRepresentation, t.hostTableRepresentation⟩, b.convertGpuToHost),
    (⟨t.hostTableRepresentation, t.gpuTableRepresentation⟩, b.convertHostToGpu),
    (⟨t.hostTableRepresentation, t.hostTableRepresentation⟩, b.convertHostToHost)]

def registerBuiltinConverters (r : ConverterRegistry T) (t : BuiltinTypes T)
    (b : BuiltinConverters) : Result (ConverterRegistry T) Unit :=
  r.registerConverters (builtins t b)

end ConverterRegistry

end CuCascade.Data
