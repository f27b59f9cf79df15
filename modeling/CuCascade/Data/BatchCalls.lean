import CuCascade.Data.ConverterRegistry

/-!
# The calls on batches that can throw

Six operations of a batch end with an exception for some states. A call names
the batches it works on, one or two of those that exist, and is made on the
table of them all.
-/

namespace CuCascade.Data

open Memory

inductive BatchCall (T : Type) where
  /-- a batch made at `this` out of `other` -/
  | moveConstruct (this other : Addr)
  | moveAssign (this other : Addr)
  | setData (this : Addr) (data : Option Representation)
  | convertTo (this : Addr) (registry : ConverterRegistry T) (targetType : T)
      (targetMemorySpace : Option Addr) (stream : Stream)
  | tryToCancelTask (this : Addr)
  /-- `release` of a processing handle -/
  | release (handle : Option Addr)

namespace BatchCall

variable {T : Type}

/-- A method called through a pointer. -/
def onBatch {α : Type} (batches : Table Addr DataBatch) (this : Addr)
    (method : DataBatch → Outcome α) : Result (Table Addr DataBatch) Unit :=
  match batches.lookup this with
  | none => (batches, .error .nullDereference)
  | some batch =>
      let out := method batch
      (batches.insert this out.batch, out.result.map fun _ => ())

def perform [DecidableEq T] (batches : Table Addr DataBatch) :
    BatchCall T → Result (Table Addr DataBatch) Unit
  | .moveConstruct this other =>
      match batches.lookup other with
      | none => (batches, .error .nullDereference)
      | some source =>
          match source.moveConstruct with
          | (source, .error e) => (batches.insert other source, .error e)
          | (source, .ok batch) => ((batches.insert other source).insert this batch, .ok ())
  | .moveAssign this other =>
      if this = other then (batches, .ok ())
      else
        match batches.lookup this, batches.lookup other with
        | some target, some source =>
            let ((target, source), result) := target.moveAssign source
            ((batches.insert this target).insert other source, result)
        | _, _ => (batches, .error .nullDereference)
  | .setData this data => onBatch batches this (·.setData data)
  | .convertTo this registry targetType targetMemorySpace stream =>
      onBatch batches this
        (·.convertTo (registry.convert · targetType targetMemorySpace stream))
  | .tryToCancelTask this => onBatch batches this (·.tryToCancelTask)
  | .release none => (batches, .ok ())
  | .release (some this) => onBatch batches this (·.decrementProcessingCount)

end BatchCall

end CuCascade.Data
