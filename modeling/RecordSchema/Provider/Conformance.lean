import RecordSchema.Session
import RecordSchema.Value.Entries
import RecordSchema.Value.Printing

namespace RecordSchema

/-!
Which values can serve as providers.  A value that lacks an operation is refused with
the operations it lacks; a class is replaced by the object that all its uses share.
-/

namespace Value

def providerName : Value → String
  | .providerClass c => c.displayName
  | .provider c _ => c.displayName
  | .field f => if f.name.isEmpty then "FieldSpec" else f.name
  | .map .record entries =>
      match Entries.get? entries "name" with
      | some (.text name) => if name.isEmpty then "Record" else name
      | _ => "Record"
  | value => value.typeName

/-- The operations that a candidate lacks.  An entry of a record serves as the operation of
its name if it can be called. -/
def lackedOperations : Value → List Operation
  | .providerClass c => c.lacks
  | .provider c _ => c.lacks
  | .descriptor (.ref _ _) => [.convertValue]
  | .map .record entries =>
      [.resolve, .convertValue].filter (fun operation =>
        !(Entries.get? entries operation.name).any isCallable)
  | _ => [.resolve, .convertValue]

end Value

/-- What is reported where no object can be made. -/
def ProviderClass.complaint (c : ProviderClass) : Refusal → Error
  | .type complaint => .definition (.notInstantiable c.typeName complaint)
  | .fault fault _ => .fault fault

namespace Value

def conform (candidate : Value) : Action Value :=
  if !candidate.lackedOperations.isEmpty then
    Action.fail (.notProvider candidate.providerName candidate.lackedOperations)
  else
    match candidate with
    | .providerClass c =>
        match c.refusal with
        | some refusal => throw (c.complaint refusal)
        | none =>
            modifyGet (fun session =>
              let shared := session.instances.share c
              (.provider c shared.1, { session with instances := shared.2 }))
    | candidate => return candidate

end Value

end RecordSchema
