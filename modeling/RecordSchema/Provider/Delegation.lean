import RecordSchema.Provider.Resolution
import RecordSchema.Value.Entries

namespace RecordSchema

/-!
A provider that adds nothing: it stands for the description under one of its options and
converts against it.
-/

namespace Behaviour

def delegatedOption : String := "spec"

def delegating : Behaviour where
  resolve _ options := return (options.get? delegatedOption).getD (.text Kind.any.name)
  convertValue convert _ resolved value := convert resolved value

end Behaviour

end RecordSchema
