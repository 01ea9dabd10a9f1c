namespace RecordSchema

/-!
Text from bytes, refused where the bytes are no well-formed UTF-8.
-/

def textOfUtf8? (data : List UInt8) : Option String :=
  String.fromUTF8? ⟨data.toArray⟩

end RecordSchema
