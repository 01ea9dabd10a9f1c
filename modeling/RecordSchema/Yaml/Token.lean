namespace RecordSchema.Yaml

/-!
Tokens of YAML text.
-/

/-- How a scalar is written; only a plain one is open to interpretation. -/
inductive ScalarStyle where
  | plain
  | quoted
  | block
deriving DecidableEq, Repr

inductive TagText where
  | handled (handle suffix : String)
  | verbatim (name : String)
deriving DecidableEq, Repr

inductive Directive where
  | version (major minor : Nat)
  | tag (handle stem : String)
  | unknown (name : String)
deriving DecidableEq, Repr

inductive Token where
  | directive (directive : Directive)
  | documentStart
  | documentEnd
  | streamEnd
  | blockSequenceStart
  | blockMappingStart
  | blockEnd
  | flowSequenceStart
  | flowSequenceEnd
  | flowMappingStart
  | flowMappingEnd
  | flowEntry
  | blockEntry
  | key
  | value
  | anchor (name : String)
  | reference (name : String)
  | tag (tag : TagText)
  | scalar (text : String) (style : ScalarStyle)
deriving DecidableEq, Repr

end RecordSchema.Yaml
