import RecordSchema.Document.Basic
import RecordSchema.Provider.Snapshot

namespace RecordSchema

/-!
A cache of documents by descriptor.  It keeps the documents that were asked for last,
at most as many as its capacity.
-/

/-- Documents with their descriptors, the one asked for last in front. -/
structure Cache where
  entries : List (Descriptor × Document) := []

namespace Cache

def answers (stored asked : Descriptor) : Bool :=
  stored.same asked && stored.keyAgrees asked

def split? : List (Descriptor × Document) → Descriptor →
    Option (List (Descriptor × Document) × (Descriptor × Document) × List (Descriptor × Document))
  | [], _ => none
  | entry :: rest, asked =>
      if answers entry.1 asked then some ([], entry, rest)
      else (split? rest asked).map (fun found => (entry :: found.1, found.2.1, found.2.2))

def lookup? (cache : Cache) (asked : Descriptor) : Option (Document × Cache) :=
  (split? cache.entries asked).map (fun found =>
    (found.2.1.2, ⟨found.2.1 :: (found.1 ++ found.2.2)⟩))

def store (cache : Cache) (capacity : Nat) (descriptor : Descriptor) (document : Document) :
    Cache :=
  ⟨((descriptor, document) :: cache.entries).take capacity⟩

end Cache

end RecordSchema
