import Highlight.Document.Basic

/-!
A memory of the last document, which serves a request for the same value and language again.
-/

set_option autoImplicit false

namespace Highlight

/-- A document together with the number of the computation that made it. Two with the same number
are the same object. -/
structure StoredDocument where
  document : Document
  computation : Nat
  deriving DecidableEq, Repr

structure DocumentCache where
  stored : Option StoredDocument
  hits : Nat
  misses : Nat
  deriving DecidableEq, Repr

namespace DocumentCache

def empty : DocumentCache :=
  ⟨none, 0, 0⟩

def lookup? (cache : DocumentCache) (value : String) (language : Language) :
    Option StoredDocument :=
  cache.stored.filter fun stored =>
    stored.document.language == language && stored.document.value == value

/-- The document of a value in a language, computed only when it is not the remembered one. -/
def get (cache : DocumentCache) (value : String) (language : Language) :
    StoredDocument × DocumentCache :=
  match cache.lookup? value language with
  | some stored => (stored, { cache with hits := cache.hits + 1 })
  | none =>
    let misses := cache.misses + 1
    let stored := ⟨.compute value language, misses⟩
    (stored, { cache with stored := some stored, misses := misses })

/-- Forgets the document but not the counts. -/
def clear (cache : DocumentCache) : DocumentCache :=
  { cache with stored := none }

end DocumentCache

end Highlight
