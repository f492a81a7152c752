import Mathlib.Data.List.Induction
import Highlight.Document.Cache

/-!
Runs of a document cache. In every reachable state the remembered document is the last answer and a
fresh computation of what was asked for last, so no answer is ever stale.
-/

set_option autoImplicit false

namespace Highlight

theorem Document.compute_inj {value otherValue : String} {language otherLanguage : Language} :
    Document.compute value language = .compute otherValue otherLanguage ↔
      value = otherValue ∧ language = otherLanguage := by
  constructor
  · intro same
    exact ⟨congrArg Document.value same, congrArg Document.language same⟩
  · rintro ⟨rfl, rfl⟩
    rfl

inductive CacheRequest where
  | get (value : String) (language : Language)
  | clear
  /-- The cache is replaced by its copy. -/
  | copy
  deriving DecidableEq, Repr

def CacheRequest.isGet : CacheRequest → Bool
  | get _ _ => true
  | clear | copy => false

/-- A copy shares the remembered document. -/
def DocumentCache.copy (cache : DocumentCache) : DocumentCache :=
  ⟨cache.stored, cache.hits, cache.misses⟩

/-- A cache with the answers that it has given, of which the last comes first. -/
structure CacheSession where
  cache : DocumentCache
  answers : List StoredDocument
  deriving DecidableEq, Repr

namespace CacheSession

def start : CacheSession :=
  ⟨.empty, []⟩

def serve (session : CacheSession) : CacheRequest → CacheSession
  | .get value language =>
    let (answer, cache) := session.cache.get value language
    ⟨cache, answer :: session.answers⟩
  | .clear => { session with cache := session.cache.clear }
  | .copy => { session with cache := session.cache.copy }

def run (requests : List CacheRequest) : CacheSession :=
  requests.foldl serve start

@[simp] theorem run_nil : run [] = start := rfl

@[simp] theorem run_concat (requests : List CacheRequest) (request : CacheRequest) :
    run (requests ++ [request]) = (run requests).serve request := by
  simp [run]

end CacheSession

/-- Did requests end with one for this value and language, apart from copies after it? -/
def Remembered (requests : List CacheRequest) (value : String) (language : Language) : Prop :=
  ∃ earlier copies, requests = earlier ++ .get value language :: copies ∧
    ∀ request ∈ copies, request = .copy

namespace Remembered

variable {requests : List CacheRequest} {value : String} {language : Language}

theorem not_nil : ¬Remembered [] value language := by
  rintro ⟨earlier, copies, same, -⟩
  simp at same

theorem concat_iff {last : CacheRequest} :
    Remembered (requests ++ [last]) value language ↔
      last = .get value language ∨ last = .copy ∧ Remembered requests value language := by
  constructor
  · rintro ⟨earlier, copies, same, onlyCopies⟩
    rcases List.eq_nil_or_concat copies with rfl | ⟨copies, final, rfl⟩
    · obtain ⟨-, sameLast⟩ := List.append_inj' same rfl
      exact .inl (by simpa using sameLast)
    · have split : requests ++ [last] = (earlier ++ .get value language :: copies) ++ [final] := by
        simpa using same
      obtain ⟨rfl, sameLast⟩ := List.append_inj' split rfl
      obtain rfl : last = final := by simpa using sameLast
      exact .inr ⟨onlyCopies last (by simp), earlier, copies, rfl,
        fun request member => onlyCopies request (by simp [member])⟩
  · rintro (rfl | ⟨rfl, earlier, copies, rfl, onlyCopies⟩)
    · exact ⟨requests, [], rfl, by simp⟩
    · refine ⟨earlier, copies ++ [.copy], by simp, ?_⟩
      rw [List.forall_mem_append]
      exact ⟨onlyCopies, by simp⟩

end Remembered

namespace DocumentCache

theorem lookup?_eq_some_iff {cache : DocumentCache} {value : String} {language : Language}
    {stored : StoredDocument} :
    cache.lookup? value language = some stored ↔
      cache.stored = some stored ∧ stored.document.language = language ∧
        stored.document.value = value := by
  simp [lookup?, Option.filter_eq_some_iff]

theorem get_of_lookup? {cache : DocumentCache} {value : String} {language : Language}
    {stored : StoredDocument} (found : cache.lookup? value language = some stored) :
    cache.get value language = (stored, { cache with hits := cache.hits + 1 }) := by
  simp only [get, found]

theorem get_of_not_lookup? {cache : DocumentCache} {value : String} {language : Language}
    (missing : cache.lookup? value language = none) :
    cache.get value language =
      (⟨.compute value language, cache.misses + 1⟩,
        { cache with
          stored := some ⟨.compute value language, cache.misses + 1⟩
          misses := cache.misses + 1 }) := by
  simp only [get, missing]

/-- Is what a cache remembers a fresh computation? -/
def IsFresh (cache : DocumentCache) : Prop :=
  ∀ stored ∈ cache.stored, ∃ value language, stored.document = .compute value language

theorem isFresh_empty : empty.IsFresh := by
  simp [IsFresh, empty]

/-- A fresh document that is found was made from what was asked for. -/
theorem IsFresh.document_of_lookup? {cache : DocumentCache} (fresh : cache.IsFresh)
    {value : String} {language : Language} {stored : StoredDocument}
    (found : cache.lookup? value language = some stored) :
    stored.document = .compute value language := by
  obtain ⟨kept, rfl, rfl⟩ := lookup?_eq_some_iff.mp found
  obtain ⟨value, language, same⟩ := fresh stored kept
  rw [same]
  rfl

theorem IsFresh.get {cache : DocumentCache} (fresh : cache.IsFresh) (value : String)
    (language : Language) :
    (cache.get value language).1.document = .compute value language ∧
      (cache.get value language).2.IsFresh := by
  cases found : cache.lookup? value language with
  | some stored =>
    rw [get_of_lookup? found]
    exact ⟨fresh.document_of_lookup? found, fresh⟩
  | none =>
    rw [get_of_not_lookup? found]
    refine ⟨rfl, ?_⟩
    rintro stored ⟨⟩
    exact ⟨value, language, rfl⟩

end DocumentCache

namespace CacheSession

/-- What holds of a session after some requests: the remembered document is the last answer and
fresh, and no answer comes from a later computation than the last miss. -/
structure Follows (session : CacheSession) (requests : List CacheRequest) : Prop where
  counted : session.cache.hits + session.cache.misses = requests.countP CacheRequest.isGet
  newest : ∀ stored ∈ session.cache.stored, session.answers.head? = some stored
  numbered : ∀ answer ∈ session.answers, answer.computation ≤ session.cache.misses
  fresh : session.cache.IsFresh
  stored_iff : ∀ value language, (∃ stored ∈ session.cache.stored,
    stored.document = .compute value language) ↔ Remembered requests value language

variable {session : CacheSession} {requests : List CacheRequest}

theorem start_follows : start.Follows [] where
  counted := rfl
  newest := by simp [start, DocumentCache.empty]
  numbered := by simp [start]
  fresh := DocumentCache.isFresh_empty
  stored_iff value language := by
    simp [start, DocumentCache.empty, Remembered.not_nil]

/-- A lookup succeeds just for what is remembered, and gives the last answer, which is fresh. -/
theorem Follows.lookup?_iff (follows : session.Follows requests) {value : String}
    {language : Language} {stored : StoredDocument} :
    session.cache.lookup? value language = some stored ↔
      session.cache.stored = some stored ∧ stored.document = .compute value language := by
  constructor
  · intro found
    exact ⟨(DocumentCache.lookup?_eq_some_iff.mp found).1,
      follows.fresh.document_of_lookup? found⟩
  · rintro ⟨kept, same⟩
    rw [DocumentCache.lookup?_eq_some_iff, same]
    exact ⟨kept, rfl, rfl⟩

theorem Follows.exists_lookup?_iff (follows : session.Follows requests) (value : String)
    (language : Language) :
    (∃ stored, session.cache.lookup? value language = some stored) ↔
      Remembered requests value language := by
  rw [← follows.stored_iff]
  exact exists_congr fun _ => follows.lookup?_iff

theorem Follows.hit (follows : session.Follows requests) {value : String} {language : Language}
    {stored : StoredDocument}
    (found : session.cache.lookup? value language = some stored) :
    (session.serve (.get value language)).Follows (requests ++ [.get value language]) := by
  obtain ⟨kept, same⟩ := follows.lookup?_iff.mp found
  have served : session.serve (.get value language) =
      ⟨{ session.cache with hits := session.cache.hits + 1 }, stored :: session.answers⟩ := by
    simp only [serve, DocumentCache.get_of_lookup? found]
  rw [served]
  constructor
  · have counted := follows.counted
    simp only [List.countP_append, List.countP_singleton, CacheRequest.isGet, ↓reduceIte]
    omega
  · simp [kept]
  · rw [List.forall_mem_cons]
    refine ⟨follows.numbered stored ?_, follows.numbered⟩
    exact List.mem_of_mem_head? (follows.newest stored kept)
  · exact follows.fresh
  · simp [kept, same, Document.compute_inj, Remembered.concat_iff]

theorem Follows.miss (follows : session.Follows requests) {value : String} {language : Language}
    (missing : session.cache.lookup? value language = none) :
    (session.serve (.get value language)).Follows (requests ++ [.get value language]) := by
  have served : session.serve (.get value language) =
      ⟨{ session.cache with
          stored := some ⟨.compute value language, session.cache.misses + 1⟩
          misses := session.cache.misses + 1 },
        ⟨.compute value language, session.cache.misses + 1⟩ :: session.answers⟩ := by
    simp only [serve, DocumentCache.get_of_not_lookup? missing]
  rw [served]
  constructor
  · have counted := follows.counted
    simp only [List.countP_append, List.countP_singleton, CacheRequest.isGet, ↓reduceIte]
    omega
  · simp
  · rw [List.forall_mem_cons]
    exact ⟨Nat.le_refl _, fun answer member => Nat.le_succ_of_le (follows.numbered answer member)⟩
  · simp [DocumentCache.IsFresh]
  · simp [Document.compute_inj, Remembered.concat_iff]

theorem Follows.clear (follows : session.Follows requests) :
    (session.serve .clear).Follows (requests ++ [.clear]) where
  counted := by simpa [serve, DocumentCache.clear, CacheRequest.isGet] using follows.counted
  newest := by simp [serve, DocumentCache.clear]
  numbered := follows.numbered
  fresh := by simp [serve, DocumentCache.clear, DocumentCache.IsFresh]
  stored_iff := by simp [serve, DocumentCache.clear, Remembered.concat_iff]

theorem Follows.copy (follows : session.Follows requests) :
    (session.serve .copy).Follows (requests ++ [.copy]) where
  counted := by simpa [serve, DocumentCache.copy, CacheRequest.isGet] using follows.counted
  newest := follows.newest
  numbered := follows.numbered
  fresh := follows.fresh
  stored_iff value language := by
    simpa [serve, DocumentCache.copy, Remembered.concat_iff] using
      follows.stored_iff value language

theorem Follows.serve (follows : session.Follows requests) (request : CacheRequest) :
    (session.serve request).Follows (requests ++ [request]) := by
  cases request with
  | get value language =>
    cases found : session.cache.lookup? value language with
    | some stored => exact follows.hit found
    | none => exact follows.miss found
  | clear => exact follows.clear
  | copy => exact follows.copy

theorem run_follows (requests : List CacheRequest) : (run requests).Follows requests := by
  induction requests using List.reverseRecOn with
  | nil => exact start_follows
  | append_singleton requests request inductionHypothesis =>
    rw [run_concat]
    exact inductionHypothesis.serve request

end CacheSession

/-- Whatever was done with a cache before, a request is answered freshly. It is a hit, and its
answer the same object as the last answer, just when the last request was the same and the cache
was not cleared since. -/
theorem cache_never_stale (requests : List CacheRequest) (value : String) (language : Language) :
    let session := CacheSession.run requests
    let (answer, next) := session.cache.get value language
    answer.document = .compute value language ∧
      session.cache.hits + session.cache.misses = requests.countP CacheRequest.isGet ∧
      next.hits + next.misses = requests.countP CacheRequest.isGet + 1 ∧
      (next.hits = session.cache.hits + 1 ↔ Remembered requests value language) ∧
      (session.answers.head? = some answer ↔ Remembered requests value language) ∧
      ((∃ previous ∈ session.answers.head?, previous.computation = answer.computation) ↔
        Remembered requests value language) := by
  dsimp only
  have follows := CacheSession.run_follows requests
  have remembered := follows.exists_lookup?_iff value language
  have counted := follows.counted
  cases found : (CacheSession.run requests).cache.lookup? value language with
  | some stored =>
    obtain ⟨kept, same⟩ := follows.lookup?_iff.mp found
    have holds : Remembered requests value language := remembered.mp ⟨stored, found⟩
    have last := follows.newest stored kept
    simp only [DocumentCache.get_of_lookup? found, holds, iff_true]
    exact ⟨same, counted, by omega, trivial, last, stored, last, rfl⟩
  | none =>
    have fails : ¬Remembered requests value language := by
      rw [← remembered]
      simp [found]
    -- The answer gets a number that no earlier one has.
    have renumbered : ∀ previous ∈ (CacheSession.run requests).answers.head?,
        previous.computation ≠ (CacheSession.run requests).cache.misses + 1 := by
      intro previous newest equal
      have bound := follows.numbered previous (List.mem_of_mem_head? newest)
      omega
    simp only [DocumentCache.get_of_not_lookup? found, fails, iff_false]
    refine ⟨trivial, counted, by omega, by omega, ?_, ?_⟩
    · intro newest
      exact renumbered _ newest rfl
    · rintro ⟨previous, newest, equal⟩
      exact renumbered previous newest equal

end Highlight
