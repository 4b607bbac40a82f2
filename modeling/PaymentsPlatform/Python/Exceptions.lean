import PaymentsPlatform.Python.Text

/-!
# Exceptions

The exception classes the modelled code raises, catches or tests for, with the subclass
questions it asks. An exception carries the text of `str(error)`.
-/

namespace Python

/-- The classes of exceptions. -/
inductive ErrorKind
  | immutableCollisionError
  | storageBackendError
  | conditionalWriteConflict
  | objectNotFound
  | s3Error (code : PyStr)
  | httpError
  | osError
  | fileExistsError
  | timeoutError
  | connectionError
  | operationalError
  | integrityError
  | manifestError
  | manifestConflictError
  | invalidManifestTransition
  | runtimeError
  | valueError
  | typeError
  | keyError
  | overflowError
  | recursionError
  | invalidOperation
  | unicodeDecodeError
  | unicodeEncodeError
  | jsonDecodeError
  | arrowError
  | kafkaException
  | retryExhaustedError
  | attributeError
  | bronzeReadError (code : PyStr)
  | processingManifestError
deriving DecidableEq, Repr

/-- A raised exception: its class and its text. -/
structure PyError where
  /-- The class. -/
  kind : ErrorKind
  /-- `str(error)`. -/
  message : PyStr
deriving DecidableEq, Repr

namespace ErrorKind

/-- `type(error).__name__`. -/
def typeName : ErrorKind → PyStr
  | immutableCollisionError => "ImmutableCollisionError"
  | storageBackendError => "StorageBackendError"
  | conditionalWriteConflict => "_ConditionalWriteConflict"
  | objectNotFound => "_ObjectNotFound"
  | s3Error _ => "S3Error"
  | httpError => "HTTPError"
  | osError => "OSError"
  | fileExistsError => "FileExistsError"
  | timeoutError => "TimeoutError"
  | connectionError => "ConnectionError"
  | operationalError => "OperationalError"
  | integrityError => "IntegrityError"
  | manifestError => "ManifestError"
  | manifestConflictError => "ManifestConflictError"
  | invalidManifestTransition => "InvalidManifestTransition"
  | runtimeError => "RuntimeError"
  | valueError => "ValueError"
  | typeError => "TypeError"
  | keyError => "KeyError"
  | overflowError => "OverflowError"
  | recursionError => "RecursionError"
  | invalidOperation => "InvalidOperation"
  | unicodeDecodeError => "UnicodeDecodeError"
  | unicodeEncodeError => "UnicodeEncodeError"
  | jsonDecodeError => "JSONDecodeError"
  | arrowError => "ArrowInvalid"
  | kafkaException => "KafkaException"
  | retryExhaustedError => "RetryExhaustedError"
  | attributeError => "AttributeError"
  | bronzeReadError _ => "BronzeReadError"
  | processingManifestError => "ProcessingManifestError"

/-- Subclasses of `StorageBackendError`. -/
def isStorageBackendError : ErrorKind → Bool
  | storageBackendError | immutableCollisionError | conditionalWriteConflict
  | objectNotFound => true
  | _ => false

/-- Subclasses of `KeyError`, `TypeError` and `ValueError`. -/
def isBadValue : ErrorKind → Bool
  | keyError | typeError | valueError | jsonDecodeError | unicodeDecodeError
  | unicodeEncodeError | bronzeReadError _ => true
  | _ => false

/-- Subclasses of `OSError`, which `TimeoutError` and `ConnectionError` are too. -/
def isOSError : ErrorKind → Bool
  | osError | fileExistsError | timeoutError | connectionError => true
  | _ => false

end ErrorKind

/-- A sequence returns when its first part returns and the rest returns after it. -/
theorem bind_eq_ok {ε α β : Type} {first : Except ε α} {next : α → Except ε β} {result : β} :
    first >>= next = .ok result ↔ ∃ value, first = .ok value ∧ next value = .ok result := by
  cases first with
  | error problem =>
    constructor
    · intro no
      cases no
    · rintro ⟨value, no, -⟩
      cases no
  | ok value =>
    constructor
    · intro returned
      exact ⟨value, rfl, returned⟩
    · rintro ⟨other, same, returned⟩
      rw [Except.ok.inj same]
      exact returned

/-- A computed result is the image of what was returned. -/
theorem map_eq_ok {ε α β : Type} {first : Except ε α} {next : α → β} {result : β} :
    first.map next = .ok result ↔ ∃ value, first = .ok value ∧ next value = result := by
  cases first with
  | error problem =>
    constructor
    · intro no
      cases no
    · rintro ⟨value, no, -⟩
      cases no
  | ok value =>
    constructor
    · intro returned
      exact ⟨value, rfl, Except.ok.inj returned⟩
    · rintro ⟨other, same, returned⟩
      rw [Except.ok.inj same, ← returned]
      rfl

end Python
