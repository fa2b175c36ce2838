import LivePage.Page.Document

/-!
# Storage

A storage keeps texts under keys.  Reading and writing can fail.
-/

namespace LivePage
namespace Page

/-- The kinds of storage error. -/
inductive StorageErrorKind where
  | unavailable
  | quotaExceeded
  | other
  deriving DecidableEq, Repr

/-- The text of a kind of storage error. -/
def StorageErrorKind.text : StorageErrorKind → String
  | .unavailable => "Storage unavailable"
  | .quotaExceeded => "Storage quota exceeded"
  | .other => "Storage error"

/-- Why a storage could not be read or written. -/
structure StorageError where
  kind : StorageErrorKind
  message : String
  deriving DecidableEq, Repr

def StorageError.text (e : StorageError) : String :=
  e.kind.text ++ ": " ++ e.message

/-- The error of every access to a storage that is switched off. -/
def StorageError.disabled : StorageError := ⟨.unavailable, "storage disabled"⟩

/-- A storage. -/
structure Storage where
  items : String → Option String
  /-- Whether every access fails. -/
  isDisabled : Bool
  /-- The error of every reading, if it fails. -/
  readError : Option StorageError
  /-- The error of every writing, if it fails. -/
  writeError : Option StorageError

namespace Storage

def empty : Storage where
  items _ := none
  isDisabled := false
  readError := none
  writeError := none

/-- Puts an item into the storage before it is used. -/
def withItem (s : Storage) (key value : String) : Storage :=
  { s with items := assign s.items key (some value) }

def get (s : Storage) (key : String) : Except StorageError (Option String) :=
  match s.readError with
  | some e => .error e
  | none => if s.isDisabled then .error .disabled else .ok (s.items key)

def set (s : Storage) (key value : String) : Except StorageError Unit × Storage :=
  match s.writeError with
  | some e => (.error e, s)
  | none => if s.isDisabled then (.error .disabled, s) else (.ok (), s.withItem key value)

end Storage
end Page
end LivePage
