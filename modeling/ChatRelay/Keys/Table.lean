import ChatRelay.Chat.Conversation
import ChatRelay.Keys.Sha256

/-!
# Keys for the interface

A key tells who its holder is. It is shown once, when it is created; after that
only its digest is kept, by which it is found again.
-/

namespace ChatRelay

/-- What is kept of a key. -/
structure KeyRow where
  id : Uuid
  owner : UserId
  /-- The digest of the key. -/
  digest : String
  name : String
  createdAt : Time.Instant
  lastUsedAt : Option Time.Instant := none
  deriving DecidableEq, Repr

/-- A key that has just been created. -/
structure CreatedKey where
  id : Uuid
  owner : UserId
  name : String
  key : String
  deriving DecidableEq, Repr

/-- The keys that are known, in the order of creation. -/
structure KeyTable where
  rows : List KeyRow := []
  deriving DecidableEq, Repr

namespace KeyTable

/-- The key made of some random bytes. -/
def keyOf (secret : List UInt8) : String :=
  "parley_" ++ String.ofList (secret.flatMap fun b => Text.hexDigits 2 b.toNat)

/-- Creates a key for a user. -/
def create (t : KeyTable) (owner : UserId) (name : String) (id : Uuid) (secret : List UInt8)
    (now : Time.Instant) : CreatedKey × KeyTable :=
  let key := keyOf secret
  ({ id, owner, name, key },
    { rows := t.rows ++ [{ id, owner, digest := Sha256.digest key, name, createdAt := now }] })

/-- Finds the holder of a key and notes that the key was used. -/
def authenticate (t : KeyTable) (key : String) (now : Time.Instant) : Option UserId × KeyTable :=
  match t.rows.find? (·.digest == Sha256.digest key) with
  | none => (none, t)
  | some row =>
    (some row.owner,
      { rows := t.rows.map fun r => if r.id = row.id then { r with lastUsedAt := some now } else r })

end KeyTable

end ChatRelay
