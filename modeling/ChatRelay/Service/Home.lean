import ChatRelay.Keys.Table
import ChatRelay.Service.World

/-!
# What the program keeps

The commands and the interface work on the same conversations and keys.
-/

namespace ChatRelay.Service

/-- The world that services act on, and the keys that tell who is calling. -/
structure Home (σ : Type) where
  world : World σ
  keys : KeyTable := {}

end ChatRelay.Service
