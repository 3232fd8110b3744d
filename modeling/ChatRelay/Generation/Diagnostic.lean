/-!
# Diagnostics

Failures that a caller is not told about: the answer has been generated, but
keeping it or finding a title for it went wrong. They are reported to the log.
-/

namespace ChatRelay.Generation

/-- How much a record of the log matters. -/
inductive LogLevel where
  | error
  | warn
  | info
  | debug
  | trace
  deriving DecidableEq, Repr

/-- What went wrong. -/
inductive DiagnosticKind where
  | conversationCreateFailed
  | messagePersistFailed
  | conversationTouchFailed
  | titleRequestFailed
  | titleEmpty
  | titlePersistFailed
  | titleDeliveryFailed
  deriving DecidableEq, Repr

namespace DiagnosticKind

def name : DiagnosticKind → String
  | .conversationCreateFailed => "conversation_create_failed"
  | .messagePersistFailed => "message_persist_failed"
  | .conversationTouchFailed => "conversation_touch_failed"
  | .titleRequestFailed => "title_request_failed"
  | .titleEmpty => "title_empty"
  | .titlePersistFailed => "title_persist_failed"
  | .titleDeliveryFailed => "title_delivery_failed"

/-- The level at which a failure is logged. That a caller has gone away is routine. -/
def level : DiagnosticKind → LogLevel
  | .titleDeliveryFailed => .debug
  | _ => .warn

def all : List DiagnosticKind :=
  [.conversationCreateFailed, .messagePersistFailed, .conversationTouchFailed,
    .titleRequestFailed, .titleEmpty, .titlePersistFailed, .titleDeliveryFailed]

end DiagnosticKind

/-- A failure that is only reported. -/
structure Diagnostic where
  kind : DiagnosticKind
  /-- The conversation it is about. -/
  uid : Option String := none
  detail : String
  deriving DecidableEq, Repr

end ChatRelay.Generation
