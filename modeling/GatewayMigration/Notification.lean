import GatewayMigration.Object
import GatewayMigration.Text.Uppercase

/-!
# Notifications

Advice on input that is skipped or converted in part. A notification never stops a conversion.

## Main definitions

* `Notification`: a level, a message and the object it is about
* `Notification.notify`: one more notification after those so far
* `Notification.table`: all notifications of a provider, one row each, in aligned columns
-/

namespace GatewayMigration

/-- How grave a notification is. -/
inductive NotificationLevel where
  | info
  | warning
  | error
  deriving DecidableEq, Inhabited, Repr

/-- The word for a level. -/
def NotificationLevel.text : NotificationLevel → String
  | .info => "INFO"
  | .warning => "WARNING"
  | .error => "ERROR"

/-- Advice to the user. -/
structure Notification where
  level : NotificationLevel
  message : String
  /-- The object that the message is about, if there is one. -/
  related : Option ObjectRef
  deriving DecidableEq, Inhabited, Repr

namespace Notification

/-- The notifications so far, and one more. -/
def notify (told : List Notification) (n : Notification) : List Notification := told ++ [n]

/-- A row of the table. -/
structure Row where
  level : String
  message : String
  related : String
  deriving DecidableEq, Repr

/-- The titles of the columns. -/
def titles : Row := ⟨"TYPE", "MESSAGE", "CALLING OBJECT"⟩

/-- The cells of a notification; no object leaves its cell empty. -/
def row (n : Notification) : Row :=
  ⟨n.level.text, n.message, (n.related.map ObjectRef.text).getD ""⟩

/-- The length of the longest text. -/
def width (texts : List String) : Nat := (texts.map String.length).foldl max 0

/-- The text, followed by blanks up to the width. -/
def pad (w : Nat) (s : String) : String := s ++ "".pushn ' ' (w - s.length)

/-- One line of the table, its cells padded to the three widths. -/
def line (w₀ w₁ w₂ : Nat) (r : Row) : String :=
  "| " ++ pad w₀ r.level ++ " | " ++ pad w₁ r.message ++ " | " ++ pad w₂ r.related ++ " |\n"

/-- The title of the table, the titles of its columns, and a line for each notification. -/
def table (provider : String) (notifications : List Notification) : String :=
  let rows := titles :: notifications.map row
  let w₀ := width (rows.map Row.level)
  let w₁ := width (rows.map Row.message)
  let w₂ := width (rows.map Row.related)
  "Notifications from " ++ Uppercase.ofString provider ++ ":\n"
    ++ String.join (rows.map (line w₀ w₁ w₂))

end Notification

end GatewayMigration
