import LiveLink.Backoff

/-!
# Settings

What can be configured, and what holds when nothing is.
-/

namespace LiveLink

/-- How to reach the server. Delays are in milliseconds. -/
structure ConnectionSettings where
  url : String
  tokenParam : String
  baseDelay : UInt64
  maxDelay : UInt64
  deriving DecidableEq

/-- How much the views keep. -/
structure ViewSettings where
  chatHistory : UInt64
  notifications : UInt64
  alerts : UInt64
  deriving DecidableEq

/-- All settings. -/
structure Settings where
  connection : ConnectionSettings
  views : ViewSettings
  logLevel : String
  deriving DecidableEq

/-- The settings when nothing is configured. -/
def Settings.standard : Settings where
  connection := ⟨"ws://127.0.0.1:8080/realtime", "token", 1000, 30000⟩
  views := ⟨200, 50, 10⟩
  logLevel := "info"

/-- The waits between attempts. -/
def ConnectionSettings.backoff (c : ConnectionSettings) : Backoff :=
  ⟨.ofMillis c.baseDelay, .ofMillis c.maxDelay⟩

end LiveLink
