import LiveLink.Config.Settings
import LiveLink.Url.Reader

/-!
# Setting a client up
-/

namespace LiveLink

/-- What a client is set up with. -/
structure Setup where
  url : Url
  tokenParam : String
  backoff : Backoff
  chatLimit : Nat
  noticeLimit : Nat
  alertLimit : Nat

/-- The setup that settings describe, if their URL is one. -/
def Setup.ofSettings (c : ConnectionSettings) (v : ViewSettings) : Except Url.Error Setup :=
  (Url.read c.url).map fun url =>
    ⟨url, c.tokenParam, c.backoff, v.chatHistory.toNat, v.notifications.toNat, v.alerts.toNat⟩

/-- The setup that the standard settings describe. -/
def Setup.standard : Setup where
  url := ⟨"ws", "", "", some (.ipv4 0x7f000001), some 8080, .segments ["realtime"], none, none⟩
  tokenParam := Settings.standard.connection.tokenParam
  backoff := Settings.standard.connection.backoff
  chatLimit := 200
  noticeLimit := 50
  alertLimit := 10

end LiveLink
