import NfcLink.Action

/-!
# Peer links

The frame exchange underneath the logical link: be activated by a peer, take
the next frame it sent, send it one.
-/
namespace NfcLink

class PeerLink (σ : Type) where
  /-- Waits so many milliseconds for a peer, zero for any time. -/
  activate : Nat → Action σ Unit
  read : Action σ Bytes
  /-- Both parts go out as one frame. -/
  write : Bytes → Bytes → Action σ Unit

end NfcLink
