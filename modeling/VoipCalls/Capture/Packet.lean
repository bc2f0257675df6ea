import VoipCalls.Number.Double

/-!
# Captured packets

A capture is a list of packets.  Of each packet the program needs the time, the addresses of its IP
layer if it has one, and what its transport layer carries.
-/

namespace VoipCalls

/-- The addresses of an IP layer. -/
structure PacketEnds where
  src : String
  dst : String
deriving DecidableEq

/-- A captured packet. -/
structure Packet where
  time : Double
  ends : Option PacketEnds := none
  payload : List UInt8 := []
deriving DecidableEq

end VoipCalls
