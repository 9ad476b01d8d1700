import StreamTunnel.Text.Quoted

namespace StreamTunnel

abbrev Identity := String

def Identity.debug (identity : Identity) : String :=
  "PeerIdentity(" ++ Text.quote identity ++ ")"

inductive Frame where
  | hello (identity : Identity) (virtualPort : UInt32)
  | helloAck
  | ping (timestamp : UInt64)
  | pong (timestamp : UInt64)
  | message (data : Bytes)
  | close (reason : String)
deriving DecidableEq, Repr

def Text.fields (name : String) (inner : String) : String :=
  name ++ " \x7b " ++ inner ++ " \x7d"

namespace Frame

def describe : Frame → String
  | hello identity port =>
      Text.fields "Hello" s!"identity: {Identity.debug identity}, virtual_port: {port}"
  | helloAck => "HelloAck"
  | ping t => Text.fields "Ping" s!"timestamp_us: {t}"
  | pong t => Text.fields "Pong" s!"timestamp_us: {t}"
  | message data => "Message(" ++ Text.quoteBytes data ++ ")"
  | close reason => Text.fields "Close" ("reason: " ++ Text.quote reason)

def isMessage : Frame → Bool
  | message _ => true
  | _ => false

end Frame
end StreamTunnel
