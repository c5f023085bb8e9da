import Discnet.Network.DataHandler
import Discnet.AdapterManager

/-!
# The network handler

The network handler keeps a client for each adapter it listens on. A client
is started in the background when its adapter is new or got other addresses,
and joins the clients once an update finds it ready. An update also raises
an event for every message the clients received.
-/

namespace Discnet

structure Configuration where
  nodeId : UInt16
  multicastAddress : Address
  multicastPort : UInt16
  deriving DecidableEq, Repr

namespace Network

open Messages

structure NetworkInfo where
  receptionTime : TimePoint := .min
  sender : Address
  receiver : Address
  adapter : Address
  deriving DecidableEq, Repr

structure UdpInfo where
  adapter : Address
  port : UInt16
  multicast : Address
  deriving DecidableEq, Repr

/-- A client on an adapter. Of its socket only what it was made for counts
here. -/
structure NetworkClient where
  adapterIdentifier : AdapterGuid
  info : UdpInfo
  dataHandler : DataHandler

/-- A client that is being started: not done, done, or already collected. -/
inductive AdapterInit
  | pending (client : NetworkClient)
  | ready (result : Except String NetworkClient)
  | taken

inductive NetworkEvent
  | discoveryMessageReceived (message : DiscoveryMessage) (info : NetworkInfo)
  | dataMessageReceived (message : DataMessage) (info : NetworkInfo)
  deriving DecidableEq, Repr

namespace NetworkEvent

def info : NetworkEvent → NetworkInfo
  | discoveryMessageReceived _ info => info
  | dataMessageReceived _ info => info

/-- The message an event is about. Its kind is that of the event. -/
def message : NetworkEvent → Message
  | discoveryMessageReceived message _ => .discovery message
  | dataMessageReceived message _ => .data message

end NetworkEvent

structure Datagram where
  data : List Byte
  recipient : Address
  port : UInt16
  deriving DecidableEq, Repr

/-- The attempts of the task that opens a client. Each retry comes with the
clock reading after it, and the readings go on until the time is up. -/
structure OpenAttempts (α : Type) where
  startTime : TimePoint
  first : α
  retries : List (α × TimePoint)
  timeUp : ∃ retry ∈ retries, startTime + seconds 15 ≤ retry.2
  deriving Repr

namespace OpenAttempts

variable {α β : Type}

/-- Every attempt is answered in the same way. -/
def always (startTime : TimePoint) (answer : α) : OpenAttempts α where
  startTime := startTime
  first := answer
  retries := [(answer, startTime + seconds 15)]
  timeUp := ⟨_, List.mem_singleton_self _, Int.le_refl _⟩

def map (f : α → β) (attempts : OpenAttempts α) : OpenAttempts β where
  startTime := attempts.startTime
  first := f attempts.first
  retries := attempts.retries.map fun retry => (f retry.1, retry.2)
  timeUp :=
    have ⟨_, hretry, hreading⟩ := attempts.timeUp
    ⟨_, List.mem_map_of_mem hretry, hreading⟩

end OpenAttempts

structure NetworkHandler where
  configuration : Configuration
  clients : List NetworkClient := []
  initList : List AdapterInit := []

namespace NetworkClient

-- ---------------------------------------------------------------------------
-- Sending and receiving
-- ---------------------------------------------------------------------------

section
variable (md5 : List Byte → Digest)

/-- The buffer goes out whether or not the messages could be encoded. -/
def write (messages : MessageList) (recipient : Address) (client : NetworkClient) : Datagram :=
  let encoded := (PacketCodec.encode md5 messages).run (.new 4096)
  ⟨encoded.2.data, recipient, client.info.port⟩

/-- What the socket of a client passes on when a datagram arrived. -/
def handleRead (data : List Byte) (sender : Address) (client : NetworkClient) : NetworkClient :=
  { client with dataHandler := client.dataHandler.handleReceive data sender client.info.multicast }

def messageEvent (info : NetworkInfo) : Message → NetworkEvent
  | .discovery message => .discoveryMessageReceived message info
  | .data message => .dataMessageReceived message info

@[simp] theorem info_messageEvent (info : NetworkInfo) (message : Message) :
    (messageEvent info message).info = info := by cases message <;> rfl

@[simp] theorem message_messageEvent (info : NetworkInfo) (message : Message) :
    (messageEvent info message).message = message := by cases message <;> rfl

def streamEvents (current : TimePoint) (client : NetworkClient) (stream : DataStreamPackets) :
    List NetworkEvent :=
  let info : NetworkInfo :=
    { receptionTime := current
      sender := stream.identifier.senderIp
      receiver := stream.identifier.recipientIp
      adapter := client.info.adapter }
  stream.packets.flatMap fun packet => packet.messages.map (messageEvent info)

/-- One pass of the loop over the clients. -/
def update (current : TimePoint) (client : NetworkClient) : List NetworkEvent × NetworkClient :=
  let processed := client.dataHandler.process md5
  (processed.1.flatMap (streamEvents current client), { client with dataHandler := processed.2 })

end

end NetworkClient

namespace AdapterInit

def client? : AdapterInit → Option NetworkClient
  | .ready (.ok client) => some client
  | _ => none

def collected : AdapterInit → AdapterInit
  | .ready _ => .taken
  | init => init

end AdapterInit

namespace NetworkHandler

section
variable (md5 : List Byte → Digest)

def findClient (adapter : Adapter) (h : NetworkHandler) : Option NetworkClient :=
  h.clients.find? fun client => client.adapterIdentifier == adapter.macAddress

def transmitMulticast (adapter : Adapter) (messages : MessageList) (h : NetworkHandler) :
    Option Datagram :=
  match h.findClient adapter with
  | none => none
  | some client =>
    if client.info.multicast ≠ .any then
      some (client.write md5 messages client.info.multicast)
    else none

def transmitUnicast (adapter : Adapter) (recipient : Address) (messages : MessageList)
    (h : NetworkHandler) : Option Datagram :=
  (h.findClient adapter).map fun client => client.write md5 messages recipient

/-- The clients that got ready join the others. -/
def collectClients (h : NetworkHandler) : NetworkHandler :=
  { h with
    clients := h.clients ++ h.initList.filterMap AdapterInit.client?
    initList := h.initList.map AdapterInit.collected }

def update (current : TimePoint) (h : NetworkHandler) : List NetworkEvent × NetworkHandler :=
  let h := h.collectClients
  let updated := h.clients.map (NetworkClient.update md5 current)
  (updated.flatMap Prod.fst, { h with clients := updated.map Prod.snd })

end

-- ---------------------------------------------------------------------------
-- Clients come and go
-- ---------------------------------------------------------------------------

def removeClient (adapter : Adapter) (h : NetworkHandler) : NetworkHandler :=
  { h with
    clients := h.clients.eraseP fun client => client.adapterIdentifier == adapter.macAddress }

/-- Tries to open a client until it is enabled or the time is up. -/
def openClient (timeout : TimePoint) : Bool → TimePoint → List (Bool × TimePoint) → Bool
  | udpEnabled, _, [] => udpEnabled
  | udpEnabled, currentTime, (opened, time) :: retries =>
    if !udpEnabled && currentTime < timeout then openClient timeout opened time retries
    else udpEnabled

def processAdapter (attempts : OpenAttempts Bool) (client : NetworkClient) :
    Except String NetworkClient :=
  if openClient (attempts.startTime + seconds 15) attempts.first attempts.startTime
      attempts.retries then .ok client
  else .error "failed to start udp client. dropping client for adapter"

def addClient (adapter : Adapter) (h : NetworkHandler) : NetworkHandler :=
  if !adapter.enabled then h
  else
    match adapter.addressList with
    | [] => h
    | front :: _ =>
      if adapter.loopback then h
      else
        let udpInfo : UdpInfo :=
          { adapter := front.1
            port := h.configuration.multicastPort
            multicast := h.configuration.multicastAddress }
        let client : NetworkClient :=
          { adapterIdentifier := adapter.macAddress
            info := udpInfo
            dataHandler := .new 4095 }
        { h with initList := h.initList ++ [.pending client] }

def adapterAdded (adapter : Adapter) (h : NetworkHandler) : NetworkHandler := h.addClient adapter

/-- Only a change of the addresses of an adapter that has a client counts. -/
def adapterChanged (previousAdapter currentAdapter : Adapter) (h : NetworkHandler) :
    NetworkHandler :=
  match h.findClient currentAdapter with
  | none => h
  | some _ =>
    if previousAdapter.addressList ≠ currentAdapter.addressList then
      (h.removeClient previousAdapter).addClient currentAdapter
    else h

def adapterRemoved (adapter : Adapter) (h : NetworkHandler) : NetworkHandler :=
  h.removeClient adapter

/-- The slots connected to the signals of the adapter manager. -/
def handleAdapterEvent (h : NetworkHandler) : AdapterEvent → NetworkHandler
  | .new adapter => h.adapterAdded adapter
  | .changed previous current => h.adapterChanged previous current
  | .removed adapter => h.adapterRemoved adapter

end NetworkHandler

end Network

end Discnet
