import NetworkingGame.CustomPacket

/-!
The three callbacks of the server. A connected client is its uid; a callback
is given the uids of `get_connected_clients()` in order and returns what it
asks the network library to send. `next_uid` is a static variable of a header
included by two translation units, so there are two of them.
-/

namespace NetworkingGame

/-- A packet to send, or an access past the end of the connected clients. -/
inductive Action
  | sendTo (uid : Nat) (packet : CustomPacket)
  | missingClient (index : Nat)
deriving DecidableEq, Repr

namespace Action

def found : Action → Bool
  | .sendTo _ _ => true
  | .missingClient _ => false

/-- What the actions send to the client with this uid. -/
def mail (actions : List Action) (uid : Nat) : List CustomPacket :=
  actions.filterMap fun
    | .sendTo destination packet => if destination = uid then some packet else none
    | .missingClient _ => none

theorem mem_mail {actions : List Action} {uid : Nat} {packet : CustomPacket} :
    packet ∈ mail actions uid ↔ .sendTo uid packet ∈ actions := by
  simp only [mail, List.mem_filterMap]
  constructor
  · rintro ⟨action, haction, h⟩
    cases action with
    | sendTo destination sent =>
        simp only [Option.ite_none_right_eq_some, Option.some.injEq] at h
        obtain ⟨rfl, rfl⟩ := h
        exact haction
    | missingClient index => cases h
  · intro h
    exact ⟨_, h, by simp⟩

@[simp] theorem mail_nil (uid : Nat) : mail [] uid = [] := rfl

@[simp] theorem mail_sendTo (destination uid : Nat) (packet : CustomPacket)
    (rest : List Action) :
    mail (.sendTo destination packet :: rest) uid =
      if destination = uid then packet :: mail rest uid else mail rest uid := by
  simp only [mail, List.filterMap_cons]
  split <;> simp_all

@[simp] theorem mail_missingClient (index uid : Nat) (rest : List Action) :
    mail (.missingClient index :: rest) uid = mail rest uid := rfl

end Action

/-- `nextUid` is the copy that `Server.cpp` resets, `componentNextUid` the one
that `ServerNetworking.cpp` hands out. -/
structure Server where
  gameActive : Bool
  nextUid : Nat
  componentNextUid : Nat
deriving DecidableEq, Repr

namespace Server

open NetworkingGame.Action

def initial : Server := ⟨false, 0, 0⟩

def maxClientCount : Nat := 2

/-- `init_client_func`: `next_uid++` on an unsigned int. -/
def takeUid (server : Server) : Server :=
  { server with componentNextUid := (server.componentNextUid + 1) % 2 ^ 32 }

def sendToAllIf (clients : List Nat) (packet : CustomPacket) (predicate : Nat → Bool) :
    List Action :=
  (clients.filter predicate).map fun uid => .sendTo uid packet

/-- `send_packet_to(clients[index]->get_id(), ..)`. -/
def sendToIndex (clients : List Nat) (index : Nat) (packet : CustomPacket) : Action :=
  match clients[index]? with
  | some uid => .sendTo uid packet
  | none => .missingClient index

def initPacket (id : Int) : CustomPacket := ⟨"init", "", toString id⟩
def startPacket : CustomPacket := ⟨"start", "", ""⟩
def reconPacket : CustomPacket := ⟨"reconnect", "", "true"⟩
def readyPacket : CustomPacket := ⟨"ready", "", ""⟩
def completedPacket : CustomPacket := ⟨"reconnect", "", "false"⟩
def dataSenderPacket : CustomPacket := ⟨"data_sender", "", ""⟩

/-- The types that `onClientData` forwards as they are. -/
def isForwarded (type : String) : Bool :=
  type = "chat" || type = "unit" || type = "turn" || type = "player" || type = "update_complete"

def onClientData (clients : List Nat) (client : Nat) (msg : CustomPacket) : List Action :=
  if isForwarded msg.type then sendToAllIf clients msg (· ≠ client)
  else if msg.type = "resume" then
    [sendToIndex clients 0 completedPacket, sendToIndex clients 1 completedPacket]
  else []

/-- Only a `resume` with fewer than two clients looks past the end. -/
theorem onClientData_found (clients : List Nat) (client : Nat) (msg : CustomPacket) :
    (onClientData clients client msg).all found = true ↔
      (msg.type = "resume" → 2 ≤ clients.length) := by
  unfold onClientData
  split
  · rename_i hforwarded
    have hnot : msg.type ≠ "resume" := by
      intro h
      simp [isForwarded, h] at hforwarded
    simp [hnot, sendToAllIf, found]
  · split
    · rename_i hresume
      rcases clients with _ | ⟨first, _ | ⟨second, rest⟩⟩ <;>
        simp [hresume, sendToIndex, found]
    · rename_i hother
      simp [hother]

def assignClientLocalID (clients : List Nat) (client : Nat) : List Action :=
  let evenCheck := clients.any fun conclient => conclient % 2 = 0 && conclient ≠ client
  [.sendTo client (initPacket (if evenCheck then 1 else 0))]

def onClientConnect (server : Server) (clients : List Nat) (client : Nat) :
    Server × List Action :=
  if server.gameActive then
    (server, .sendTo client reconPacket :: sendToAllIf clients readyPacket (· ≠ client))
  else if 2 ≤ clients.length then
    ({ server with gameActive := true }, assignClientLocalID clients client ++
      [sendToIndex clients 0 startPacket, sendToIndex clients 1 startPacket])
  else (server, assignClientLocalID clients client)

def onClientDisconnect (server : Server) (clients : List Nat) : Server × List Action :=
  if server.gameActive then
    if clients = [] then ({ server with nextUid := 0, gameActive := false }, [])
    else (server, [sendToIndex clients 0 dataSenderPacket])
  else (server, [])

end Server

end NetworkingGame
