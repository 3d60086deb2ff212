import NetworkingGame.Unit

/-!
The client's network component: its queues, the flags of the lobby and of a
reconnect, and the dispatch of one received packet. The queue of chat lines
waiting to be drawn is left out; nothing but the renderer reads it.
-/

namespace NetworkingGame

structure ClientComponent where
  sendingQueue : List CustomPacket
  unitUpdateQueue : List CustomPacket
  recievedQueue : List CustomPacket
  isLobby : Bool
  isReconnecting : Bool
  dataSender : Bool
  readyToSend : Bool
  updateComplete : Bool
  playerTurn : Int
  assignedPlayer : Int
  userID : Int
  username : String
deriving DecidableEq

namespace ClientComponent

def fresh : ClientComponent where
  sendingQueue := []
  unitUpdateQueue := []
  recievedQueue := []
  isLobby := true
  isReconnecting := false
  dataSender := false
  readyToSend := false
  updateComplete := false
  playerTurn := -1
  assignedPlayer := -1
  userID := -1
  username := ""

/-- Append to the sending queue under its lock. -/
def push (client : ClientComponent) (packets : List CustomPacket) : ClientComponent :=
  { client with sendingQueue := client.sendingQueue ++ packets }

def processRecievedPackets (client : ClientComponent) (msg : CustomPacket) :
    Except Fault ClientComponent :=
  if msg.type = "chat" then .ok client
  else if msg.type = "init" then do
    let id ← CustomPacket.toInt msg.msgText.toList
    return { client with userID := id }
  else if msg.type = "unit" then
    .ok { client with unitUpdateQueue := client.unitUpdateQueue ++ [msg] }
  else if msg.type = "turn" then do
    let turn ← CustomPacket.toInt msg.msgText.toList
    return { client with playerTurn := turn }
  else if msg.type = "player" then do
    let player ← CustomPacket.toInt msg.msgText.toList
    return { client with assignedPlayer := player }
  else if msg.type = "reconnect" then
    if msg.msgText = "true" then .ok { client with isReconnecting := true, isLobby := false }
    else if msg.msgText = "false" then
      .ok { client with isReconnecting := false, dataSender := false }
    else .ok client
  else if msg.type = "start" then .ok { client with isLobby := false }
  else if msg.type = "data_sender" then
    .ok { client with dataSender := true, isReconnecting := true }
  else if msg.type = "ready" then .ok { client with readyToSend := true }
  else if msg.type = "update_complete" then .ok { client with updateComplete := true }
  else .ok client

/-- The branches of `processRecievedPackets`. -/
inductive Processed (client : ClientComponent) (msg : CustomPacket) : ClientComponent → Prop
  | ignored (htype : msg.type ∉ ["init", "unit", "turn", "player", "start", "data_sender",
        "ready", "update_complete"])
      (hreconnect : msg.type = "reconnect" → msg.msgText ≠ "true" ∧ msg.msgText ≠ "false") :
      Processed client msg client
  | init (htype : msg.type = "init") (id : Int)
      (hid : CustomPacket.toInt msg.msgText.toList = .ok id) :
      Processed client msg { client with userID := id }
  | unit (htype : msg.type = "unit") :
      Processed client msg { client with unitUpdateQueue := client.unitUpdateQueue ++ [msg] }
  | turn (htype : msg.type = "turn") (turn : Int)
      (hturn : CustomPacket.toInt msg.msgText.toList = .ok turn) :
      Processed client msg { client with playerTurn := turn }
  | player (htype : msg.type = "player") (player : Int)
      (hplayer : CustomPacket.toInt msg.msgText.toList = .ok player) :
      Processed client msg { client with assignedPlayer := player }
  | reconnecting (htype : msg.type = "reconnect") (htext : msg.msgText = "true") :
      Processed client msg { client with isReconnecting := true, isLobby := false }
  | resumed (htype : msg.type = "reconnect") (htext : msg.msgText = "false") :
      Processed client msg { client with isReconnecting := false, dataSender := false }
  | start (htype : msg.type = "start") : Processed client msg { client with isLobby := false }
  | dataSender (htype : msg.type = "data_sender") :
      Processed client msg { client with dataSender := true, isReconnecting := true }
  | ready (htype : msg.type = "ready") : Processed client msg { client with readyToSend := true }
  | updateComplete (htype : msg.type = "update_complete") :
      Processed client msg { client with updateComplete := true }

theorem processRecievedPackets_processed {client after : ClientComponent} {msg : CustomPacket}
    (h : client.processRecievedPackets msg = .ok after) : Processed client msg after := by
  unfold processRecievedPackets at h
  split at h
  · rename_i hchat
    rw [← Except.ok.inj h]
    exact .ignored (by simp [hchat]) (by simp [hchat])
  · split at h
    · rename_i htype
      obtain ⟨id, hid, h⟩ := bind_eq_ok h
      rw [← Except.ok.inj h]
      exact .init htype id hid
    · split at h
      · rename_i htype
        rw [← Except.ok.inj h]
        exact .unit htype
      · rename_i hunit
        split at h
        · rename_i htype
          obtain ⟨turn, hturn, h⟩ := bind_eq_ok h
          rw [← Except.ok.inj h]
          exact .turn htype turn hturn
        · split at h
          · rename_i htype
            obtain ⟨player, hplayer, h⟩ := bind_eq_ok h
            rw [← Except.ok.inj h]
            exact .player htype player hplayer
          · split at h
            · rename_i htype
              split at h
              · rename_i htext
                rw [← Except.ok.inj h]
                exact .reconnecting htype htext
              · split at h
                · rename_i htext
                  rw [← Except.ok.inj h]
                  exact .resumed htype htext
                · rw [← Except.ok.inj h]
                  exact .ignored (by simp_all) (by simp_all)
            · split at h
              · rename_i htype
                rw [← Except.ok.inj h]
                exact .start htype
              · split at h
                · rename_i htype
                  rw [← Except.ok.inj h]
                  exact .dataSender htype
                · split at h
                  · rename_i htype
                    rw [← Except.ok.inj h]
                    exact .ready htype
                  · split at h
                    · rename_i htype
                      rw [← Except.ok.inj h]
                      exact .updateComplete htype
                    · rw [← Except.ok.inj h]
                      exact .ignored (by simp_all) (by simp_all)

theorem Processed.queues {client after : ClientComponent} {msg : CustomPacket}
    (h : Processed client msg after) :
    after.recievedQueue = client.recievedQueue ∧ after.sendingQueue = client.sendingQueue := by
  cases h <;> exact ⟨rfl, rfl⟩

section Flags

variable {client after : ClientComponent} {msg : CustomPacket}

theorem Processed.unitUpdateQueue_eq (h : Processed client msg after) :
    after.unitUpdateQueue =
      if msg.type = "unit" then client.unitUpdateQueue ++ [msg] else client.unitUpdateQueue := by
  cases h <;> simp_all

theorem Processed.playerTurn_eq (h : Processed client msg after) :
    if msg.type = "turn" then CustomPacket.toInt msg.msgText.toList = .ok after.playerTurn
    else after.playerTurn = client.playerTurn := by
  cases h <;> simp_all

theorem Processed.assignedPlayer_eq (h : Processed client msg after) :
    if msg.type = "player" then CustomPacket.toInt msg.msgText.toList = .ok after.assignedPlayer
    else after.assignedPlayer = client.assignedPlayer := by
  cases h <;> simp_all

theorem Processed.updateComplete_eq (h : Processed client msg after) :
    after.updateComplete = (client.updateComplete || decide (msg.type = "update_complete")) := by
  cases h <;> simp_all

theorem Processed.readyToSend_eq (h : Processed client msg after) :
    after.readyToSend = (client.readyToSend || decide (msg.type = "ready")) := by
  cases h <;> simp_all

theorem Processed.isReconnecting_eq (h : Processed client msg after) :
    after.isReconnecting =
      if msg.type = "data_sender" ∨ (msg.type = "reconnect" ∧ msg.msgText = "true") then true
      else if msg.type = "reconnect" ∧ msg.msgText = "false" then false
      else client.isReconnecting := by
  by_cases hreconnect : msg.type = "reconnect"
  · cases h <;> simp_all
  · cases h <;> simp_all

theorem Processed.dataSender_eq (h : Processed client msg after) :
    after.dataSender =
      if msg.type = "data_sender" then true
      else if msg.type = "reconnect" ∧ msg.msgText = "false" then false
      else client.dataSender := by
  by_cases hreconnect : msg.type = "reconnect"
  · cases h <;> simp_all
  · cases h <;> simp_all

theorem Processed.isLobby_eq (h : Processed client msg after) :
    after.isLobby =
      if msg.type = "start" ∨ (msg.type = "reconnect" ∧ msg.msgText = "true") then false
      else client.isLobby := by
  by_cases hreconnect : msg.type = "reconnect"
  · cases h <;> simp_all
  · cases h <;> simp_all

theorem Processed.userID_eq (h : Processed client msg after) :
    if msg.type = "init" then CustomPacket.toInt msg.msgText.toList = .ok after.userID
    else after.userID = client.userID := by
  cases h <;> simp_all

end Flags

end ClientComponent

end NetworkingGame
