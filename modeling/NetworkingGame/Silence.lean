import Mathlib.Algebra.Order.BigOperators.Group.List
import NetworkingGame.Delivery

/-!
The program left to itself, from any state that a run can reach: in the lobby,
in a game, in the middle of a reconnect or after clients have come and gone.
Packets that make their receiver write others are priced with what they still
bring about, so that every step that changes anything lowers one number.
-/

namespace NetworkingGame

open Library.Transition Library.Fairness Library.Binary32

namespace GameUnit

/-- A unit takes its place in one frame, and if it died there in a second one. -/
theorem update_update_update (unit : GameUnit) :
    unit.update.update.update = unit.update.update := by
  by_cases hdead : unit.isDead = true
  · simp [update, hdead]
  · by_cases hsize : unit.squadSize ≤ 0
    · simp [update, hdead, hsize, Sprite.place]
    · simp [update, placeSprites, hdead, hsize, Sprite.place]

/-- The number of frames until a unit changes no more. -/
def unrest (unit : GameUnit) : Nat :=
  if unit.update = unit then 0 else if unit.update.update = unit.update then 1 else 2

theorem unrest_le (unit : GameUnit) : unit.unrest ≤ 2 := by
  unfold unrest
  split_ifs <;> omega

theorem unrest_update (unit : GameUnit) :
    unit.update = unit ∨ unit.update.unrest < unit.unrest := by
  by_cases hsame : unit.update = unit
  · exact Or.inl hsame
  · right
    have hlast := unit.update_update_update
    unfold unrest
    rw [if_neg hsame, if_pos hlast]
    split_ifs <;> omega

end GameUnit

namespace GameScene

def unrest (scene : GameScene) : Nat :=
  (if scene.lastScene && scene.sceneFullInit then 0 else 1) +
    (if scene.assignedTeam = .none then 1 else 0) +
      (UnitRef.all.map fun ref => (scene.units.get ref).unrest).sum

theorem unrest_le (scene : GameScene) : scene.unrest ≤ 18 := by
  have hunits : (UnitRef.all.map fun ref => (scene.units.get ref).unrest).sum ≤ 8 * 2 := by
    apply List.sum_le_card_nsmul
    intro n hn
    obtain ⟨ref, -, rfl⟩ := List.mem_map.mp hn
    exact (scene.units.get ref).unrest_le
  unfold unrest
  split_ifs <;> omega

theorem assignTeam_cases (scene : GameScene) :
    scene.assignTeam = scene ∨
      scene.assignedTeam = .none ∧ scene.assignTeam.assignedTeam ≠ .none := by
  unfold assignTeam
  split_ifs with heven hodd
  · exact Or.inr ⟨heven.2.1, by simp⟩
  · exact Or.inr ⟨hodd.2.1, by simp⟩
  · exact Or.inl rfl

theorem marked_eq {scene : GameScene} (hlast : scene.lastScene = true)
    (hinit : scene.sceneFullInit = true) :
    { scene with lastScene := true, sceneFullInit := true } = scene := by
  cases scene
  cases hlast
  cases hinit
  rfl

theorem unrest_begun (scene : GameScene) :
    scene.begun = scene ∨ scene.begun.unrest < scene.unrest := by
  let marked : GameScene := { scene with lastScene := true, sceneFullInit := true }
  have hflags : scene.begun.lastScene = true ∧ scene.begun.sceneFullInit = true := by
    unfold begun assignTeam
    split_ifs <;> exact ⟨rfl, rfl⟩
  have hbegun : scene.begun = marked.assignTeam := rfl
  rcases marked.assignTeam_cases with hsame | ⟨hteam, hassigned⟩
  · by_cases hmarked : (scene.lastScene && scene.sceneFullInit) = true
    · left
      obtain ⟨hlast, hinit⟩ := (Bool.and_eq_true _ _).mp hmarked
      rw [hbegun, hsame]
      exact marked_eq hlast hinit
    · right
      rw [hbegun, hsame]
      simp [unrest, marked, hmarked]
  · right
    rw [← hbegun] at hassigned
    have hteam' : scene.assignedTeam = .none := hteam
    simp [unrest, hflags, hassigned, hteam']

theorem unrest_unitsUpdate (scene : GameScene) :
    scene.unitsUpdate = scene ∨ scene.unitsUpdate.unrest < scene.unrest := by
  by_cases hall : ∀ ref, (scene.units.get ref).update = scene.units.get ref
  · left
    have hunits : scene.units.map GameUnit.update = scene.units := by
      ext ref
      rw [Roster.get_map, hall ref]
    rw [unitsUpdate, hunits]
  · right
    obtain ⟨moved, hmoved⟩ := not_forall.mp hall
    have hless (ref : UnitRef) : (scene.unitsUpdate.units.get ref).unrest ≤
        (scene.units.get ref).unrest := by
      rw [unitsUpdate, Roster.get_map]
      rcases (scene.units.get ref).unrest_update with hsame | hlower
      · rw [hsame]
      · exact hlower.le
    have hlower : (scene.unitsUpdate.units.get moved).unrest <
        (scene.units.get moved).unrest := by
      rw [unitsUpdate, Roster.get_map]
      exact (scene.units.get moved).unrest_update.resolve_left hmoved
    have hsum : (UnitRef.all.map fun ref => (scene.unitsUpdate.units.get ref).unrest).sum <
        (UnitRef.all.map fun ref => (scene.units.get ref).unrest).sum :=
      List.sum_lt_sum _ _ (fun ref _ => hless ref) ⟨moved, moved.mem_all, hlower⟩
    exact Nat.add_lt_add_left hsum _

theorem unrest_drawn (scene : GameScene) :
    scene.begun.unitsUpdate = scene ∨ scene.begun.unitsUpdate.unrest < scene.unrest := by
  rcases scene.unrest_begun with hsame | hlower
  · rw [hsame]
    exact scene.unrest_unitsUpdate
  · right
    rcases scene.begun.unrest_unitsUpdate with hsame | hlower'
    · rw [hsame]
      exact hlower
    · exact hlower'.trans hlower

/-- With nothing queued there is nothing to drain. -/
theorem unitNetworkUpdate_nil {scene : GameScene} (h : scene.client.unitUpdateQueue = []) :
    scene.unitNetworkUpdate = .ok scene := by
  rw [unitNetworkUpdate, h]
  cases scene with
  | mk client =>
      cases client
      cases h
      rfl

end GameScene

namespace CustomPacket

/-- The price of a packet on its way to the server, which may send two packets
to each of two clients because of it. `effect` is what it costs a receiver. -/
def upPrice (effect : Nat) : Nat := 4 * (effect + 2) + 1

def sendPrice (effect : Nat) : Nat := upPrice effect + 1

/-- Adopting a snapshot writes a `resume`. -/
def adoptPrice : Nat := sendPrice 0 + 1

/-- Acting on a `ready` writes a snapshot. -/
def readyPrice : Nat := 2 * sendPrice 0 + 8 * sendPrice 1 + sendPrice adoptPrice + 1

/-- What a client has to do because of a packet that it has processed. -/
def effect (packet : CustomPacket) : Nat :=
  if packet.type = "unit" then 1
  else if packet.type = "update_complete" then adoptPrice
  else if packet.type = "ready" then readyPrice
  else 0

theorem received_type {packet : CustomPacket} (h : '\x00' ∉ packet.type.toList) :
    packet.received.type = packet.type := by
  obtain ⟨msg, hread, htype⟩ := ofData_data_type h
  rw [received, hread, Option.getD_some, htype]

theorem received_effect {packet : CustomPacket} (h : '\x00' ∉ packet.type.toList) :
    packet.received.effect = packet.effect := by
  rw [effect, received_type h, effect]

end CustomPacket

namespace ClientComponent

open CustomPacket

def work (client : ClientComponent) : Nat :=
  (client.sendingQueue.map fun packet => sendPrice packet.received.effect).sum +
    (client.recievedQueue.map fun packet => packet.effect + 1).sum +
      client.unitUpdateQueue.length + (bif client.readyToSend then readyPrice else 0) +
        (bif client.updateComplete then adoptPrice else 0)

theorem Processed.work_le {client after : ClientComponent} {msg : CustomPacket}
    (h : Processed client msg after) : after.work ≤ client.work + msg.effect := by
  obtain ⟨hreceived, hsending⟩ := h.queues
  unfold work effect
  rw [hreceived, hsending, h.unitUpdateQueue_eq, h.readyToSend_eq, h.updateComplete_eq]
  by_cases hunit : msg.type = "unit"
  · simp [hunit]
    omega
  · by_cases hcomplete : msg.type = "update_complete"
    · cases client.updateComplete <;> simp [hcomplete]
    · by_cases hready : msg.type = "ready"
      · cases client.readyToSend <;> simp [hready]
        omega
      · simp [hunit, hcomplete, hready]

end ClientComponent

namespace GameScene

open CustomPacket

theorem work_resume : ([resumePacket].map fun packet => sendPrice packet.received.effect).sum <
    adoptPrice := by
  have heffect : resumePacket.received.effect = 0 := received_effect (by decide)
  simp [heffect, adoptPrice]

theorem work_snapshot (scene : GameScene) (gameTurn : Int) :
    ((scene.snapshot gameTurn).map fun packet => sendPrice packet.received.effect).sum <
      readyPrice := by
  have hplayer : (playerPacket scene.opponentTeam).received.effect = 0 :=
    received_effect (by simp [playerPacket])
  have hturn : (turnPacket gameTurn).received.effect = 0 :=
    received_effect (by simp [turnPacket])
  have hunit (ref : UnitRef) : (unitPacket ref (scene.units.get ref)).received.effect = 1 :=
    received_effect (by simp [unitPacket])
  have hcomplete : updateCompletePacket.received.effect = adoptPrice :=
    received_effect (by decide)
  simp [snapshot, allUnits, UnitRef.all, hplayer, hturn, hunit, hcomplete, readyPrice]
  omega

end GameScene

namespace Conn

open CustomPacket

/-- All that packets which have been written will still make the program do. -/
def work (x : Conn) : Nat :=
  x.scene.client.work + (x.up.map fun packet => upPrice packet.effect).sum +
    (x.down.map fun packet => packet.effect + 2).sum

/-- What falls with every change. -/
def toGo (x : Conn) : Nat := 19 * x.work + x.scene.unrest

variable {x x' : Conn}

theorem toGo_lt (h : x'.work < x.work) : x'.toGo < x.toGo := by
  have hle := x'.scene.unrest_le
  unfold toGo
  omega

theorem work_send (h : x.step .send = some x') : x'.work < x.work := by
  obtain ⟨packet, msg, rest, hqueue, hread, rfl⟩ := sendFrontOfQueue_eq_some h
  have hreceived : packet.received = msg := by rw [received, hread, Option.getD_some]
  simp [work, ClientComponent.work, GameScene.withClient, hqueue, hreceived, sendPrice]
  omega

theorem work_receive (h : x.step .receive = some x') : x'.work < x.work := by
  obtain ⟨packet, rest, hdown, rfl⟩ := onData_eq_some h
  simp [work, ClientComponent.work, GameScene.withClient, hdown]
  omega

theorem work_dispatch (h : x.step .dispatch = some x') : x'.work < x.work := by
  obtain ⟨packet, rest, client, hqueue, hread, rfl⟩ := dispatch_eq_some h
  have hle := (ClientComponent.processRecievedPackets_processed hread).work_le
  have hwork : x.scene.client.work =
      { x.scene.client with recievedQueue := rest }.work + (packet.effect + 1) := by
    simp [ClientComponent.work, hqueue]
    omega
  simp only [work, GameScene.withClient]
  omega

/-- A frame works something off, or brings the scene nearer to rest. -/
theorem toGo_frame (h : x.step .frame = some x') : x' = x ∨ x'.toGo < x.toGo := by
  obtain ⟨scene, hscene, rfl⟩ := Option.map_eq_some_iff.mp h
  have hquiet (hwork : scene.client.work = x.scene.client.work)
      (hrest : scene = x.scene ∨ scene.unrest < x.scene.unrest) :
      { x with scene := scene } = x ∨ toGo { x with scene := scene } < x.toGo := by
    rcases hrest with rfl | hlower
    · exact Or.inl rfl
    · right
      simp only [toGo, work, hwork]
      omega
  have hless (hwork : scene.client.work < x.scene.client.work) :
      { x with scene := scene } = x ∨ toGo { x with scene := scene } < x.toGo := by
    right
    apply toGo_lt
    simp only [work]
    omega
  have hframe := GameScene.update_frame (toOption_eq_some hscene)
  cases hframe with
  | idle => exact hquiet (by simp) x.scene.unrest_begun
  | send hsend gameTurn =>
      apply hless
      have hready : x.scene.client.readyToSend = true := by
        simp only [GameScene.sendsSnapshot, Bool.and_eq_true] at hsend
        exact hsend.2
      have hsnapshot := x.scene.begun.work_snapshot gameTurn
      simp [GameScene.sendSnapshot, GameScene.push, ClientComponent.push, ClientComponent.work,
        hready]
      omega
  | adopt hadopt drained hdrain =>
      apply hless
      have hcomplete : x.scene.client.updateComplete = true := by
        simp only [GameScene.adoptsSnapshot, Bool.and_eq_true] at hadopt
        exact hadopt.2.2
      have hresume := GameScene.work_resume
      rw [GameScene.finishAdoption_client hdrain]
      simp [ClientComponent.push, ClientComponent.work, hcomplete] at hresume ⊢
      omega
  | finished => exact hquiet (by simp) x.scene.unrest_begun
  | wait => exact hquiet (by simp [GameScene.unitsUpdate]) x.scene.unrest_drawn
  | drain closed hfinished hwait _ hdrain =>
      cases hqueue : x.scene.client.unitUpdateQueue with
      | nil =>
          have hnothing : x.scene.begun.unitsUpdate.client.unitUpdateQueue = [] := by
            simpa [GameScene.unitsUpdate] using hqueue
          rw [GameScene.unitNetworkUpdate_nil hnothing] at hdrain
          obtain rfl := Except.ok.inj hdrain
          exact hquiet (by simp [GameScene.unitsUpdate]) x.scene.unrest_drawn
      | cons packet rest =>
          apply hless
          rw [GameScene.unitNetworkUpdate_rest hdrain]
          simp [GameScene.unitsUpdate, ClientComponent.work, hqueue]

theorem toGo_step {event : LocalEvent} (hroutine : event.isRoutine = true)
    (hstep : x.step event = some x') : x' = x ∨ x'.toGo < x.toGo := by
  cases event with
  | send => exact Or.inr (toGo_lt (work_send hstep))
  | receive => exact Or.inr (toGo_lt (work_receive hstep))
  | dispatch => exact Or.inr (toGo_lt (work_dispatch hstep))
  | frame => exact toGo_frame hstep
  | click => cases hroutine
  | enter => cases hroutine

theorem toGo_receive (x : Conn) (actions : List Action) : (x.receive actions).toGo ≤
    x.toGo + 19 * ((Action.mail actions x.uid).map fun packet => packet.effect + 2).sum := by
  unfold receive
  split
  · simp [toGo, work]
    omega
  · simp [toGo, work]

end Conn

namespace Server

open CustomPacket

theorem length_onClientData {clients : List Nat} (hclients : clients.length ≤ 2) (client : Nat)
    (msg : CustomPacket) : (onClientData clients client msg).length ≤ 2 := by
  unfold onClientData
  split
  · rw [sendToAllIf, List.length_map]
    exact (List.length_filter_le _ _).trans hclients
  · split <;> simp

/-- Nothing that the server makes of a packet costs more than the packet. -/
theorem effect_onClientData {clients : List Nat} {client uid : Nat} {msg packet : CustomPacket}
    (h : packet ∈ Action.mail (onClientData clients client msg) uid) :
    packet.effect ≤ msg.effect := by
  have haction := Action.mem_mail.mp h
  unfold onClientData at haction
  split at haction
  · simp only [sendToAllIf, List.mem_map] at haction
    obtain ⟨other, -, haction⟩ := haction
    rw [(Action.sendTo.inj haction).2]
  · split at haction
    · have hcompleted : packet = completedPacket := by
        simp only [List.mem_cons, List.not_mem_nil, or_false, sendToIndex] at haction
        rcases haction with haction | haction <;> split at haction <;> cases haction <;> rfl
      rw [hcompleted]
      exact Nat.zero_le _
    · cases haction

theorem mail_price {clients : List Nat} (hclients : clients.length ≤ 2) (client uid : Nat)
    (msg : CustomPacket) :
    ((Action.mail (onClientData clients client msg) uid).map fun packet =>
      packet.effect + 2).sum ≤ 2 * (msg.effect + 2) := by
  have hlength : (Action.mail (onClientData clients client msg) uid).length ≤ 2 :=
    (List.length_filterMap_le _ _).trans (length_onClientData hclients client msg)
  have hsum : ((Action.mail (onClientData clients client msg) uid).map fun packet =>
      packet.effect + 2).sum ≤
        (Action.mail (onClientData clients client msg) uid).length * (msg.effect + 2) := by
    rw [← List.length_map fun packet : CustomPacket => packet.effect + 2]
    apply List.sum_le_card_nsmul
    intro price hprice
    obtain ⟨packet, hpacket, rfl⟩ := List.mem_map.mp hprice
    exact Nat.add_le_add_right (effect_onClientData hpacket) 2
  exact hsum.trans (Nat.mul_le_mul_right _ hlength)

end Server

namespace System

open CustomPacket

def toGo (system : System) : Nat := (system.conns.map Conn.toGo).sum

theorem sum_map_set {conns : List Conn} {index : Nat} {x y : Conn} (f : Conn → Nat)
    (h : conns[index]? = some x) :
    ((conns.set index y).map f).sum + f x = (conns.map f).sum + f y := by
  induction conns generalizing index with
  | nil => cases h
  | cons first conns ih =>
      cases index with
      | zero =>
          obtain rfl : first = x := Option.some.inj h
          simp
          omega
      | succ index =>
          have hrest := ih h
          simp only [List.set_cons_succ, List.map_cons, List.sum_cons]
          omega

theorem toGo_deliver {actions : List Action} {system : System} {price : Nat}
    (hprice : ∀ uid, ((Action.mail actions uid).map fun packet => packet.effect + 2).sum ≤ price) :
    (system.deliver actions).toGo ≤ system.toGo + system.conns.length * (19 * price) := by
  have hone (x : Conn) : (x.receive actions).toGo ≤ x.toGo + 19 * price :=
    (x.toGo_receive actions).trans (Nat.add_le_add_left (Nat.mul_le_mul_left 19 (hprice x.uid)) _)
  have hsum : (system.conns.map fun x => (x.receive actions).toGo).sum ≤
      (system.conns.map fun x => x.toGo + 19 * price).sum :=
    List.sum_le_sum fun x _ => hone x
  have hconst : (system.conns.map fun x => x.toGo + 19 * price).sum =
      system.toGo + system.conns.length * (19 * price) := by
    rw [List.sum_map_add]
    simp [toGo]
  simp only [toGo, deliver, List.map_map]
  exact hsum.trans_eq hconst

theorem toGo_serve {system after : System} {index : Nat} (hconns : system.conns.length ≤ 2)
    (hstep : system.step (.serve index) = some after) : after.toGo < system.toGo := by
  obtain ⟨sender, msg, rest, hsender, hup, -, rfl⟩ := step_serve_cases hstep
  have hclients : system.uids.length ≤ 2 := by
    rw [uids, List.length_map]
    exact hconns
  have hpaid : sender.toGo = { sender with up := rest }.toGo + 19 * upPrice msg.effect := by
    simp [Conn.toGo, Conn.work, hup]
    omega
  have hset := @sum_map_set system.conns index sender { sender with up := rest } Conn.toGo
    hsender
  have hdeliver := @toGo_deliver (Server.onClientData system.uids sender.uid msg)
    ⟨system.server, system.conns.set index { sender with up := rest }⟩ _
    (fun uid => Server.mail_price hclients sender.uid uid msg)
  have hspread : system.conns.length * (19 * (2 * (msg.effect + 2))) ≤
      2 * (19 * (2 * (msg.effect + 2))) := Nat.mul_le_mul_right _ hconns
  simp only [List.length_set] at hdeliver
  simp only [toGo, upPrice] at *
  omega

section Calming

variable {system after : System} {event : SystemEvent}

theorem length_conns (hstays : event.stays = true) (hstep : system.step event = some after) :
    after.conns.length = system.conns.length := by
  cases event with
  | connect => cases hstays
  | disconnect => cases hstays
  | serve index =>
      obtain ⟨sender, msg, rest, -, -, -, rfl⟩ := step_serve_cases hstep
      simp [deliver]
  | act index own =>
      simp only [System.step] at hstep
      split at hstep
      · cases hstep
      · obtain ⟨x, -, rfl⟩ := Option.map_eq_some_iff.mp hstep
        simp

theorem toGo_act {index : Nat} {own : LocalEvent} (hroutine : own.isRoutine = true)
    (hstep : system.step (.act index own) = some after) :
    after = system ∨ after.toGo < system.toGo := by
  simp only [System.step] at hstep
  split at hstep
  · cases hstep
  · rename_i x hx
    obtain ⟨x', hown, rfl⟩ := Option.map_eq_some_iff.mp hstep
    rcases Conn.toGo_step hroutine hown with rfl | hlower
    · left
      obtain ⟨hlt, rfl⟩ := List.getElem?_eq_some_iff.mp hx
      rw [List.set_getElem_self hlt]
    · right
      have hset := @sum_map_set system.conns index x x' Conn.toGo hx
      simp only [toGo]
      omega

/-- Whatever a routine event changes, it works something off. -/
theorem calming : Calming System.step routine (fun system => system.conns.length ≤ 2) toGo := by
  constructor
  · intro system event after hlength hevent hstep
    rw [length_conns (mem_routine hevent).1 hstep]
    exact hlength
  · intro system event after hlength hevent hstep
    obtain ⟨hstays, hroutine⟩ := mem_routine hevent
    cases event with
    | connect => cases hstays
    | disconnect => cases hstays
    | serve index => exact Or.inr (toGo_serve hlength hstep)
    | act index own => exact toGo_act (hroutine index own rfl) hstep

theorem length_conns_le {events : List SystemEvent}
    (hrun : exec System.step System.initial events = some system) :
    system.conns.length ≤ 2 := by
  refine @invariant_of_step _ _ System.step (fun system => system.conns.length ≤ 2) ?_ _ _ _
    hrun (Nat.zero_le _)
  intro system event after hlength hstep
  cases event with
  | connect blank =>
      simp only [System.step] at hstep
      split at hstep
      · rename_i hroom
        obtain rfl := Option.some.inj hstep
        have hone : system.conns.length < 2 := hroom
        simp only [deliver, List.length_map, List.length_append, List.length_singleton]
        omega
      · cases hstep
  | disconnect index =>
      simp only [System.step] at hstep
      split at hstep
      · cases hstep
      · split at hstep
        · obtain rfl := Option.some.inj hstep
          simp only [deliver, List.length_map]
          exact (List.length_eraseIdx_le _ _).trans hlength
        · cases hstep
  | serve index =>
      rw [length_conns rfl hstep]
      exact hlength
  | act index own =>
      rw [length_conns rfl hstep]
      exact hlength

end Calming

section Rest

variable {system : System} {index : Nat} {x : Conn}

/-- The routine does not click. -/
theorem actsMeet_routine {Ok : GameScene → Int → Int → Prop} {event : SystemEvent}
    (hevent : event ∈ routine) (system : System) :
    System.ActsMeet (Conn.ClickMeets Ok) system event := by
  cases event with
  | connect => trivial
  | disconnect => trivial
  | serve => trivial
  | act index own =>
      intro conn _
      have hown := (mem_routine hevent).2 index own rfl
      cases own with
      | send | receive | dispatch | frame | enter => trivial
      | click => cases hown

theorem act_mem_routine (hindex : index < 2) {own : LocalEvent} (hown : own.isRoutine = true) :
    .act index own ∈ routine ∧ .serve index ∈ routine := by
  have hcases : index = 0 ∨ index = 1 := by omega
  cases own with
  | send | receive | dispatch | frame => rcases hcases with rfl | rfl <;> simp [routine]
  | click | enter => cases hown

/-- A client of a system at rest does not change. -/
theorem step_of_rests (hrests : Rests System.step routine system) (hindex : index < 2)
    (hx : system.conns[index]? = some x) {own : LocalEvent} (hown : own.isRoutine = true)
    {x' : Conn} (hstep : x.step own = some x') : x' = x := by
  have hsystem : system.step (.act index own) =
      some { system with conns := system.conns.set index x' } := by
    simp [System.step, hx, hstep]
  have hsame := hrests _ (act_mem_routine hindex hown).1
  rw [offer_of_step hsystem] at hsame
  have hconns := congrArg (fun system => system.conns[index]?) hsame
  have hlt := (List.getElem?_eq_some_iff.mp hx).1
  simp only [List.getElem?_set_self hlt, hx] at hconns
  exact Option.some.inj hconns

end Rest

end System

/-- Nothing is on its way to the client or from it, and its frames change
nothing. -/
structure Conn.Silent (x : Conn) : Prop where
  sending : x.scene.client.sendingQueue = []
  up : x.up = []
  down : x.down = []
  received : x.scene.client.recievedQueue = []
  frame : x.step .frame = some x

/-- The next packet of a client that is alone is a `resume`, for which the server
would look past its last client. -/
def System.Overruns (system : System) : Prop :=
  ∃ x msg rest, system.conns = [x] ∧ x.up = msg :: rest ∧ msg.type = "resume"

theorem System.not_overruns_of_two {system : System} (h : system.conns.length = 2) :
    ¬ system.Overruns := by
  rintro ⟨x, msg, rest, hconns, -⟩
  simp [hconns] at h

/-- Any other packet can be handled. -/
theorem System.serves {system : System} {index : Nat} {x : Conn} (hruns : ¬ system.Overruns)
    (hx : system.conns[index]? = some x) (hup : x.up ≠ []) :
    ∃ after, system.step (.serve index) = some after := by
  obtain ⟨msg, rest, hup⟩ := List.exists_cons_of_ne_nil hup
  refine ⟨_, System.step_serve_eq hx hup fun hresume => ?_⟩
  by_contra hshort
  have hlt := (List.getElem?_eq_some_iff.mp hx).1
  obtain ⟨y, hconns⟩ := List.length_eq_one_iff.mp (by omega : system.conns.length = 1)
  obtain rfl : y = x := by
    have hmem := List.mem_of_getElem? hx
    rw [hconns, List.mem_singleton] at hmem
    exact hmem.symm
  exact hruns ⟨y, msg, rest, hconns, hup, hresume⟩

theorem silent_of_rests {system : System} {index : Nat} {x : Conn}
    (hlength : system.conns.length ≤ 2) (hruns : ¬ system.Overruns)
    (hrests : Rests System.step routine system)
    (hx : system.conns[index]? = some x) (hnever : x.NeverThrows) : x.Silent := by
  have hindex : index < 2 := by
    have hlt := (List.getElem?_eq_some_iff.mp hx).1
    omega
  have hsame {own : LocalEvent} (hown : own.isRoutine = true) {x' : Conn}
      (hstep : x.step own = some x') : x' = x := System.step_of_rests hrests hindex hx hown hstep
  constructor
  · by_contra hne
    obtain ⟨x', hstep⟩ := hnever.send hne
    have hless := Conn.work_send hstep
    rw [hsame rfl hstep] at hless
    exact hless.ne rfl
  · by_contra hne
    obtain ⟨after, hstep⟩ := System.serves hruns hx hne
    have hless := System.toGo_serve hlength hstep
    have hserved := hrests _ (@System.act_mem_routine index hindex .send rfl).2
    rw [offer_of_step hstep] at hserved
    rw [hserved] at hless
    exact hless.ne rfl
  · by_contra hne
    obtain ⟨packet, rest, hdown⟩ := List.exists_cons_of_ne_nil hne
    have hstep : ∃ x', x.step .receive = some x' := by
      simp only [Conn.step, Conn.onData, hdown]
      exact ⟨_, rfl⟩
    obtain ⟨x', hstep⟩ := hstep
    have hless := Conn.work_receive hstep
    rw [hsame rfl hstep] at hless
    exact hless.ne rfl
  · by_contra hne
    obtain ⟨x', hstep⟩ := hnever.dispatch hne
    have hless := Conn.work_dispatch hstep
    rw [hsame rfl hstep] at hless
    exact hless.ne rfl
  · obtain ⟨x', hstep⟩ := hnever.frame
    rwa [hsame rfl hstep] at hstep

theorem silent_of_run {events : List SystemEvent} {system : System}
    (hrun : exec System.step System.initial events = some system)
    (hclicks : Along System.step (System.ActsMeet (Conn.ClickMeets GameScene.ClickStays))
      System.initial events)
    (hruns : ¬ system.Overruns) (hrests : Rests System.step routine system) :
    ∀ x ∈ system.conns, x.Silent := by
  intro x hx
  obtain ⟨index, hindex⟩ := List.getElem?_of_mem hx
  obtain ⟨hliterate, hkept, hnumbered⟩ := literate_exec hrun hclicks hx
  exact silent_of_rests (System.length_conns_le hrun) hruns hrests hindex
    (hliterate.neverThrows hkept hnumbered)

/-- The routine goes on with a run without clicking. -/
theorem along_routine {events performed : List SystemEvent}
    (hclicks : Along System.step (System.ActsMeet (Conn.ClickMeets GameScene.ClickStays))
      System.initial events)
    (honly : ∀ event ∈ performed, event ∈ routine) :
    Along System.step (System.ActsMeet (Conn.ClickMeets GameScene.ClickStays))
      System.initial (events ++ performed) :=
  along_append.mpr ⟨hclicks, fun system _ => along_of_mem
    (fun event hevent => System.actsMeet_routine (honly event hevent)) system⟩

/-- The routine neither connects nor disconnects anybody. -/
theorem System.length_conns_routine {system after : System} {performed : List SystemEvent}
    (honly : ∀ event ∈ performed, event ∈ routine)
    (hrun : exec System.step system performed = some after) :
    after.conns.length = system.conns.length := by
  refine @invariant_exec _ _ System.step (fun after => after.conns.length = system.conns.length)
    (fun _ event => event ∈ routine) ?_ _ _ _ hrun
    (along_of_mem (fun event hevent _ => honly event hevent) system) rfl
  intro before event next hlength hevent hstep
  rw [System.length_conns (System.mem_routine hevent).1 hstep]
  exact hlength

/-- When the players pause, in whatever state they leave the program, it comes
to rest under every fair schedule: from some time on its state is always the
same, and nothing is on its way any more, unless the server would then look past
its last client. -/
theorem falls_silent {events : List SystemEvent} {system : System}
    (hrun : exec System.step System.initial events = some system)
    (hclicks : Along System.step (System.ActsMeet (Conn.ClickMeets GameScene.ClickStays))
      System.initial events)
    {schedule : Nat → SystemEvent} (hfair : Fair routine schedule) :
    ∃ final, final.conns.length = system.conns.length ∧
      (final.Overruns ∨ ∀ x ∈ final.conns, x.Silent) ∧
      ∃ n, ∀ m, n ≤ m → stateAt System.step schedule system m = final := by
  have hlength := System.length_conns_le hrun
  obtain ⟨n, hrests, hstays⟩ := System.calming.comes_to_rest hfair hlength
  obtain ⟨performed, honly, hreached⟩ := @exec_stateAt _ _ System.step _ _ hfair system n
  have hwhole := (exec_append _ _ _ _).mpr ⟨system, hrun, hreached⟩
  refine ⟨_, System.length_conns_routine honly hreached, ?_, n, hstays⟩
  exact or_iff_not_imp_left.mpr fun hruns =>
    silent_of_run hwhole (along_routine hclicks honly) hruns hrests

/-- The first player ends its turn, the second one leaves, and somebody connects
in its place before anything of that is sent. -/
def interruptedRun : List SystemEvent :=
  openingRun ++ [.act 0 (.click false 1200 650), .disconnect 1, .connect blankSprite]

theorem falls_silent_interrupted : ∃ system,
    exec System.step System.initial interruptedRun = some system ∧
      (∃ x ∈ system.conns, x.scene.client.sendingQueue ≠ []) ∧
      ∃ final, (∀ x ∈ final.conns, x.Silent) ∧ ∃ n, ∀ m, n ≤ m →
        stateAt System.step (rotate routine (by decide)) system m = final := by
  have hcheck : ((exec System.step System.initial interruptedRun).any fun system =>
      decide (system.conns.length = 2) &&
        system.conns.any fun x => decide (x.scene.client.sendingQueue ≠ [])) = true := by
    decide +kernel
  obtain ⟨system, hrun, hchecks⟩ := (Option.any_eq_true _ _).mp hcheck
  rw [Bool.and_eq_true, decide_eq_true_eq] at hchecks
  obtain ⟨htwo, hbusy⟩ := hchecks
  obtain ⟨x, hx, hsending⟩ := List.any_eq_true.mp hbusy
  obtain ⟨final, hlength, hsilent, hstays⟩ :=
    falls_silent hrun (by decide +kernel) (fair_rotate routine (by decide))
  exact ⟨system, hrun, ⟨x, hx, of_decide_eq_true hsending⟩, final,
    hsilent.resolve_left (System.not_overruns_of_two (hlength.trans htwo)), hstays⟩

end NetworkingGame
