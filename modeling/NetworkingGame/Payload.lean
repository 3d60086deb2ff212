import NetworkingGame.Library.Transition
import NetworkingGame.UnitPacket

/-!
Payloads that nobody has checked. The client's two queues are emptied by loops
whose handlers cut a text into fields and read numbers from them; a text that
does not fit stops the loop, and with it the program. What a handler that
contains such a text would do is said apart from what the code does.
-/

namespace NetworkingGame

open Library.Binary32 Library.Text Library.Transition

/-- `std::stoi` reads an `int` from the text. -/
def IsInt (text : List Char) : Prop := ∃ n, stoi text = .ok n

/-- At least five terminated fields, of which the second to the fifth are
numbers. -/
def IsUnitText (text : List Char) : Prop :=
  ∃ name x y squadSize unitHp rest,
    terminatedFields '&' [] text = name :: x :: y :: squadSize :: unitHp :: rest ∧
      IsInt x ∧ IsInt y ∧ IsInt squadSize ∧ IsInt unitHp

namespace CustomPacket

/-- The payload of a packet that carries a number. -/
def NumberWellFormed (packet : CustomPacket) : Prop :=
  packet.type ∈ ["init", "turn", "player"] → IsInt packet.msgText.toList

theorem toInt_isOk (field : List Char) : IsInt field ↔ ∃ n, toInt field = .ok n := by
  unfold IsInt toInt
  cases stoi field with
  | ok value => simp
  | error e => cases e <;> simp

/-- The decoder answers for exactly the texts with enough fields and numbers
in the right places. -/
theorem unitDataDeciper_isOk (packet : CustomPacket) :
    IsUnitText packet.msgText.toList ↔ ∃ received, packet.unitDataDeciper = .ok received := by
  constructor
  · rintro ⟨name, x, y, squadSize, unitHp, rest, hfields, hx, hy, hsquad, hhp⟩
    obtain ⟨xPos, hx⟩ := (toInt_isOk x).mp hx
    obtain ⟨yPos, hy⟩ := (toInt_isOk y).mp hy
    obtain ⟨squad, hsquad⟩ := (toInt_isOk squadSize).mp hsquad
    obtain ⟨hp, hhp⟩ := (toInt_isOk unitHp).mp hhp
    refine ⟨⟨.ofList name, xPos, yPos, squad, hp⟩, ?_⟩
    simp [unitDataDeciper, hfields, nextField, hx, hy, hsquad, hhp, bind, Except.bind, pure,
      Except.pure]
  · rintro ⟨received, h⟩
    have hfield {fields : List (List Char)} {field : List Char} {rest : List (List Char)}
        (hnext : nextField fields = .ok (field, rest)) : fields = field :: rest := by
      cases fields with
      | nil => cases hnext
      | cons head tail =>
          simp only [nextField, Except.ok.injEq, Prod.mk.injEq] at hnext
          rw [hnext.1, hnext.2]
    obtain ⟨⟨name, rest⟩, hname, h⟩ := bind_eq_ok h
    obtain ⟨⟨x, rest'⟩, hx, h⟩ := bind_eq_ok h
    obtain ⟨xPos, hxPos, h⟩ := bind_eq_ok h
    obtain ⟨⟨y, rest''⟩, hy, h⟩ := bind_eq_ok h
    obtain ⟨yPos, hyPos, h⟩ := bind_eq_ok h
    obtain ⟨⟨squadSize, last⟩, hsquad, h⟩ := bind_eq_ok h
    obtain ⟨squad, hsquadSize, h⟩ := bind_eq_ok h
    obtain ⟨⟨unitHp, after⟩, hhp, h⟩ := bind_eq_ok h
    obtain ⟨hp, hunitHp, -⟩ := bind_eq_ok h
    refine ⟨name, x, y, squadSize, unitHp, after, ?_, ?_, ?_, ?_, ?_⟩
    · rw [hfield hname, hfield hx, hfield hy, hfield hsquad, hfield hhp]
    · exact (toInt_isOk x).mpr ⟨xPos, hxPos⟩
    · exact (toInt_isOk y).mpr ⟨yPos, hyPos⟩
    · exact (toInt_isOk squadSize).mpr ⟨squad, hsquadSize⟩
    · exact (toInt_isOk unitHp).mpr ⟨hp, hunitHp⟩

end CustomPacket

namespace ClientComponent

/-- The front packet of the received queue: processed, then popped. -/
def processFront (client : ClientComponent) (msg : CustomPacket) :
    Except Fault ClientComponent := do
  let client ← client.processRecievedPackets msg
  return { client with recievedQueue := client.recievedQueue.tail }

/-- The loop of `consumeEvents` that empties the received queue. -/
def processQueue (client : ClientComponent) : Except Fault ClientComponent :=
  client.recievedQueue.foldlM processFront client

/-- What is asked of the loop's body: a packet that cannot be read is popped
like any other and changes nothing. -/
def containFront (client : ClientComponent) (msg : CustomPacket) : ClientComponent :=
  match client.processRecievedPackets msg with
  | .ok client => { client with recievedQueue := client.recievedQueue.tail }
  | .error _ => { client with recievedQueue := client.recievedQueue.tail }

theorem processRecievedPackets_isOk (client : ClientComponent) (msg : CustomPacket) :
    msg.NumberWellFormed ↔ ∃ after, client.processRecievedPackets msg = .ok after := by
  have hint := CustomPacket.toInt_isOk msg.msgText.toList
  unfold processRecievedPackets CustomPacket.NumberWellFormed
  by_cases hnumber : msg.type ∈ ["init", "turn", "player"]
  · simp only [List.mem_cons, List.not_mem_nil, or_false] at hnumber
    cases hread : CustomPacket.toInt msg.msgText.toList with
    | error fault =>
        rw [hint, hread]
        rcases hnumber with htype | htype | htype <;> simp [htype, bind, Except.bind]
    | ok n =>
        rw [hint, hread]
        rcases hnumber with htype | htype | htype <;> simp [htype, bind, Except.bind, pure,
          Except.pure]
  · have hread : ∃ after, client.processRecievedPackets msg = .ok after := by
      simp only [List.mem_cons, List.not_mem_nil, or_false, not_or] at hnumber
      unfold processRecievedPackets
      rw [if_neg hnumber.1, if_neg hnumber.2.1, if_neg hnumber.2.2]
      split_ifs <;> exact ⟨_, rfl⟩
    exact ⟨fun _ => hread, fun _ hmem => absurd hmem hnumber⟩

theorem processFront_isOk (client : ClientComponent) (msg : CustomPacket) :
    msg.NumberWellFormed ↔ ∃ after, client.processFront msg = .ok after := by
  rw [processRecievedPackets_isOk client msg]
  constructor
  · rintro ⟨after, h⟩
    exact ⟨_, by rw [processFront, h]; rfl⟩
  · rintro ⟨after, h⟩
    obtain ⟨next, hnext, -⟩ := bind_eq_ok h
    exact ⟨next, hnext⟩

theorem containFront_of_ok (client : ClientComponent) (msg : CustomPacket)
    (after : ClientComponent) (h : client.processFront msg = .ok after) :
    client.containFront msg = after := by
  obtain ⟨next, hnext, h⟩ := bind_eq_ok h
  simp only [containFront, hnext]
  exact Except.ok.inj h

theorem processQueue_contained_iff (client : ClientComponent) :
    client.processQueue = .ok (client.recievedQueue.foldl containFront client) ↔
      ∀ msg ∈ client.recievedQueue, msg.NumberWellFormed := by
  rw [← foldlM_isOk_iff processFront_isOk client.recievedQueue client]
  constructor
  · intro h
    exact ⟨_, h⟩
  · rintro ⟨after, h⟩
    rw [processQueue, h, foldl_of_foldlM containFront_of_ok h]

end ClientComponent

namespace GameScene

/-- What is asked of one turn of the loop of `unitNetworkUpdate`. -/
def containUnitPacket (scene : GameScene) (packet : CustomPacket) : GameScene :=
  match scene.applyUnitPacket packet with
  | .ok after => after
  | .error _ => scene

def containedUpdate (scene : GameScene) : GameScene :=
  let after := scene.client.unitUpdateQueue.foldl containUnitPacket scene
  { after with client := { after.client with unitUpdateQueue := [] } }

theorem applyUnitPacket_isOk_iff (scene : GameScene) (packet : CustomPacket) :
    IsUnitText packet.msgText.toList ↔ ∃ after, scene.applyUnitPacket packet = .ok after := by
  rw [CustomPacket.unitDataDeciper_isOk]
  exact applyUnitPacket_isOk scene packet

theorem containUnitPacket_of_ok (scene : GameScene) (packet : CustomPacket) (after : GameScene)
    (h : scene.applyUnitPacket packet = .ok after) : scene.containUnitPacket packet = after := by
  simp only [containUnitPacket, h]

theorem unitNetworkUpdate_contained_iff (scene : GameScene) :
    scene.unitNetworkUpdate = .ok scene.containedUpdate ↔
      ∀ packet ∈ scene.client.unitUpdateQueue, IsUnitText packet.msgText.toList := by
  rw [← foldlM_isOk_iff applyUnitPacket_isOk_iff scene.client.unitUpdateQueue scene]
  constructor
  · intro h
    obtain ⟨after, hrun, -⟩ := bind_eq_ok h
    exact ⟨after, hrun⟩
  · rintro ⟨after, hrun⟩
    rw [unitNetworkUpdate, hrun, containedUpdate, foldl_of_foldlM containUnitPacket_of_ok hrun]
    rfl

/-- Both loops take every packet off their queue once, act on what they can
read and leave the rest of the client alone. -/
structure Contained (scene : GameScene) : Prop where
  received : scene.client.processQueue =
    .ok (scene.client.recievedQueue.foldl ClientComponent.containFront scene.client)
  drained : scene.unitNetworkUpdate = .ok scene.containedUpdate

/-- The loops contain exactly the queues that hold nothing malformed. -/
theorem contained_iff (scene : GameScene) :
    scene.Contained ↔
      (∀ msg ∈ scene.client.recievedQueue, msg.NumberWellFormed) ∧
        ∀ packet ∈ scene.client.unitUpdateQueue, IsUnitText packet.msgText.toList := by
  constructor
  · intro h
    exact ⟨(ClientComponent.processQueue_contained_iff _).mp h.received,
      (unitNetworkUpdate_contained_iff scene).mp h.drained⟩
  · rintro ⟨hreceived, hdrained⟩
    exact ⟨(ClientComponent.processQueue_contained_iff _).mpr hreceived,
      (unitNetworkUpdate_contained_iff scene).mpr hdrained⟩

/-- A client whose opponent has sent two fields instead of five, and then its
`endturn`. -/
def cutShort : GameScene :=
  let scene := create ⟨.cast 0, .cast 0, .cast 0, .cast 0⟩
  { scene with client := { scene.client with
      unitUpdateQueue := [⟨"unit", "", "tank_ally&880&"⟩, endturnPacket] } }

theorem not_contained_cutShort : ¬ cutShort.Contained := by
  intro h
  have hfault : cutShort.unitNetworkUpdate = .error .emptyQueue := rfl
  have hdrained := h.drained
  rw [hfault] at hdrained
  cases hdrained

end GameScene

end NetworkingGame
