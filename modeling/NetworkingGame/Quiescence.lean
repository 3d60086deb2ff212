import NetworkingGame.HonestPayload
import NetworkingGame.Library.Fairness

/-!
What happens while nobody clicks or types. The packets of a game in play go on
from queue to queue until they have been acted on, in whatever order the
threads of the two clients and of the server get to run, as long as none of
them is left out for ever.
-/

namespace NetworkingGame

open Library.Transition Library.Fairness

/-- What a client does by itself. -/
def LocalEvent.isRoutine : LocalEvent → Bool
  | .send => true
  | .receive => true
  | .dispatch => true
  | .frame => true
  | .click _ _ _ => false
  | .enter _ => false

/-- All that goes on without the two players. -/
def routine : List SystemEvent :=
  [0, 1].flatMap fun index => [.act index .send, .serve index, .act index .receive,
    .act index .dispatch, .act index .frame]

/-- The queues of a client that packets wait in. -/
structure Backlog where
  sending : List CustomPacket
  up : List CustomPacket
  down : List CustomPacket
  received : List CustomPacket
  units : List CustomPacket

namespace Backlog

/-- The number of steps that the packets have yet to take. -/
def steps (backlog : Backlog) : Nat :=
  5 * backlog.sending.length + 4 * backlog.up.length + 3 * backlog.down.length +
    2 * backlog.received.length + backlog.units.length

theorem steps_eq_zero {backlog : Backlog} :
    backlog.steps = 0 ↔ backlog = ⟨[], [], [], [], []⟩ := by
  obtain ⟨sending, up, down, received, units⟩ := backlog
  simp only [steps, mk.injEq, ← List.length_eq_zero_iff]
  omega

/-- What there is to work on for a client. -/
def queueFor (backlog : Backlog) : LocalEvent → List CustomPacket
  | .send => backlog.sending
  | .receive => backlog.down
  | .dispatch => backlog.received
  | .frame => backlog.units
  | .click _ _ _ => []
  | .enter _ => []

theorem exists_queue {backlog : Backlog} (h : backlog.steps ≠ 0) :
    backlog.up ≠ [] ∨
      ∃ event ∈ [LocalEvent.send, .receive, .dispatch, .frame], backlog.queueFor event ≠ [] := by
  by_contra hnone
  rw [not_or, not_not] at hnone
  obtain ⟨hup, hown⟩ := hnone
  have hidle (event : LocalEvent)
      (hevent : event ∈ [LocalEvent.send, .receive, .dispatch, .frame]) :
      backlog.queueFor event = [] := by
    by_contra hne
    exact hown ⟨event, hevent, hne⟩
  apply h
  rw [steps_eq_zero]
  obtain ⟨sending, up, down, received, units⟩ := backlog
  have hsending : sending = [] := hidle .send (by simp)
  have hdown : down = [] := hidle .receive (by simp)
  have hreceived : received = [] := hidle .dispatch (by simp)
  have hunits : units = [] := hidle .frame (by simp)
  have hup' : up = [] := hup
  rw [hsending, hdown, hreceived, hunits, hup']

end Backlog

theorem Msg.fits_of_tells {m : Msg} (h : m.Tells fun _ unit => unit.Fits)
    (hnews : ∀ victor, m ≠ .endgame victor) : m.Fits := by
  cases m with
  | unit ref x y squadSize health =>
      obtain ⟨unit, hfits, heq⟩ := h
      obtain ⟨-, rfl, rfl, rfl, rfl⟩ := Msg.unit.inj heq
      exact ⟨hfits.x, hfits.y, hfits.squadSize, hfits.health⟩
  | endgame victor => exact absurd rfl (hnews victor)
  | endturn => trivial

namespace Conn

def backlog (x : Conn) : Backlog where
  sending := x.scene.client.sendingQueue
  up := x.up
  down := x.down
  received := x.scene.client.recievedQueue
  units := x.scene.client.unitUpdateQueue

section Queues

variable {x x' : Conn}

theorem steps_send (h : x.step .send = some x') : x'.backlog.steps < x.backlog.steps := by
  obtain ⟨packet, msg, rest, hqueue, -, rfl⟩ := sendFrontOfQueue_eq_some h
  simp only [backlog, Backlog.steps, GameScene.withClient, hqueue, List.length_append,
    List.length_cons, List.length_nil]
  omega

theorem steps_receive (h : x.step .receive = some x') : x'.backlog.steps < x.backlog.steps := by
  obtain ⟨packet, rest, hdown, rfl⟩ := onData_eq_some h
  simp only [backlog, Backlog.steps, GameScene.withClient, hdown, List.length_append,
    List.length_cons, List.length_nil]
  omega

theorem steps_dispatch (h : x.step .dispatch = some x') : x'.backlog.steps < x.backlog.steps := by
  obtain ⟨packet, rest, client, hqueue, hread, rfl⟩ := dispatch_eq_some h
  have hprocessed := ClientComponent.processRecievedPackets_processed hread
  obtain ⟨hreceived, hsending⟩ := hprocessed.queues
  have hunits : client.unitUpdateQueue.length ≤ x.scene.client.unitUpdateQueue.length + 1 := by
    rw [hprocessed.unitUpdateQueue_eq]
    split
    · simp
    · simp
  simp only [backlog, Backlog.steps, GameScene.withClient, hqueue, hreceived, hsending,
    List.length_cons]
  omega

/-- A frame takes up all the units there are, or leaves the queues alone. -/
theorem backlog_frame {label : PlayerTurn} (hside : Side label x) (h : x.step .frame = some x') :
    (¬ x.scene.Drains ∧ x'.backlog = x.backlog) ∨
      x'.backlog = { x.backlog with units := [] } := by
  obtain ⟨scene, hscene, rfl⟩ := Option.map_eq_some_iff.mp h
  have hframe := GameScene.update_frame (toOption_eq_some hscene)
  cases hframe with
  | idle closed =>
      refine Or.inl ⟨fun hdrains => ?_, ?_⟩
      · exact absurd (closed.symm.trans hdrains.1) (by simp)
      · simp [backlog]
  | send hsend => exact absurd (hsend.symm.trans hside.closed_send) (by simp)
  | adopt hadopt => exact absurd (hadopt.symm.trans hside.closed_adopt) (by simp)
  | finished closed hfinished =>
      refine Or.inl ⟨fun hdrains => ?_, ?_⟩
      · exact absurd (hfinished.symm.trans hdrains.2.1) (by simp)
      · simp [backlog]
  | wait closed hfinished hwait =>
      refine Or.inl ⟨fun hdrains => hwait hdrains.2.2, ?_⟩
      simp [backlog, GameScene.unitsUpdate]
  | drain closed hfinished hwait _ hdrain =>
      right
      rw [backlog, GameScene.unitNetworkUpdate_rest hdrain]
      simp [backlog, GameScene.unitsUpdate]

theorem steps_serve {label : PlayerTurn} {y y' : Conn} (hx : Side label x)
    (h : Serve x y x' y') :
    x'.backlog.steps + y'.backlog.steps < x.backlog.steps + y.backlog.steps := by
  cases h with
  | forward msg rest hup hforward =>
      have hone : (if x.reaches y then [msg] else []).length ≤ 1 := by
        split <;> simp
      simp only [backlog, Backlog.steps, hup, List.length_append, List.length_cons]
      omega
  | resume msg rest hup hresume =>
      have hmsg : Plain msg := hx.unhandled msg (by simp [Conn.unhandled, hup])
      rcases hmsg.type with h | h <;> simp [h] at hresume
  | dropped msg rest hup hforward =>
      have hmsg : Plain msg := hx.unhandled msg (by simp [Conn.unhandled, hup])
      exact absurd (hmsg.isForwarded.symm.trans hforward) (by simp)

end Queues

/-- The client has begun to play, and has not seen the end of the game. -/
structure InGame (label : PlayerTurn) (x : Conn) : Prop where
  lobby : x.scene.client.isLobby = false
  team : x.scene.assignedTeam = label
  unfinished : x.scene.gameFinished = false

/-- Two players in the middle of a game: neither has seen its end, and no news
of it are on their way. -/
structure Attended (label other : PlayerTurn) (x y : Conn) : Prop where
  duel : Duel label other x y
  opposite : other = GameScene.otherTurn label
  fitsX : x.Carries fun _ unit => unit.Fits
  fitsY : y.Carries fun _ unit => unit.Fits
  playingX : x.InGame label
  playingY : y.InGame other
  toX : ∀ victor, GameScene.endgamePacket victor ∉ y.transit x
  toY : ∀ victor, GameScene.endgamePacket victor ∉ x.transit y

section Attended

variable {label other : PlayerTurn} {x y x' y' : Conn} {event : LocalEvent}

theorem Attended.swap (h : Attended label other x y) : Attended other label y x :=
  ⟨h.duel.swap, by rw [h.opposite, otherTurn_otherTurn], h.fitsY, h.fitsX, h.playingY, h.playingX,
    h.toY, h.toX⟩

theorem foldl_onOutcome_of_not_mem {msgs : List Msg} (h : ∀ victor, Msg.endgame victor ∉ msgs)
    (outcome : Bool × PlayerTurn) : msgs.foldl Msg.onOutcome outcome = outcome := by
  induction msgs generalizing outcome with
  | nil => rfl
  | cons m msgs ih =>
      rw [List.foldl_cons, ih fun victor hmem => h victor (List.mem_cons_of_mem m hmem)]
      cases m with
      | unit => rfl
      | endgame victor => exact absurd List.mem_cons_self (h victor)
      | endturn => rfl

/-- A step of a client in play leaves it in play for all that its flags say. -/
theorem InGame.flags (hlabel : label ≠ .none) (hside : Side label x) (h : x.InGame label)
    (hroutine : event.isRoutine = true) (hstep : x.step event = some x') :
    x'.scene.client.isLobby = false ∧ x'.scene.assignedTeam = label := by
  cases event with
  | send =>
      obtain ⟨packet, msg, rest, -, -, rfl⟩ := sendFrontOfQueue_eq_some hstep
      exact ⟨h.lobby, h.team⟩
  | receive =>
      obtain ⟨packet, rest, -, rfl⟩ := onData_eq_some hstep
      exact ⟨h.lobby, h.team⟩
  | dispatch =>
      obtain ⟨packet, rest, client, -, hread, rfl⟩ := dispatch_eq_some hstep
      have hlobby := (ClientComponent.processRecievedPackets_processed hread).isLobby_eq
      refine ⟨?_, h.team⟩
      simp only [GameScene.withClient, hlobby]
      split
      · rfl
      · exact h.lobby
  | frame =>
      obtain ⟨scene, hscene, rfl⟩ := Option.map_eq_some_iff.mp hstep
      have hframe := GameScene.update_frame (toOption_eq_some hscene)
      refine ⟨?_, ?_⟩
      · rcases hframe.client_cases with hclient | ⟨-, _, -, hclient⟩ | ⟨-, hclient⟩ | ⟨-, hclient⟩
        all_goals
          simp only [hclient]
          exact h.lobby
      · rcases hframe.assignedTeam with hteam | ⟨hadopt, -⟩
        · rw [hteam, ← h.team]
          apply GameScene.begun_assignedTeam
          exact Or.inl fun hnone => hlabel (h.team.symm.trans hnone)
        · exact absurd (hadopt.symm.trans hside.closed_adopt) (by simp)
  | click => cases hroutine
  | enter => cases hroutine

/-- What a routine step does to the units on their way, and to the outcome. -/
theorem InGame.step (hlabel : label ≠ .none) (hside : Side label x) (h : x.InGame label)
    (htoX : ∀ victor, GameScene.endgamePacket victor ∉ x.incoming)
    (hroutine : event.isRoutine = true) (hstep : x.step event = some x') :
    x'.InGame label ∧ x'.outgoing = x.outgoing ∧
      ∀ packet ∈ x'.incoming, packet ∈ x.incoming := by
  obtain ⟨hlobby, hteam⟩ := h.flags hlabel hside hroutine hstep
  have hplaying (houtcome : x'.scene.outcome = x.scene.outcome) : x'.InGame label :=
    ⟨hlobby, hteam, (congrArg Prod.fst houtcome).trans h.unfinished⟩
  cases hside.sideStep hlabel hstep with
  | clicked => cases hroutine
  | quiet _ _ hquiet =>
      refine ⟨hplaying hquiet.outcome, hquiet.outgoing, fun packet hpacket => ?_⟩
      rw [← hquiet.incoming]
      exact hpacket
  | drained _ hdrained =>
      obtain ⟨msgs, hmsgs⟩ := hside.queue_msgs
      obtain ⟨-, -, houtcome⟩ := hdrained.read msgs hmsgs
      have hnone : ∀ victor, Msg.endgame victor ∉ msgs := by
        intro victor hmem
        apply htoX victor
        rw [hdrained.incoming, hmsgs]
        exact List.mem_append_left _ (List.mem_map.mpr ⟨_, hmem, rfl⟩)
      rw [foldl_onOutcome_of_not_mem hnone] at houtcome
      refine ⟨hplaying houtcome, hdrained.outgoing, fun packet hpacket => ?_⟩
      rw [hdrained.incoming]
      exact List.mem_append_right _ hpacket

theorem Attended.act (hlabel : label ≠ .none) (h : Attended label other x y)
    (hroutine : event.isRoutine = true) (hstep : x.step event = some x') :
    Attended label other x' y := by
  obtain ⟨hplaying, houtgoing, hincoming⟩ := h.playingX.step hlabel h.duel.sideX
    (fun victor hmem => h.toX victor (List.mem_append_left _ hmem)) hroutine hstep
  refine ⟨h.duel.left hlabel (step_local hstep), h.opposite, ?_, h.fitsY, hplaying, h.playingY,
    ?_, ?_⟩
  · apply fits_invariant.carries_step h.fitsX _ hstep
    cases event <;> trivial
  · intro victor hmem
    rcases List.mem_append.mp hmem with hmem | hmem
    · exact h.toX victor (List.mem_append_left _ (hincoming _ hmem))
    · exact h.toX victor (List.mem_append_right _ hmem)
  · intro victor hmem
    rw [transit, houtgoing] at hmem
    exact h.toY victor hmem

theorem Attended.serve (h : Attended label other x y) (hserve : Serve x y x' y')
    (hfits : (x'.Carries fun _ unit => unit.Fits) ∧ y'.Carries fun _ unit => unit.Fits) :
    Attended label other x' y' := by
  obtain ⟨-, -, ⟨hx, hy⟩, htoY, htoX⟩ := h.duel.sideX.serve h.duel.sideY h.duel.uid hserve
  refine ⟨h.duel.serve hserve, h.opposite, hfits.1, hfits.2, ?_, ?_, ?_, ?_⟩
  · exact ⟨hx ▸ h.playingX.lobby, hx ▸ h.playingX.team, hx ▸ h.playingX.unfinished⟩
  · exact ⟨hy ▸ h.playingY.lobby, hy ▸ h.playingY.team, hy ▸ h.playingY.unfinished⟩
  · rw [htoX]
    exact h.toX
  · rw [htoY]
    exact h.toY

/-- Units that wait to be taken up end a turn, so that the client waits for
them. -/
theorem Attended.drains (hlabel : label ≠ .none) (h : Attended label other x y)
    (hunits : x.scene.client.unitUpdateQueue ≠ []) : x.scene.Drains := by
  have htransit : y.transit x ≠ [] := by
    obtain ⟨packet, rest, hqueue⟩ := List.exists_cons_of_ne_nil hunits
    obtain ⟨m, rfl⟩ := h.duel.sideX.queue packet (by simp [hqueue])
    simp [transit, Conn.incoming, hqueue]
  have hturn : x.scene.playerTurn = GameScene.otherTurn label := by
    cases h.duel.phase h.opposite with
    | holds hholds => exact absurd hholds.toHolder htransit
    | passes hpasses => exact absurd hpasses.toSender htransit
    | otherHolds hholds => exact absurd hholds.toOther htransit
    | otherPasses hpasses => exact hpasses.turnReader
  refine ⟨?_, h.playingX.unfinished, ?_⟩
  · rw [h.playingX.lobby, h.duel.sideX.notReconnecting]
    rfl
  · have hteam : x.scene.begun.assignedTeam = label := by
      rw [GameScene.begun_assignedTeam (Or.inl fun hnone => hlabel
        (h.playingX.team.symm.trans hnone)), h.playingX.team]
    rw [GameScene.awaits, hteam, GameScene.begun_playerTurn, hturn]
    cases label with
    | none => exact absurd rfl hlabel
    | player1 => exact Or.inr ⟨rfl, rfl⟩
    | player2 => exact Or.inl ⟨rfl, rfl⟩

/-- What a client has queued to send can be encoded and read. -/
theorem Plain.readable {packet : CustomPacket} (h : Plain packet) :
    ∃ msg, CustomPacket.ofData packet.data = some msg := by
  have htype : '\x00' ∉ packet.type.toList := by
    rcases h.type with h | h <;> rw [h] <;> decide
  obtain ⟨msg, hread, -⟩ := CustomPacket.ofData_data_type htype
  exact ⟨msg, hread⟩

/-- What a side finds in its inbox can be processed. -/
theorem Side.wellFormed (h : Side label x) {packet : CustomPacket}
    (hpacket : packet ∈ x.scene.client.recievedQueue ++ x.down) : packet.NumberWellFormed := by
  intro htype
  rcases h.inbox packet hpacket with hplain | rfl | rfl
  · rcases hplain.type with h | h <;> simp [h] at htype
  · apply CustomPacket.isInt_digit
    cases label <;> decide
  · simp [Server.startPacket] at htype

/-- A client that has something to work on works it off. -/
theorem Attended.works (hlabel : label ≠ .none) (h : Attended label other x y)
    (hbusy : x.backlog.queueFor event ≠ []) :
    ∃ x', x.step event = some x' ∧ x'.backlog.steps < x.backlog.steps := by
  cases event with
  | send =>
      obtain ⟨packet, rest, hqueue⟩ := List.exists_cons_of_ne_nil hbusy
      have hsending : x.scene.client.sendingQueue = packet :: rest := hqueue
      obtain ⟨msg, hread⟩ := (h.duel.sideX.unhandled packet
        (by simp [Conn.unhandled, hsending])).readable
      have hstep : ∃ x', x.step .send = some x' := by
        simp only [Conn.step, sendFrontOfQueue, hsending, hread]
        exact ⟨_, rfl⟩
      obtain ⟨x', hstep⟩ := hstep
      exact ⟨x', hstep, steps_send hstep⟩
  | receive =>
      obtain ⟨packet, rest, hqueue⟩ := List.exists_cons_of_ne_nil hbusy
      have hdown : x.down = packet :: rest := hqueue
      have hstep : ∃ x', x.step .receive = some x' := by
        simp only [Conn.step, onData, hdown]
        exact ⟨_, rfl⟩
      obtain ⟨x', hstep⟩ := hstep
      exact ⟨x', hstep, steps_receive hstep⟩
  | dispatch =>
      obtain ⟨packet, rest, hqueue⟩ := List.exists_cons_of_ne_nil hbusy
      have hreceived : x.scene.client.recievedQueue = packet :: rest := hqueue
      have hstep : ∃ x', x.step .dispatch = some x' := by
        simp only [Conn.step, Conn.dispatch, hreceived]
        apply exists_map_toOption
        exact (ClientComponent.processRecievedPackets_isOk _ packet).mp
          (h.duel.sideX.wellFormed (by simp [hreceived]))
      obtain ⟨x', hstep⟩ := hstep
      exact ⟨x', hstep, steps_dispatch hstep⟩
  | frame =>
      have hread : ∀ packet ∈ x.scene.client.unitUpdateQueue,
          IsUnitText packet.msgText.toList := by
        intro packet hpacket
        obtain ⟨m, rfl, htells⟩ := h.fitsX.queue packet hpacket
        apply (Msg.legible_packet (Msg.fits_of_tells htells _)).unit (Msg.packet_type m)
        rintro victor rfl
        apply h.toX victor
        exact List.mem_append_left _ (List.mem_filter.mpr
          ⟨List.mem_append_left _ (List.mem_append_left _ hpacket), rfl⟩)
      have hstep : ∃ x', x.step .frame = some x' :=
        exists_map_toOption (GameScene.update_isOk h.duel.sideX.turn hread)
      obtain ⟨x', hstep⟩ := hstep
      rcases backlog_frame h.duel.sideX hstep with ⟨hidle, -⟩ | hdrained
      · exact absurd (h.drains hlabel hbusy) hidle
      · refine ⟨x', hstep, ?_⟩
        have hpos := List.length_pos_iff.mpr hbusy
        rw [hdrained]
        simp only [Backlog.steps, Backlog.queueFor, List.length_nil] at hpos ⊢
        omega
  | click => exact absurd rfl hbusy
  | enter => exact absurd rfl hbusy

/-- A routine step works something off, or is a frame that changes no queue. -/
theorem Side.rests (h : Side label x) (hroutine : event.isRoutine = true)
    (hstep : x.step event = some x') :
    x'.backlog.steps < x.backlog.steps ∨ x'.backlog = x.backlog := by
  cases event with
  | send => exact Or.inl (steps_send hstep)
  | receive => exact Or.inl (steps_receive hstep)
  | dispatch => exact Or.inl (steps_dispatch hstep)
  | frame =>
      rcases backlog_frame h hstep with ⟨-, hsame⟩ | hdrained
      · exact Or.inr hsame
      · cases hunits : x.backlog.units with
        | nil =>
            right
            rw [hdrained, ← hunits]
        | cons packet rest =>
            left
            rw [hdrained]
            simp only [Backlog.steps, hunits, List.length_nil, List.length_cons]
            omega
  | click => cases hroutine
  | enter => cases hroutine

end Attended

end Conn

namespace System

/-- The number of steps that all packets have yet to take. -/
def ahead (system : System) : Nat := (system.conns.map fun x => x.backlog.steps).sum

/-- There is something to work on for the event. -/
def Busy (system : System) : SystemEvent → Prop
  | .act index event => ∃ x, system.conns[index]? = some x ∧ x.backlog.queueFor event ≠ []
  | .serve index => ∃ x, system.conns[index]? = some x ∧ x.backlog.up ≠ []
  | .connect _ => False
  | .disconnect _ => False

/-- The game of two clients that were put together in the lobby is on. -/
def InPlay (system : System) : Prop :=
  ∃ x y, system.conns = [x, y] ∧ Conn.Attended .player1 .player2 x y

section Settling

variable {system after : System} {event : SystemEvent}

theorem Busy.congr (h : after.conns.map Conn.backlog = system.conns.map Conn.backlog)
    (hbusy : system.Busy event) : after.Busy event := by
  have hfind (index : Nat) {x : Conn} (hx : system.conns[index]? = some x) :
      ∃ y, after.conns[index]? = some y ∧ y.backlog = x.backlog := by
    have hlook := congrArg (fun backlogs => backlogs[index]?) h
    simp only [List.getElem?_map, hx, Option.map_some, Option.map_eq_some_iff] at hlook
    exact hlook
  cases event with
  | connect => exact hbusy
  | disconnect => exact hbusy
  | serve index =>
      obtain ⟨x, hx, hup⟩ := hbusy
      obtain ⟨y, hy, hsame⟩ := hfind index hx
      exact ⟨y, hy, by rwa [hsame]⟩
  | act index own =>
      obtain ⟨x, hx, hqueue⟩ := hbusy
      obtain ⟨y, hy, hsame⟩ := hfind index hx
      exact ⟨y, hy, by rwa [hsame]⟩

theorem mem_routine (h : event ∈ routine) :
    event.stays = true ∧ ∀ index own, event = .act index own → own.isRoutine = true := by
  simp only [routine, List.flatMap_cons, List.flatMap_nil, List.cons_append, List.nil_append,
    List.append_nil, List.mem_cons, List.not_mem_nil, or_false] at h
  rcases h with rfl | rfl | rfl | rfl | rfl | rfl | rfl | rfl | rfl | rfl <;>
    refine ⟨rfl, fun index own hown => ?_⟩ <;> cases hown <;> rfl

/-- The game goes on, and packets that move only move on. -/
theorem InPlay.step (h : system.InPlay) (hevent : event ∈ routine)
    (hstep : system.step event = some after) :
    after.InPlay ∧ (after.ahead < system.ahead ∨
      after.conns.map Conn.backlog = system.conns.map Conn.backlog) := by
  obtain ⟨server, conns⟩ := system
  obtain ⟨x, y, hconns, hgame⟩ := h
  obtain rfl : conns = [x, y] := hconns
  obtain ⟨hstays, hroutine⟩ := mem_routine hevent
  have hfits : ∀ z ∈ after.conns, z.Carries fun _ unit => unit.Fits := by
    apply fits_invariant.client.step _ _ hstep
    · intro z hz
      rcases List.mem_pair.mp hz with rfl | rfl
      · exact hgame.fitsX
      · exact hgame.fitsY
    · cases event with
      | connect => trivial
      | disconnect => trivial
      | serve => trivial
      | act index own =>
          intro conn _
          have hown := hroutine index own rfl
          cases own <;> trivial
  obtain ⟨x', y', rfl, hcases⟩ := step_pair_cases hstays hstep
  have hfits' : (x'.Carries fun _ unit => unit.Fits) ∧ y'.Carries fun _ unit => unit.Fits :=
    ⟨hfits x' (by simp), hfits y' (by simp)⟩
  rcases hcases with ⟨own, rfl, hown, rfl⟩ | ⟨own, rfl, hown, rfl⟩ | hserve | hserve
  · refine ⟨⟨x', y', rfl, hgame.act (by simp) (hroutine 0 own rfl) hown⟩, ?_⟩
    rcases hgame.duel.sideX.rests (hroutine 0 own rfl) hown with hless | hsame
    · exact Or.inl (by simpa [ahead] using hless)
    · exact Or.inr (by simp [hsame])
  · refine ⟨⟨x', y', rfl, (hgame.swap.act (by simp) (hroutine 1 own rfl) hown).swap⟩, ?_⟩
    rcases hgame.duel.sideY.rests (hroutine 1 own rfl) hown with hless | hsame
    · exact Or.inl (by simpa [ahead] using hless)
    · exact Or.inr (by simp [hsame])
  · refine ⟨⟨x', y', rfl, hgame.serve hserve hfits'⟩, Or.inl ?_⟩
    have hless := Conn.steps_serve hgame.duel.sideX hserve
    simpa [ahead] using hless
  · refine ⟨⟨x', y', rfl, (hgame.swap.serve hserve hfits'.symm).swap⟩, Or.inl ?_⟩
    have hless := Conn.steps_serve hgame.duel.sideY hserve
    simp only [ahead, List.map_cons, List.map_nil, List.sum_cons, List.sum_nil]
    omega

/-- An event that has something to work on is carried out, and moves a packet. -/
theorem InPlay.works (h : system.InPlay) (hbusy : system.Busy event) :
    ∃ after, system.step event = some after ∧ after.ahead < system.ahead := by
  obtain ⟨server, conns⟩ := system
  obtain ⟨x, y, hconns, hgame⟩ := h
  obtain rfl : conns = [x, y] := hconns
  cases event with
  | connect => cases hbusy
  | disconnect => cases hbusy
  | serve index =>
      obtain ⟨z, hz, hup⟩ := hbusy
      obtain ⟨msg, rest, hup⟩ := List.exists_cons_of_ne_nil hup
      have hup' : z.up = msg :: rest := hup
      obtain ⟨after, hstep⟩ :
          ∃ after, System.step ⟨server, [x, y]⟩ (.serve index) = some after :=
        ⟨_, step_serve_eq hz hup' fun _ => le_refl 2⟩
      obtain ⟨x', y', rfl, hcases⟩ := step_pair_cases rfl hstep
      refine ⟨_, hstep, ?_⟩
      simp only [ahead, List.map_cons, List.map_nil, List.sum_cons, List.sum_nil]
      rcases hcases with ⟨own, hevent, -⟩ | ⟨own, hevent, -⟩ | hserve | hserve
      · cases hevent
      · cases hevent
      · have hless := Conn.steps_serve hgame.duel.sideX hserve
        omega
      · have hless := Conn.steps_serve hgame.duel.sideY hserve
        omega
  | act index own =>
      obtain ⟨z, hz, hqueue⟩ := hbusy
      rcases index with _ | _ | index
      · obtain rfl : x = z := Option.some.inj hz
        obtain ⟨x', hstep, hless⟩ := hgame.works (by simp) hqueue
        refine ⟨⟨server, [x', y]⟩, by simp [System.step, hstep], ?_⟩
        simpa [ahead] using hless
      · obtain rfl : y = z := Option.some.inj hz
        obtain ⟨y', hstep, hless⟩ := hgame.swap.works (by simp) hqueue
        refine ⟨⟨server, [x, y']⟩, by simp [System.step, hstep], ?_⟩
        simpa [ahead] using hless
      · cases hz

theorem InPlay.busy (h : system.InPlay) (hahead : system.ahead ≠ 0) :
    ∃ event ∈ routine, system.Busy event := by
  obtain ⟨server, conns⟩ := system
  obtain ⟨x, y, hconns, -⟩ := h
  obtain rfl : conns = [x, y] := hconns
  have hqueue (index : Nat) (hindex : index = 0 ∨ index = 1) (z : Conn)
      (hz : [x, y][index]? = some z) (hsteps : z.backlog.steps ≠ 0) :
      ∃ event ∈ routine, System.Busy ⟨server, [x, y]⟩ event := by
    rcases Backlog.exists_queue hsteps with hup | ⟨own, hown, hown'⟩
    · refine ⟨.serve index, ?_, z, hz, hup⟩
      rcases hindex with rfl | rfl <;> simp [routine]
    · refine ⟨.act index own, ?_, z, hz, hown'⟩
      simp only [List.mem_cons, List.not_mem_nil, or_false] at hown
      rcases hindex with rfl | rfl <;> rcases hown with rfl | rfl | rfl | rfl <;> simp [routine]
  rcases Nat.eq_zero_or_pos x.backlog.steps with hx | hx
  · refine hqueue 1 (Or.inr rfl) y rfl ?_
    simp only [ahead, List.map_cons, List.map_nil, List.sum_cons, List.sum_nil] at hahead
    omega
  · exact hqueue 0 (Or.inl rfl) x rfl hx.ne'

theorem settling : Settling System.step routine InPlay ahead Busy := by
  constructor
  · exact fun _ _ _ h hevent hstep => (h.step hevent hstep).1
  · exact fun _ h hahead => h.busy hahead
  · exact fun _ _ h hbusy => h.works hbusy
  · intro system event after h hevent hstep
    rcases (h.step hevent hstep).2 with hless | hsame
    · exact Or.inl hless
    · refine Or.inr ⟨?_, fun _ hbusy => hbusy.congr hsame⟩
      have hsteps := congrArg (List.map Backlog.steps) hsame
      simp only [List.map_map] at hsteps
      exact congrArg List.sum hsteps

end Settling

end System

/-- Neither of the two has seen the end of the game, and no news of it are on
their way. -/
structure Undecided (x y : Conn) : Prop where
  first : x.scene.gameFinished = false
  second : y.scene.gameFinished = false
  toFirst : ∀ victor, GameScene.endgamePacket victor ∉ y.inTransit x
  toSecond : ∀ victor, GameScene.endgamePacket victor ∉ x.inTransit y

/-- Nothing is left to be done: both clients see the same turn, and it is the
turn of one of them. -/
structure Conn.AtRest (x y : Conn) : Prop where
  settled : Settled x y
  sameTurn : x.scene.playerTurn = y.scene.playerTurn
  oneTurn : x.HasTurn ↔ ¬ y.HasTurn

section Rest

theorem mem_inTransit_of_transit {x y : Conn} {packet : CustomPacket}
    (h : packet ∈ x.transit y) : packet ∈ x.inTransit y := by
  have hfilter : x.transit y = (x.inTransit y).filter Conn.isUnit := by
    simp [Conn.transit, Conn.incoming, Conn.outgoing, Conn.unhandled, Conn.inTransit]
  rw [hfilter] at h
  exact List.mem_of_mem_filter h

theorem System.InPlay.atRest {system : System} (h : system.InPlay) (hahead : system.ahead = 0) :
    ∃ x y, system.conns = [x, y] ∧ Conn.AtRest x y := by
  obtain ⟨x, y, hconns, hgame⟩ := h
  simp only [System.ahead, hconns, List.map_cons, List.map_nil, List.sum_cons, List.sum_nil,
    Nat.add_eq_zero_iff, and_true] at hahead
  obtain ⟨hx, hy⟩ := hahead
  have hemptyX := Backlog.mk.inj (Backlog.steps_eq_zero.mp hx)
  have hemptyY := Backlog.mk.inj (Backlog.steps_eq_zero.mp hy)
  have hsettled : Settled x y := by
    constructor
    · simp [Conn.inTransit, hemptyX, hemptyY]
    · simp [Conn.inTransit, hemptyX, hemptyY]
  have hto := transit_of_settled hsettled.1
  have hfrom := transit_of_settled hsettled.2
  have hteamX := hgame.playingX.team
  have hteamY := hgame.playingY.team
  have hturns : x.scene.playerTurn = y.scene.playerTurn ∧ (x.HasTurn ↔ ¬ y.HasTurn) := by
    cases hgame.duel.phase rfl with
    | holds h =>
        refine ⟨h.turnHolder.trans h.turnOther.symm, ?_⟩
        simp [Conn.HasTurn, hteamX, hteamY, h.turnHolder, h.turnOther]
    | otherHolds h =>
        refine ⟨h.turnOther.trans h.turnHolder.symm, ?_⟩
        simp [Conn.HasTurn, hteamX, hteamY, h.turnHolder, h.turnOther, GameScene.otherTurn]
    | passes h =>
        obtain ⟨body, htransit, -⟩ := h.toReader
        simp [hto] at htransit
    | otherPasses h =>
        obtain ⟨body, htransit, -⟩ := h.toReader
        simp [hfrom] at htransit
  exact ⟨x, y, hconns, hsettled, hturns.1, hturns.2⟩

/-- Who has received `start` has left the lobby. -/
theorem lobby_invariant :
    System.ClientInvariant (fun _ _ => True) (fun _ => True) fun x =>
      Server.startPacket ∈ x.dispatched → x.scene.client.isLobby = false := by
  constructor
  · exact fun _ _ => trivial
  · intro uid blank hstart
    cases hstart
  · exact fun _ _ h => h
  · exact fun _ _ h _ => h
  · exact fun _ _ _ h _ => ⟨trivial, h⟩
  · intro x event x' h _ hstep
    cases Conn.step_local hstep with
    | send => exact h
    | receive => exact h
    | dispatch packet rest client hqueue hread =>
        intro hstart
        have hlobby := (ClientComponent.processRecievedPackets_processed hread).isLobby_eq
        simp only [GameScene.withClient, hlobby]
        split
        · rfl
        · rename_i hother
          rcases List.mem_append.mp hstart with hstart | hstart
          · exact h hstart
          · rw [← List.mem_singleton.mp hstart] at hother
            exact absurd (Or.inl rfl) hother
    | frame scene hframe =>
        intro hstart
        rcases hframe.client_cases with hclient | ⟨-, _, -, hclient⟩ | ⟨-, hclient⟩ | ⟨-, hclient⟩
        all_goals
          simp only [hclient]
          exact h hstart
    | click scene _ hclick =>
        cases hclick with
        | ignored => exact h
        | ended =>
            rw [GameScene.endTurn_eq]
            exact h
        | moved _ _ _ hmoved =>
            rw [hmoved.rest]
            exact h
    | enter scene henter =>
        cases henter with
        | ignored => exact h
        | named => exact h
        | chat => exact h

theorem StartedPair.inPlay {events : List SystemEvent} {system : System} {a b : Conn}
    (h : StartedPair system a b)
    (hrun : exec System.step System.initial events = some system)
    (hclicks : Along System.step (System.ActsMeet (Conn.ClickMeets GameScene.ClickStays))
      System.initial events)
    (hundecided : Undecided a b) : system.InPlay := by
  obtain ⟨hduel, hteamA, hteamB⟩ := h.duel
  have hfits := fits_invariant.exec hrun hclicks
  have hlobby := lobby_invariant.exec hrun (System.along_actsMeet fun _ _ => trivial)
  have hmemA : a ∈ system.conns := by simp [h.conns]
  have hmemB : b ∈ system.conns := by simp [h.conns]
  refine ⟨a, b, h.conns, hduel, rfl, hfits a hmemA, hfits b hmemB, ?_, ?_, ?_, ?_⟩
  · exact ⟨hlobby a hmemA h.startFirst, hteamA, hundecided.first⟩
  · exact ⟨hlobby b hmemB h.startSecond, hteamB, hundecided.second⟩
  · exact fun victor hmem => hundecided.toFirst victor (mem_inTransit_of_transit hmem)
  · exact fun victor hmem => hundecided.toSecond victor (mem_inTransit_of_transit hmem)

/-- When the players of an undecided game pause, and the threads of the program
are scheduled in any fair way, then from some time on nothing is on its way any
more and exactly one of the two has the turn, as both of them know. -/
theorem fair_settles {events : List SystemEvent} {system : System} {a b : Conn}
    (hrun : exec System.step System.initial events = some system)
    (hclicks : Along System.step (System.ActsMeet (Conn.ClickMeets GameScene.ClickStays))
      System.initial events)
    (hstarted : StartedPair system a b) (hundecided : Undecided a b)
    {schedule : Nat → SystemEvent} (hfair : Fair routine schedule) :
    ∃ n, ∀ m, n ≤ m → ∃ x y,
      (stateAt System.step schedule system m).conns = [x, y] ∧ Conn.AtRest x y := by
  have hplay := hstarted.inPlay hrun hclicks hundecided
  obtain ⟨n, hn⟩ := System.settling.settles hfair hplay
  exact ⟨n, fun m hle => (System.settling.stateAt_keeps hfair hplay m).atRest (hn m hle)⟩

theorem startedPair_pressed : ∃ system a b,
    exec System.step System.initial pressedRun = some system ∧ StartedPair system a b ∧
      Undecided a b ∧ ¬ Settled a b := by
  obtain ⟨system, a, b, hrun, hconns, hcheck⟩ :=
    @exists_pair_of_check System.initial pressedRun (fun _ a b => startedCheck a b &&
      decide (¬ Settled a b ∧ a.scene.gameFinished = false ∧ b.scene.gameFinished = false ∧
        b.inTransit a = [] ∧ ∀ packet ∈ a.inTransit b, packet.msgText.toList.take 7 ≠
          "endgame".toList))
      (by decide +kernel)
  rw [Bool.and_eq_true, decide_eq_true_eq] at hcheck
  obtain ⟨hstarted, hopen, hfirst, hsecond, hto, hnews⟩ := hcheck
  refine ⟨system, a, b, hrun, startedPair_of_check hrun hconns hstarted,
    ⟨hfirst, hsecond, ?_, ?_⟩, hopen⟩
  · simp [hto]
  · intro victor hmem
    apply hnews _ hmem
    simp [GameScene.endgamePacket]

theorem fair_settles_pressed : ∃ system a b,
    exec System.step System.initial pressedRun = some system ∧ system.conns = [a, b] ∧
      ¬ Settled a b ∧ ∃ n, ∀ m, n ≤ m → ∃ x y,
        (stateAt System.step (rotate routine (by decide)) system m).conns = [x, y] ∧
          Conn.AtRest x y := by
  obtain ⟨system, a, b, hrun, hstarted, hundecided, hopen⟩ := startedPair_pressed
  exact ⟨system, a, b, hrun, hstarted.conns, hopen,
    fair_settles hrun (by decide +kernel) hstarted hundecided (fair_rotate routine (by decide))⟩

end Rest

end NetworkingGame
