import NetworkingGame.Occupancy
import NetworkingGame.Quiescence

/-!
What one player of a game writes is what the other one's client gets: every
packet once and in the order in which it was written. Only the turn button and
the lines typed write anything.
-/

namespace NetworkingGame

open Library.Transition Library.Fairness

/-- What arrives in place of the packet: encoded and decoded, each of the three
strings ends at its first NUL. -/
def CustomPacket.received (packet : CustomPacket) : CustomPacket :=
  (ofData packet.data).getD packet

/-- What a click writes: the packets of a turn if it ends one. -/
def GameScene.clickWrites (scene : GameScene) (undefinedReturn : Bool) (xpos ypos : Int) :
    List CustomPacket :=
  if scene.isOpen = true ∧ scene.EndsTurn xpos ypos then
    (scene.turnMsgs undefinedReturn).map Msg.packet
  else []

/-- What a line entered writes: itself, unless it names the user. -/
def GameScene.enterWrites (scene : GameScene) (str : String) : List CustomPacket :=
  if (scene.isOpen && scene.sceneFullInit) = true ∧ scene.client.username ≠ "" then
    [⟨"chat", scene.client.username, str⟩]
  else []

/-- What a client adds to its sending queue in a game in play. -/
def Conn.writes (x : Conn) : LocalEvent → List CustomPacket
  | .click undefinedReturn xpos ypos => x.scene.clickWrites undefinedReturn xpos ypos
  | .enter str => x.scene.enterWrites str
  | .send => []
  | .receive => []
  | .dispatch => []
  | .frame => []

/-- What the client at this position writes in an event. -/
def System.writes (index : Nat) (system : System) : SystemEvent → List CustomPacket
  | .act actor event =>
      if actor = index then (system.conns[index]?).elim [] fun x => x.writes event else []
  | .connect _ => []
  | .disconnect _ => []
  | .serve _ => []

namespace GameScene

theorem clickHandler_writes {scene after : GameScene} {undefinedReturn : Bool} {xpos ypos : Int}
    (h : scene.clickHandler undefinedReturn xpos ypos = .ok after) :
    after.client = scene.client.push (scene.clickWrites undefinedReturn xpos ypos) := by
  have hnothing : scene.client.push [] = scene.client := by
    rw [ClientComponent.push, List.append_nil]
  unfold clickWrites
  by_cases hopen : scene.isOpen = true
  · by_cases hends : scene.EndsTurn xpos ypos
    · obtain rfl := Except.ok.inj (h.symm.trans (clickHandler_button hopen hends.1 hends.2))
      rw [if_pos ⟨hopen, hends⟩, endTurn_eq]
    · rw [if_neg fun hboth => hends hboth.2, hnothing]
      rw [clickHandler_phases hopen hends] at h
      obtain ⟨next, hattack, h⟩ := bind_eq_ok h
      rw [← Except.ok.inj h, setSelected_rest, onlyUnits_attackClickedUnit hattack,
        onlyUnits_placeUnitAtClick xpos ypos scene]
  · rw [if_neg fun hboth => hopen hboth.1, hnothing]
    unfold clickHandler at h
    unfold isOpen at hopen
    rw [if_neg hopen] at h
    rw [← Except.ok.inj h]

theorem enterPressed_writes (scene : GameScene) (str : String) :
    (scene.enterPressed str).client.sendingQueue =
      scene.client.sendingQueue ++ scene.enterWrites str := by
  unfold enterPressed enterWrites isOpen processString
  split
  · rename_i hguard
    split
    · rename_i hname
      rw [if_neg fun hboth => hboth.2 hname, List.append_nil]
    · rename_i hname
      rw [if_pos ⟨by simpa using hguard, hname⟩]
      rfl
  · rename_i hguard
    rw [if_neg fun hboth => hguard (by simpa using hboth.1), List.append_nil]

end GameScene

namespace Conn

/-- All that `x` has ever written, as far as `y` has not lost it: what `y` was
sent of it, then what is on its way. -/
def told (x y : Conn) : List CustomPacket :=
  y.sent.filter (fun packet => Server.isForwarded packet.type) ++ x.up ++
    x.scene.client.sendingQueue.map CustomPacket.received

section Told

variable {label other : PlayerTurn} {x y x' y' : Conn} {event : LocalEvent}

/-- Of its own steps, a client's queues only show what it writes. -/
theorem Side.queued (h : Side label x) (hstep : x.step event = some x') :
    x'.up ++ x'.scene.client.sendingQueue.map CustomPacket.received =
      x.up ++ x.scene.client.sendingQueue.map CustomPacket.received ++
        (x.writes event).map CustomPacket.received := by
  cases event with
  | send =>
      obtain ⟨packet, msg, rest, hqueue, hread, rfl⟩ := sendFrontOfQueue_eq_some hstep
      have hmsg : packet.received = msg := by rw [CustomPacket.received, hread, Option.getD_some]
      simp [GameScene.withClient, hqueue, hmsg, writes]
  | receive =>
      obtain ⟨packet, rest, -, rfl⟩ := onData_eq_some hstep
      simp [GameScene.withClient, writes]
  | dispatch =>
      obtain ⟨packet, rest, client, -, hread, rfl⟩ := dispatch_eq_some hstep
      have hsending := (ClientComponent.processRecievedPackets_processed hread).queues.2
      simp [GameScene.withClient, hsending, writes]
  | frame =>
      have hsame : x'.backlog = x.backlog ∨ x'.backlog = { x.backlog with units := [] } := by
        rcases backlog_frame h hstep with ⟨-, hsame⟩ | hdrained
        · exact Or.inl hsame
        · exact Or.inr hdrained
      have hqueues : x'.up = x.up ∧
          x'.scene.client.sendingQueue = x.scene.client.sendingQueue := by
        rcases hsame with hsame | hsame
        · exact ⟨congrArg Backlog.up hsame, congrArg Backlog.sending hsame⟩
        · exact ⟨congrArg Backlog.up hsame, congrArg Backlog.sending hsame⟩
      simp [hqueues, writes]
  | click undefinedReturn xpos ypos =>
      obtain ⟨scene, hscene, rfl⟩ := Option.map_eq_some_iff.mp hstep
      have hclient := GameScene.clickHandler_writes (toOption_eq_some hscene)
      simp [hclient, ClientComponent.push, writes]
  | enter str =>
      obtain rfl := Option.some.inj hstep
      simp [GameScene.enterPressed_writes, writes]

theorem told_writer (h : Side label x) (hstep : x.step event = some x') :
    x'.told y = x.told y ++ (x.writes event).map CustomPacket.received := by
  have hqueued := h.queued hstep
  rw [told, told, List.append_assoc, hqueued]
  simp only [List.append_assoc]

theorem told_reader (hstep : y.step event = some y') : x.told y' = x.told y := by
  have hsent : y'.sent = y.sent := congrArg Peer.sent (System.peer_local (step_local hstep))
  rw [told, told, hsent]

theorem told_serve (hduel : Duel label other x y) (h : Serve x y x' y') :
    x'.told y' = x.told y ∧ y'.told x' = y.told x := by
  have hreaches : x.reaches y = true := by
    simp [Conn.reaches, hduel.sideY.mapped, hduel.uid.symm]
  cases h with
  | forward msg rest hup hforward =>
      refine ⟨?_, rfl⟩
      simp [told, Conn.sent, hreaches, hup, hforward]
  | resume msg rest hup hresume =>
      have hmsg : Plain msg := hduel.sideX.unhandled msg (by simp [Conn.unhandled, hup])
      rcases hmsg.type with h | h <;> simp [h] at hresume
  | dropped msg rest hup hforward =>
      have hmsg : Plain msg := hduel.sideX.unhandled msg (by simp [Conn.unhandled, hup])
      exact absurd (hmsg.isForwarded.symm.trans hforward) (by simp)

end Told

end Conn

section Games

open Conn

/-- A step of the game adds to what either client has told what it writes. -/
theorem told_step {server : Server} {a b : Conn} {other : PlayerTurn} {event : SystemEvent}
    {after : System} (hother : other ≠ .none) (hduel : Duel .player1 other a b)
    (hstays : event.stays = true) (hstep : System.step ⟨server, [a, b]⟩ event = some after) :
    ∃ a' b', after = ⟨server, [a', b']⟩ ∧ Duel .player1 other a' b' ∧
      a'.told b' = a.told b ++
        (System.writes 0 ⟨server, [a, b]⟩ event).map CustomPacket.received ∧
      b'.told a' = b.told a ++
        (System.writes 1 ⟨server, [a, b]⟩ event).map CustomPacket.received := by
  obtain ⟨a', b', rfl, hpair⟩ := System.step_pair hstays hstep
  refine ⟨a', b', rfl, hduel.step (by simp) hother hpair, ?_⟩
  cases event with
  | connect => cases hstays
  | disconnect => cases hstays
  | serve index =>
      have hsame : a'.told b' = a.told b ∧ b'.told a' = b.told a := by
        obtain ⟨a₁, b₁, heq, hcases⟩ := System.step_pair_cases hstays hstep
        obtain ⟨rfl, rfl⟩ : a' = a₁ ∧ b' = b₁ := by simpa using heq
        rcases hcases with ⟨own, hevent, -⟩ | ⟨own, hevent, -⟩ | hserve | hserve
        · cases hevent
        · cases hevent
        · exact told_serve hduel hserve
        · exact (told_serve hduel.swap hserve).symm
      simp [System.writes, hsame]
  | act index own =>
      rcases index with _ | _ | index
      · obtain ⟨next, hown, heq⟩ := Option.map_eq_some_iff.mp hstep
        obtain ⟨rfl, rfl⟩ : next = a' ∧ b = b' := by simpa using heq
        refine ⟨told_writer hduel.sideX hown, ?_⟩
        rw [told_reader hown]
        simp [System.writes]
      · obtain ⟨next, hown, heq⟩ := Option.map_eq_some_iff.mp hstep
        obtain ⟨rfl, rfl⟩ : a = a' ∧ next = b' := by simpa using heq
        refine ⟨?_, told_writer hduel.sideY hown⟩
        rw [told_reader hown]
        simp [System.writes]
      · simp [System.step] at hstep

/-- A run of the game adds to what either client has told all that it writes. -/
theorem told_exec {server : Server} {a b : Conn} {other : PlayerTurn} {events : List SystemEvent}
    {after : System} (hother : other ≠ .none) (hduel : Duel .player1 other a b)
    (hstays : ∀ event ∈ events, event.stays = true)
    (hrun : exec System.step ⟨server, [a, b]⟩ events = some after) :
    ∃ a' b', after = ⟨server, [a', b']⟩ ∧
      a'.told b' = a.told b ++ (gatherAlong System.step (System.writes 0) ⟨server, [a, b]⟩
        events).map CustomPacket.received ∧
      b'.told a' = b.told a ++ (gatherAlong System.step (System.writes 1) ⟨server, [a, b]⟩
        events).map CustomPacket.received := by
  induction events generalizing a b with
  | nil =>
      obtain rfl := Option.some.inj hrun
      exact ⟨a, b, rfl, by simp [gatherAlong], by simp [gatherAlong]⟩
  | cons event events ih =>
      obtain ⟨next, hnext, hrest⟩ := (exec_cons _ _ _ _).mp hrun
      obtain ⟨a₁, b₁, rfl, hduel', hfirst, hsecond⟩ :=
        told_step hother hduel (hstays event List.mem_cons_self) hnext
      obtain ⟨a', b', rfl, hfirst', hsecond'⟩ :=
        ih hduel' (fun e he => hstays e (List.mem_cons_of_mem event he)) hrest
      refine ⟨a', b', rfl, ?_, ?_⟩
      · rw [hfirst', hfirst]
        simp only [gatherAlong, hnext, List.map_append, List.append_assoc]
      · rw [hsecond', hsecond]
        simp only [gatherAlong, hnext, List.map_append, List.append_assoc]

/-- From the second connect of a game on, whatever one player writes is once,
and in its place, in what the other one's client has processed, in what that
client was sent, or on its way there. -/
theorem delivered_in_order {before rest : List SystemEvent} {lobby start later : System} {x : Conn}
    {blank : Sprite} (hbefore : exec System.step System.initial before = some lobby)
    (hwaiting : lobby.server.gameActive = false) (halone : lobby.conns = [x])
    (hstart : lobby.step (.connect blank) = some start)
    (hrest : exec System.step start rest = some later)
    (hstays : ∀ event ∈ rest, event.stays = true) :
    ∃ a b, later.conns = [a, b] ∧
      a.told b = (gatherAlong System.step (System.writes 0) start rest).map
        CustomPacket.received ∧
      b.told a = (gatherAlong System.step (System.writes 1) start rest).map
        CustomPacket.received := by
  obtain ⟨server, conns⟩ := lobby
  obtain rfl : conns = [x] := halone
  cases stage_exec hbefore with
  | alone active => exact absurd (active.symm.trans hwaiting) (by simp)
  | waiting inactive hlobby =>
      obtain ⟨other, hother, rfl⟩ := System.step_connect_waiting inactive hlobby.side.mapped
        hlobby.uid_ne hstart
      obtain ⟨a, b, rfl, hfirst, hsecond⟩ :=
        told_exec hother (@Lobby.duel _ x hlobby blank other) hstays hrest
      obtain ⟨hup, hsending⟩ := List.append_eq_nil_iff.mp hlobby.unhandled
      refine ⟨a, b, rfl, ?_, ?_⟩
      · rw [hfirst]
        simp [told, Conn.sent, Conn.fresh, GameScene.create, ClientComponent.fresh, hup, hsending,
          Server.isForwarded, Server.initPacket, Server.startPacket]
      · have hsent : Conn.sent { x with down := x.down ++ [Server.startPacket] } =
            [Server.initPacket 0, Server.startPacket] := by
          have hgreeted := hlobby.sent
          simp only [Conn.sent] at hgreeted ⊢
          rw [← List.append_assoc, hgreeted]
          rfl
        rw [hsecond, told, hsent]
        simp [Conn.fresh, GameScene.create, ClientComponent.fresh, Server.isForwarded,
          Server.initPacket, Server.startPacket]

/-- The first player chooses a name, says hello and ends the turn; the greeting
is on its way. -/
def greetingRun : List SystemEvent :=
  arrive 0 2 ++ arrive 1 2 ++ [.act 0 .frame, .act 1 .frame, .act 0 (.enter "ann"),
    .act 0 (.enter "hello"), .act 0 (.click false 1200 650), .act 0 .send, .serve 0]

theorem delivered_in_order_greeting : ∃ lobby start later a b,
    exec System.step System.initial [.connect blankSprite] = some lobby ∧
      lobby.step (.connect blankSprite) = some start ∧
      exec System.step start greetingRun = some later ∧ later.conns = [a, b] ∧
      a.told b = (gatherAlong System.step (System.writes 0) start greetingRun).map
        CustomPacket.received := by
  have hcheck : ((exec System.step System.initial [.connect blankSprite]).any fun lobby =>
      decide (lobby.server.gameActive = false ∧ lobby.conns.length = 1) &&
        (lobby.step (.connect blankSprite)).any fun start =>
          (exec System.step start greetingRun).any fun _ => true) = true := by
    decide +kernel
  obtain ⟨lobby, hlobby, hcheck⟩ := (Option.any_eq_true _ _).mp hcheck
  rw [Bool.and_eq_true, decide_eq_true_eq] at hcheck
  obtain ⟨⟨hwaiting, hlength⟩, hcheck⟩ := hcheck
  obtain ⟨start, hstart, hcheck⟩ := (Option.any_eq_true _ _).mp hcheck
  obtain ⟨later, hlater, -⟩ := (Option.any_eq_true _ _).mp hcheck
  obtain ⟨x, halone⟩ := List.length_eq_one_iff.mp hlength
  obtain ⟨a, b, hconns, hfirst, -⟩ :=
    delivered_in_order hlobby hwaiting halone hstart hlater (by decide)
  exact ⟨lobby, start, later, a, b, hlobby, hstart, hlater, hconns, hfirst⟩

/-- The packets of the other player that a client has processed. -/
def Conn.heard (x : Conn) : List CustomPacket :=
  x.dispatched.filter fun packet => Server.isForwarded packet.type

theorem told_of_settled {x y : Conn} (h : Settled x y) : x.told y = y.heard := by
  obtain ⟨hto, hfrom⟩ := h
  simp only [Conn.inTransit, List.append_eq_nil_iff] at hto
  simp [told, Conn.sent, Conn.heard, hto]

theorem writes_routine {event : SystemEvent} (h : event ∈ routine) (index : Nat)
    (system : System) : System.writes index system event = [] := by
  cases event with
  | connect => rfl
  | disconnect => rfl
  | serve => rfl
  | act actor own =>
      have hroutine := (System.mem_routine h).2 actor own rfl
      simp only [System.writes]
      split
      · cases own with
        | send | receive | dispatch | frame => cases system.conns[index]? <;> rfl
        | click | enter => cases hroutine
      · rfl

/-- While the players pause, nobody tells anything new. -/
theorem told_stateAt {system : System} {a b : Conn} (hconns : system.conns = [a, b])
    (hplay : system.InPlay) {schedule : Nat → SystemEvent} (hfair : Fair routine schedule)
    (n : Nat) : ∃ x y, (stateAt System.step schedule system n).conns = [x, y] ∧
      x.told y = a.told b ∧ y.told x = b.told a := by
  induction n with
  | zero => exact ⟨a, b, hconns, rfl, rfl⟩
  | succ n ih =>
      obtain ⟨x, y, hxy, hfirst, hsecond⟩ := ih
      have hgame := System.settling.stateAt_keeps hfair hplay n
      rw [stateAt]
      generalize stateAt System.step schedule system n = reached at hxy hgame ⊢
      have hevent := hfair.only n
      rcases @offer_cases System SystemEvent System.step reached (schedule n) with hsame | hstep
      · rw [hsame]
        exact ⟨x, y, hxy, hfirst, hsecond⟩
      · obtain ⟨x₁, y₁, hconns₁, hattended⟩ := hgame
        obtain ⟨server, conns⟩ := reached
        obtain rfl : conns = [x, y] := hxy
        obtain ⟨rfl, rfl⟩ : x = x₁ ∧ y = y₁ := by simpa using hconns₁
        obtain ⟨x', y', hafter, -, hfirst', hsecond'⟩ :=
          told_step (by simp) hattended.duel (System.mem_routine hevent).1 hstep
        rw [writes_routine hevent] at hfirst' hsecond'
        refine ⟨x', y', by rw [hafter], ?_, ?_⟩
        · rw [hfirst', ← hfirst]
          simp
        · rw [hsecond', ← hsecond]
          simp

/-- When the players of an undecided game pause, then under every fair schedule
either client has in the end processed all that the other player wrote, once
and in order. -/
theorem fair_delivers {events : List SystemEvent} {system : System} {a b : Conn}
    (hrun : exec System.step System.initial events = some system)
    (hclicks : Along System.step (System.ActsMeet (Conn.ClickMeets GameScene.ClickStays))
      System.initial events)
    (hstarted : StartedPair system a b) (hundecided : Undecided a b)
    {schedule : Nat → SystemEvent} (hfair : Fair routine schedule) :
    ∃ n, ∀ m, n ≤ m → ∃ x y, (stateAt System.step schedule system m).conns = [x, y] ∧
      y.heard = a.told b ∧ x.heard = b.told a := by
  have hplay := hstarted.inPlay hrun hclicks hundecided
  obtain ⟨n, hn⟩ := System.settling.settles hfair hplay
  refine ⟨n, fun m hle => ?_⟩
  obtain ⟨x, y, hconns, hrest⟩ := (System.settling.stateAt_keeps hfair hplay m).atRest (hn m hle)
  obtain ⟨x', y', hconns', hfirst, hsecond⟩ := told_stateAt hstarted.conns hplay hfair m
  obtain ⟨rfl, rfl⟩ : x = x' ∧ y = y' := by simpa using hconns.symm.trans hconns'
  refine ⟨x, y, hconns, ?_, ?_⟩
  · rw [← hfirst, told_of_settled hrest.settled]
  · rw [← hsecond, told_of_settled hrest.settled.symm]

theorem fair_delivers_pressed : ∃ system a b,
    exec System.step System.initial pressedRun = some system ∧ system.conns = [a, b] ∧
      ∃ n, ∀ m, n ≤ m → ∃ x y,
        (stateAt System.step (rotate routine (by decide)) system m).conns = [x, y] ∧
          y.heard = a.told b ∧ x.heard = b.told a := by
  obtain ⟨system, a, b, hrun, hstarted, hundecided, -⟩ := startedPair_pressed
  exact ⟨system, a, b, hrun, hstarted.conns,
    fair_delivers hrun (by decide +kernel) hstarted hundecided (fair_rotate routine (by decide))⟩

end Games

end NetworkingGame
