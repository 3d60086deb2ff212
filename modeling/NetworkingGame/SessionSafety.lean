import NetworkingGame.ServerSession

/-!
What holds of every run of the server: which side a client gets, which
accesses to the connected clients are in bounds, and how the greeting packets
follow the phases of a session.
-/

namespace NetworkingGame

open Library.Transition

namespace Session

/-- The step sends `start` to somebody. -/
def sendsStart (session : Session) (event : Event) : Bool :=
  (session.actions event).any fun
    | .sendTo _ packet => packet.type = "start"
    | .missingClient _ => false

/-- The step ends the session. -/
def resets (session : Session) (event : Event) : Bool :=
  session.server.gameActive &&
    (session.step event).any fun after => !after.server.gameActive

theorem actions_connect {session : Session}
    (hlength : session.peers.length < Server.maxClientCount) :
    session.actions .connect = (session.server.takeUid.onClientConnect
      (session.uids ++ [session.server.componentNextUid]) session.server.componentNextUid).2 := by
  simp [actions, handle, hlength]

theorem actions_disconnect (session : Session) (index : Nat) :
    session.actions (.disconnect index) = [] ∨ ∃ clients,
      session.actions (.disconnect index) = (session.server.onClientDisconnect clients).2 := by
  simp only [actions, handle]
  split
  · exact Or.inl rfl
  · split
    · exact Or.inr ⟨_, rfl⟩
    · exact Or.inl rfl

theorem actions_data (session : Session) (index : Nat) (msg : CustomPacket) :
    session.actions (.data index msg) = [] ∨ ∃ sender, session.peers[index]? = some sender ∧
      session.actions (.data index msg) =
        Server.onClientData session.uids sender.uid msg := by
  simp only [actions, handle]
  split
  · exact Or.inl rfl
  · rename_i sender hsender
    exact Or.inr ⟨sender, hsender, rfl⟩

theorem sendsStart_eq_false {session : Session} {event : Event}
    (h : ∀ uid, Quiet (session.actions event) uid) : session.sendsStart event = false := by
  apply List.any_eq_false.mpr
  intro action haction
  cases action with
  | sendTo uid packet =>
      have hcontrol := h uid packet (Action.mem_mail.mpr haction)
      intro hstart
      simp only [decide_eq_true_eq] at hstart
      simp [isControl, hstart] at hcontrol
  | missingClient index => simp

theorem quiet_nil (uid : Nat) : Quiet [] uid := by
  intro packet hpacket
  cases hpacket

/-- `start` is sent only by the connect that completes a pair in the lobby. -/
theorem sendsStart_iff {session : Session} (hsound : Sound session) (event : Event) :
    session.sendsStart event = true ↔
      event = .connect ∧ session.server.gameActive = false ∧ session.peers ≠ [] := by
  cases event with
  | connect =>
      simp only [true_and]
      cases hsound.phase with
      | empty inactive =>
          simp [sendsStart, actions, handle, uids, Server.maxClientCount, Server.onClientConnect,
            Server.takeUid, inactive, Server.assignClientLocalID, Server.initPacket]
      | waiting inactive =>
          simp [sendsStart, actions, handle, uids, Server.maxClientCount, Server.onClientConnect,
            Server.takeUid, inactive, Server.assignClientLocalID, Server.sendToIndex,
            Server.startPacket]
      | @playing server peers active =>
          have hnone : sendsStart ⟨server, peers⟩ .connect = false := by
            apply List.any_eq_false.mpr
            intro action haction
            simp only [actions, handle] at haction
            split at haction
            · simp only [Option.map_some, Option.getD_some, Server.onClientConnect,
                Server.takeUid, active, if_true, Server.sendToAllIf, List.mem_cons,
                List.mem_map] at haction
              rcases haction with rfl | ⟨_, -, rfl⟩ <;>
                simp [Server.reconPacket, Server.readyPacket]
            · cases haction
          simp [hnone, active]
  | disconnect index =>
      have hnone : session.sendsStart (.disconnect index) = false := by
        apply sendsStart_eq_false
        intro uid
        rcases actions_disconnect session index with h | ⟨clients, h⟩ <;> rw [h]
        · exact quiet_nil uid
        · exact quiet_onClientDisconnect _ _ uid
      simp [hnone]
  | data index msg =>
      have hnone : session.sendsStart (.data index msg) = false := by
        apply sendsStart_eq_false
        intro uid
        rcases actions_data session index msg with h | ⟨sender, -, h⟩ <;> rw [h]
        · exact quiet_nil uid
        · exact quiet_onClientData _ _ _ uid
      simp [hnone]

section Sides

/-- The team of a freshly started client once this packet and a frame have
been processed. -/
def teamAfter (blank : Sprite) (packet : CustomPacket) : Option PlayerTurn := do
  let scene := GameScene.create blank
  let client ← (scene.client.processRecievedPackets packet).toOption
  let scene ← ({ scene with client := client }.update).toOption
  return scene.assignedTeam

def inits (sent : List CustomPacket) : List CustomPacket := sent.filter (·.type = "init")

theorem inits_control (sent : List CustomPacket) : inits (control sent) = inits sent := by
  unfold inits control
  rw [List.filter_filter]
  congr 1
  funext packet
  by_cases h : packet.type = "init" <;> simp [isControl, h]

/-- Two clients that got one `init` each, with the local ids 0 and 1 in some
order, which make a frame give them opposite teams. -/
def OppositeSides (first second : List CustomPacket) : Prop :=
  ∃ p q, inits first = [p] ∧ inits second = [q] ∧
    ((p = Server.initPacket 0 ∧ q = Server.initPacket 1) ∨
      (p = Server.initPacket 1 ∧ q = Server.initPacket 0)) ∧
    ∀ blank, (teamAfter blank p = some .player1 ∧ teamAfter blank q = some .player2) ∨
      (teamAfter blank p = some .player2 ∧ teamAfter blank q = some .player1)

theorem toInt_zero : CustomPacket.toInt (toString (0 : Int)).toList = .ok 0 := by
  rw [CustomPacket.toInt_toString, if_pos (by decide)]

theorem toInt_one : CustomPacket.toInt (toString (1 : Int)).toList = .ok 1 := by
  rw [CustomPacket.toInt_toString, if_pos (by decide)]

theorem teamAfter_zero (blank : Sprite) :
    teamAfter blank (Server.initPacket 0) = some .player1 := by
  simp only [teamAfter, ClientComponent.processRecievedPackets, Server.initPacket, toInt_zero]
  rfl

theorem teamAfter_one (blank : Sprite) :
    teamAfter blank (Server.initPacket 1) = some .player2 := by
  simp only [teamAfter, ClientComponent.processRecievedPackets, Server.initPacket, toInt_one]
  rfl

theorem initPacket_injective : Server.initPacket 0 ≠ Server.initPacket 1 := by
  decide +kernel

/-- Distinct sides at the start of a game. -/
def DistinctSides (session : Session) (event : Event) : Prop :=
  session.sendsStart event = true → ∀ after, session.step event = some after →
    ∃ x y, after.peers = [x, y] ∧ OppositeSides x.sent y.sent

/-- The client that waits in the lobby has an even uid when it gets company. -/
def EvenWaiting (session : Session) (event : Event) : Prop :=
  event = .connect → session.server.gameActive = false →
    ∀ peer ∈ session.peers, peer.uid % 2 = 0

theorem oppositeSides_iff {first second : List CustomPacket} {waiting : Nat}
    (hfirst : control first = [Server.initPacket 0, Server.startPacket])
    (hsecond : control second = [Server.initPacket (secondID waiting), Server.startPacket]) :
    OppositeSides first second ↔ waiting % 2 = 0 := by
  have hp : inits first = [Server.initPacket 0] := by
    rw [← inits_control, hfirst]
    rfl
  have hq : inits second = [Server.initPacket (secondID waiting)] := by
    rw [← inits_control, hsecond]
    rfl
  constructor
  · rintro ⟨p, q, hfirst, hsecond, hids, -⟩
    rw [hp, List.cons.injEq] at hfirst
    rw [hq, List.cons.injEq] at hsecond
    obtain ⟨rfl, -⟩ := hfirst
    obtain ⟨rfl, -⟩ := hsecond
    unfold secondID at hids
    split at hids
    · assumption
    · rcases hids with ⟨-, h⟩ | ⟨h, -⟩ <;> exact absurd h initPacket_injective
  · intro heven
    refine ⟨_, _, hp, hq, ?_, ?_⟩
    · left
      simp [secondID, heven]
    · intro blank
      left
      simp [secondID, heven, teamAfter_zero, teamAfter_one]

theorem distinctSides_iff {session : Session} (hsound : Sound session) (event : Event) :
    session.DistinctSides event ↔ session.EvenWaiting event := by
  unfold DistinctSides EvenWaiting
  rw [sendsStart_iff hsound]
  obtain ⟨hphase, -⟩ := hsound
  cases hphase with
  | empty inactive => simp
  | playing active => simp [active]
  | @waiting server peer inactive mapped greeted bound next =>
      obtain ⟨after, hafter⟩ : ∃ after, step ⟨server, [peer]⟩ .connect = some after := by
        simp [step, handle, Server.maxClientCount]
      have hpair : after.peers = [⟨peer.uid, true, peer.sent ++ [Server.startPacket]⟩,
          ⟨server.componentNextUid, true,
            [Server.initPacket (secondID peer.uid), Server.startPacket]⟩] := by
        rcases step_waiting inactive mapped next hafter with ⟨-, rfl⟩ | ⟨h, -⟩ | ⟨_, h, -⟩
        · rfl
        · cases h
        · cases h
      have hfirst : control (peer.sent ++ [Server.startPacket]) =
          [Server.initPacket 0, Server.startPacket] := by
        simp only [control, List.filter_append] at greeted ⊢
        rw [greeted]
        rfl
      have hsides : OppositeSides (peer.sent ++ [Server.startPacket])
          [Server.initPacket (secondID peer.uid), Server.startPacket] ↔ peer.uid % 2 = 0 :=
        oppositeSides_iff hfirst rfl
      constructor
      · rintro h rfl - member hmember
        obtain rfl := List.mem_singleton.mp hmember
        obtain ⟨x, y, hxy, hopposite⟩ := h ⟨rfl, inactive, by simp⟩ after hafter
        rw [hpair, List.cons.injEq, List.cons.injEq] at hxy
        obtain ⟨rfl, rfl, -⟩ := hxy
        exact hsides.mp hopposite
      · rintro h ⟨rfl, -, -⟩ other hother
        obtain rfl : after = other := Option.some.inj (hafter.symm.trans hother)
        have heven := h rfl inactive peer (by simp)
        exact ⟨_, _, hpair, hsides.mpr heven⟩

/-- Opposite sides are given out in exactly the runs in which every client
that waits in the lobby has an even uid when the second one comes. -/
theorem distinctSides_iff_evenWaiting (events : List Event) :
    Along step DistinctSides initial events ↔ Along step EvenWaiting initial events :=
  along_congr (fun _ _ _ hsound hstep => hsound.step hstep)
    (fun _ event hsound => distinctSides_iff hsound event) events sound_initial

/-- One client looks into the lobby and leaves again; the next two both play
on the first side. -/
theorem not_distinctSides_after_lobby_leave :
    ¬ Along step DistinctSides initial [.connect, .disconnect 0, .connect, .connect] := by
  intro halong
  have hrun : exec step initial [.connect, .disconnect 0, .connect] =
      some ⟨⟨false, 0, 2⟩, [⟨1, true, [Server.initPacket 0]⟩]⟩ := by decide +kernel
  change Along step DistinctSides initial ([.connect, .disconnect 0, .connect] ++ [.connect])
    at halong
  have hlast := (along_concat.mp halong).2 _ hrun
  rw [distinctSides_iff (sound_exec hrun)] at hlast
  have heven := hlast rfl rfl _ (List.mem_singleton.mpr rfl)
  simp at heven

end Sides

section Bounds

/-- Every access to `clients[0]` or `clients[1]` finds a client. -/
def InBounds (session : Session) (event : Event) : Prop :=
  ∀ index, .missingClient index ∉ session.actions event

/-- A `resume` is handled while two clients are connected. -/
def ResumeWithTwo (session : Session) (event : Event) : Prop :=
  ∀ index msg, event = .data index msg → index < session.peers.length →
    msg.type = "resume" → session.peers.length = 2

theorem sendToIndex_inBounds {clients : List Nat} {index : Nat} (h : index < clients.length)
    (packet : CustomPacket) (missing : Nat) :
    Server.sendToIndex clients index packet ≠ .missingClient missing := by
  rw [Server.sendToIndex, List.getElem?_eq_getElem h]
  simp

theorem sendToIndex_missing {clients : List Nat} {index : Nat} (h : clients.length ≤ index)
    (packet : CustomPacket) :
    Server.sendToIndex clients index packet = .missingClient index := by
  rw [Server.sendToIndex, List.getElem?_eq_none h]

theorem onClientData_inBounds_iff (clients : List Nat) (client : Nat) (msg : CustomPacket) :
    (∀ index, .missingClient index ∉ Server.onClientData clients client msg) ↔
      (msg.type = "resume" → 2 ≤ clients.length) := by
  unfold Server.onClientData
  split
  · rename_i hforwarded
    have hnot : msg.type ≠ "resume" := by
      intro h
      simp [Server.isForwarded, h] at hforwarded
    simp [hnot, Server.sendToAllIf]
  · split
    · rename_i hresume
      simp only [hresume, true_implies]
      constructor
      · intro h
        by_contra hshort
        apply h 1
        rw [@sendToIndex_missing clients 1 (by omega)]
        simp
      · intro h index hmem
        simp only [List.mem_cons, List.not_mem_nil, or_false] at hmem
        rcases hmem with hmem | hmem
        · exact sendToIndex_inBounds (by omega) _ _ hmem.symm
        · exact sendToIndex_inBounds (by omega) _ _ hmem.symm
    · rename_i hother
      simp [hother]

theorem onClientConnect_inBounds (server : Server) (clients : List Nat) (client index : Nat) :
    .missingClient index ∉ (server.onClientConnect clients client).2 := by
  unfold Server.onClientConnect
  split
  · simp [Server.sendToAllIf]
  · split
    · intro hmem
      simp only [Server.assignClientLocalID, List.mem_append, List.mem_cons, List.not_mem_nil,
        or_false] at hmem
      rcases hmem with hmem | hmem | hmem
      · cases hmem
      · exact sendToIndex_inBounds (by omega) _ _ hmem.symm
      · exact sendToIndex_inBounds (by omega) _ _ hmem.symm
    · simp [Server.assignClientLocalID]

theorem onClientDisconnect_inBounds (server : Server) (clients : List Nat) (index : Nat) :
    .missingClient index ∉ (server.onClientDisconnect clients).2 := by
  unfold Server.onClientDisconnect
  split
  · split
    · simp
    · rename_i hsome
      intro hmem
      have hlength : 0 < clients.length := List.length_pos_iff.mpr hsome
      exact sendToIndex_inBounds hlength _ _ (List.mem_singleton.mp hmem).symm
  · simp

theorem inBounds_iff {session : Session} (hsound : Sound session) (event : Event) :
    session.InBounds event ↔ session.ResumeWithTwo event := by
  have htwo : session.peers.length ≤ 2 := by
    cases hsound.phase with
    | empty => simp
    | waiting => simp
    | playing _ _ size => exact size
  unfold InBounds ResumeWithTwo
  cases event with
  | connect =>
      simp only [reduceCtorEq, false_implies, implies_true, iff_true]
      intro index
      by_cases hlength : session.peers.length < Server.maxClientCount
      · rw [actions_connect hlength]
        exact onClientConnect_inBounds _ _ _ index
      · simp [actions, handle, hlength]
  | disconnect leaver =>
      simp only [reduceCtorEq, false_implies, implies_true, iff_true]
      intro index
      rcases actions_disconnect session leaver with h | ⟨clients, h⟩ <;> rw [h]
      · simp
      · exact onClientDisconnect_inBounds _ _ index
  | data sender msg =>
      simp only [Event.data.injEq, and_imp]
      by_cases hsender : sender < session.peers.length
      · have hactions : session.actions (.data sender msg) =
            Server.onClientData session.uids session.peers[sender].uid msg := by
          simp [actions, handle, List.getElem?_eq_getElem hsender]
        rw [hactions, onClientData_inBounds_iff]
        simp only [uids, List.length_map]
        constructor
        · rintro h _ _ rfl rfl - hresume
          have := h hresume
          omega
        · intro h hresume
          have := h sender msg rfl rfl hsender hresume
          omega
      · have hactions : session.actions (.data sender msg) = [] := by
          simp [actions, handle, List.getElem?_eq_none (Nat.le_of_not_lt hsender)]
        rw [hactions]
        simp only [List.not_mem_nil, not_false_eq_true, implies_true, true_iff]
        rintro _ _ rfl rfl h
        exact absurd h hsender

/-- The accesses of a run are in bounds exactly when each `resume` is handled
while two clients are connected. -/
theorem inBounds_iff_resumeWithTwo (events : List Event) :
    Along step InBounds initial events ↔ Along step ResumeWithTwo initial events :=
  along_congr (fun _ _ _ hsound hstep => hsound.step hstep)
    (fun _ event hsound => inBounds_iff hsound event) events sound_initial

/-- A client sends `resume`, and the other one drops before it is handled. -/
theorem not_inBounds_after_drop :
    ¬ Along step InBounds initial
      [.connect, .connect, .disconnect 0, .data 0 GameScene.resumePacket] := by
  intro halong
  have hactions : (exec step initial [.connect, .connect, .disconnect 0]).map
      (fun session => session.actions (.data 0 GameScene.resumePacket)) =
      some [.sendTo 1 Server.completedPacket, .missingClient 1] := by decide +kernel
  obtain ⟨session, hsession, hmissing⟩ := Option.map_eq_some_iff.mp hactions
  change Along step InBounds initial
    ([.connect, .connect, .disconnect 0] ++ [.data 0 GameScene.resumePacket]) at halong
  have hlast := (along_concat.mp halong).2 _ hsession
  apply hlast 1
  simp [hmissing]

end Bounds

section Discipline

/-- The greeting packets: `init`, or `reconnect`/`true`. -/
def isGreeting (packet : CustomPacket) : Bool :=
  packet.type = "init" || (packet.type = "reconnect" && packet.msgText = "true")

def greetings (sent : List CustomPacket) : List CustomPacket := sent.filter isGreeting

theorem greetings_control (sent : List CustomPacket) :
    greetings (control sent) = greetings sent := by
  unfold greetings control
  rw [List.filter_filter]
  congr 1
  funext packet
  simp only [isGreeting, isControl]
  cases decide (packet.type = "init") <;> cases decide (packet.type = "start") <;> simp

/-- At most one client while no game is active, one or two while one is. -/
def Occupied (session : Session) : Prop :=
  if session.server.gameActive then
    session.peers.length = 1 ∨ session.peers.length = 2
  else session.peers.length ≤ 1

/-- A client that connects gets one greeting, by the state of the game. -/
def GreetsOnce (session : Session) (event : Event) : Prop :=
  event = .connect → ∀ after, session.step event = some after →
    ∃ earlier newcomer, after.peers = earlier ++ [newcomer] ∧
      if session.server.gameActive then greetings newcomer.sent = [Server.reconPacket]
      else ∃ id, greetings newcomer.sent = [Server.initPacket id]

/-- Over its whole connection a client gets one greeting, and after
`reconnect`/`true` neither `init` nor `start`. -/
def GreetedOnce (peer : Peer) : Prop :=
  (∃ id, greetings peer.sent = [Server.initPacket id]) ∨
    (greetings peer.sent = [Server.reconPacket] ∧
      ∀ packet ∈ peer.sent, packet.type ≠ "init" ∧ packet.type ≠ "start")

/-- `start` goes once to each of the two connected clients, both of which
were sent `init` before. -/
def StartsPair (session : Session) (event : Event) : Prop :=
  session.sendsStart event = true → ∀ after, session.step event = some after →
    ∃ x y idx idy, after.peers = [x, y] ∧
      (session.actions event).filter (fun
        | .sendTo _ packet => packet.type = "start"
        | .missingClient _ => false) =
        [.sendTo x.uid Server.startPacket, .sendTo y.uid Server.startPacket] ∧
      control x.sent = [Server.initPacket idx, Server.startPacket] ∧
      control y.sent = [Server.initPacket idy, Server.startPacket]

/-- A reset leaves no client behind, so that the history of a connected
client lies within one session. -/
def ResetsEmpty (session : Session) (event : Event) : Prop :=
  session.resets event = true → ∀ after, session.step event = some after → after.peers = []

theorem occupied_of_sound {session : Session} (hsound : Sound session) : session.Occupied := by
  unfold Occupied
  cases hsound.phase with
  | empty inactive => simp [inactive]
  | waiting inactive => simp [inactive]
  | @playing server peers active nonempty size =>
      have hpos := List.length_pos_iff.mpr nonempty
      simp only [active, if_true]
      omega

theorem greetedOnce_of_seated {peer : Peer} (h : Seated peer) : GreetedOnce peer := by
  unfold GreetedOnce
  rw [← greetings_control]
  rcases h with ⟨id, h⟩ | h
  · exact Or.inl ⟨id, by rw [h]; rfl⟩
  · refine Or.inr ⟨by rw [h]; rfl, ?_⟩
    intro packet hpacket
    constructor
    · intro htype
      have hmem : packet ∈ control peer.sent :=
        List.mem_filter.mpr ⟨hpacket, by simp [isControl, htype]⟩
      rw [h, List.mem_singleton] at hmem
      simp [hmem, Server.reconPacket] at htype
    · intro htype
      have hmem : packet ∈ control peer.sent :=
        List.mem_filter.mpr ⟨hpacket, by simp [isControl, htype]⟩
      rw [h, List.mem_singleton] at hmem
      simp [hmem, Server.reconPacket] at htype

theorem greetedOnce_of_sound {session : Session} (hsound : Sound session) :
    ∀ peer ∈ session.peers, GreetedOnce peer := by
  intro peer hpeer
  cases hsound.phase with
  | empty => cases hpeer
  | @waiting server waiting _ _ greeted =>
      obtain rfl := List.mem_singleton.mp hpeer
      left
      exact ⟨0, by rw [← greetings_control, greeted]; rfl⟩
  | playing _ _ _ seated => exact greetedOnce_of_seated (seated peer hpeer)

theorem greetsOnce_of_sound {session : Session} (hsound : Sound session) (event : Event) :
    session.GreetsOnce event := by
  rintro rfl after hafter
  obtain ⟨hphase, -⟩ := hsound
  cases hphase with
  | @empty server inactive =>
      obtain ⟨-, rfl⟩ := step_empty inactive hafter
      exact ⟨[], _, rfl, by simpa [inactive] using ⟨0, rfl⟩⟩
  | @waiting server peer inactive mapped greeted bound next =>
      rcases step_waiting inactive mapped next hafter with ⟨-, rfl⟩ | ⟨h, -⟩ | ⟨_, h, -⟩
      · refine ⟨[_], _, rfl, ?_⟩
        simpa [inactive] using ⟨secondID peer.uid, rfl⟩
      · cases h
      · cases h
  | @playing server peers active =>
      rcases step_playing active hafter with ⟨-, -, rfl⟩ | ⟨_, h, -⟩ | ⟨_, h, -⟩ | ⟨_, _, _, h, -⟩
      · refine ⟨_, _, rfl, ?_⟩
        simp only [active, if_true]
        rfl
      · cases h
      · cases h
      · cases h

theorem startsPair_of_sound {session : Session} (hsound : Sound session) (event : Event) :
    session.StartsPair event := by
  intro hstarts after hafter
  obtain ⟨rfl, hinactive, hsome⟩ := (sendsStart_iff hsound event).mp hstarts
  obtain ⟨hphase, -⟩ := hsound
  cases hphase with
  | empty => exact absurd rfl hsome
  | playing active => exact absurd (active.symm.trans hinactive) (by simp)
  | @waiting server peer inactive mapped greeted bound next =>
      rcases step_waiting inactive mapped next hafter with ⟨-, rfl⟩ | ⟨h, -⟩ | ⟨_, h, -⟩
      · refine ⟨_, _, 0, secondID peer.uid, rfl, ?_, ?_, rfl⟩
        · simp [actions, handle, uids, Server.maxClientCount, Server.onClientConnect,
            Server.takeUid, inactive, Server.assignClientLocalID, Server.sendToIndex,
            Server.startPacket, Server.initPacket]
        · simp only [control, List.filter_append] at greeted ⊢
          rw [greeted]
          rfl
      · cases h
      · cases h

theorem resetsEmpty_of_sound {session : Session} (hsound : Sound session) (event : Event) :
    session.ResetsEmpty event := by
  intro hresets after hafter
  unfold resets at hresets
  rw [hafter] at hresets
  simp only [Option.any_some, Bool.and_eq_true, Bool.not_eq_true'] at hresets
  obtain ⟨hactive, hinactive⟩ := hresets
  cases hsound.phase with
  | empty inactive => exact absurd (hactive.symm.trans inactive) (by simp)
  | waiting inactive => exact absurd (hactive.symm.trans inactive) (by simp)
  | @playing server peers active =>
      rcases step_playing active hafter with ⟨-, -, rfl⟩ | ⟨_, -, -, -, rfl⟩ |
        ⟨_, -, -, -, rfl⟩ | ⟨_, _, _, -, -, rfl⟩
      · exact absurd (hactive.symm.trans hinactive) (by simp)
      · rfl
      · exact absurd (hactive.symm.trans hinactive) (by simp)
      · exact absurd (hactive.symm.trans hinactive) (by simp)

/-- A step turns the game on exactly when it sends `start`, and off exactly
when it is a reset. -/
theorem starts_balance_resets {session after : Session} {event : Event}
    (hsound : Sound session) (h : session.step event = some after) :
    (session.sendsStart event).toNat + session.server.gameActive.toNat =
      (session.resets event).toNat + after.server.gameActive.toNat := by
  have hstart := sendsStart_iff hsound event
  have hreset : session.resets event =
      (session.server.gameActive && !after.server.gameActive) := by simp [resets, h]
  obtain ⟨hphase, -⟩ := hsound
  cases hphase with
  | @empty server inactive =>
      obtain ⟨rfl, rfl⟩ := step_empty inactive h
      have hfalse : sendsStart ⟨server, []⟩ .connect = false := by
        rw [← Bool.not_eq_true, hstart]
        simp
      simp [hfalse, hreset, inactive, Server.takeUid]
  | @waiting server peer inactive mapped greeted bound next =>
      rcases step_waiting inactive mapped next h with ⟨rfl, rfl⟩ | ⟨rfl, rfl⟩ | ⟨msg, rfl, rfl⟩
      · simp [hstart.mpr ⟨rfl, inactive, by simp⟩, hreset, inactive]
      · have hfalse : sendsStart ⟨server, [peer]⟩ (.disconnect 0) = false := by
          rw [← Bool.not_eq_true, hstart]
          simp
        simp [hfalse, hreset, inactive]
      · have hfalse : sendsStart ⟨server, [peer]⟩ (.data 0 msg) = false := by
          rw [← Bool.not_eq_true, hstart]
          simp
        simp [hfalse, hreset, inactive]
  | @playing server peers active =>
      have hfalse : sendsStart ⟨server, peers⟩ event = false := by
        rw [← Bool.not_eq_true, hstart]
        simp [active]
      rw [hfalse, hreset]
      simp only [active]
      cases after.server.gameActive <;> rfl

theorem countAlong_starts {session after : Session} {events : List Event}
    (hsound : Sound session) (h : exec step session events = some after) :
    countAlong step sendsStart session events + session.server.gameActive.toNat =
      countAlong step resets session events + after.server.gameActive.toNat := by
  have hstep (s : Session) (e : Event) (t : Session) (hs : Sound s) (ht : s.step e = some t) :
      Sound t ∧ (s.sendsStart e).toNat + s.server.gameActive.toNat =
        (s.resets e).toNat + t.server.gameActive.toNat :=
    ⟨hs.step ht, starts_balance_resets hs ht⟩
  exact @countAlong_balance _ _ _ Sound sendsStart resets
    (fun session => session.server.gameActive.toNat) hstep _ _ _ h hsound

/-- From a state with no game up to and including the next reset, `start` is
sent in exactly one step. -/
theorem countAlong_starts_eq_one {session before : Session} {during : List Event}
    {last : Event} (hsound : Sound session) (hinactive : session.server.gameActive = false)
    (hrun : exec step session during = some before)
    (hnone : countAlong step resets session during = 0) (hlast : before.resets last = true) :
    countAlong step sendsStart session (during ++ [last]) = 1 := by
  have hreset := hlast
  simp only [resets, Bool.and_eq_true, Option.any_eq_true, Bool.not_eq_true'] at hreset
  obtain ⟨-, after, hstep, hafter⟩ := hreset
  have hall : exec step session (during ++ [last]) = some after :=
    (exec_concat _ _ _ _).mpr ⟨before, hrun, hstep⟩
  have hresets : countAlong step resets session (during ++ [last]) = 1 := by
    rw [countAlong_append hrun, hnone]
    simp [countAlong, hlast, hstep]
  have hbalance := countAlong_starts hsound hall
  rw [hresets, hinactive, hafter] at hbalance
  simpa using hbalance

/-- The session state machine of the server. -/
theorem session_discipline {events : List Event} {session : Session}
    (hrun : exec step initial events = some session) :
    session.Occupied ∧ (∀ peer ∈ session.peers, GreetedOnce peer) ∧
    (∀ event, session.GreetsOnce event ∧ session.StartsPair event ∧
      session.ResetsEmpty event) ∧
    (∀ during before last, session.server.gameActive = false →
      exec step session during = some before → countAlong step resets session during = 0 →
      before.resets last = true →
      countAlong step sendsStart session (during ++ [last]) = 1) := by
  have hsound := sound_exec hrun
  refine ⟨occupied_of_sound hsound, greetedOnce_of_sound hsound, ?_, ?_⟩
  · intro event
    exact ⟨greetsOnce_of_sound hsound event, startsPair_of_sound hsound event,
      resetsEmpty_of_sound hsound event⟩
  · intro during before last hinactive hduring hnone hlast
    exact countAlong_starts_eq_one hsound hinactive hduring hnone hlast

theorem session_discipline_after_drop :
    ∃ session, exec step initial [.connect, .connect, .disconnect 0] = some session ∧
      session.Occupied ∧ ∀ peer ∈ session.peers, GreetedOnce peer := by
  have hrun : (exec step initial [.connect, .connect, .disconnect 0]).isSome := by
    decide +kernel
  obtain ⟨session, hsession⟩ := Option.isSome_iff_exists.mp hrun
  exact ⟨session, hsession, (session_discipline hsession).1,
    (session_discipline hsession).2.1⟩

end Discipline

end Session

end NetworkingGame
