import NetworkingGame.Channel

/-!
The hand-over of a running game to a newcomer: an induction over whole runs
that follows a client through the lobby, a game, being left alone and being
joined, and what it says about every client of every run.
-/

namespace NetworkingGame

open Library.Transition

namespace System

/-- A condition on the survivor at the moment a newcomer joins a running game;
the newcomer gets the uid that is the first argument. -/
def JoinMeets (Join : Nat → Conn → Prop) (system : System) : SystemEvent → Prop
  | .connect _ => system.server.gameActive = true →
      ∀ survivor ∈ system.conns, Join system.server.componentNextUid survivor
  | _ => True

instance {Join : Nat → Conn → Prop} [∀ uid x, Decidable (Join uid x)] (system : System)
    (event : SystemEvent) : Decidable (JoinMeets Join system event) :=
  match event with
  | .connect _ => inferInstanceAs (Decidable (_ → ∀ survivor ∈ system.conns, _))
  | .disconnect _ => .isTrue trivial
  | .serve _ => .isTrue trivial
  | .act _ _ => .isTrue trivial

/-- A property of a client alone and a property of two clients together. -/
def Conns (Solo : Conn → Prop) (Both : Conn → Conn → Prop) : List Conn → Prop
  | [] => True
  | [x] => Solo x
  | [a, b] => Both a b
  | _ => False

/-- What the two properties must survive for every run to keep them. -/
structure ConnsInvariant (Join : Nat → Conn → Prop) (Solo : Conn → Prop)
    (Both : Conn → Conn → Prop) : Prop where
  lobby : ∀ uid blank, Solo { Conn.fresh uid blank with down := [Server.initPacket 0] }
  start : ∀ nextUid x blank other, other ≠ .none → x.uid ≠ nextUid → x.Lobby nextUid → Solo x →
    Both { x with down := x.down ++ [Server.startPacket] }
      { Conn.fresh nextUid blank with
        down := [Server.initPacket (Conn.idOf other), Server.startPacket] }
  solo : ∀ clicks x x', Solo x → x.SoloStep clicks x' → Solo x'
  both : ∀ clicks a b a' b', Both a b → Conn.PairStep clicks a b a' b' → Both a' b'
  leave : ∀ a b, Both a b → Solo a.leftAlone ∧ Solo b.leftAlone
  join : ∀ uid x blank, Join uid x → Solo x → Both (x.joinedBy uid) (.newcomer uid blank)

theorem conns_invariant_from {Join : Nat → Conn → Prop} {Solo : Conn → Prop}
    {Both : Conn → Conn → Prop} (h : ConnsInvariant Join Solo Both)
    {events : List SystemEvent} {start system : System}
    (hstart : Stage start ∧ start.server.componentNextUid < 2 ^ 32)
    (hconns : Conns Solo Both start.conns) (hrun : exec step start events = some system)
    (hjoin : Along step (JoinMeets Join) start events) : Conns Solo Both system.conns := by
  let I (system : System) : Prop :=
    (Stage system ∧ system.server.componentNextUid < 2 ^ 32) ∧ Conns Solo Both system.conns
  have hinitial : I start := ⟨hstart, hconns⟩
  suffices hstep : ∀ system event after, I system → JoinMeets Join system event →
      step system event = some after → I after from (invariant_exec hstep hrun hjoin hinitial).2
  clear hconns hinitial
  rintro system event after ⟨hstage, hconns⟩ hmeets hstep
  refine ⟨Stage.step hstage hstep, ?_⟩
  obtain ⟨hstage, -⟩ := hstage
  cases hstage.next hstep with
  | opened => exact h.lobby _ _
  | started _ hlobby hother => exact h.start _ _ _ _ hother hlobby.uid_ne hlobby hconns
  | joined active => exact h.join _ _ _ (hmeets active _ (by simp)) hconns
  | solo _ _ hsolo => exact h.solo _ _ _ hconns hsolo
  | pair _ _ hpair => exact h.both _ _ _ _ _ hconns hpair
  | leftFirst => exact (h.leave _ _ hconns).2
  | leftSecond => exact (h.leave _ _ hconns).1
  | emptied => trivial

theorem conns_invariant {Join : Nat → Conn → Prop} {Solo : Conn → Prop}
    {Both : Conn → Conn → Prop} (h : ConnsInvariant Join Solo Both)
    {events : List SystemEvent} {system : System}
    (hrun : exec step initial events = some system)
    (hjoin : Along step (JoinMeets Join) initial events) : Conns Solo Both system.conns :=
  conns_invariant_from h ⟨.empty rfl, by decide⟩ trivial hrun hjoin

theorem Conns.mem {Solo : Conn → Prop} {Both : Conn → Conn → Prop} {conns : List Conn}
    (h : Conns Solo Both conns) {conn : Conn} (hconn : conn ∈ conns) :
    Solo conn ∨ (∃ other, Both conn other) ∨ ∃ other, Both other conn := by
  rcases conns with _ | ⟨a, _ | ⟨b, _ | ⟨c, conns⟩⟩⟩
  · cases hconn
  · rw [List.mem_singleton.mp hconn]
    exact Or.inl h
  · simp only [List.mem_cons, List.not_mem_nil, or_false] at hconn
    rcases hconn with rfl | rfl
    · exact Or.inr (Or.inl ⟨b, h⟩)
    · exact Or.inr (Or.inr ⟨a, h⟩)
  · exact h.elim

end System

namespace Conn

/-- What is true of every client of every run: it writes what it should, it
was sent nothing else, and its flags are explained by what it has taken in. -/
structure Proper (x : Conn) : Prop where
  writes : ∀ packet ∈ x.unhandled, Written packet
  sent : ∀ packet ∈ x.sent, isGame packet = true → Written packet
  dataSender : x.scene.client.dataSender = true → "data_sender" ∈ types x.dispatched
  snapshots : "update_complete" ∈ types x.outbox → "data_sender" ∈ types x.dispatched
  updateComplete : x.scene.client.updateComplete = true → "update_complete" ∈ types x.dispatched
  turn : "turn" ∈ types x.dispatched → x.scene.client.playerTurn ≠ -1
  player : "player" ∈ types x.dispatched → x.scene.client.assignedPlayer ≠ -1
  queue : ∀ packet ∈ x.scene.client.unitUpdateQueue, ∃ m : Msg, packet = m.packet
  decided : Msg.Decided x.scene.outcome

section Proper

theorem sent_eq (x : Conn) : x.sent = x.dispatched ++ x.inbox := by
  simp [sent, inbox]

theorem toInt_small {n : Int} (h : n = 1 ∨ n = 2) :
    CustomPacket.toInt (toString n).toList = .ok n := by
  rcases h with rfl | rfl <;> decide +kernel

/-- Taking in a `turn` packet sets the turn that it names. -/
theorem playerTurn_of_turn {client after : ClientComponent} {packet : CustomPacket}
    (hwritten : Written packet) (htype : packet.type = "turn")
    (hread : client.Processed packet after) :
    ∃ gameTurn, packet = GameScene.turnPacket gameTurn ∧ (gameTurn = 1 ∨ gameTurn = 2) ∧
      after.playerTurn = gameTurn := by
  obtain ⟨gameTurn, rfl, hturn⟩ := hwritten.of_turn htype
  refine ⟨gameTurn, rfl, hturn, ?_⟩
  have hvalue := hread.playerTurn_eq
  rw [if_pos htype, GameScene.turnPacket, toInt_small hturn] at hvalue
  exact (Except.ok.inj hvalue).symm

theorem assignedPlayer_of_player {client after : ClientComponent} {packet : CustomPacket}
    (hwritten : Written packet) (htype : packet.type = "player")
    (hread : client.Processed packet after) :
    ∃ team, packet = GameScene.playerPacket team ∧ (team = 1 ∨ team = 2) ∧
      after.assignedPlayer = team := by
  obtain ⟨team, rfl, hteam⟩ := hwritten.of_player htype
  refine ⟨team, rfl, hteam, ?_⟩
  have hvalue := hread.assignedPlayer_eq
  rw [if_pos htype, GameScene.playerPacket, toInt_small hteam] at hvalue
  exact (Except.ok.inj hvalue).symm

/-- A turn that is known stays known, and becomes known with a `turn` packet. -/
theorem playerTurn_known {client after : ClientComponent} {packet : CustomPacket}
    (hwritten : isGame packet = true → Written packet) (hread : client.Processed packet after)
    (h : packet.type = "turn" ∨ client.playerTurn ≠ -1) : after.playerTurn ≠ -1 := by
  by_cases htype : packet.type = "turn"
  · obtain ⟨gameTurn, -, hvalue, hafter⟩ :=
      playerTurn_of_turn (hwritten (by simp [isGame, htype])) htype hread
    omega
  · have hsame := hread.playerTurn_eq
    rw [if_neg htype] at hsame
    rw [hsame]
    exact h.resolve_left htype

theorem assignedPlayer_known {client after : ClientComponent} {packet : CustomPacket}
    (hwritten : isGame packet = true → Written packet) (hread : client.Processed packet after)
    (h : packet.type = "player" ∨ client.assignedPlayer ≠ -1) : after.assignedPlayer ≠ -1 := by
  by_cases htype : packet.type = "player"
  · obtain ⟨team, -, hvalue, hafter⟩ :=
      assignedPlayer_of_player (hwritten (by simp [isGame, htype])) htype hread
    omega
  · have hsame := hread.assignedPlayer_eq
    rw [if_neg htype] at hsame
    rw [hsame]
    exact h.resolve_left htype

theorem Proper.same {x x' : Conn} (h : Proper x) (hsame : Same x x') : Proper x' := by
  have hqueue : x'.scene.client.unitUpdateQueue = x.scene.client.unitUpdateQueue :=
    hsame.field fun s => s.client.unitUpdateQueue
  have houtcome : x'.scene.outcome = x.scene.outcome := hsame.field GameScene.outcome
  refine ⟨hsame.all, ?_, ?_, ?_, ?_, ?_, ?_, by rw [hqueue]; exact h.queue,
    by rw [houtcome]; exact h.decided⟩
  · rw [sent_eq, hsame.inbox, hsame.dispatched, ← sent_eq]
    exact h.sent
  · rw [hsame.dispatched]
    intro hflag
    exact h.dataSender ((hsame.field (fun s => s.client.dataSender)).symm.trans hflag)
  · rw [hsame.dispatched, hsame.outbox]
    exact h.snapshots
  · rw [hsame.dispatched]
    intro hflag
    exact h.updateComplete ((hsame.field (fun s => s.client.updateComplete)).symm.trans hflag)
  · rw [hsame.dispatched]
    intro hturn hnone
    exact h.turn hturn ((hsame.field (fun s => s.client.playerTurn)).symm.trans hnone)
  · rw [hsame.dispatched]
    intro hplayer hnone
    exact h.player hplayer ((hsame.field (fun s => s.client.assignedPlayer)).symm.trans hnone)

theorem Proper.reads {x : Conn} (h : Proper x) {packet : CustomPacket}
    {rest : List CustomPacket} {client : ClientComponent}
    (hqueue : x.scene.client.recievedQueue = packet :: rest)
    (hread : ({ x.scene.client with recievedQueue := rest }).Processed packet client) :
    Proper { x with
      dispatched := x.dispatched ++ [packet]
      scene := x.scene.withClient client } := by
  have hreceived : client.recievedQueue = rest := hread.queues.1
  have hsending : client.sendingQueue = x.scene.client.sendingQueue := hread.queues.2
  have hwritten (hgame : isGame packet = true) : Written packet :=
    h.sent packet (by simp [Conn.sent, hqueue]) hgame
  refine ⟨?_, ?_, ?_, ?_, ?_, ?_, ?_, ?_, h.decided⟩
  · simpa [unhandled, GameScene.withClient, hsending] using h.writes
  · have hsent := h.sent
    simpa [Conn.sent, GameScene.withClient, hreceived, hqueue] using hsent
  · intro hflag
    simp only [types_append, List.mem_append]
    change client.dataSender = true at hflag
    rw [hread.dataSender_eq] at hflag
    split at hflag
    · rename_i htype
      right
      simp [htype]
    · split at hflag
      · cases hflag
      · exact Or.inl (h.dataSender hflag)
  · intro hsnapshot
    have hsame : Conn.outbox { x with
        dispatched := x.dispatched ++ [packet]
        scene := x.scene.withClient client } = x.outbox := by
      simp [outbox, unhandled, GameScene.withClient, hsending]
    rw [hsame] at hsnapshot
    simp only [types_append, List.mem_append]
    exact Or.inl (h.snapshots hsnapshot)
  · intro hflag
    simp only [types_append, List.mem_append]
    change client.updateComplete = true at hflag
    rw [hread.updateComplete_eq, Bool.or_eq_true, decide_eq_true_eq] at hflag
    rcases hflag with hflag | htype
    · exact Or.inl (h.updateComplete hflag)
    · right
      simp [htype]
  · intro hturn
    simp only [types_append, types_cons, types_nil, List.mem_append, List.mem_singleton] at hturn
    apply playerTurn_known hwritten hread
    exact hturn.symm.imp Eq.symm h.turn
  · intro hplayer
    simp only [types_append, types_cons, types_nil, List.mem_append, List.mem_singleton] at hplayer
    apply assignedPlayer_known hwritten hread
    exact hplayer.symm.imp Eq.symm h.player
  · intro p hp
    change p ∈ client.unitUpdateQueue at hp
    rw [hread.unitUpdateQueue_eq] at hp
    split at hp
    · rename_i htype
      rcases List.mem_append.mp hp with hp | hp
      · exact h.queue p hp
      · rw [List.mem_singleton.mp hp]
        exact (hwritten (by simp [isGame, htype])).of_unit htype
    · exact h.queue p hp

/-- A client that has written more, but with flags no larger than before. -/
theorem Proper.wrote {x : Conn} (h : Proper x) {scene : GameScene}
    {packets : List CustomPacket}
    (hsending : scene.client.sendingQueue = x.scene.client.sendingQueue ++ packets)
    (hreceived : scene.client.recievedQueue = x.scene.client.recievedQueue)
    (hpackets : ∀ packet ∈ packets, Written packet)
    (hsnapshot : "update_complete" ∈ types packets → x.scene.client.dataSender = true)
    (hdataSender : scene.client.dataSender = x.scene.client.dataSender)
    (hcomplete : scene.client.updateComplete = true → x.scene.client.updateComplete = true)
    (hturn : scene.client.playerTurn = x.scene.client.playerTurn)
    (hplayer : scene.client.assignedPlayer = x.scene.client.assignedPlayer)
    (hqueue : ∀ packet ∈ scene.client.unitUpdateQueue, packet ∈ x.scene.client.unitUpdateQueue)
    (hdecided : Msg.Decided scene.outcome) :
    Proper { x with scene := scene } := by
  have hunhandled : unhandled { x with scene := scene } = x.unhandled ++ packets := by
    simp [unhandled, hsending]
  refine ⟨?_, ?_, ?_, ?_, fun hflag => h.updateComplete (hcomplete hflag), ?_, ?_,
    fun packet hpacket => h.queue packet (hqueue packet hpacket), hdecided⟩
  · rw [hunhandled]
    intro packet hpacket
    rcases List.mem_append.mp hpacket with hpacket | hpacket
    · exact h.writes packet hpacket
    · exact hpackets packet hpacket
  · simpa [Conn.sent, hreceived] using h.sent
  · intro hflag
    exact h.dataSender (hdataSender.symm.trans hflag)
  · intro hmem
    rw [outbox, hunhandled, List.filter_append, types_append, List.mem_append] at hmem
    rcases hmem with hmem | hmem
    · exact h.snapshots hmem
    · obtain ⟨packet, hpacket, htype⟩ := mem_types.mp hmem
      apply h.dataSender
      apply hsnapshot
      exact mem_types.mpr ⟨packet, List.mem_of_mem_filter hpacket, htype⟩
  · intro hmem
    change scene.client.playerTurn ≠ -1
    rw [hturn]
    exact h.turn hmem
  · intro hmem
    change scene.client.assignedPlayer ≠ -1
    rw [hplayer]
    exact h.player hmem

theorem Proper.msgs {x : Conn} (h : Proper x) :
    ∃ msgs : List Msg, x.scene.client.unitUpdateQueue = msgs.map Msg.packet :=
  exists_msgs h.queue

theorem Proper.decided_frame {x : Conn} (h : Proper x) {scene : GameScene}
    (hframe : x.scene.Frame scene) : Msg.Decided scene.outcome := by
  obtain ⟨msgs, hmsgs⟩ := h.msgs
  rcases hframe.outcome with
    ⟨-, houtcome, -⟩ | ⟨start, drained, hstart, hqueue, hdrain, houtcome, -⟩
  · rw [houtcome]
    exact h.decided
  · obtain ⟨-, -, -, -, -, hread, -⟩ := GameScene.drain_spec (hqueue.trans hmsgs) hdrain
    rw [houtcome, hread, hstart]
    exact Msg.decided_foldl h.decided msgs

theorem Proper.decided_endTurn {x : Conn} (h : Proper x) (undefinedReturn : Bool) :
    Msg.Decided (x.scene.endTurn undefinedReturn).outcome := by
  rw [GameScene.endTurn_eq]
  rcases x.scene.endgameCheck_cases with ⟨hcheck, hteam⟩ | ⟨-, hsame⟩
  · rw [hcheck]
    exact fun _ => hteam
  · rw [hsame]
    exact h.decided

theorem Proper.draws {x : Conn} (h : Proper x) {scene : GameScene}
    (hframe : x.scene.Frame scene) : Proper { x with scene := scene } := by
  have hdecided := h.decided_frame hframe
  rcases hframe.client_cases with hclient | ⟨hsend, gameTurn, hturn, hclient⟩ |
    ⟨hadopt, hclient⟩ | ⟨hopen, hclient⟩
  · apply @Proper.wrote x h scene [] <;> simp [hclient, hdecided]
  · have hsnapshot := snapshot_eq x.scene.begun gameTurn
    have hvalue : gameTurn = 1 ∨ gameTurn = 2 :=
      (whichTurn_cases hturn).imp And.left And.left
    apply @Proper.wrote x h scene (x.scene.begun.snapshot gameTurn)
    · rw [hclient]
      rfl
    · rw [hclient]
      rfl
    · intro packet hpacket
      rw [hsnapshot, List.mem_append, List.mem_singleton] at hpacket
      rcases hpacket with hpacket | rfl
      · exact written_batch hvalue packet hpacket
      · exact .updateComplete
    · intro _
      simp only [GameScene.sendsSnapshot, Bool.and_eq_true] at hsend
      exact hsend.1.2
    · rw [hclient]
      rfl
    · rw [hclient]
      exact id
    · rw [hclient]
      rfl
    · rw [hclient]
      rfl
    · rw [hclient]
      exact fun _ => id
    · exact hdecided
  · apply @Proper.wrote x h scene [GameScene.resumePacket]
    · rw [hclient]
      rfl
    · rw [hclient]
      rfl
    · intro packet hpacket
      rw [List.mem_singleton.mp hpacket]
      exact .resume
    · simp [GameScene.resumePacket]
    · rw [hclient]
      rfl
    · simp [hclient]
    · rw [hclient]
      rfl
    · rw [hclient]
      rfl
    · simp [hclient]
    · exact hdecided
  · apply @Proper.wrote x h scene [] <;> simp [hclient, hdecided]

theorem Proper.ends {x : Conn} (h : Proper x) (undefinedReturn : Bool) :
    Proper { x with scene := x.scene.endTurn undefinedReturn } := by
  apply @Proper.wrote x h (x.scene.endTurn undefinedReturn)
    ((x.scene.turnMsgs undefinedReturn).map Msg.packet)
  · rw [GameScene.endTurn_eq]
    rfl
  · rw [GameScene.endTurn_eq]
    rfl
  · intro packet hpacket
    obtain ⟨m, -, rfl⟩ := List.mem_map.mp hpacket
    exact .msg m
  · intro hmem
    exact absurd hmem (not_mem_types_packets _ (by simp))
  · rw [GameScene.endTurn_eq]
    rfl
  · rw [GameScene.endTurn_eq]
    exact id
  · rw [GameScene.endTurn_eq]
    rfl
  · rw [GameScene.endTurn_eq]
    rfl
  · rw [GameScene.endTurn_eq]
    exact fun _ => id
  · exact h.decided_endTurn undefinedReturn

theorem Proper.deed {clicks : Bool} {x x' : Conn} (h : Proper x) (hdeed : Deed clicks x x') :
    Proper x' := by
  cases hdeed with
  | same _ hsame => exact h.same hsame
  | reads packet rest client hqueue hread => exact h.reads hqueue hread
  | draws scene hframe => exact h.draws hframe
  | ends undefinedReturn => exact h.ends undefinedReturn
  | moves scene _ _ hmoved =>
      have hclient : scene.client = x.scene.client := by rw [hmoved.rest]
      have houtcome : scene.outcome = x.scene.outcome := by rw [hmoved.rest]; rfl
      apply @Proper.wrote x h scene [] <;> simp [hclient, houtcome, h.decided]

theorem Proper.congr {x x' : Conn} (h : Proper x) (hscene : x'.scene = x.scene)
    (hdispatched : x'.dispatched = x.dispatched)
    (hunhandled : ∀ packet ∈ x'.unhandled, packet ∈ x.unhandled)
    (hsent : ∀ packet ∈ x'.sent, isGame packet = true → Written packet) : Proper x' := by
  refine ⟨fun packet hpacket => h.writes packet (hunhandled packet hpacket), hsent, ?_, ?_, ?_,
    ?_, ?_, by rw [hscene]; exact h.queue, by rw [hscene]; exact h.decided⟩
  · rw [hscene, hdispatched]
    exact h.dataSender
  · rw [hdispatched]
    intro hmem
    obtain ⟨packet, hpacket, htype⟩ := mem_types.mp hmem
    apply h.snapshots
    obtain ⟨hwritten, hgame⟩ := List.mem_filter.mp hpacket
    exact mem_types.mpr ⟨packet, List.mem_filter.mpr ⟨hunhandled packet hwritten, hgame⟩, htype⟩
  · rw [hscene, hdispatched]
    exact h.updateComplete
  · rw [hscene, hdispatched]
    exact h.turn
  · rw [hscene, hdispatched]
    exact h.player

theorem sent_append {x x' : Conn} {packets : List CustomPacket} (hscene : x'.scene = x.scene)
    (hdispatched : x'.dispatched = x.dispatched) (hdown : x'.down = x.down ++ packets) :
    x'.sent = x.sent ++ packets := by
  simp [sent, hscene, hdispatched, hdown]

theorem mem_unhandled_of_handled {x x' : Conn} (h : ∃ msg, x.unhandled = msg :: x'.unhandled) :
    ∀ packet ∈ x'.unhandled, packet ∈ x.unhandled := by
  obtain ⟨msg, hmsg⟩ := h
  intro packet hpacket
  rw [hmsg]
  exact List.mem_cons_of_mem _ hpacket

theorem Proper.servedX {x y x' y' : Conn} (h : Proper x) (hserved : Served x y x' y') :
    Proper x' := by
  obtain ⟨packets, hdown, hpackets⟩ := hserved.toX
  refine h.congr hserved.sceneX hserved.dispatchedX (mem_unhandled_of_handled hserved.handled) ?_
  rw [sent_append hserved.sceneX hserved.dispatchedX hdown]
  intro packet hpacket hgame
  rcases List.mem_append.mp hpacket with hpacket | hpacket
  · exact h.sent packet hpacket hgame
  · rw [(hpackets packet hpacket).1, isGame_completed] at hgame
    cases hgame

theorem Proper.servedY {x y x' y' : Conn} (hx : Proper x) (hy : Proper y)
    (hserved : Served x y x' y') : Proper y' := by
  obtain ⟨packets, hdown, hpackets⟩ := hserved.toY
  refine hy.congr hserved.sceneY hserved.dispatchedY ?_ ?_
  · rw [hserved.unhandledY]
    exact fun _ => id
  · rw [sent_append hserved.sceneY hserved.dispatchedY hdown]
    intro packet hpacket hgame
    rcases List.mem_append.mp hpacket with hpacket | hpacket
    · exact hy.sent packet hpacket hgame
    · rcases hpackets packet hpacket with ⟨hwritten, -⟩ | ⟨rfl, -⟩
      · exact hx.writes packet hwritten
      · rw [isGame_completed] at hgame
        cases hgame

end Proper

section Origins

/-- The client connected to a running game. -/
def Joined (x : Conn) : Prop := x.sent.head? = some Server.reconPacket

/-- Nobody is sent a snapshot who did not join a running game. -/
def Entitled (x : Conn) : Prop := "update_complete" ∈ types x.sent → Joined x

/-- Of two clients only the older one can have been named data sender, and if
it was then the other one has joined a running game. -/
structure Origins (a b : Conn) : Prop where
  properA : Proper a
  properB : Proper b
  entitledA : Entitled a
  entitledB : Entitled b
  younger : "data_sender" ∉ types b.sent
  joined : Joined b ∨ "data_sender" ∉ types a.sent

theorem Joined.append {x x' : Conn} {packets : List CustomPacket} (h : Joined x)
    (hsent : x'.sent = x.sent ++ packets) : Joined x' := by
  rw [Joined, hsent, List.head?_append, h]
  rfl

theorem Entitled.append {x x' : Conn} {packets : List CustomPacket} (h : Entitled x)
    (hsent : x'.sent = x.sent ++ packets) (hpackets : "update_complete" ∉ types packets) :
    Entitled x' := by
  intro hmem
  rw [hsent, types_append, List.mem_append] at hmem
  rcases hmem with hmem | hmem
  · exact (h hmem).append hsent
  · exact absurd hmem hpackets

theorem not_mem_types_append {x x' : Conn} {type : String} {packets : List CustomPacket}
    (h : type ∉ types x.sent) (hsent : x'.sent = x.sent ++ packets)
    (hpackets : type ∉ types packets) : type ∉ types x'.sent := by
  rw [hsent, types_append, List.mem_append, not_or]
  exact ⟨h, hpackets⟩

/-- What the server sends back to a sender is at most `reconnect`/`false`. -/
theorem not_mem_types_completed {p : Prop} {packets : List CustomPacket} {type : String}
    (h : ∀ packet ∈ packets, packet = Server.completedPacket ∧ p) (htype : type ≠ "reconnect") :
    type ∉ types packets := by
  intro hmem
  obtain ⟨packet, hpacket, rfl⟩ := mem_types.mp hmem
  rw [(h packet hpacket).1] at htype
  exact htype rfl

theorem Served.dataSender_not_mem {x y x' y' : Conn} (h : Served x y x' y')
    (hy : "data_sender" ∉ types y.sent) : "data_sender" ∉ types y'.sent := by
  obtain ⟨packets, hdown, hpackets⟩ := h.toY
  refine not_mem_types_append hy (sent_append h.sceneY h.dispatchedY hdown) ?_
  intro hmem
  obtain ⟨packet, hpacket, htype⟩ := mem_types.mp hmem
  rcases hpackets packet hpacket with ⟨-, hforward⟩ | ⟨rfl, -⟩
  · simp [Server.isForwarded, htype] at hforward
  · simp [Server.completedPacket] at htype

theorem Served.dataSender_not_mem_sender {x y x' y' : Conn} (h : Served x y x' y')
    (hx : "data_sender" ∉ types x.sent) : "data_sender" ∉ types x'.sent := by
  obtain ⟨packets, hdown, hpackets⟩ := h.toX
  exact not_mem_types_append hx (sent_append h.sceneX h.dispatchedX hdown)
    (not_mem_types_completed hpackets (by simp))

theorem Served.joined {x y x' y' : Conn} (h : Served x y x' y') (hy : Joined y) : Joined y' := by
  obtain ⟨packets, hdown, -⟩ := h.toY
  exact hy.append (sent_append h.sceneY h.dispatchedY hdown)

theorem Served.entitled_sender {x y x' y' : Conn} (h : Served x y x' y') (hx : Entitled x) :
    Entitled x' := by
  obtain ⟨packets, hdown, hpackets⟩ := h.toX
  exact hx.append (sent_append h.sceneX h.dispatchedX hdown)
    (not_mem_types_completed hpackets (by simp))

/-- A snapshot comes from a data sender. -/
theorem Served.entitled {x y x' y' : Conn} (h : Served x y x' y') (hx : Proper x)
    (hy : Entitled y) (hjoined : "data_sender" ∈ types x.sent → Joined y) : Entitled y' := by
  obtain ⟨packets, hdown, hpackets⟩ := h.toY
  have hsent := sent_append h.sceneY h.dispatchedY hdown
  by_cases hmem : "update_complete" ∈ types packets
  · obtain ⟨packet, hpacket, htype⟩ := mem_types.mp hmem
    have hwritten : packet ∈ x.unhandled := by
      rcases hpackets packet hpacket with ⟨hwritten, -⟩ | ⟨rfl, -⟩
      · exact hwritten
      · simp [Server.completedPacket] at htype
    have hsender : "data_sender" ∈ types x.dispatched := by
      apply hx.snapshots
      exact updateComplete_mem_filter.mpr (mem_types.mpr ⟨packet, hwritten, htype⟩)
    intro _
    apply (hjoined ?_).append hsent
    rw [sent_eq, types_append]
    exact List.mem_append_left _ hsender
  · exact hy.append hsent hmem

theorem Local.sent {clicks : Bool} {x x' : Conn} (h : x.Local clicks x') : x'.sent = x.sent :=
  congrArg Peer.sent (System.peer_local h)

theorem Origins.step {clicks : Bool} {a b a' b' : Conn} (h : Origins a b)
    (hstep : PairStep clicks a b a' b') : Origins a' b' := by
  cases hstep with
  | left _ hlocal =>
      refine ⟨h.properA.deed (hlocal.deed h.properA.writes), h.properB, ?_, h.entitledB,
        h.younger, ?_⟩
      · rw [Entitled, Joined, hlocal.sent]
        exact h.entitledA
      · rw [hlocal.sent]
        exact h.joined
  | right _ hlocal =>
      refine ⟨h.properA, h.properB.deed (hlocal.deed h.properB.writes), h.entitledA, ?_, ?_, ?_⟩
      · rw [Entitled, Joined, hlocal.sent]
        exact h.entitledB
      · rw [hlocal.sent]
        exact h.younger
      · rw [Joined, hlocal.sent]
        exact h.joined
  | serveLeft _ _ hserve =>
      have hserved := hserve.served
      refine ⟨h.properA.servedX hserved, h.properA.servedY h.properB hserved,
        hserved.entitled_sender h.entitledA, ?_, hserved.dataSender_not_mem h.younger, ?_⟩
      · apply hserved.entitled h.properA h.entitledB
        intro hsender
        exact h.joined.resolve_right fun hnone => hnone hsender
      · rcases h.joined with hjoined | hnone
        · exact Or.inl (hserved.joined hjoined)
        · exact Or.inr (hserved.dataSender_not_mem_sender hnone)
  | serveRight _ _ hserve =>
      have hserved := hserve.served
      refine ⟨h.properB.servedY h.properA hserved, h.properB.servedX hserved, ?_,
        hserved.entitled_sender h.entitledB, hserved.dataSender_not_mem_sender h.younger, ?_⟩
      · exact hserved.entitled h.properB h.entitledA fun hsender => absurd hsender h.younger
      · rcases h.joined with hjoined | hnone
        · left
          obtain ⟨packets, hdown, -⟩ := hserved.toX
          exact hjoined.append (sent_append hserved.sceneX hserved.dispatchedX hdown)
        · exact Or.inr (hserved.dataSender_not_mem hnone)

/-- A client that has not taken anything in and has written nothing. -/
theorem proper_fresh (uid : Nat) (blank : Sprite) {packets : List CustomPacket}
    (h : ∀ packet ∈ packets, isGame packet = false) :
    Proper { fresh uid blank with down := packets } := by
  have hempty : ∀ packet ∈ ([] : List CustomPacket), ∃ m : Msg, packet = m.packet := by
    intro packet hpacket
    cases hpacket
  refine ⟨?_, ?_, ?_, ?_, ?_, ?_, ?_, hempty, ?_⟩
  · intro packet hpacket
    cases hpacket
  · intro packet hpacket hgame
    rw [h packet hpacket] at hgame
    cases hgame
  all_goals
    intro hfalse
    cases hfalse

theorem Proper.told {x : Conn} (h : Proper x) {mapped : Bool} {packets : List CustomPacket}
    (hpackets : ∀ packet ∈ packets, isGame packet = false) :
    Proper { x with inPeerMap := mapped, down := x.down ++ packets } := by
  refine h.congr rfl rfl (fun _ => id) ?_
  rw [@sent_append x { x with inPeerMap := mapped, down := x.down ++ packets } packets rfl rfl rfl]
  intro packet hpacket hgame
  rcases List.mem_append.mp hpacket with hpacket | hpacket
  · exact h.sent packet hpacket hgame
  · rw [hpackets packet hpacket] at hgame
    cases hgame

theorem Entitled.told {x : Conn} (h : Entitled x) {mapped : Bool} {packets : List CustomPacket}
    (hpackets : ∀ packet ∈ packets, isGame packet = false) :
    Entitled { x with inPeerMap := mapped, down := x.down ++ packets } := by
  refine h.append (sent_append rfl rfl rfl) ?_
  intro hmem
  obtain ⟨packet, hpacket, htype⟩ := mem_types.mp hmem
  exact (type_ne_of_not_isGame (hpackets packet hpacket)).2.2.2 htype

theorem isGame_ite {p : Prop} [Decidable p] {packet : CustomPacket} (h : isGame packet = false) :
    ∀ other ∈ (if p then [packet] else []), isGame other = false := by
  intro other hother
  split at hother
  · rw [List.mem_singleton.mp hother]
    exact h
  · cases hother

theorem Proper.soloStep {clicks : Bool} {x x' : Conn} (h : Proper x ∧ Entitled x)
    (hstep : x.SoloStep clicks x') : Proper x' ∧ Entitled x' := by
  obtain ⟨hproper, hentitled⟩ := h
  cases hstep with
  | self _ hlocal =>
      refine ⟨hproper.deed (hlocal.deed hproper.writes), ?_⟩
      rw [Entitled, Joined, hlocal.sent]
      exact hentitled
  | serve msg rest hup m =>
      have hcompleted : ∀ packet ∈ List.replicate m Server.completedPacket,
          isGame packet = false := by
        intro packet hpacket
        rw [List.eq_of_mem_replicate hpacket]
        exact isGame_completed
      have htold := @Proper.told x hproper x.inPeerMap _ hcompleted
      refine ⟨htold.congr rfl rfl ?_ htold.sent, ?_⟩
      · intro packet hpacket
        simp only [unhandled, hup, List.cons_append, List.mem_append, List.mem_cons] at hpacket ⊢
        exact Or.inr hpacket
      · exact @Entitled.told x hentitled x.inPeerMap _ hcompleted

theorem origins_invariant : System.ConnsInvariant (fun _ _ => True)
    (fun x => Proper x ∧ Entitled x) Origins := by
  refine ⟨?_, ?_, ?_, ?_, ?_, ?_⟩
  · intro uid blank
    refine ⟨proper_fresh uid blank (by simp), ?_⟩
    intro hmem
    simp [sent, fresh, GameScene.create, ClientComponent.fresh, Server.initPacket] at hmem
  · rintro nextUid x blank other hother huid hlobby ⟨hproper, hentitled⟩
    have hstart : ∀ packet ∈ [Server.startPacket], isGame packet = false := by simp
    refine ⟨@Proper.told x hproper x.inPeerMap _ hstart, proper_fresh nextUid blank (by simp),
      @Entitled.told x hentitled x.inPeerMap _ hstart, ?_, ?_, Or.inr ?_⟩
    · intro hmem
      simp [sent, fresh, GameScene.create, ClientComponent.fresh, Server.initPacket,
        Server.startPacket] at hmem
    · simp [sent, fresh, GameScene.create, ClientComponent.fresh, Server.initPacket,
        Server.startPacket]
    · rw [@sent_append x { x with down := x.down ++ [Server.startPacket] } [Server.startPacket]
        rfl rfl rfl, hlobby.sent]
      simp [Server.initPacket, Server.startPacket]
  · intro clicks x x' hsolo hstep
    exact Proper.soloStep hsolo hstep
  · intro clicks a b a' b' horigins hstep
    exact horigins.step hstep
  · intro a b horigins
    have hsender (x : Conn) : ∀ packet ∈ (if x.inPeerMap then [Server.dataSenderPacket] else []),
        isGame packet = false := isGame_ite isGame_dataSender
    exact ⟨⟨horigins.properA.told (hsender a), horigins.entitledA.told (hsender a)⟩,
      ⟨horigins.properB.told (hsender b), horigins.entitledB.told (hsender b)⟩⟩
  · rintro uid x blank _ ⟨hproper, hentitled⟩
    refine ⟨hproper.told (isGame_ite isGame_ready), proper_fresh uid blank (by simp),
      hentitled.told (isGame_ite isGame_ready), ?_, ?_, Or.inl rfl⟩
    · intro hmem
      simp [sent, newcomer, fresh, GameScene.create, ClientComponent.fresh,
        Server.reconPacket] at hmem
    · simp [sent, newcomer, fresh, GameScene.create, ClientComponent.fresh, Server.reconPacket]

end Origins

end Conn

/-- The condition is only about connects. -/
theorem System.joinMeets_of_stays {Join : Nat → Conn → Prop} {events : List SystemEvent}
    (h : ∀ event ∈ events, event.stays = true) (system : System) :
    Along System.step (System.JoinMeets Join) system events := by
  induction events generalizing system with
  | nil => trivial
  | cons event events ih =>
      refine ⟨?_, fun next _ => ih (fun other hother => h other (by simp [hother])) next⟩
      have hstays := h event (by simp)
      cases event with
      | connect blank => cases hstays
      | disconnect index => trivial
      | serve index => trivial
      | act index event => trivial

theorem System.joinMeets_true (events : List SystemEvent) :
    Along System.step (System.JoinMeets fun _ _ => True) System.initial events := by
  refine @along_of_forall _ _ _ (fun _ => True) _ (fun _ _ _ _ _ => trivial) ?_ _ events trivial
  intro system event _
  cases event with
  | connect blank => exact fun _ _ _ => trivial
  | disconnect index => trivial
  | serve index => trivial
  | act index event => trivial

end NetworkingGame
