import NetworkingGame.OutcomeHandover

/-!
The board and the turn after a reconnect. The snapshot is absolute, but an
`endturn` is a toggle: one that reaches the newcomer before the snapshot, or
that the survivor drains after it, leaves the two with different turns.
-/

namespace NetworkingGame

open Library.Transition

namespace GameScene

/-- Draining the packet would change neither the turn nor what the players
see of a unit. -/
def Unchanging (scene : GameScene) (packet : CustomPacket) : Prop :=
  match scene.applyUnitPacket packet with
  | .ok after => after.playerTurn = scene.playerTurn ∧ after.board = scene.board
  | .error _ => True

instance (scene : GameScene) (packet : CustomPacket) : Decidable (scene.Unchanging packet) :=
  match happly : scene.applyUnitPacket packet with
  | .ok after =>
      decidable_of_iff (after.playerTurn = scene.playerTurn ∧ after.board = scene.board)
        (by rw [Unchanging, happly])
  | .error _ => .isTrue (by rw [Unchanging, happly]; trivial)

end GameScene

namespace Conn

/-- The survivor `r` is about to send its snapshot to `c`: no `endturn` of it
is still on its way, and what it has left to drain says nothing new. -/
structure SnapshotFits (r c : Conn) : Prop where
  sent : GameScene.endturnPacket ∉ r.inTransit c
  received : r.scene.gameFinished = true ∨
    ∀ packet ∈ r.scene.client.unitUpdateQueue ++ r.inbox, packet.type = "unit" →
      r.scene.Unchanging packet

instance (r c : Conn) : Decidable (SnapshotFits r c) :=
  decidable_of_iff (GameScene.endturnPacket ∉ r.inTransit c ∧
    (r.scene.gameFinished = true ∨
      ∀ packet ∈ r.scene.client.unitUpdateQueue ++ r.inbox, packet.type = "unit" →
        r.scene.Unchanging packet))
    ⟨fun h => ⟨h.1, h.2⟩, fun h => ⟨h.sent, h.received⟩⟩

/-- The packets that are still to be drained, as far as they can be read, say
what the client already knows, or the game is over for it. -/
def Steady (x : Conn) : Prop :=
  x.scene.gameFinished = true ∨
    ∀ m : Msg, m.packet ∈ x.scene.client.unitUpdateQueue ++ x.inbox →
      m.packet.unitDataDeciper.isOk = true →
      m.onTurn x.scene.playerTurn = x.scene.playerTurn ∧ m.onBoard x.scene.board = x.scene.board

/-- How many `ready` packets the survivor has yet to act on. -/
def readies (x : Conn) : Nat :=
  x.scene.client.readyToSend.toNat + (types x.inbox).count "ready"

/-- The network thread keeps the last turn that a `turn` packet named. -/
def readTurn (turn : Int) (packet : CustomPacket) : Int :=
  if packet.type = "turn" then
    match CustomPacket.toInt packet.msgText.toList with
    | .ok named => named
    | .error _ => turn
  else turn

/-- Once `c` has taken in `body` it is ready to adopt the board and the turn
of `r`. -/
structure Tells (r c : Conn) (body : List CustomPacket) : Prop where
  turn : r.scene.whichTurn = .ok (body.foldl readTurn c.scene.client.playerTurn)
  units : ∃ msgs : List Msg,
    c.scene.client.unitUpdateQueue ++ body.filter isUnit = msgs.map Msg.packet ∧
    Msg.endturn ∉ msgs ∧ ∀ board, msgs.foldl Msg.onBoard board = r.scene.board

/-- The two copies of the game agree, and nothing of the snapshot is left. -/
structure InSync (r c : Conn) : Prop where
  flow : r.flow c = []
  updateComplete : c.scene.client.updateComplete = false
  queue : c.scene.client.unitUpdateQueue = []
  turn : c.scene.playerTurn = r.scene.playerTurn
  board : c.scene.board = r.scene.board

/-- How far the snapshot of `r` has got, once it is written. -/
inductive Snapshot (r c : Conn) : Prop
  | coming (body : List CustomPacket)
      (hflow : r.flow c = body ++ [GameScene.updateCompletePacket])
      (hbody : "update_complete" ∉ types body) (htells : Tells r c body)
      (hflag : c.scene.client.updateComplete = false) (hresumes : ¬ c.resumes)
  | arrived (hflow : r.flow c = []) (htells : Tells r c [])
      (hflag : c.scene.client.updateComplete = true) (hresumes : ¬ c.resumes)
  | adopted (hsync : InSync r c)

/-- The hand-over of the game, before a `resume` of the newcomer is handled. -/
structure Resync (r c : Conn) : Prop where
  pending : Pending r c
  ready : r.readies ≤ 1
  stage : Unsent r c ∨ (Shut r ∧ Steady r ∧ r.readies = 0 ∧ Snapshot r c)

/-- The hand-over is over. -/
structure Resynced (r c : Conn) : Prop where
  noLeftover : NoLeftover r
  ready : r.readies = 0
  silent : c.outbox = []
  steady : Steady r
  sync : InSync r c

section Drains

variable {clicks : Bool} {x x' : Conn}

theorem isOk_iff {α : Type} {result : Except Fault α} :
    result.isOk = true ↔ ∃ a, result = .ok a := by
  cases result with
  | error fault => simp [Except.isOk, Except.toBool]
  | ok a => simp [Except.isOk, Except.toBool]

/-- The condition on the packets of the queue, read as messages. -/
theorem steady_of_unchanging
    (h : x.scene.gameFinished = true ∨
      ∀ packet ∈ x.scene.client.unitUpdateQueue ++ x.inbox, packet.type = "unit" →
        x.scene.Unchanging packet) : Steady x := by
  refine h.imp_right ?_
  intro hall m hm hread
  have hunchanging := hall m.packet hm (Msg.packet_type m)
  obtain ⟨after, happly⟩ :=
    (GameScene.applyUnitPacket_isOk x.scene m.packet).mp (isOk_iff.mp hread)
  rw [GameScene.Unchanging, happly] at hunchanging
  obtain rfl := GameScene.applyUnitPacket_packet happly
  rw [← GameScene.applyMsg_playerTurn, ← GameScene.applyMsg_board]
  exact hunchanging

/-- Draining messages that say nothing new. -/
theorem drain_steady {scene after : GameScene} {msgs : List Msg} {turn : PlayerTurn}
    {board : Board} (hqueue : scene.client.unitUpdateQueue = msgs.map Msg.packet)
    (h : scene.unitNetworkUpdate = .ok after) (hturn : scene.playerTurn = turn)
    (hboard : scene.board = board)
    (hmsgs : ∀ m ∈ msgs, m.packet.unitDataDeciper.isOk = true →
      m.onTurn turn = turn ∧ m.onBoard board = board) :
    after.playerTurn = turn ∧ after.board = board := by
  obtain ⟨drained, hrun, h⟩ := bind_eq_ok h
  rw [← Except.ok.inj h]
  change drained.playerTurn = turn ∧ drained.board = board
  refine foldlM_invariant (fun scene => scene.playerTurn = turn ∧ scene.board = board) ?_
    ⟨hturn, hboard⟩ hrun
  rintro packet hpacket start next ⟨hturn, hboard⟩ hnext
  rw [hqueue] at hpacket
  obtain ⟨m, hm, rfl⟩ := List.mem_map.mp hpacket
  have hread := (GameScene.applyUnitPacket_isOk start m.packet).mpr ⟨next, hnext⟩
  obtain ⟨hturn', hboard'⟩ := hmsgs m hm (isOk_iff.mpr hread)
  rw [GameScene.applyUnitPacket_packet hnext]
  constructor
  · rw [GameScene.applyMsg_playerTurn, hturn, hturn']
  · rw [GameScene.applyMsg_board, hboard, hboard']

/-- A client that has nothing new to drain, adopts no snapshot and does not
click keeps its turn and its board. -/
theorem Deed.steady (h : Deed clicks x x') (hproper : Proper x)
    (hquiet : clicks = true → x.scene.isOpen = false) (hadopt : x.scene.adoptsSnapshot = false)
    (hsteady : Steady x) :
    x'.scene.playerTurn = x.scene.playerTurn ∧ x'.scene.board = x.scene.board ∧ Steady x' := by
  have hshut (hclicks : clicks = true) (hopen : x.scene.isOpen = true) : False := by
    rw [hquiet hclicks] at hopen
    cases hopen
  have hsubset := h.pending_subset
  have hkept (hturn : x'.scene.playerTurn = x.scene.playerTurn)
      (hboard : x'.scene.board = x.scene.board)
      (hover : x.scene.gameFinished = true → x'.scene.gameFinished = true) :
      x'.scene.playerTurn = x.scene.playerTurn ∧ x'.scene.board = x.scene.board ∧ Steady x' := by
    refine ⟨hturn, hboard, ?_⟩
    rcases hsteady with hfinished | hall
    · exact Or.inl (hover hfinished)
    · right
      intro m hm hread
      rw [hturn, hboard]
      exact hall m (hsubset _ hm) hread
  cases h with
  | same x' hsame =>
      apply hkept (hsame.field GameScene.playerTurn) (hsame.field GameScene.board)
      exact fun hfinished => (hsame.field GameScene.gameFinished).trans hfinished
  | reads => exact hkept rfl rfl id
  | draws scene hframe =>
      cases hframe with
      | idle => exact hkept (by simp) (by simp) (by simp)
      | send hsend gameTurn =>
          apply hkept
          · simp [GameScene.sendSnapshot]
          · exact GameScene.begun_board x.scene
          · intro hfinished
            simpa [GameScene.sendSnapshot, GameScene.push] using hfinished
      | adopt hadopts => exact absurd (hadopt.symm.trans hadopts) (by simp)
      | finished => exact hkept (by simp) (by simp) (by simp)
      | wait =>
          apply hkept
          · simp [GameScene.unitsUpdate]
          · simp
          · simp [GameScene.unitsUpdate]
      | drain _ hplaying _ _ hdrain =>
          obtain ⟨msgs, hmsgs⟩ := hproper.msgs
          have hall := hsteady.resolve_left (by simp [hplaying])
          have hqueue : x.scene.begun.unitsUpdate.client.unitUpdateQueue =
              msgs.map Msg.packet := by
            simpa [GameScene.unitsUpdate] using hmsgs
          obtain ⟨hturn, hboard⟩ := drain_steady hqueue hdrain
            (show x.scene.begun.unitsUpdate.playerTurn = x.scene.playerTurn by
              simp [GameScene.unitsUpdate])
            (show x.scene.begun.unitsUpdate.board = x.scene.board by simp)
            (by
              intro m hm hread
              apply hall m _ hread
              rw [hmsgs]
              exact List.mem_append_left _ (List.mem_map_of_mem hm))
          apply hkept hturn hboard
          intro hfinished
          rw [hplaying] at hfinished
          cases hfinished
  | ends undefinedReturn hclicks hopen => exact (hshut hclicks hopen).elim
  | moves scene hclicks hopen => exact (hshut hclicks hopen).elim

end Drains

section Newcomer

variable {clicks : Bool} {r c r' c' : Conn}

theorem readTurn_processed {client after : ClientComponent} {packet : CustomPacket}
    (h : client.Processed packet after) : after.playerTurn = readTurn client.playerTurn packet := by
  have hvalue := h.playerTurn_eq
  unfold readTurn
  split
  · rename_i htype
    rw [if_pos htype] at hvalue
    rw [hvalue]
  · rename_i htype
    rw [if_neg htype] at hvalue
    exact hvalue

theorem queue_processed {client after : ClientComponent} {packet : CustomPacket}
    (h : client.Processed packet after) :
    after.unitUpdateQueue = client.unitUpdateQueue ++ [packet].filter isUnit := by
  have hqueue := h.unitUpdateQueue_eq
  rw [hqueue]
  by_cases htype : packet.type = "unit" <;> simp [isUnit, htype]

/-- A client that is not in play takes in a packet, leaves what it was told
alone, or acts on a snapshot. -/
theorem Deed.idle {x x' : Conn} (h : Deed clicks x x')
    (hclosed : (x.scene.client.isLobby || x.scene.client.isReconnecting) = true) :
    (∃ packet rest client, x.scene.client.recievedQueue = packet :: rest ∧
      ({ x.scene.client with recievedQueue := rest }).Processed packet client ∧
      x' = { x with
        dispatched := x.dispatched ++ [packet]
        scene := x.scene.withClient client } ∧ (x'.resumes → x.resumes)) ∨
    (x'.inbox = x.inbox ∧
      x'.scene.client.unitUpdateQueue = x.scene.client.unitUpdateQueue ∧
      x'.scene.client.playerTurn = x.scene.client.playerTurn ∧
      x'.scene.client.updateComplete = x.scene.client.updateComplete ∧
      (x'.resumes → x.resumes)) ∨
    (x.scene.adoptsSnapshot = true ∧ ∃ drained,
      x.scene.begun.adoptTurn.adoptTeam.unitNetworkUpdate = .ok drained ∧
      x' = { x with scene := drained.finishAdoption }) := by
  have hshut := not_isOpen hclosed
  have hresumes := h.resumes
  cases h with
  | same x' hsame =>
      exact Or.inr (Or.inl ⟨hsame.inbox, hsame.field fun s => s.client.unitUpdateQueue,
        hsame.field fun s => s.client.playerTurn, hsame.field fun s => s.client.updateComplete,
        hsame.resumes.mp⟩)
  | reads packet rest client hqueue hread =>
      have hsending : client.sendingQueue = x.scene.client.sendingQueue := hread.queues.2
      refine Or.inl ⟨packet, rest, client, hqueue, hread, rfl, ?_⟩
      intro hresumed
      simpa [Conn.resumes, unhandled, GameScene.withClient, hsending] using hresumed
  | draws scene hframe =>
      have hquiet (hclient : scene.client = x.scene.client)
          (hadopt : x.scene.adoptsSnapshot = false) :
          inbox { x with scene := scene } = x.inbox ∧
            scene.client.unitUpdateQueue = x.scene.client.unitUpdateQueue ∧
            scene.client.playerTurn = x.scene.client.playerTurn ∧
            scene.client.updateComplete = x.scene.client.updateComplete ∧
            (Conn.resumes { x with scene := scene } → x.resumes) := by
        refine ⟨by simp [inbox, hclient], by rw [hclient], by rw [hclient], by rw [hclient], ?_⟩
        intro hresumed
        exact (hresumes hresumed).resolve_right (by simp [hadopt])
      cases hframe with
      | idle _ _ hadopt => exact Or.inr (Or.inl (hquiet (by simp) hadopt))
      | send hsend gameTurn =>
          have hadopt : x.scene.adoptsSnapshot = false := by
            simp [GameScene.adoptsSnapshot, hsend]
          right; left
          refine ⟨?_, ?_, ?_, ?_,
            fun hresumed => (hresumes hresumed).resolve_right (by simp [hadopt])⟩
          · simp [inbox, GameScene.sendSnapshot, GameScene.push, ClientComponent.push]
          · simp [GameScene.sendSnapshot, GameScene.push, ClientComponent.push]
          · simp [GameScene.sendSnapshot, GameScene.push, ClientComponent.push]
          · simp [GameScene.sendSnapshot, GameScene.push, ClientComponent.push]
      | adopt hadopts drained hdrain => exact Or.inr (Or.inr ⟨hadopts, drained, hdrain, rfl⟩)
      | finished hopen => exact absurd (hclosed.symm.trans hopen) (by simp)
      | wait hopen => exact absurd (hclosed.symm.trans hopen) (by simp)
      | drain hopen => exact absurd (hclosed.symm.trans hopen) (by simp)
  | ends undefinedReturn hclicks hopen => exact absurd (hshut.symm.trans hopen) (by simp)
  | moves scene hclicks hopen => exact absurd (hshut.symm.trans hopen) (by simp)

theorem Tells.congr {body : List CustomPacket} (h : Tells r c body)
    (hturn : r'.scene.playerTurn = r.scene.playerTurn) (hboard : r'.scene.board = r.scene.board)
    (hqueue : c'.scene.client.unitUpdateQueue = c.scene.client.unitUpdateQueue)
    (hcode : c'.scene.client.playerTurn = c.scene.client.playerTurn) : Tells r' c' body := by
  have hwhich : r'.scene.whichTurn = r.scene.whichTurn := by
    rw [GameScene.whichTurn, GameScene.whichTurn, hturn]
  refine ⟨?_, ?_⟩
  · rw [hwhich, hcode]
    exact h.turn
  · rw [hqueue, hboard]
    exact h.units

theorem InSync.congr (h : InSync r c) (hturn : r'.scene.playerTurn = r.scene.playerTurn)
    (hboard : r'.scene.board = r.scene.board) (hflow : r'.flow c' = r.flow c)
    (hc : c'.scene = c.scene) : InSync r' c' := by
  refine ⟨hflow.trans h.flow, ?_, ?_, ?_, ?_⟩
  · rw [hc]
    exact h.updateComplete
  · rw [hc]
    exact h.queue
  · rw [hc, hturn]
    exact h.turn
  · rw [hc, hboard]
    exact h.board

/-- Steps that only move packets along. -/
theorem Snapshot.congr (h : Snapshot r c) (hturn : r'.scene.playerTurn = r.scene.playerTurn)
    (hboard : r'.scene.board = r.scene.board) (hflow : r'.flow c' = r.flow c)
    (hc : c'.scene = c.scene) (hunhandled : ∀ packet ∈ c'.unhandled, packet ∈ c.unhandled) :
    Snapshot r' c' := by
  have hresumes (hnone : ¬ c.resumes) : ¬ c'.resumes := by
    intro hresumes
    obtain ⟨packet, hpacket, htype⟩ := mem_types.mp hresumes
    exact hnone (mem_types.mpr ⟨packet, hunhandled packet hpacket, htype⟩)
  have htells {body : List CustomPacket} (h : Tells r c body) : Tells r' c' body :=
    h.congr hturn hboard (by rw [hc]) (by rw [hc])
  cases h with
  | coming body hsame hbody htold hflag hnone =>
      exact .coming body (hflow.trans hsame) hbody (htells htold) (by rw [hc]; exact hflag)
        (hresumes hnone)
  | arrived hsame htold hflag hnone =>
      exact .arrived (hflow.trans hsame) (htells htold) (by rw [hc]; exact hflag) (hresumes hnone)
  | adopted hsync => exact .adopted (hsync.congr hturn hboard hflow hc)

/-- The newcomer takes in the first packet of `body`. -/
theorem Tells.reads {packet : CustomPacket} {body rest : List CustomPacket}
    {client : ClientComponent} (h : Tells r c (packet :: body))
    (hread : ({ c.scene.client with recievedQueue := rest }).Processed packet client) :
    Tells r { c with
      dispatched := c.dispatched ++ [packet]
      scene := c.scene.withClient client } body := by
  obtain ⟨hturn, msgs, hunits, hmsgs⟩ := h
  refine ⟨?_, msgs, ?_, hmsgs⟩
  · change _ = Except.ok (body.foldl readTurn client.playerTurn)
    rw [readTurn_processed hread]
    exact hturn
  · change client.unitUpdateQueue ++ _ = _
    rw [queue_processed hread, ← hunits, List.append_assoc, ← List.filter_append]
    rfl

/-- Taking in what is not a packet of the game tells the newcomer nothing. -/
theorem Tells.ignores {packet : CustomPacket} {body rest : List CustomPacket}
    {client : ClientComponent} (h : Tells r c body) (hgame : isGame packet = false)
    (hread : ({ c.scene.client with recievedQueue := rest }).Processed packet client) :
    Tells r { c with
      dispatched := c.dispatched ++ [packet]
      scene := c.scene.withClient client } body := by
  simp only [isGame, Bool.or_eq_false_iff, decide_eq_false_iff_not] at hgame
  obtain ⟨⟨⟨hunit, hturn⟩, -⟩, -⟩ := hgame
  apply h.congr rfl rfl
  · change client.unitUpdateQueue = _
    rw [queue_processed hread]
    simp [isUnit, hunit]
  · change client.playerTurn = _
    rw [readTurn_processed hread, readTurn, if_neg hturn]

theorem updateComplete_ignored {client after : ClientComponent} {packet : CustomPacket}
    (h : client.Processed packet after) (htype : packet.type ≠ "update_complete") :
    after.updateComplete = client.updateComplete := by
  rw [h.updateComplete_eq]
  simp [htype]

theorem adoptTurn_playerTurn {scene sender : GameScene}
    (h : sender.whichTurn = .ok scene.client.playerTurn) :
    scene.adoptTurn.playerTurn = sender.playerTurn := by
  rcases whichTurn_cases h with ⟨hcode, hturn⟩ | ⟨hcode, hturn⟩
  · rw [GameScene.adoptTurn, if_pos hcode, hturn]
  · rw [GameScene.adoptTurn, if_neg (by simp [hcode]), if_pos hcode, hturn]

@[simp] theorem adoptTeam_playerTurn (scene : GameScene) :
    scene.adoptTeam.playerTurn = scene.playerTurn := by
  unfold GameScene.adoptTeam
  split_ifs <;> rfl

/-- Acting on the snapshot brings the newcomer up to date. -/
theorem Tells.adopts (h : Tells r c []) {drained : GameScene}
    (hdrain : c.scene.begun.adoptTurn.adoptTeam.unitNetworkUpdate = .ok drained) :
    drained.finishAdoption.playerTurn = r.scene.playerTurn ∧
      drained.finishAdoption.board = r.scene.board := by
  obtain ⟨hcode, msgs, hunits, hendturn, hmsgs⟩ := h
  have hqueue : c.scene.begun.adoptTurn.adoptTeam.client.unitUpdateQueue =
      msgs.map Msg.packet := by simpa using hunits
  obtain ⟨-, hboard, -, -, hturn, -⟩ := GameScene.drain_spec hqueue hdrain
  refine ⟨?_, ?_⟩
  · change drained.playerTurn = _
    rw [hturn, foldl_onTurn hendturn, adoptTeam_playerTurn]
    apply adoptTurn_playerTurn
    simpa using hcode
  · rw [← hmsgs c.scene.begun.adoptTurn.adoptTeam.board, ← hboard]
    exact GameScene.unitsUpdate_board drained

theorem flow_nil_right (h : r.flow c = []) (hdeed : Deed clicks c c') : r.flow c' = [] := by
  have hempty := h
  rw [flow, List.append_eq_nil_iff] at hempty
  rcases hdeed.inbox_cases with ⟨packet, rest, -, -, -, hinbox⟩ | ⟨hinbox, -⟩
  · rw [hinbox, List.filter_cons] at hempty
    rw [flow, toward_right hdeed, hempty.2, List.append_nil]
    split at hempty
    · cases hempty.1
    · exact hempty.1
  · rw [flow, hinbox, toward_right hdeed]
    exact h

theorem not_isGame_of_flow_nil (h : r.flow c = []) {packet : CustomPacket}
    (hpacket : packet ∈ c.inbox) : isGame packet = false := by
  rw [flow, List.append_eq_nil_iff] at h
  by_contra hgame
  have hmem := List.mem_filter.mpr ⟨hpacket, by simpa using hgame⟩
  rw [h.1] at hmem
  cases hmem

/-- A newcomer that agrees with the survivor keeps agreeing while it does not
click. -/
theorem InSync.right (h : InSync r c) (hproper : Proper c)
    (hquiet : clicks = true → c.scene.isOpen = false) (hdeed : Deed clicks c c') :
    InSync r c' := by
  have hadopt : c.scene.adoptsSnapshot = false := by
    simp [GameScene.adoptsSnapshot, h.updateComplete]
  have hsteady : Steady c := by
    right
    intro m hm
    rw [h.queue, List.nil_append] at hm
    have hgame := not_isGame_of_flow_nil h.flow hm
    rw [isGame_packet] at hgame
    cases hgame
  obtain ⟨hturn, hboard, -⟩ := hdeed.steady hproper hquiet hadopt hsteady
  refine ⟨flow_nil_right h.flow hdeed, ?_, ?_, hturn.trans h.turn, hboard.trans h.board⟩
  · rcases hdeed.inbox_cases with ⟨packet, rest, -, hread, -, hinbox⟩ | ⟨-, -, -, -, -, hflag⟩
    · have hgame := not_isGame_of_flow_nil h.flow (show packet ∈ c.inbox by simp [hinbox])
      have hsame := updateComplete_ignored hread (type_ne_of_not_isGame hgame).2.2.2
      exact hsame.trans h.updateComplete
    · rcases hflag with hflag | ⟨-, hflag⟩
      · exact hflag.trans h.updateComplete
      · exact hflag
  · apply List.eq_nil_iff_forall_not_mem.mpr
    intro packet hpacket
    obtain ⟨m, rfl⟩ := (hproper.deed hdeed).queue packet hpacket
    have hmem := hdeed.pending_subset _ (List.mem_append_left _ hpacket)
    rw [h.queue, List.nil_append] at hmem
    have hgame := not_isGame_of_flow_nil h.flow hmem
    rw [isGame_packet] at hgame
    cases hgame

/-- The newcomer's steps while the snapshot is on its way, or adopted. -/
theorem Snapshot.right (h : Snapshot r c) (hproper : Proper c)
    (hclosed : (c.scene.client.isLobby || c.scene.client.isReconnecting) = true)
    (hdeed : Deed clicks c c') : Snapshot r c' := by
  have hquiet : clicks = true → c.scene.isOpen = false := fun _ => not_isOpen hclosed
  cases h with
  | coming body hflow hbody htells hflag hresumes =>
      rcases hdeed.idle hclosed with ⟨packet, rest, client, hqueue, hread, rfl, hkept⟩ |
        ⟨hinbox, hqueue, hcode, hsame, hkept⟩ | ⟨hadopts, -⟩
      · have hnone := mt hkept hresumes
        have hreads := @flow_reads r c packet rest client hqueue hread
        rw [hflow] at hreads
        cases hgame : isGame packet with
        | false =>
            rw [hgame] at hreads
            have hsame := updateComplete_ignored hread (type_ne_of_not_isGame hgame).2.2.2
            exact .coming body hreads.symm hbody (htells.ignores hgame hread) (hsame.trans hflag)
              hnone
        | true =>
            rw [hgame, if_pos rfl] at hreads
            cases body with
            | nil =>
                obtain ⟨rfl, hrest⟩ := List.cons.inj hreads
                refine .arrived hrest.symm ?_ ?_ hnone
                · apply htells.congr rfl rfl
                  · exact (queue_processed hread).trans
                      (by simp [isUnit, GameScene.updateCompletePacket])
                  · exact readTurn_processed hread
                · exact hread.updateComplete_eq.trans (by simp [GameScene.updateCompletePacket])
            | cons first body =>
                obtain ⟨rfl, hrest⟩ := List.cons.inj hreads
                rw [types_cons, List.mem_cons, not_or] at hbody
                have hsame := updateComplete_ignored hread (Ne.symm hbody.1)
                exact .coming body hrest.symm hbody.2 (htells.reads hread) (hsame.trans hflag) hnone
      · have hsameFlow := @flow_congr r c c' hinbox hdeed.peer.1 hdeed.peer.2
        exact .coming body (hsameFlow.trans hflow) hbody (htells.congr rfl rfl hqueue hcode)
          (hsame.trans hflag) (mt hkept hresumes)
      · simp [GameScene.adoptsSnapshot, hflag] at hadopts
  | arrived hflow htells hflag hresumes =>
      have hflow' := flow_nil_right hflow hdeed
      rcases hdeed.idle hclosed with ⟨packet, rest, client, hqueue, hread, rfl, hkept⟩ |
        ⟨hinbox, hqueue, hcode, hsame, hkept⟩ | ⟨hadopts, drained, hdrain, rfl⟩
      · have hgame := not_isGame_of_flow_nil hflow (show packet ∈ c.inbox by simp [inbox, hqueue])
        have hsame := updateComplete_ignored hread (type_ne_of_not_isGame hgame).2.2.2
        exact .arrived hflow' (htells.ignores hgame hread) (hsame.trans hflag) (mt hkept hresumes)
      · exact .arrived hflow' (htells.congr rfl rfl hqueue hcode) (hsame.trans hflag)
          (mt hkept hresumes)
      · obtain ⟨hturn, hboard⟩ := htells.adopts hdrain
        have hclient := GameScene.finishAdoption_client hdrain
        exact .adopted ⟨hflow', by simp [hclient], by simp [hclient], hturn, hboard⟩
  | adopted hsync => exact .adopted (hsync.right hproper hquiet hdeed)

end Newcomer

section Survivor

variable {clicks : Bool} {r c r' c' : Conn}

theorem readies_le (hdeed : Deed clicks r r') : r'.readies ≤ r.readies := by
  rcases hdeed.inbox_cases with ⟨packet, rest, -, hread, -, hinbox⟩ | ⟨hinbox, -, -, -, hready, -⟩
  · have hflag : r'.scene.client.readyToSend.toNat ≤
        r.scene.client.readyToSend.toNat + if packet.type = "ready" then 1 else 0 := by
      rw [hread.readyToSend_eq]
      by_cases htype : packet.type = "ready"
      · cases r.scene.client.readyToSend <;> simp [htype]
      · simp [htype]
    rw [readies, readies, hinbox, types_cons, List.count_cons]
    simp only [beq_iff_eq]
    omega
  · rw [readies, readies, hinbox]
    rcases hready with hready | ⟨-, hready⟩
    · rw [hready]
    · rw [hready]
      simp

theorem not_sends_of_readies (h : r.readies = 0) : r.scene.sendsSnapshot = false := by
  rw [readies, Nat.add_eq_zero_iff] at h
  have hready : r.scene.client.readyToSend = false := by simpa using h.1
  simp [GameScene.sendsSnapshot, hready]

/-- The one `ready` is used up by the frame that sends the snapshot. -/
theorem readies_send (h : r.readies ≤ 1) (hsend : r.scene.sendsSnapshot = true) (gameTurn : Int) :
    readies { r with scene := r.scene.begun.sendSnapshot gameTurn } = 0 := by
  simp only [GameScene.sendsSnapshot, Bool.and_eq_true] at hsend
  rw [readies, hsend.2] at h
  have hinbox : inbox { r with scene := r.scene.begun.sendSnapshot gameTurn } = r.inbox := by
    simp [inbox, GameScene.sendSnapshot, GameScene.push, ClientComponent.push]
  rw [readies, hinbox]
  simp only [Bool.toNat_true] at h
  have hcount : (types r.inbox).count "ready" = 0 := by omega
  rw [hcount]
  rfl

theorem not_sends_of_open {scene : GameScene} (hopen : scene.client.isReconnecting = false) :
    scene.sendsSnapshot = false := by
  simp [GameScene.sendsSnapshot, hopen]

/-- A step sends the snapshot, or writes none. -/
theorem Deed.sends_or (h : Deed clicks r r') :
    (∃ packets, r'.outbox = r.outbox ++ packets ∧ "update_complete" ∉ types packets) ∨
    (r.scene.sendsSnapshot = true ∧ ∃ gameTurn, r.scene.whichTurn = .ok gameTurn ∧
      r' = { r with scene := r.scene.begun.sendSnapshot gameTurn }) := by
  cases hsend : r.scene.sendsSnapshot with
  | false =>
      obtain ⟨packets, houtbox, hcases⟩ := h.outbox
      refine Or.inl ⟨packets, houtbox, ?_⟩
      rcases hcases with rfl | ⟨hsends, -⟩ | ⟨-, -, undefinedReturn, rfl⟩
      · simp
      · exact absurd (hsend.symm.trans hsends) (by simp)
      · exact not_mem_types_packets _ (by simp)
  | true =>
      have hnot {scene : GameScene} (hopen : scene.client.isReconnecting = false)
          (hsend : scene.sendsSnapshot = true) : False := by
        rw [not_sends_of_open hopen] at hsend
        cases hsend
      have hplaying (hopen : r.scene.isOpen = true) : False := by
        simp only [GameScene.isOpen, Bool.and_eq_true, Bool.not_eq_true'] at hopen
        exact hnot hopen.2 hsend
      have hclosed (hopen : (r.scene.client.isLobby || r.scene.client.isReconnecting) = false) :
          False := by
        rw [Bool.or_eq_false_iff] at hopen
        exact hnot hopen.2 hsend
      cases h with
      | same r' hsame => exact Or.inl ⟨[], by simp [hsame.outbox], by simp⟩
      | reads packet rest client hqueue hread =>
          have hsending : client.sendingQueue = r.scene.client.sendingQueue := hread.queues.2
          refine Or.inl ⟨[], ?_, by simp⟩
          simp [Conn.outbox, unhandled, GameScene.withClient, hsending]
      | draws scene hframe =>
          cases hframe with
          | idle _ hnone => exact absurd (hsend.symm.trans hnone) (by simp)
          | send _ gameTurn hturn => exact Or.inr ⟨rfl, gameTurn, hturn, rfl⟩
          | adopt hadopts => simp [GameScene.adoptsSnapshot, hsend] at hadopts
          | finished hopen => exact (hclosed hopen).elim
          | wait hopen => exact (hclosed hopen).elim
          | drain hopen => exact (hclosed hopen).elim
      | ends _ _ hopen => exact (hplaying hopen).elim
      | moves _ _ hopen => exact (hplaying hopen).elim

theorem foldl_unitMsgs (scene : GameScene) (board : Board) :
    (unitMsgs scene).foldl Msg.onBoard board = scene.board := by
  ext ref
  simp only [unitMsgs, UnitRef.all, List.map_cons, List.map_nil, List.foldl_cons, List.foldl_nil,
    Msg.ofUnit, Msg.onBoard, Roster.get_set, GameScene.board, Roster.get_map]
  cases ref <;> simp [GameUnit.view]

theorem readTurn_of_type {packet : CustomPacket} (h : packet.type ≠ "turn") (turn : Int) :
    readTurn turn packet = turn := by
  rw [readTurn, if_neg h]

theorem readTurn_packets (msgs : List Msg) (turn : Int) :
    (msgs.map Msg.packet).foldl readTurn turn = turn := by
  induction msgs with
  | nil => rfl
  | cons m msgs ih =>
      rw [List.map_cons, List.foldl_cons, readTurn_of_type (by simp)]
      exact ih

theorem readTurn_batch {scene : GameScene} {gameTurn : Int} (h : gameTurn = 1 ∨ gameTurn = 2)
    (turn : Int) : (batch scene gameTurn).foldl readTurn turn = gameTurn := by
  have htype : (GameScene.turnPacket gameTurn).type = "turn" := rfl
  have hread (turn : Int) : readTurn turn (GameScene.turnPacket gameTurn) = gameTurn := by
    rw [readTurn, if_pos htype, GameScene.turnPacket, toInt_small h]
  rw [batch, List.foldl_cons, List.foldl_cons, hread, readTurn_packets]

theorem filter_isUnit_batch (scene : GameScene) (gameTurn : Int) :
    (batch scene gameTurn).filter isUnit = (unitMsgs scene).map Msg.packet := by
  have hplayer : isUnit (GameScene.playerPacket scene.opponentTeam) = false := by
    simp [isUnit, GameScene.playerPacket]
  have hturn : isUnit (GameScene.turnPacket gameTurn) = false := by
    simp [isUnit, GameScene.turnPacket]
  rw [batch, List.filter_cons, List.filter_cons, hplayer, hturn]
  exact filter_isUnit_packets _

/-- What is under way to the newcomer, as messages. -/
theorem exists_underway (hr : Proper r) (hc : Proper c)
    (hendturn : GameScene.endturnPacket ∉ r.inTransit c) :
    ∃ msgs : List Msg, c.scene.client.unitUpdateQueue ++ (r.flow c).filter isUnit =
      msgs.map Msg.packet ∧ Msg.endturn ∉ msgs := by
  have hflow : ∀ packet ∈ r.flow c, packet ∈ r.inTransit c ∧ Written packet := by
    intro packet hpacket
    rw [flow, List.mem_append] at hpacket
    rcases hpacket with hpacket | hpacket
    · obtain ⟨hinbox, hgame⟩ := List.mem_filter.mp hpacket
      refine ⟨?_, hc.sent packet ?_ hgame⟩
      · simp only [inbox, List.mem_append] at hinbox
        simp only [inTransit, List.mem_append]
        tauto
      · rw [sent_eq]
        exact List.mem_append_right _ hinbox
    · rw [toward] at hpacket
      split at hpacket
      · have hwritten := List.mem_of_mem_filter hpacket
        refine ⟨?_, hr.writes packet hwritten⟩
        simp only [unhandled, List.mem_append] at hwritten
        simp only [inTransit, List.mem_append]
        tauto
      · cases hpacket
  have hall : ∀ packet ∈ c.scene.client.unitUpdateQueue ++ (r.flow c).filter isUnit,
      packet ∈ r.inTransit c ∧ ∃ m : Msg, packet = m.packet := by
    intro packet hpacket
    rcases List.mem_append.mp hpacket with hpacket | hpacket
    · refine ⟨?_, hc.queue packet hpacket⟩
      simp only [inTransit, List.mem_append]
      tauto
    · obtain ⟨hmem, hunit⟩ := List.mem_filter.mp hpacket
      exact ⟨(hflow packet hmem).1, (hflow packet hmem).2.of_unit (by simpa [isUnit] using hunit)⟩
  obtain ⟨msgs, hmsgs⟩ := exists_msgs fun packet hpacket => (hall packet hpacket).2
  refine ⟨msgs, hmsgs, ?_⟩
  intro hmem
  apply hendturn
  apply (hall GameScene.endturnPacket _).1
  rw [hmsgs]
  exact List.mem_map.mpr ⟨.endturn, hmem, rfl⟩

/-- The snapshot that fits tells the newcomer what it needs. -/
theorem Unsent.send (h : Unsent r c) (hr : Proper r) (hc : Proper c) (hfits : SnapshotFits r c)
    (hreaches : r.reaches c = true) {gameTurn : Int} (hturn : r.scene.whichTurn = .ok gameTurn)
    (hsend : r.scene.sendsSnapshot = true) :
    Snapshot { r with scene := r.scene.begun.sendSnapshot gameTurn } c := by
  have hdeed : Deed false r { r with scene := r.scene.begun.sendSnapshot gameTurn } :=
    .draws _ (.send hsend gameTurn hturn)
  have houtbox : outbox { r with scene := r.scene.begun.sendSnapshot gameTurn } =
      r.outbox ++ r.scene.begun.snapshot gameTurn := by
    have hsending : (r.scene.begun.sendSnapshot gameTurn).client.sendingQueue =
        r.scene.client.sendingQueue ++ r.scene.begun.snapshot gameTurn := by
      simp [GameScene.sendSnapshot, GameScene.push, ClientComponent.push]
    rw [outbox, outbox, unhandled, unhandled, hsending, ← List.append_assoc, List.filter_append,
      filter_isGame_snapshot]
  have hflow := @flow_left false r _ c hdeed _ houtbox
  rw [hreaches, if_pos rfl, snapshot_eq, ← List.append_assoc] at hflow
  have hvalue : gameTurn = 1 ∨ gameTurn = 2 := (whichTurn_cases hturn).imp And.left And.left
  refine .coming _ hflow ?_ ⟨?_, ?_⟩ h.updateComplete h.resumes
  · rw [types_append, List.mem_append, not_or]
    exact ⟨h.flow, types_batch _ _⟩
  · rw [List.foldl_append, readTurn_batch hvalue, ← hturn]
    simp [GameScene.whichTurn, GameScene.sendSnapshot]
  · obtain ⟨msgs, hmsgs, hendturn⟩ := exists_underway hr hc hfits.sent
    refine ⟨msgs ++ unitMsgs r.scene.begun, ?_, ?_, ?_⟩
    · rw [List.filter_append, filter_isUnit_batch, ← List.append_assoc, hmsgs, List.map_append]
    · rw [List.mem_append, not_or]
      refine ⟨hendturn, ?_⟩
      simp [unitMsgs, Msg.ofUnit]
    · intro board
      rw [List.foldl_append, foldl_unitMsgs]
      rfl

end Survivor

section Steps

variable {clicks : Bool} {r c r' c' : Conn}

theorem readies_told (hr : r'.scene = r.scene) {packets : List CustomPacket}
    (hdown : r'.down = r.down ++ packets) (hpackets : "ready" ∉ types packets) :
    r'.readies = r.readies := by
  rw [readies, readies, inbox, inbox, hr, hdown, ← List.append_assoc, types_append,
    List.count_append, List.count_eq_zero.mpr hpackets]
  rfl

theorem Steady.told (h : Steady r) (hr : r'.scene = r.scene) {packets : List CustomPacket}
    (hdown : r'.down = r.down ++ packets) (hpackets : "unit" ∉ types packets) : Steady r' := by
  rw [Steady, hr]
  refine h.imp_right ?_
  intro hall m hm
  apply hall m
  rw [inbox, hr, hdown, ← List.append_assoc, ← List.append_assoc, List.mem_append] at hm
  rcases hm with hm | hm
  · rw [inbox, ← List.append_assoc]
    exact hm
  · exact absurd (mem_types.mpr ⟨m.packet, hm, Msg.packet_type m⟩) hpackets

theorem Shut.told (h : Shut r) (hr : r'.scene = r.scene) {packets : List CustomPacket}
    (hdown : r'.down = r.down ++ packets) (hpackets : "reconnect" ∉ types packets) : Shut r' := by
  refine ⟨by rw [hr]; exact h.reconnecting, ?_⟩
  intro packet hpacket
  rw [Conn.inbox, hr, hdown, ← List.append_assoc, List.mem_append] at hpacket
  rcases hpacket with hpacket | hpacket
  · exact h.inbox packet hpacket
  · apply completes_of_type
    intro htype
    exact hpackets (mem_types.mpr ⟨packet, hpacket, htype⟩)

/-- What the server relays from a newcomer is chat. -/
theorem relayed_types (hsilent : c.outbox = []) {packets : List CustomPacket}
    (hpackets : ∀ packet ∈ packets, packet ∈ c.unhandled ∧
      Server.isForwarded packet.type = true) {type : String} (htype : type ≠ "chat") :
    type ∉ types packets := by
  intro hmem
  obtain ⟨packet, hpacket, rfl⟩ := mem_types.mp hmem
  obtain ⟨hwritten, hforward⟩ := hpackets packet hpacket
  rw [isForwarded_eq, Bool.or_eq_true, decide_eq_true_eq] at hforward
  have hgame := hforward.resolve_left htype
  have hout : packet ∈ c.outbox := List.mem_filter.mpr ⟨hwritten, hgame⟩
  rw [hsilent] at hout
  cases hout

theorem completed_types (n : Nat) {type : String} (htype : type ≠ "reconnect") :
    type ∉ types (List.replicate n Server.completedPacket) := by
  intro hmem
  obtain ⟨packet, hpacket, rfl⟩ := mem_types.mp hmem
  rw [List.eq_of_mem_replicate hpacket] at htype
  exact htype rfl

theorem Resync.left (h : Resync r c) (hr : Proper r) (hc : Proper c)
    (hfits : r.scene.sendsSnapshot = true → SnapshotFits r c) (hdeed : Deed clicks r r') :
    Resync r' c := by
  refine ⟨h.pending.left hdeed, (readies_le hdeed).trans h.ready, ?_⟩
  have hadopt := h.pending.noLeftover.not_adopts
  rcases h.stage with hunsent | ⟨hshut, hsteady, hready, hsnapshot⟩
  · have hquietly {packets : List CustomPacket} (hflow : r'.flow c = r.flow c ++ packets)
        (hpackets : "update_complete" ∉ types packets) : Unsent r' c := by
      refine ⟨?_, hunsent.updateComplete, hunsent.resumes⟩
      rw [hflow, types_append, List.mem_append, not_or]
      exact ⟨hunsent.flow, hpackets⟩
    rcases hdeed.sends_or with ⟨packets, houtbox, hpackets⟩ | ⟨hsend, gameTurn, hturn, rfl⟩
    · left
      apply hquietly (flow_left hdeed houtbox)
      split
      · exact hpackets
      · simp
    · have hunready := h.pending.unready
      have hflags := hsend
      simp only [GameScene.sendsSnapshot, Bool.and_eq_true] at hflags
      rw [hflags.2] at hunready
      have hshut : Shut r := ⟨hflags.1.1, hunready.not_completes⟩
      cases hreaches : r.reaches c with
      | false =>
          left
          obtain ⟨packets, houtbox, -⟩ := hdeed.outbox
          have hflow := @flow_left clicks r _ c hdeed packets houtbox
          rw [hreaches] at hflow
          exact hquietly hflow (by simp)
      | true =>
          right
          have hquiet : clicks = true → r.scene.isOpen = false := fun _ => not_isOpen hshut.closed
          have hsteady := steady_of_unchanging (hfits hsend).received
          exact ⟨hshut.deed hdeed, (hdeed.steady hr hquiet hadopt hsteady).2.2,
            readies_send h.ready hsend gameTurn,
            hunsent.send hr hc (hfits hsend) hreaches hturn hsend⟩
  · right
    have hquiet : clicks = true → r.scene.isOpen = false := fun _ => not_isOpen hshut.closed
    obtain ⟨hturn, hboard, hsteady'⟩ := hdeed.steady hr hquiet hadopt hsteady
    refine ⟨hshut.deed hdeed, hsteady', ?_, ?_⟩
    · have hle := readies_le hdeed
      omega
    · apply hsnapshot.congr hturn hboard _ rfl fun _ => id
      obtain ⟨packets, houtbox, hcases⟩ := hdeed.outbox
      rw [flow_left hdeed houtbox]
      rcases hcases with rfl | ⟨hsends, -⟩ | ⟨hclicks, hopen, -⟩
      · simp
      · exact absurd ((not_sends_of_readies hready).symm.trans hsends) (by simp)
      · exact absurd ((hquiet hclicks).symm.trans hopen) (by simp)

theorem Resync.right (h : Resync r c) (hc : Proper c) (hsend : c.scene.sendsSnapshot = false)
    (hdeed : Deed clicks c c') : Resync r c' := by
  refine ⟨h.pending.right hsend hdeed, h.ready, ?_⟩
  rcases h.stage with hunsent | ⟨hshut, hsteady, hready, hsnapshot⟩
  · exact Or.inl (hunsent.right hdeed)
  · exact Or.inr ⟨hshut, hsteady, hready, hsnapshot.right hc h.pending.closed hdeed⟩

theorem Resync.servedLeft (h : Resync r c) (hserve : Serve r c r' c') : Resync r' c' := by
  have hserved := hserve.served
  have hdown : r'.down = r.down ++ [] := by
    rcases hserve.told with ⟨hdown, -⟩ | ⟨hresumes, -⟩
    · rw [hdown, List.append_nil]
    · exact absurd hresumes h.pending.noLeftover.resumes
  have hready := readies_told hserved.sceneX hdown (by simp)
  refine ⟨h.pending.servedLeft hserve, by rw [hready]; exact h.ready, ?_⟩
  rcases h.stage with hunsent | ⟨hshut, hsteady, hnone, hsnapshot⟩
  · left
    apply hunsent.served hserved.flow hserved.sceneY
    rw [hserved.unhandledY]
    exact fun _ => id
  · right
    refine ⟨hshut.told hserved.sceneX hdown (by simp), hsteady.told hserved.sceneX hdown (by simp),
      hready.trans hnone, ?_⟩
    apply hsnapshot.congr _ _ hserved.flow hserved.sceneY
    · rw [hserved.unhandledY]
      exact fun _ => id
    · rw [hserved.sceneX]
    · rw [hserved.sceneX]

theorem Resync.servedRight (h : Resync r c) (hserve : Serve c r c' r') :
    Resync r' c' ∨ Server.completedPacket ∈ c'.sent := by
  have hserved := hserve.served
  have hhandled := mem_unhandled_of_handled hserved.handled
  rcases h.pending.servedRight hserve with hpending | hcompleted
  · rcases hserve.told with ⟨-, packets, hdown, hpackets⟩ | ⟨-, m, n, hdownC, -, htold, -⟩
    · left
      have htypes {type : String} (htype : type ≠ "chat") : type ∉ types packets :=
        relayed_types h.pending.silent hpackets htype
      have hready := readies_told hserved.sceneY hdown (htypes (by simp))
      refine ⟨hpending, by rw [hready]; exact h.ready, ?_⟩
      rcases h.stage with hunsent | ⟨hshut, hsteady, hnone, hsnapshot⟩
      · exact Or.inl (hunsent.served hserved.back hserved.sceneX hhandled)
      · right
        refine ⟨hshut.told hserved.sceneY hdown (htypes (by simp)),
          hsteady.told hserved.sceneY hdown (htypes (by simp)), hready.trans hnone, ?_⟩
        apply hsnapshot.congr _ _ hserved.back hserved.sceneX hhandled
        · rw [hserved.sceneY]
        · rw [hserved.sceneY]
    · right
      rw [sent_append hserved.sceneX hserved.dispatchedX hdownC]
      apply List.mem_append_right
      exact List.mem_replicate.mpr ⟨htold h.pending.mapped, rfl⟩
  · exact Or.inr hcompleted

theorem Resync.step (h : Resync r c) (horigins : Origins r c)
    (hfits : r.scene.sendsSnapshot = true → SnapshotFits r c)
    (hstep : PairStep clicks r c r' c') : Resync r' c' ∨ Server.completedPacket ∈ c'.sent := by
  cases hstep with
  | left _ hlocal =>
      exact Or.inl (h.left horigins.properA horigins.properB hfits
        (hlocal.deed horigins.properA.writes))
  | right _ hlocal =>
      have hsend := horigins.properB.not_sendsSnapshot horigins.younger
      exact Or.inl (h.right horigins.properB hsend (hlocal.deed horigins.properB.writes))
  | serveLeft _ _ hserve => exact Or.inl (h.servedLeft hserve)
  | serveRight _ _ hserve => exact h.servedRight hserve

/-- A `resume` shows that the snapshot has been adopted. -/
theorem Resync.resynced (h : Resync r c) (hresumes : c.resumes) : Resynced r c := by
  rcases h.stage with hunsent | ⟨-, hsteady, hready, hsnapshot⟩
  · exact absurd hresumes hunsent.resumes
  · cases hsnapshot with
    | coming _ _ _ _ _ hnone => exact absurd hresumes hnone
    | arrived _ _ _ hnone => exact absurd hresumes hnone
    | adopted hsync => exact ⟨h.pending.noLeftover, hready, h.pending.silent, hsteady, hsync⟩

/-- From then on nothing but a click parts the two. -/
theorem Resynced.step (h : Resynced r c) (horigins : Origins r c)
    (hstep : PairStep false r c r' c') : Resynced r' c' := by
  have hquiet (scene : GameScene) : false = true → scene.isOpen = false := fun hfalse => by
    cases hfalse
  cases hstep with
  | left _ hlocal =>
      have hdeed := hlocal.deed horigins.properA.writes
      obtain ⟨hturn, hboard, hsteady⟩ := hdeed.steady horigins.properA (hquiet _)
        h.noLeftover.not_adopts h.steady
      refine ⟨h.noLeftover.deed hdeed, ?_, h.silent, hsteady, ?_⟩
      · have hle := readies_le hdeed
        have hready := h.ready
        omega
      · apply h.sync.congr hturn hboard _ rfl
        obtain ⟨packets, houtbox, hcases⟩ := hdeed.outbox
        rw [flow_left hdeed houtbox]
        rcases hcases with rfl | ⟨hsends, -⟩ | ⟨hclicks, -⟩
        · simp
        · exact absurd ((not_sends_of_readies h.ready).symm.trans hsends) (by simp)
        · cases hclicks
  | right _ hlocal =>
      have hdeed := hlocal.deed horigins.properB.writes
      have hsend := horigins.properB.not_sendsSnapshot horigins.younger
      refine ⟨h.noLeftover, h.ready, ?_, h.steady,
        h.sync.right horigins.properB (hquiet _) hdeed⟩
      obtain ⟨packets, houtbox, hcases⟩ := hdeed.outbox
      rw [houtbox, h.silent, List.nil_append]
      rcases hcases with rfl | ⟨hsends, -⟩ | ⟨hclicks, -⟩
      · rfl
      · exact absurd (hsend.symm.trans hsends) (by simp)
      · cases hclicks
  | serveLeft _ _ hserve =>
      have hserved := hserve.served
      have hdown : r'.down = r.down ++ [] := by
        rcases hserve.told with ⟨hdown, -⟩ | ⟨hresumes, -⟩
        · rw [hdown, List.append_nil]
        · exact absurd hresumes h.noLeftover.resumes
      refine ⟨h.noLeftover.served hserved, ?_, ?_, h.steady.told hserved.sceneX hdown (by simp), ?_⟩
      · rw [readies_told hserved.sceneX hdown (by simp)]
        exact h.ready
      · rw [outbox, hserved.unhandledY]
        exact h.silent
      · apply h.sync.congr _ _ hserved.flow hserved.sceneY
        · rw [hserved.sceneX]
        · rw [hserved.sceneX]
  | serveRight _ _ hserve =>
      have hserved := hserve.served
      have htold : ∃ packets, r'.down = r.down ++ packets ∧ "ready" ∉ types packets ∧
          "unit" ∉ types packets := by
        rcases hserve.told with ⟨-, packets, hdown, hpackets⟩ | ⟨-, m, n, -, hdown, -⟩
        · exact ⟨packets, hdown, relayed_types h.silent hpackets (by simp),
            relayed_types h.silent hpackets (by simp)⟩
        · exact ⟨_, hdown, completed_types n (by simp), completed_types n (by simp)⟩
      obtain ⟨packets, hdown, hready, hunit⟩ := htold
      refine ⟨h.noLeftover.servedY (by simp [h.silent]) hserved, ?_, hserved.silent h.silent,
        h.steady.told hserved.sceneY hdown hunit, ?_⟩
      · rw [readies_told hserved.sceneY hdown hready]
        exact h.ready
      · apply h.sync.congr _ _ hserved.back hserved.sceneX
        · rw [hserved.sceneY]
        · rw [hserved.sceneY]

end Steps

end Conn

/-- A reachable state in which the server has started a game and neither of
the two clients has left. -/
structure Underway (system : System) (a b : Conn) : Prop where
  run : ∃ events, exec System.step System.initial events = some system
  conns : system.conns = [a, b]
  started : Server.startPacket ∈ b.sent

/-- Wherever the survivor can send its snapshot, the snapshot fits. -/
def System.SnapshotFits (system : System) : Prop :=
  ∀ r c, system.conns = [r, c] → r.scene.sendsSnapshot = true → r.SnapshotFits c

instance (system : System) : Decidable system.SnapshotFits :=
  match hconns : system.conns with
  | [r, c] =>
      decidable_of_iff (r.scene.sendsSnapshot = true → r.SnapshotFits c)
        (by simp [System.SnapshotFits, hconns])
  | [] => .isTrue (by simp [System.SnapshotFits, hconns])
  | [_] => .isTrue (by simp [System.SnapshotFits, hconns])
  | _ :: _ :: _ :: _ => .isTrue (by simp [System.SnapshotFits, hconns])

namespace Conn

/-- A client that has been left alone in its first game. -/
structure Waiting (r : Conn) : Prop where
  noLeftover : NoLeftover r
  ready : r.readies = 0
  noEnd : ∀ packet ∈ r.inbox, completes packet = false
  unsent : "update_complete" ∉ types r.outbox

section Phases

theorem Side.inbox_type {label : PlayerTurn} {x : Conn} (h : Side label x) :
    ∀ packet ∈ x.inbox, packet.type ∈ ["chat", "unit", "init", "start"] := by
  intro packet hpacket
  rcases h.inbox packet hpacket with hplain | rfl | rfl
  · rcases hplain.type with htype | htype <;> simp [htype]
  · simp [Server.initPacket]
  · simp [Server.startPacket]

theorem Side.not_mem_inbox {label : PlayerTurn} {x : Conn} (h : Side label x) {type : String}
    (htype : type ∉ ["chat", "unit", "init", "start"]) : type ∉ types x.inbox := by
  intro hmem
  obtain ⟨packet, hpacket, rfl⟩ := mem_types.mp hmem
  exact htype (h.inbox_type packet hpacket)

theorem Side.readyToSend {clicks : Bool} {label : PlayerTurn} {x x' : Conn} (h : Side label x)
    (hready : x.scene.client.readyToSend = false) (hdeed : Deed clicks x x') :
    x'.scene.client.readyToSend = false := by
  rcases hdeed.inbox_cases with ⟨packet, rest, -, hread, -, hinbox⟩ | ⟨-, -, -, -, hsame, -⟩
  · have htype := h.inbox_type packet (by simp [hinbox])
    rw [hread.readyToSend_eq, hready]
    have hnot : packet.type ≠ "ready" := by
      intro hpacket
      simp [hpacket] at htype
    simp [hnot]
  · rcases hsame with hsame | ⟨-, hsame⟩
    · exact hsame.trans hready
    · exact hsame

/-- The game before anybody leaves. -/
structure Playing (other : PlayerTurn) (a b : Conn) : Prop where
  origins : Origins a b
  duel : Duel .player1 other a b
  readyA : a.scene.client.readyToSend = false
  readyB : b.scene.client.readyToSend = false

/-- A client is only ready once it has been told so. -/
def Readied (x : Conn) : Prop :=
  x.scene.client.readyToSend = true → "ready" ∈ types x.dispatched

theorem Readied.deed {clicks : Bool} {x x' : Conn} (h : Readied x) (hdeed : Deed clicks x x') :
    Readied x' := by
  intro hready
  rcases hdeed.inbox_cases with ⟨packet, rest, hqueue, hread, hx', hinbox⟩ |
    ⟨hinbox, -, -, -, hsame, -⟩
  · rw [hread.readyToSend_eq, Bool.or_eq_true, decide_eq_true_eq] at hready
    rw [hx']
    simp only [types_append, List.mem_append]
    rcases hready with hready | htype
    · exact Or.inl (h hready)
    · right
      simp [htype]
  · have hold : x.scene.client.readyToSend = true := by
      rcases hsame with hsame | ⟨-, hsame⟩
      · rw [← hsame]
        exact hready
      · rw [hsame] at hready
        cases hready
    have hmem := h hold
    cases hdeed with
    | same _ hsame => rwa [hsame.dispatched]
    | reads =>
        simp only [types_append, List.mem_append]
        exact Or.inl hmem
    | draws => exact hmem
    | ends => exact hmem
    | moves => exact hmem

theorem Readied.congr {x x' : Conn} (h : Readied x) (hscene : x'.scene = x.scene)
    (hdispatched : x'.dispatched = x.dispatched) : Readied x' := by
  rw [Readied, hscene, hdispatched]
  exact h

theorem Playing.step {clicks : Bool} {other : PlayerTurn} (hother : other ≠ .none)
    {a b a' b' : Conn} (h : Playing other a b) (hstep : PairStep clicks a b a' b') :
    Playing other a' b' := by
  refine ⟨h.origins.step hstep, h.duel.step (by simp) hother hstep, ?_, ?_⟩
  · cases hstep with
    | left _ hlocal =>
        exact h.duel.sideX.readyToSend h.readyA (hlocal.deed h.origins.properA.writes)
    | right => exact h.readyA
    | serveLeft _ _ hserve =>
        rw [hserve.served.sceneX]
        exact h.readyA
    | serveRight _ _ hserve =>
        rw [hserve.served.sceneY]
        exact h.readyA
  · cases hstep with
    | left => exact h.readyB
    | right _ hlocal =>
        exact h.duel.sideY.readyToSend h.readyB (hlocal.deed h.origins.properB.writes)
    | serveLeft _ _ hserve =>
        rw [hserve.served.sceneY]
        exact h.readyB
    | serveRight _ _ hserve =>
        rw [hserve.served.sceneX]
        exact h.readyB

/-- The first game of a session is a game that nobody has joined late. -/
structure Started (a b : Conn) : Prop where
  origins : Origins a b
  readiedA : Readied a
  readiedB : Readied b
  stage : (∃ other, other ≠ .none ∧ Playing other a b) ∨ Server.startPacket ∉ b.sent

theorem Readied.step {clicks : Bool} {a b a' b' : Conn} (horigins : Origins a b)
    (ha : Readied a) (hb : Readied b) (hstep : PairStep clicks a b a' b') :
    Readied a' ∧ Readied b' := by
  cases hstep with
  | left _ hlocal => exact ⟨ha.deed (hlocal.deed horigins.properA.writes), hb⟩
  | right _ hlocal => exact ⟨ha, hb.deed (hlocal.deed horigins.properB.writes)⟩
  | serveLeft _ _ hserve =>
      have hserved := hserve.served
      exact ⟨ha.congr hserved.sceneX hserved.dispatchedX,
        hb.congr hserved.sceneY hserved.dispatchedY⟩
  | serveRight _ _ hserve =>
      have hserved := hserve.served
      exact ⟨ha.congr hserved.sceneY hserved.dispatchedY,
        hb.congr hserved.sceneX hserved.dispatchedX⟩

theorem started_invariant : System.ConnsInvariant (fun _ _ => True)
    (fun x => (Proper x ∧ Entitled x) ∧ Readied x) Started := by
  have horigins := origins_invariant
  have hfresh (uid : Nat) (blank : Sprite) (packets : List CustomPacket) :
      Readied { fresh uid blank with down := packets } := fun hready => by cases hready
  refine ⟨?_, ?_, ?_, ?_, ?_, ?_⟩
  · intro uid blank
    exact ⟨horigins.lobby uid blank, hfresh uid blank _⟩
  · rintro nextUid x blank other hother huid hlobby ⟨hsolo, hready⟩
    have hstart := horigins.start nextUid x blank other hother huid hlobby hsolo
    refine ⟨hstart, hready, hfresh nextUid blank _, Or.inl ⟨other, hother, ?_⟩⟩
    refine ⟨hstart, hlobby.duel blank, ?_, rfl⟩
    by_contra hflag
    have hmem := hready (by simpa using hflag)
    have hsent := hlobby.sent
    rw [sent_eq] at hsent
    have hinit : "ready" ∈ types (x.dispatched ++ x.inbox) := by
      rw [types_append]
      exact List.mem_append_left _ hmem
    rw [hsent] at hinit
    simp [Server.initPacket] at hinit
  · rintro clicks x x' ⟨hsolo, hready⟩ hstep
    refine ⟨horigins.solo clicks x x' hsolo hstep, ?_⟩
    cases hstep with
    | self _ hlocal => exact hready.deed (hlocal.deed hsolo.1.writes)
    | serve => exact hready
  · intro clicks a b a' b' h hstep
    obtain ⟨hreadyA, hreadyB⟩ := Readied.step h.origins h.readiedA h.readiedB hstep
    refine ⟨h.origins.step hstep, hreadyA, hreadyB, ?_⟩
    rcases h.stage with ⟨other, hother, hplaying⟩ | hstart
    · exact Or.inl ⟨other, hother, hplaying.step hother hstep⟩
    · exact Or.inr (System.start_not_mem_pair hstart hstep)
  · intro a b h
    have hleave := horigins.leave a b h.origins
    exact ⟨⟨hleave.1, h.readiedA⟩, ⟨hleave.2, h.readiedB⟩⟩
  · rintro uid x blank _ ⟨hsolo, hready⟩
    refine ⟨horigins.join uid x blank trivial hsolo, hready, hfresh uid blank _, Or.inr ?_⟩
    simp [sent, newcomer, fresh, GameScene.create, ClientComponent.fresh, Server.startPacket,
      Server.reconPacket]

/-- Whoever is left of an undisturbed game. -/
theorem Side.waiting {label : PlayerTurn} {x : Conn} (h : Side label x)
    (hready : x.scene.client.readyToSend = false) : Waiting x.leftAlone := by
  have htold : ∀ packet ∈ (if x.inPeerMap then [Server.dataSenderPacket] else []),
      packet.type = "data_sender" := by
    intro packet hpacket
    split at hpacket
    · rw [List.mem_singleton.mp hpacket]
      rfl
    · cases hpacket
  have hinbox : x.leftAlone.inbox =
      x.inbox ++ if x.inPeerMap then [Server.dataSenderPacket] else [] := by
    simp [Conn.inbox, leftAlone]
  have hnone {type : String} (htype : type ∉ ["chat", "unit", "init", "start"])
      (hsender : type ≠ "data_sender") : type ∉ types x.leftAlone.inbox := by
    rw [hinbox, types_append, List.mem_append, not_or]
    refine ⟨h.not_mem_inbox htype, ?_⟩
    intro hmem
    obtain ⟨packet, hpacket, rfl⟩ := mem_types.mp hmem
    exact hsender (htold packet hpacket)
  refine ⟨⟨h.not_resumes, h.notUpdated, hnone (by simp) (by simp)⟩, ?_, ?_, ?_⟩
  · rw [readies, List.count_eq_zero.mpr (hnone (by simp) (by simp))]
    change x.scene.client.readyToSend.toNat + 0 = 0
    rw [hready]
    rfl
  · intro packet hpacket
    apply completes_of_type
    intro htype
    exact hnone (by simp) (by simp) (mem_types.mpr ⟨packet, hpacket, htype⟩)
  · intro hmem
    obtain ⟨packet, hpacket, htype⟩ := mem_types.mp hmem
    rcases (h.unhandled packet (List.mem_of_mem_filter hpacket)).type with hplain | hplain <;>
      simp [hplain] at htype

theorem Waiting.soloStep {clicks : Bool} {r r' : Conn} (h : Waiting r) (hproper : Proper r)
    (hstep : r.SoloStep clicks r') : Waiting r' := by
  cases hstep with
  | self _ hlocal =>
      have hdeed := hlocal.deed hproper.writes
      refine ⟨h.noLeftover.deed hdeed, ?_, ?_, ?_⟩
      · have hle := readies_le hdeed
        have hready := h.ready
        omega
      · intro packet hpacket
        rcases hdeed.inbox_cases with ⟨first, rest, -, -, -, hinbox⟩ | ⟨hinbox, -⟩
        · exact h.noEnd packet (by simp [hinbox, hpacket])
        · exact h.noEnd packet (hinbox ▸ hpacket)
      · rcases hdeed.sends_or with ⟨packets, houtbox, hpackets⟩ | ⟨hsends, -⟩
        · rw [houtbox, types_append, List.mem_append, not_or]
          exact ⟨h.unsent, hpackets⟩
        · exact absurd ((not_sends_of_readies h.ready).symm.trans hsends) (by simp)
  | serve msg rest hup m hcompleted =>
      have hunhandled : r.unhandled = msg :: (rest ++ r.scene.client.sendingQueue) := by
        simp [unhandled, hup]
      have hresumes := h.noLeftover.resumes
      rw [hunhandled, types_cons, List.mem_cons, not_or] at hresumes
      obtain rfl := hcompleted (Ne.symm hresumes.1)
      have hunsent := h.unsent
      rw [outbox, hunhandled, List.filter_cons] at hunsent
      have hinbox : inbox { r with
          up := rest
          down := r.down ++ List.replicate 0 Server.completedPacket } = r.inbox := by
        simp [inbox]
      refine ⟨⟨hresumes.2, h.noLeftover.updateComplete, ?_⟩, ?_, ?_, ?_⟩
      · rw [hinbox]
        exact h.noLeftover.inbox
      · rw [readies, hinbox]
        exact h.ready
      · rw [hinbox]
        exact h.noEnd
      · intro hmem
        apply hunsent
        split
        · exact List.mem_cons_of_mem _ hmem
        · exact hmem

theorem Waiting.clear {r : Conn} (h : Waiting r) : ClearAtJoin r := by
  refine ⟨h.noLeftover, ?_, Or.inl h.unsent⟩
  have hnone : Unready r.scene.client.readyToSend ([] ++ r.inbox) :=
    Unready.append trivial h.noEnd
  exact hnone

theorem Waiting.resync {r : Conn} (h : Waiting r) (uid : Nat) (blank : Sprite) :
    Resync (r.joinedBy uid) (newcomer uid blank) := by
  have hpending := h.clear.pending uid blank
  refine ⟨hpending, ?_, ?_⟩
  · have hready := h.ready
    rw [readies] at hready
    rw [readies]
    change r.scene.client.readyToSend.toNat + _ ≤ 1
    rcases joinedBy_inbox uid r with hinbox | hinbox
    · rw [hinbox]
      omega
    · have hone : (types [Server.readyPacket]).count "ready" ≤ 1 := List.count_le_length
      rw [hinbox, types_append, List.count_append]
      omega
  · left
    refine ⟨?_, rfl, ?_⟩
    · rw [flow_newcomer]
      split
      · exact h.unsent
      · simp
    · intro hresumes
      cases hresumes

theorem Resynced.agree {r c : Conn} (h : Resynced r c) :
    r.scene.playerTurn = c.scene.playerTurn ∧
      ∀ ref, SameUnit (r.scene.units.get ref) (c.scene.units.get ref) := by
  refine ⟨h.sync.turn.symm, ?_⟩
  intro ref
  apply sameUnit_of_view
  have hview := congrArg (fun board => Roster.get board ref) h.sync.board
  simpa [GameScene.board] using hview.symm

end Phases

end Conn

theorem Underway.playing {system : System} {a b : Conn} (h : Underway system a b) :
    system.server.gameActive = true ∧ ∃ other, other ≠ .none ∧ Conn.Playing other a b := by
  obtain ⟨⟨events, hrun⟩, hconns, hstarted⟩ := h
  have hinvariant :=
    System.conns_invariant Conn.started_invariant hrun (System.joinMeets_true events)
  rw [hconns] at hinvariant
  refine ⟨?_, hinvariant.stage.resolve_right fun hnone => hnone hstarted⟩
  cases stage_exec hrun with
  | empty => cases hconns
  | waiting => cases hconns
  | alone => cases hconns
  | joined active => exact active
  | duel active => exact active

/-- One of the two players leaves and somebody connects in its place: what stays
is a client that has drained all that the leaver sent, and a newcomer. -/
theorem Underway.rejoined {start joined : System} {a₀ b₀ : Conn}
    {play alone : List SystemEvent} {leaver : Nat} {blank : Sprite}
    (h : Underway start a₀ b₀)
    (hplay : ∀ event ∈ play, event.stays = true) (halone : ∀ event ∈ alone, event.stays = true)
    (hjoined : exec System.step start
      (play ++ [.disconnect leaver] ++ alone ++ [.connect blank]) = some joined) :
    ∃ (r : Conn) (uid : Nat), joined.conns = [r.joinedBy uid, .newcomer uid blank] ∧
      (r.Proper ∧ r.Entitled) ∧ r.Waiting := by
  obtain ⟨active, other, hother, hplaying⟩ := h.playing
  obtain ⟨server, conns⟩ := start
  obtain rfl : conns = [a₀, b₀] := h.conns
  obtain ⟨waiting, hwaiting, hconnect⟩ := (exec_concat _ _ _ _).mp hjoined
  obtain ⟨left, hleft, hsolo⟩ := (exec_append _ _ _ _).mp hwaiting
  obtain ⟨played, hplayed, hdisconnect⟩ := (exec_concat _ _ _ _).mp hleft
  -- the game, until one of the two leaves
  obtain ⟨a₁, b₁, rfl, hplaying⟩ := System.pair_invariant
    (fun _ _ _ _ h (hstep : Conn.PairStep true _ _ _ _) => Conn.Playing.step hother h hstep)
    (fun event hevent => ⟨hplay event hevent, fun _ => rfl⟩) hplayed hplaying
  have hleave := Conn.origins_invariant.leave a₁ b₁ hplaying.origins
  have hremains : ∃ r, left = ⟨server, [r]⟩ ∧ (r.Proper ∧ r.Entitled) ∧ r.Waiting := by
    rcases System.step_disconnect_pair active hdisconnect with rfl | rfl
    · exact ⟨_, rfl, hleave.2, hplaying.duel.sideY.waiting hplaying.readyB⟩
    · exact ⟨_, rfl, hleave.1, hplaying.duel.sideX.waiting hplaying.readyA⟩
  obtain ⟨r, rfl, hremains⟩ := hremains
  -- the survivor alone
  obtain ⟨r', rfl, hremains'⟩ := System.solo_invariant
    (fun clicks x x' (h : (x.Proper ∧ x.Entitled) ∧ x.Waiting) hstep =>
      (⟨Conn.Proper.soloStep h.1 hstep, h.2.soloStep h.1.1 hstep⟩ :
        (x'.Proper ∧ x'.Entitled) ∧ x'.Waiting))
    halone hsolo hremains
  obtain rfl := System.step_connect_alone active hconnect
  exact ⟨r', server.componentNextUid, rfl, hremains'⟩

/-- The two agree after a reconnect: a game is played, one of the two players
leaves, somebody connects in its place and a `resume` of the newcomer is
handled, after which nobody clicks. The snapshot must fit. -/
theorem resynced_after_resume {start joined before next after : System} {a₀ b₀ a b x y : Conn}
    {play alone handover rest : List SystemEvent} {leaver index : Nat} {blank : Sprite}
    (hunderway : Underway start a₀ b₀)
    (hplay : ∀ event ∈ play, event.stays = true) (halone : ∀ event ∈ alone, event.stays = true)
    (hhandover : ∀ event ∈ handover, event.stays = true)
    (hjoined : exec System.step start
      (play ++ [.disconnect leaver] ++ alone ++ [.connect blank]) = some joined)
    (hrun : exec System.step joined handover = some before)
    (hfits : Along System.step (fun system _ => system.SnapshotFits) joined handover)
    (hconns : before.conns = [a, b]) (hfirst : Server.completedPacket ∉ b.sent)
    (hresume : before.resumeAt index) (hserve : before.step (.serve index) = some next)
    (hrest : exec System.step next rest = some after)
    (hstay : ∀ event ∈ rest, event.stays = true ∧ event.isClick = false)
    (hafter : after.conns = [x, y]) :
    x.scene.playerTurn = y.scene.playerTurn ∧
      ∀ ref, SameUnit (x.scene.units.get ref) (y.scene.units.get ref) := by
  obtain ⟨r, uid, hpair, hproper, hwaits⟩ := hunderway.rejoined hplay halone hjoined
  obtain ⟨server, conns⟩ := joined
  obtain rfl : conns = [r.joinedBy uid, .newcomer uid blank] := hpair
  -- the newcomer, until its `resume` is handled
  let I (r c : Conn) : Prop :=
    r.Origins c ∧ (r.Resync c ∨ Server.completedPacket ∈ c.sent)
  have hI : ∀ r c r' c', I r c → (r.scene.sendsSnapshot = true → r.SnapshotFits c) →
      Conn.PairStep true r c r' c' → I r' c' := by
    rintro r c r' c' ⟨horigins, hstage⟩ hfits hstep
    refine ⟨horigins.step hstep, ?_⟩
    rcases hstage with hresync | hcompleted
    · exact hresync.step horigins hfits hstep
    · exact Or.inr (Conn.completed_kept hcompleted hstep)
  have hjoin : I (r.joinedBy uid) (.newcomer uid blank) :=
    ⟨Conn.origins_invariant.join uid r blank trivial hproper, Or.inl (hwaits.resync uid blank)⟩
  obtain ⟨a', b', rfl, horigins, hstage⟩ := System.pair_invariant_along hI
    (fun event hevent => ⟨hhandover event hevent, fun _ => rfl⟩) hfits hrun hjoin
  have hsame : a' = a ∧ b' = b := by simpa using hconns
  obtain ⟨rfl, rfl⟩ := hsame
  have hresync := hstage.resolve_right hfirst
  have hsynced : Conn.Resynced a' b' :=
    hresync.resynced (hresume.resumes.resolve_left hresync.pending.noLeftover.resumes)
  -- and from then on
  let J (r c : Conn) : Prop := r.Origins c ∧ r.Resynced c
  have hJ : ∀ r c r' c', J r c → Conn.PairStep false r c r' c' → J r' c' := by
    rintro r c r' c' ⟨horigins, hsynced⟩ hstep
    exact ⟨horigins.step hstep, hsynced.step horigins hstep⟩
  obtain ⟨x', y', rfl, -, hfinal⟩ :=
    System.pair_invariant_serve hJ hserve hrest hstay ⟨horigins, hsynced⟩
  obtain ⟨rfl, rfl, -⟩ := by simpa using hafter
  exact hfinal.agree

section Runs

/-- The survivor sends its snapshot, and the newcomer acts on it. The survivor
writes `count` packets. -/
def handoverRun (count : Nat) : List SystemEvent :=
  arrive 0 2 ++ [.act 0 .frame] ++ relay 0 count ++ arrive 1 (count + 1) ++
    [.act 1 .frame, .act 1 .send]

/-- The second player leaves in the middle of the first one's turn. -/
theorem resynced_after_resume_moved : ∃ system a b,
    exec System.step System.initial (openingRun ++
      ([clickAt 0 100 200, clickAt 0 280 243] ++ [.disconnect 1] ++ [] ++ [.connect blankSprite] ++
        handoverRun 11 ++ [.serve 1] ++ answerRun)) = some system ∧
    system.conns = [a, b] ∧ a.scene.playerTurn = b.scene.playerTurn ∧
      ∀ ref, SameUnit (a.scene.units.get ref) (b.scene.units.get ref) := by
  obtain ⟨start, a₀, b₀, hstart, hconns₀, hcheck⟩ :=
    @exists_pair_of_check System.initial openingRun (fun start _ b₀ =>
      decide (Server.startPacket ∈ b₀.sent) &&
      (exec System.step start ([clickAt 0 100 200, clickAt 0 280 243] ++ [.disconnect 1] ++
        [] ++ [.connect blankSprite])).any fun joined =>
          decide (Along System.step (fun system _ => system.SnapshotFits) joined
            (handoverRun 11)) &&
          (exec System.step joined (handoverRun 11)).any fun before => before.onPair fun _ b =>
            decide (Server.completedPacket ∉ b.sent) &&
            (b.up.head?.any fun msg => msg.type = "resume") &&
            (before.step (.serve 1)).any fun next =>
              (exec System.step next answerRun).any fun after => after.conns.length = 2)
      (by decide +kernel)
  rw [Bool.and_eq_true, decide_eq_true_eq] at hcheck
  obtain ⟨hstarted, hcheck⟩ := hcheck
  obtain ⟨joined, hjoined, hcheck⟩ := (Option.any_eq_true _ _).mp hcheck
  rw [Bool.and_eq_true, decide_eq_true_eq] at hcheck
  obtain ⟨hfits, hcheck⟩ := hcheck
  obtain ⟨before, a, b, hbefore, hconns, hcheck⟩ :=
    @exists_pair_of_check joined (handoverRun 11) _ hcheck
  simp only [Bool.and_eq_true, decide_eq_true_eq] at hcheck
  obtain ⟨⟨hfirst, hresume⟩, hcheck⟩ := hcheck
  obtain ⟨msg, hup, htype⟩ := (Option.any_eq_true _ _).mp hresume
  obtain ⟨next, hserve, hcheck⟩ := (Option.any_eq_true _ _).mp hcheck
  obtain ⟨after, hafter, hlength⟩ := (Option.any_eq_true _ _).mp hcheck
  obtain ⟨x, y, hconns'⟩ := List.length_eq_two.mp (of_decide_eq_true hlength)
  have hrun : exec System.step start ([clickAt 0 100 200, clickAt 0 280 243] ++
      [.disconnect 1] ++ [] ++ [.connect blankSprite] ++ handoverRun 11) = some before :=
    (exec_append _ _ _ _).mpr ⟨joined, hjoined, hbefore⟩
  have hwhole := (exec_append _ _ _ _).mpr
    ⟨next, (exec_concat _ _ _ _).mpr ⟨before, hrun, hserve⟩, hafter⟩
  refine ⟨after, x, y, (exec_append _ _ _ _).mpr ⟨start, hstart, hwhole⟩, hconns', ?_⟩
  exact resynced_after_resume ⟨⟨openingRun, hstart⟩, hconns₀, hstarted⟩ (by decide) (by simp)
    (by decide) hjoined hbefore hfits hconns hfirst
    ⟨b, msg, by rw [hconns]; rfl, hup, of_decide_eq_true htype⟩ hserve hafter (by decide)
    hconns'

/-- The first player ends its turn and the second one leaves before it hears of
it: the `endturn` reaches the newcomer ahead of the snapshot and is applied on
top of it, so that neither player owns the turn. -/
theorem not_resynced_after_endturn : ∃ start a₀ b₀ system x y,
    Underway start a₀ b₀ ∧
    exec System.step start ([clickAt 0 1200 650] ++ [.disconnect 1] ++ [] ++
      [.connect blankSprite] ++ handoverRun 12 ++ [.serve 1] ++ answerRun) = some system ∧
    system.conns = [x, y] ∧ Server.completedPacket ∈ x.dispatched ∧
    Server.completedPacket ∈ y.dispatched ∧ Settled x y ∧ x.step .frame = some x ∧
    y.step .frame = some y ∧ x.scene.playerTurn ≠ y.scene.playerTurn := by
  obtain ⟨start, a₀, b₀, hstart, hconns₀, hcheck⟩ :=
    @exists_pair_of_check System.initial openingRun (fun start _ b₀ =>
      decide (Server.startPacket ∈ b₀.sent) &&
      (exec System.step start ([clickAt 0 1200 650] ++ [.disconnect 1] ++ [] ++
        [.connect blankSprite] ++ handoverRun 12 ++ [.serve 1] ++ answerRun)).any fun system =>
          system.onPair fun x y => decide (Server.completedPacket ∈ x.dispatched ∧
            Server.completedPacket ∈ y.dispatched ∧ Settled x y ∧ x.step .frame = some x ∧
            y.step .frame = some y ∧ x.scene.playerTurn ≠ y.scene.playerTurn))
      (by decide +kernel)
  rw [Bool.and_eq_true, decide_eq_true_eq] at hcheck
  obtain ⟨hstarted, hcheck⟩ := hcheck
  obtain ⟨system, x, y, hsystem, hconns, hcheck⟩ :=
    @exists_pair_of_check start ([clickAt 0 1200 650] ++ [.disconnect 1] ++ [] ++
      [.connect blankSprite] ++ handoverRun 12 ++ [.serve 1] ++ answerRun) _ hcheck
  exact ⟨start, a₀, b₀, system, x, y, ⟨⟨openingRun, hstart⟩, hconns₀, hstarted⟩, hsystem, hconns,
    of_decide_eq_true hcheck⟩

end Runs

end NetworkingGame
