import NetworkingGame.Handover
import NetworkingGame.TurnSafety

/-!
The teams after a reconnect. The newcomer plays for the team that the last
`player` packet before its `update_complete` names; whether that is the team
that the survivor does not play for is decided when the newcomer connects.
-/

namespace NetworkingGame

open Library.Transition

namespace Conn

/-- The network thread keeps the last team that a `player` packet named. -/
def readPlayer (team : Int) (packet : CustomPacket) : Option Int :=
  if packet.type = "player" then (CustomPacket.toInt packet.msgText.toList).toOption
  else some team

/-- Every `player` packet names `team`, and there is one before each
`update_complete`, unless `team` was already named at the start. -/
def NamesTeam (team start : Int) (packets : List CustomPacket) : Prop :=
  Along readPlayer (fun named packet =>
    (packet.type = "update_complete" → named = team) ∧
      (packet.type = "player" → packet = GameScene.playerPacket team)) start packets

instance (team start : Int) (packets : List CustomPacket) :
    Decidable (NamesTeam team start packets) :=
  inferInstanceAs (Decidable (Along _ _ _ _))

/-- The survivor has no part of an earlier hand-over left to act on. -/
structure NoLeftover (survivor : Conn) : Prop where
  resumes : "resume" ∉ types survivor.unhandled
  updateComplete : survivor.scene.client.updateComplete = false
  inbox : "update_complete" ∉ types survivor.inbox

/-- The survivor plays for a team, and whatever snapshots it has written name
the other one. -/
structure TeamAtJoin (survivor : Conn) : Prop where
  team : survivor.scene.assignedTeam ≠ .none
  names : NamesTeam survivor.scene.opponentTeam (-1) survivor.outbox
  noLeftover : NoLeftover survivor

instance (survivor : Conn) : Decidable (NoLeftover survivor) :=
  decidable_of_iff ("resume" ∉ types survivor.unhandled ∧
    survivor.scene.client.updateComplete = false ∧ "update_complete" ∉ types survivor.inbox)
    ⟨fun h => ⟨h.1, h.2.1, h.2.2⟩, fun h => ⟨h.resumes, h.updateComplete, h.inbox⟩⟩

instance (survivor : Conn) : Decidable (TeamAtJoin survivor) :=
  decidable_of_iff (survivor.scene.assignedTeam ≠ .none ∧
    NamesTeam survivor.scene.opponentTeam (-1) survivor.outbox ∧ NoLeftover survivor)
    ⟨fun h => ⟨h.1, h.2.1, h.2.2⟩, fun h => ⟨h.team, h.names, h.noLeftover⟩⟩

/-- The survivor `r` and the newcomer `c`, from the moment `c` connects. -/
structure TeamHandover (r c : Conn) : Prop where
  team : r.scene.assignedTeam ≠ .none
  noLeftover : NoLeftover r
  names : NamesTeam r.scene.opponentTeam c.scene.client.assignedPlayer (r.flow c)
  named : c.scene.client.updateComplete = true →
    c.scene.client.assignedPlayer = r.scene.opponentTeam
  userID : c.scene.assignedTeam = .none → c.scene.client.userID = -1
  noInit : "init" ∉ types c.inbox
  joinerTeam : c.scene.assignedTeam = .none ∨
    c.scene.assignedTeam = GameScene.otherTurn r.scene.assignedTeam
  resumed : c.resumes → c.scene.assignedTeam ≠ .none

section NamesTeam

theorem namesTeam_nil (team start : Int) : NamesTeam team start [] := trivial

theorem namesTeam_append {team start : Int} {first second : List CustomPacket}
    (h : NamesTeam team start first) (hsecond : ∀ named, NamesTeam team named second) :
    NamesTeam team start (first ++ second) :=
  along_append.mpr ⟨h, fun named _ => hsecond named⟩

theorem namesTeam_of_not_mem {team start : Int} {packets : List CustomPacket}
    (hcomplete : "update_complete" ∉ types packets) (hplayer : "player" ∉ types packets) :
    NamesTeam team start packets := by
  induction packets generalizing start with
  | nil => trivial
  | cons packet packets ih =>
      simp only [types_cons, List.mem_cons, not_or] at hcomplete hplayer
      exact ⟨⟨fun htype => absurd htype.symm hcomplete.1,
        fun htype => absurd htype.symm hplayer.1⟩, fun named _ => ih hcomplete.2 hplayer.2⟩

theorem readPlayer_playerPacket {team start : Int} (h : team = 1 ∨ team = 2) :
    readPlayer start (GameScene.playerPacket team) = some team := by
  have htype : (GameScene.playerPacket team).type = "player" := rfl
  rw [readPlayer, if_pos htype, GameScene.playerPacket, toInt_small h]
  rfl

/-- A snapshot names the team of the opponent first of all. -/
theorem namesTeam_snapshot (scene : GameScene) (gameTurn start : Int) :
    NamesTeam scene.opponentTeam start (scene.snapshot gameTurn) := by
  have hopponent := opponentTeam_cases scene
  have hkeep (packets : List CustomPacket) (h : "player" ∉ types packets) (named : Int) :
      exec readPlayer named packets = some named := by
    induction packets with
    | nil => rfl
    | cons packet packets ih =>
        simp only [types_cons, List.mem_cons, not_or] at h
        rw [exec_cons]
        exact ⟨named, by rw [readPlayer, if_neg (Ne.symm h.1)], ih h.2⟩
  have hunits : "player" ∉ types (GameScene.turnPacket gameTurn ::
      (unitMsgs scene).map Msg.packet) := by
    intro hmem
    rw [types_cons, List.mem_cons] at hmem
    rcases hmem with h | h
    · simp [GameScene.turnPacket] at h
    · exact not_mem_types_packets _ (by simp) h
  have hbatch := types_batch scene gameTurn
  rw [snapshot_eq]
  rw [batch] at hbatch ⊢
  rw [types_cons, List.mem_cons, not_or] at hbatch
  rw [List.cons_append]
  refine ⟨⟨?_, fun _ => rfl⟩, ?_⟩
  · intro htype
    exact absurd htype.symm hbatch.1
  · intro first hfirst
    obtain rfl := Option.some.inj ((readPlayer_playerPacket hopponent).symm.trans hfirst)
    apply along_concat.mpr
    refine ⟨namesTeam_of_not_mem hbatch.2 hunits, ?_⟩
    intro named hnamed
    rw [hkeep _ hunits] at hnamed
    refine ⟨fun _ => (Option.some.inj hnamed).symm, ?_⟩
    intro htype
    simp [GameScene.updateCompletePacket] at htype

theorem readPlayer_processed {client after : ClientComponent} {packet : CustomPacket}
    (h : client.Processed packet after) :
    readPlayer client.assignedPlayer packet = some after.assignedPlayer := by
  have hvalue := h.assignedPlayer_eq
  unfold readPlayer
  split
  · rename_i htype
    rw [if_pos htype] at hvalue
    rw [hvalue]
    rfl
  · rename_i htype
    rw [if_neg htype] at hvalue
    rw [hvalue]

end NamesTeam

section Survivor

theorem types_snapshot_resume (scene : GameScene) (gameTurn : Int) :
    "resume" ∉ types (scene.snapshot gameTurn) := by
  intro hmem
  rw [snapshot_eq, types_append, List.mem_append, batch] at hmem
  simp only [types_cons, List.mem_cons, types_nil, List.not_mem_nil, or_false] at hmem
  rcases hmem with (h | h | h) | h
  · simp [GameScene.playerPacket] at h
  · simp [GameScene.turnPacket] at h
  · exact not_mem_types_packets _ (by simp) h
  · simp [GameScene.updateCompletePacket] at h

theorem NoLeftover.not_adopts {r : Conn} (h : NoLeftover r) : r.scene.adoptsSnapshot = false := by
  simp [GameScene.adoptsSnapshot, h.updateComplete]

/-- A survivor without leftovers does not come by any on its own. -/
theorem NoLeftover.deed {clicks : Bool} {r r' : Conn} (h : NoLeftover r)
    (hdeed : Deed clicks r r') : NoLeftover r' := by
  have hwrote {scene : GameScene} {packets : List CustomPacket}
      (hsending : scene.client.sendingQueue = r.scene.client.sendingQueue ++ packets)
      (hpackets : "resume" ∉ types packets)
      (hcomplete : scene.client.updateComplete = r.scene.client.updateComplete)
      (hreceived : scene.client.recievedQueue = r.scene.client.recievedQueue) :
      NoLeftover { r with scene := scene } := by
    refine ⟨?_, hcomplete.trans h.updateComplete, ?_⟩
    · have hunhandled : unhandled { r with scene := scene } = r.unhandled ++ packets := by
        simp [unhandled, hsending]
      rw [hunhandled, types_append, List.mem_append, not_or]
      exact ⟨h.resumes, hpackets⟩
    · simpa [Conn.inbox, hreceived] using h.inbox
  cases hdeed with
  | same _ hsame =>
      refine ⟨fun hmem => h.resumes (hsame.resumes.mp hmem), ?_, ?_⟩
      · exact (hsame.field fun s => s.client.updateComplete).trans h.updateComplete
      · rw [hsame.inbox]
        exact h.inbox
  | reads packet rest client hqueue hread =>
      have hreceived : client.recievedQueue = rest := hread.queues.1
      have hsending : client.sendingQueue = r.scene.client.sendingQueue := hread.queues.2
      have hinbox := h.inbox
      rw [Conn.inbox, hqueue, List.cons_append, types_cons, List.mem_cons, not_or] at hinbox
      refine ⟨?_, ?_, ?_⟩
      · simpa [unhandled, GameScene.withClient, hsending] using h.resumes
      · change client.updateComplete = false
        rw [hread.updateComplete_eq, h.updateComplete]
        simpa using Ne.symm hinbox.1
      · simpa [Conn.inbox, GameScene.withClient, hreceived] using hinbox.2
  | draws scene hframe =>
      rcases hframe.client_cases with hclient | ⟨-, gameTurn, -, hclient⟩ | ⟨hadopt, -⟩ |
        ⟨-, hclient⟩
      · apply @hwrote scene [] <;> simp [hclient]
      · apply @hwrote scene (r.scene.begun.snapshot gameTurn)
        · rw [hclient]
          rfl
        · exact types_snapshot_resume _ _
        · rw [hclient]
          rfl
        · rw [hclient]
          rfl
      · exact absurd (hadopt.symm.trans h.not_adopts) (by simp)
      · apply @hwrote scene [] <;> simp [hclient]
  | ends undefinedReturn =>
      apply @hwrote (r.scene.endTurn undefinedReturn)
        ((r.scene.turnMsgs undefinedReturn).map Msg.packet)
      · rw [GameScene.endTurn_eq]
        rfl
      · exact not_mem_types_packets _ (by simp)
      · rw [GameScene.endTurn_eq]
        rfl
      · rw [GameScene.endTurn_eq]
        rfl
  | moves scene _ _ hmoved =>
      have hclient : scene.client = r.scene.client := by rw [hmoved.rest]
      apply @hwrote scene [] <;> simp [hclient]

/-- A client that was never named data sender sends nobody a snapshot. -/
theorem Proper.no_snapshot {x : Conn} (h : Proper x) (hsender : "data_sender" ∉ types x.sent) :
    "update_complete" ∉ types x.outbox := by
  intro hmem
  apply hsender
  rw [sent_eq, types_append]
  exact List.mem_append_left _ (h.snapshots hmem)

theorem NoLeftover.served {r c r' c' : Conn} (h : NoLeftover r) (hserved : Served r c r' c') :
    NoLeftover r' := by
  obtain ⟨msg, hmsg⟩ := hserved.handled
  have hresumes := h.resumes
  rw [hmsg, types_cons, List.mem_cons, not_or] at hresumes
  refine ⟨hresumes.2, by rw [hserved.sceneX]; exact h.updateComplete, ?_⟩
  obtain ⟨packets, hdown, hpackets⟩ := hserved.toX
  rw [Conn.inbox, hserved.sceneX, hdown, ← List.append_assoc, types_append, List.mem_append,
    not_or]
  exact ⟨h.inbox, not_mem_types_completed hpackets (by simp)⟩

/-- Nor does it come by any from a newcomer. -/
theorem NoLeftover.servedY {r c r' c' : Conn} (h : NoLeftover r)
    (hnone : "update_complete" ∉ types c.outbox) (hserved : Served c r c' r') :
    NoLeftover r' := by
  refine ⟨by rw [hserved.unhandledY]; exact h.resumes,
    by rw [hserved.sceneY]; exact h.updateComplete, ?_⟩
  obtain ⟨packets, hdown, hpackets⟩ := hserved.toY
  rw [Conn.inbox, hserved.sceneY, hdown, ← List.append_assoc, types_append, List.mem_append,
    not_or]
  refine ⟨h.inbox, ?_⟩
  intro hmem
  obtain ⟨packet, hpacket, htype⟩ := mem_types.mp hmem
  rcases hpackets packet hpacket with ⟨hwritten, -⟩ | ⟨rfl, -⟩
  · apply hnone
    exact updateComplete_mem_filter.mpr (mem_types.mpr ⟨packet, hwritten, htype⟩)
  · simp [Server.completedPacket] at htype

end Survivor

section Steps

variable {clicks : Bool} {r c r' c' : Conn}

/-- The team that a client plays for only changes where it had none, or where
it acts on a snapshot. -/
theorem Deed.assignedTeam {x x' : Conn} (h : Deed clicks x x') :
    x'.scene.assignedTeam = x.scene.assignedTeam ∨
      (∃ scene, x.scene.Frame scene ∧ x' = { x with scene := scene }) := by
  cases h with
  | same x' hsame =>
      exact Or.inl (hsame.field GameScene.assignedTeam)
  | reads => exact Or.inl rfl
  | draws scene hframe => exact Or.inr ⟨scene, hframe, rfl⟩
  | ends undefinedReturn =>
      left
      rw [GameScene.endTurn_eq]
  | moves scene _ _ hmoved =>
      left
      rw [hmoved.rest]

theorem NoLeftover.assignedTeam (h : NoLeftover r) (hteam : r.scene.assignedTeam ≠ .none)
    (hdeed : Deed clicks r r') : r'.scene.assignedTeam = r.scene.assignedTeam := by
  rcases hdeed.assignedTeam with hsame | ⟨scene, hframe, rfl⟩
  · exact hsame
  · rcases hframe.assignedTeam with hbegun | ⟨hadopt, -⟩
    · exact hbegun.trans (GameScene.begun_assignedTeam (Or.inl hteam))
    · exact absurd (hadopt.symm.trans h.not_adopts) (by simp)

theorem opponentTeam_congr {scene scene' : GameScene}
    (h : scene'.assignedTeam = scene.assignedTeam) :
    scene'.opponentTeam = scene.opponentTeam := by
  rw [GameScene.opponentTeam, GameScene.opponentTeam, h]

theorem TeamHandover.left (h : TeamHandover r c) (hdeed : Deed clicks r r') :
    TeamHandover r' c := by
  have hteam := h.noLeftover.assignedTeam h.team hdeed
  have hopponent := opponentTeam_congr hteam
  refine ⟨by rw [hteam]; exact h.team, h.noLeftover.deed hdeed, ?_,
    by rw [hopponent]; exact h.named, h.userID, h.noInit, by rw [hteam]; exact h.joinerTeam,
    h.resumed⟩
  obtain ⟨packets, houtbox, hcases⟩ := hdeed.outbox
  rw [flow_left hdeed houtbox, hopponent]
  apply namesTeam_append h.names
  intro named
  cases r.reaches c with
  | false => exact namesTeam_nil _ _
  | true =>
      rcases hcases with rfl | ⟨-, gameTurn, -, rfl⟩ | ⟨-, -, undefinedReturn, rfl⟩
      · exact namesTeam_nil _ _
      · have hbegun := GameScene.begun_assignedTeam (Or.inl h.team)
        rw [← opponentTeam_congr hbegun]
        exact namesTeam_snapshot _ gameTurn named
      · apply namesTeam_of_not_mem
        · exact not_mem_types_packets _ (by simp)
        · exact not_mem_types_packets _ (by simp)

/-- The number that names a team is the one from which the newcomer reads it. -/
theorem adoptTeam_of_opponent {scene joiner : GameScene} (hteam : scene.assignedTeam ≠ .none)
    (hnamed : joiner.client.assignedPlayer = scene.opponentTeam) :
    joiner.begun.adoptTurn.adoptTeam.assignedTeam =
      GameScene.otherTurn scene.assignedTeam := by
  rw [GameScene.adoptTeam_assignedTeam, GameScene.adoptTurn_client, GameScene.begun_client, hnamed,
    GameScene.opponentTeam]
  cases hscene : scene.assignedTeam with
  | none => exact absurd hscene hteam
  | player1 => rfl
  | player2 => rfl

/-- A new scene of the newcomer with what it was told unchanged. -/
theorem TeamHandover.scene (h : TeamHandover r c) {scene : GameScene}
    {packets : List CustomPacket}
    (hsending : scene.client.sendingQueue = c.scene.client.sendingQueue ++ packets)
    (hreceived : scene.client.recievedQueue = c.scene.client.recievedQueue)
    (hplayer : scene.client.assignedPlayer = c.scene.client.assignedPlayer)
    (hflag : scene.client.updateComplete = true → c.scene.client.updateComplete = true)
    (huserID : scene.assignedTeam = .none → scene.client.userID = -1)
    (hteam : scene.assignedTeam = c.scene.assignedTeam ∨
      scene.assignedTeam = GameScene.otherTurn r.scene.assignedTeam)
    (hresume : "resume" ∈ types packets → scene.assignedTeam ≠ .none) :
    TeamHandover r { c with scene := scene } ∧
      (c.scene.assignedTeam ≠ .none → scene.assignedTeam ≠ .none) := by
  have hother : GameScene.otherTurn r.scene.assignedTeam ≠ .none := otherTurn_ne_none h.team
  have hkept : c.scene.assignedTeam ≠ .none → scene.assignedTeam ≠ .none := by
    intro hsome
    rcases hteam with hteam | hteam
    · rw [hteam]
      exact hsome
    · rw [hteam]
      exact hother
  refine ⟨⟨h.team, h.noLeftover, ?_, ?_, huserID, ?_, ?_, ?_⟩, hkept⟩
  · have hflow : r.flow { c with scene := scene } = r.flow c := by
      simp [flow, inbox, hreceived, toward, reaches]
    rw [hflow]
    change NamesTeam r.scene.opponentTeam scene.client.assignedPlayer (r.flow c)
    rw [hplayer]
    exact h.names
  · intro hcomplete
    change scene.client.assignedPlayer = r.scene.opponentTeam
    rw [hplayer]
    exact h.named (hflag hcomplete)
  · simpa [inbox, hreceived] using h.noInit
  · rcases hteam with hteam | hteam
    · rcases h.joinerTeam with hjoiner | hjoiner
      · exact Or.inl (hteam.trans hjoiner)
      · exact Or.inr (hteam.trans hjoiner)
    · exact Or.inr hteam
  · intro hresumes
    have hunhandled : unhandled { c with scene := scene } = c.unhandled ++ packets := by
      simp [unhandled, hsending]
    rw [Conn.resumes, hunhandled, types_append, List.mem_append] at hresumes
    rcases hresumes with hresumes | hresumes
    · exact hkept (h.resumed hresumes)
    · exact hresume hresumes

theorem TeamHandover.draws (h : TeamHandover r c) {scene : GameScene}
    (hframe : c.scene.Frame scene) :
    TeamHandover r { c with scene := scene } ∧
      (c.scene.assignedTeam ≠ .none → scene.assignedTeam ≠ .none) := by
  have hbegun : c.scene.begun.assignedTeam = c.scene.assignedTeam := by
    apply GameScene.begun_assignedTeam
    by_cases hnone : c.scene.assignedTeam = .none
    · exact Or.inr (h.userID hnone)
    · exact Or.inl hnone
  have hquiet {scene : GameScene} (hclient : scene.client = c.scene.client)
      (hteam : scene.assignedTeam = c.scene.begun.assignedTeam) :
      TeamHandover r { c with scene := scene } ∧
        (c.scene.assignedTeam ≠ .none → scene.assignedTeam ≠ .none) := by
    apply @TeamHandover.scene _ _ h scene [] <;> simp [hclient, hteam, hbegun]
    exact h.userID
  cases hframe with
  | idle => exact hquiet (by simp) rfl
  | send hsend gameTurn hturn =>
      apply @TeamHandover.scene _ _ h _ (c.scene.begun.snapshot gameTurn)
      · simp [GameScene.sendSnapshot, GameScene.push, ClientComponent.push]
      · simp [GameScene.sendSnapshot, GameScene.push, ClientComponent.push]
      · simp [GameScene.sendSnapshot, GameScene.push, ClientComponent.push]
      · simp [GameScene.sendSnapshot, GameScene.push, ClientComponent.push]
      · intro hnone
        have huserID := h.userID (hbegun.symm.trans hnone)
        simpa [GameScene.sendSnapshot, GameScene.push, ClientComponent.push] using huserID
      · exact Or.inl hbegun
      · intro hmem
        exact absurd hmem (types_snapshot_resume _ _)
  | adopt hadopt drained hdrain =>
      have hflag : c.scene.client.updateComplete = true := by
        simp only [GameScene.adoptsSnapshot, Bool.and_eq_true] at hadopt
        exact hadopt.2.2
      have hteam : drained.finishAdoption.assignedTeam =
          GameScene.otherTurn r.scene.assignedTeam := by
        rw [← adoptTeam_of_opponent h.team (h.named hflag)]
        change drained.assignedTeam = _
        rw [GameScene.unitNetworkUpdate_rest hdrain]
      have hsome : drained.finishAdoption.assignedTeam ≠ .none := by
        rw [hteam]
        exact otherTurn_ne_none h.team
      have hclient := GameScene.finishAdoption_client hdrain
      apply @TeamHandover.scene _ _ h _ [GameScene.resumePacket]
      · rw [hclient]
        rfl
      · rw [hclient]
        rfl
      · rw [hclient]
        rfl
      · simp [GameScene.finishAdoption]
      · intro hnone
        exact absurd hnone hsome
      · exact Or.inr hteam
      · exact fun _ => hsome
  | finished => exact hquiet (by simp) rfl
  | wait => exact hquiet (by simp [GameScene.unitsUpdate]) rfl
  | drain _ _ _ _ hdrain =>
      have hrest := GameScene.unitNetworkUpdate_rest hdrain
      have hclient : scene.client = { c.scene.client with unitUpdateQueue := [] } := by
        rw [hrest]
        simp [GameScene.unitsUpdate]
      have hteam : scene.assignedTeam = c.scene.begun.assignedTeam := by
        rw [hrest]
        rfl
      apply @TeamHandover.scene _ _ h scene [] <;> simp [hclient, hteam, hbegun]
      exact h.userID

theorem TeamHandover.same (h : TeamHandover r c) (hsame : Same c c') :
    TeamHandover r c' ∧
      (c.scene.assignedTeam ≠ .none → c'.scene.assignedTeam ≠ .none) := by
  have hteam : c'.scene.assignedTeam = c.scene.assignedTeam :=
    hsame.field GameScene.assignedTeam
  have hplayer : c'.scene.client.assignedPlayer = c.scene.client.assignedPlayer :=
    hsame.field fun s => s.client.assignedPlayer
  have hflag : c'.scene.client.updateComplete = c.scene.client.updateComplete :=
    hsame.field fun s => s.client.updateComplete
  have huserID : c'.scene.client.userID = c.scene.client.userID :=
    hsame.field fun s => s.client.userID
  have hflow : r.flow c' = r.flow c := flow_congr hsame.inbox hsame.uid hsame.mapped
  refine ⟨⟨h.team, h.noLeftover, ?_, ?_, ?_, ?_, ?_, ?_⟩, ?_⟩
  · rw [hflow, hplayer]
    exact h.names
  · rw [hflag, hplayer]
    exact h.named
  · rw [hteam, huserID]
    exact h.userID
  · rw [hsame.inbox]
    exact h.noInit
  · rw [hteam]
    exact h.joinerTeam
  · rw [hteam]
    exact fun hresumes => h.resumed (hsame.resumes.mp hresumes)
  · rw [hteam]
    exact id

/-- The newcomer takes in a packet: until it acts on the snapshot, only what it
knows of the team changes. -/
theorem TeamHandover.reads (h : TeamHandover r c) {packet : CustomPacket}
    {rest : List CustomPacket} {client : ClientComponent}
    (hqueue : c.scene.client.recievedQueue = packet :: rest)
    (hread : ({ c.scene.client with recievedQueue := rest }).Processed packet client) :
    TeamHandover r { c with
      dispatched := c.dispatched ++ [packet]
      scene := c.scene.withClient client } := by
  have hreceived : client.recievedQueue = rest := hread.queues.1
  have hsending : client.sendingQueue = c.scene.client.sendingQueue := hread.queues.2
  have hplayer := readPlayer_processed hread
  have hnames := h.names
  have hinit := h.noInit
  rw [inbox, hqueue, List.cons_append, types_cons, List.mem_cons, not_or] at hinit
  rw [flow_reads hqueue hread] at hnames
  have hfirst : (packet.type = "update_complete" →
      c.scene.client.assignedPlayer = r.scene.opponentTeam) ∧
      (packet.type = "player" → packet = GameScene.playerPacket r.scene.opponentTeam) ∧
      NamesTeam r.scene.opponentTeam client.assignedPlayer (r.flow { c with
        dispatched := c.dispatched ++ [packet]
        scene := c.scene.withClient client }) := by
    cases hgame : isGame packet with
    | true =>
        rw [hgame, if_pos rfl] at hnames
        exact ⟨hnames.1.1, hnames.1.2, hnames.2 _ hplayer⟩
    | false =>
        obtain ⟨-, -, hnot, hcomplete⟩ := type_ne_of_not_isGame hgame
        have hkeep := hread.assignedPlayer_eq
        rw [if_neg hnot] at hkeep
        rw [hgame] at hnames
        refine ⟨fun htype => absurd htype hcomplete, fun htype => absurd htype hnot, ?_⟩
        rw [hkeep]
        exact hnames
  refine ⟨h.team, h.noLeftover, hfirst.2.2, ?_, ?_, ?_, h.joinerTeam, ?_⟩
  · intro hflag
    change client.assignedPlayer = r.scene.opponentTeam
    change client.updateComplete = true at hflag
    rw [hread.updateComplete_eq, Bool.or_eq_true, decide_eq_true_eq] at hflag
    by_cases htype : packet.type = "player"
    · rw [hfirst.2.1 htype, readPlayer_playerPacket (opponentTeam_cases r.scene)] at hplayer
      exact (Option.some.inj hplayer).symm
    · have hvalue := hread.assignedPlayer_eq
      rw [if_neg htype] at hvalue
      rw [hvalue]
      rcases hflag with hflag | hcomplete
      · exact h.named hflag
      · exact hfirst.1 hcomplete
  · intro hteam
    change client.userID = -1
    have hvalue := hread.userID_eq
    rw [if_neg (Ne.symm hinit.1)] at hvalue
    rw [hvalue]
    exact h.userID hteam
  · simpa [inbox, GameScene.withClient, hreceived] using hinit.2
  · intro hresumes
    apply h.resumed
    simpa [Conn.resumes, unhandled, GameScene.withClient, hsending] using hresumes

theorem TeamHandover.right (h : TeamHandover r c) (hdeed : Deed clicks c c') :
    TeamHandover r c' ∧
      (c.scene.assignedTeam ≠ .none → c'.scene.assignedTeam ≠ .none) := by
  cases hdeed with
  | same _ hsame => exact h.same hsame
  | reads packet rest client hqueue hread => exact ⟨h.reads hqueue hread, id⟩
  | draws scene hframe => exact h.draws hframe
  | ends undefinedReturn =>
      rw [GameScene.endTurn_eq]
      apply @TeamHandover.scene _ _ h _ ((c.scene.turnMsgs undefinedReturn).map Msg.packet)
      · rfl
      · rfl
      · rfl
      · exact id
      · exact h.userID
      · exact Or.inl rfl
      · intro hmem
        exact absurd hmem (not_mem_types_packets _ (by simp))
  | moves scene _ _ hmoved =>
      have hclient : scene.client = c.scene.client := by rw [hmoved.rest]
      have hteam : scene.assignedTeam = c.scene.assignedTeam := by rw [hmoved.rest]
      apply @TeamHandover.scene _ _ h scene [] <;> simp [hclient, hteam]
      exact h.userID

theorem TeamHandover.servedLeft (h : TeamHandover r c) (hserved : Served r c r' c') :
    TeamHandover r' c' := by
  refine ⟨by rw [hserved.sceneX]; exact h.team, h.noLeftover.served hserved, ?_, ?_, ?_, ?_, ?_,
    ?_⟩
  · rw [hserved.sceneX, hserved.sceneY, hserved.flow]
    exact h.names
  · rw [hserved.sceneX, hserved.sceneY]
    exact h.named
  · rw [hserved.sceneY]
    exact h.userID
  · obtain ⟨packets, hdown, hpackets⟩ := hserved.toY
    rw [inbox, hserved.sceneY, hdown, ← List.append_assoc, types_append, List.mem_append, not_or]
    refine ⟨h.noInit, ?_⟩
    intro hmem
    obtain ⟨packet, hpacket, htype⟩ := mem_types.mp hmem
    rcases hpackets packet hpacket with ⟨-, hforward⟩ | ⟨rfl, -⟩
    · simp [Server.isForwarded, htype] at hforward
    · simp [Server.completedPacket] at htype
  · rw [hserved.sceneX, hserved.sceneY]
    exact h.joinerTeam
  · rw [hserved.sceneY, Conn.resumes, hserved.unhandledY]
    exact h.resumed

theorem TeamHandover.servedRight (h : TeamHandover r c)
    (hnone : "update_complete" ∉ types c.outbox) (hserved : Served c r c' r') :
    TeamHandover r' c' := by
  refine ⟨by rw [hserved.sceneY]; exact h.team, h.noLeftover.servedY hnone hserved, ?_, ?_, ?_,
    ?_, ?_, ?_⟩
  · rw [hserved.sceneX, hserved.sceneY, hserved.back]
    exact h.names
  · rw [hserved.sceneX, hserved.sceneY]
    exact h.named
  · rw [hserved.sceneX]
    exact h.userID
  · obtain ⟨packets, hdown, hpackets⟩ := hserved.toX
    rw [inbox, hserved.sceneX, hdown, ← List.append_assoc, types_append, List.mem_append, not_or]
    exact ⟨h.noInit, not_mem_types_completed hpackets (by simp)⟩
  · rw [hserved.sceneX, hserved.sceneY]
    exact h.joinerTeam
  · rw [hserved.sceneX]
    intro hresumes
    apply h.resumed
    obtain ⟨packet, hpacket, htype⟩ := mem_types.mp hresumes
    exact mem_types.mpr ⟨packet, mem_unhandled_of_handled hserved.handled packet hpacket, htype⟩

/-- A hand-over goes on as long as both clients stay, and the newcomer keeps
the team that it once has. -/
theorem TeamHandover.step (h : TeamHandover r c) (horigins : Origins r c)
    (hstep : PairStep clicks r c r' c') :
    TeamHandover r' c' ∧ (c.scene.assignedTeam ≠ .none → c'.scene.assignedTeam ≠ .none) := by
  cases hstep with
  | left _ hlocal => exact ⟨h.left (hlocal.deed horigins.properA.writes), id⟩
  | right _ hlocal => exact h.right (hlocal.deed horigins.properB.writes)
  | serveLeft _ _ hserve =>
      refine ⟨h.servedLeft hserve.served, ?_⟩
      rw [hserve.served.sceneY]
      exact id
  | serveRight _ _ hserve =>
      have hnone := horigins.properB.no_snapshot horigins.younger
      refine ⟨h.servedRight hnone hserve.served, ?_⟩
      rw [hserve.served.sceneX]
      exact id

/-- The condition on the survivor starts a hand-over. -/
theorem TeamAtJoin.handover {survivor : Conn} (h : TeamAtJoin survivor) (uid : Nat)
    (blank : Sprite) : TeamHandover (survivor.joinedBy uid) (newcomer uid blank) := by
  refine ⟨h.team, ⟨h.noLeftover.resumes, h.noLeftover.updateComplete, ?_⟩, ?_, ?_, fun _ => rfl,
    ?_, Or.inl rfl, ?_⟩
  · rcases joinedBy_inbox uid survivor with hinbox | hinbox
    · rw [hinbox]
      exact h.noLeftover.inbox
    · rw [hinbox, types_append, List.mem_append, not_or]
      exact ⟨h.noLeftover.inbox, by simp [Server.readyPacket]⟩
  · rw [flow_newcomer]
    split
    · exact h.names
    · exact namesTeam_nil _ _
  · intro hflag
    cases hflag
  · simp [inbox, newcomer, fresh, GameScene.create, ClientComponent.fresh, Server.reconPacket]
  · intro hresumes
    cases hresumes

end Steps

/-- Two clients of a run: the pair that the lobby has put together, or a
survivor and a newcomer. -/
structure Teamed (a b : Conn) : Prop where
  origins : Origins a b
  stage : (∃ other, other ≠ .none ∧ Duel .player1 other a b) ∨ TeamHandover a b

theorem teamed_invariant : System.ConnsInvariant (fun _ survivor => TeamAtJoin survivor)
    (fun x => Proper x ∧ Entitled x) Teamed := by
  have horigins := origins_invariant
  refine ⟨horigins.lobby, ?_, horigins.solo, ?_, ?_, ?_⟩
  · intro nextUid x blank other hother huid hlobby hsolo
    exact ⟨horigins.start nextUid x blank other hother huid hlobby hsolo,
      Or.inl ⟨other, hother, hlobby.duel blank⟩⟩
  · intro clicks a b a' b' h hstep
    refine ⟨h.origins.step hstep, ?_⟩
    rcases h.stage with ⟨other, hother, hduel⟩ | hhandover
    · exact Or.inl ⟨other, hother, hduel.step (by simp) hother hstep⟩
    · exact Or.inr (hhandover.step h.origins hstep).1
  · intro a b h
    exact horigins.leave a b h.origins
  · intro uid x blank hjoin hsolo
    exact ⟨horigins.join uid x blank trivial hsolo, Or.inr (hjoin.handover uid blank)⟩

end Conn

/-- The next packet of the client at `index` that the server handles is a
`resume`. -/
def System.resumeAt (system : System) (index : Nat) : Prop :=
  ∃ sender msg, system.conns[index]? = some sender ∧ sender.up.head? = some msg ∧
    msg.type = "resume"

theorem System.resumeAt.resumes {server : Server} {a b : Conn} {index : Nat}
    (h : System.resumeAt ⟨server, [a, b]⟩ index) : a.resumes ∨ b.resumes := by
  obtain ⟨sender, msg, hsender, hup, htype⟩ := h
  have hresumes : sender.resumes := by
    refine Conn.mem_types.mpr ⟨msg, ?_, htype⟩
    exact List.mem_append_left _ (List.mem_of_mem_head? hup)
  have hmem := List.mem_of_getElem? hsender
  simp only [List.mem_cons, List.not_mem_nil, or_false] at hmem
  rcases hmem with rfl | rfl
  · exact Or.inl hresumes
  · exact Or.inr hresumes

theorem StartedPair.origins {system : System} {a b : Conn} (h : StartedPair system a b) :
    a.Origins b := by
  obtain ⟨events, hrun⟩ := h.run
  have horigins := System.conns_invariant Conn.origins_invariant hrun
    (System.joinMeets_true events)
  rw [h.conns] at horigins
  exact horigins

theorem Conn.Side.not_resumes {label : PlayerTurn} {x : Conn} (h : Conn.Side label x) :
    ¬ x.resumes := by
  intro hresumes
  obtain ⟨packet, hpacket, htype⟩ := Conn.mem_types.mp hresumes
  rcases (h.unhandled packet hpacket).type with hplain | hplain <;> simp [hplain] at htype

/-- A game of two opposite teams goes on with two opposite teams after each
reconnect, if each survivor that a newcomer meets has a team, nothing left of
an earlier hand-over, and written no snapshot that names its own team or
none. -/
theorem oppositeTeams_after_resume {start before next after : System} {a₀ b₀ a b x y : Conn}
    {events rest : List SystemEvent} {index : Nat} (hstarted : StartedPair start a₀ b₀)
    (hrun : exec System.step start events = some before)
    (hjoin : Along System.step (System.JoinMeets fun _ survivor => survivor.TeamAtJoin)
      start events)
    (hconns : before.conns = [a, b]) (hresume : before.resumeAt index)
    (hserve : before.step (.serve index) = some next)
    (hrest : exec System.step next rest = some after)
    (hstay : ∀ event ∈ rest, event.stays = true) (hafter : after.conns = [x, y]) :
    OppositeTeams x.scene.assignedTeam y.scene.assignedTeam := by
  obtain ⟨first, hfirst⟩ := hstarted.run
  have hteamed : System.Conns (fun x => x.Proper ∧ x.Entitled) Conn.Teamed start.conns := by
    rw [hstarted.conns]
    exact ⟨hstarted.origins, Or.inl ⟨.player2, by simp, hstarted.duel.1⟩⟩
  have hbefore := System.conns_invariant_from Conn.teamed_invariant (staged_exec hfirst) hteamed
    hrun hjoin
  rw [hconns] at hbefore
  obtain ⟨server, conns⟩ := before
  obtain rfl : conns = [a, b] := hconns
  rcases hbefore.stage with ⟨other, hother, hduel⟩ | hhandover
  · rcases hresume.resumes with hresumes | hresumes
    · exact absurd hresumes hduel.sideX.not_resumes
    · exact absurd hresumes hduel.sideY.not_resumes
  · have hresumes := hresume.resumes.resolve_left hhandover.noLeftover.resumes
    have hjoiner := hhandover.resumed hresumes
    obtain ⟨a', b', rfl, hstep⟩ := System.step_pair rfl hserve
    have hnext := hhandover.step hbefore.origins hstep
    let I (r c : Conn) : Prop :=
      r.Origins c ∧ r.TeamHandover c ∧ c.scene.assignedTeam ≠ .none
    have hI : ∀ r c r' c', I r c → Conn.PairStep true r c r' c' → I r' c' := by
      rintro r c r' c' ⟨horigins, hhandover, hteam⟩ hstep
      have hnext := hhandover.step horigins hstep
      exact ⟨horigins.step hstep, hnext.1, hnext.2 hteam⟩
    have hstart : I a' b' := ⟨hbefore.origins.step hstep, hnext.1, hnext.2 hjoiner⟩
    obtain ⟨x', y', rfl, -, hfinal, hteam⟩ := System.pair_invariant hI
      (fun event hevent => ⟨hstay event hevent, fun _ => rfl⟩) hrest hstart
    obtain ⟨rfl, rfl, -⟩ := by simpa using hafter
    have hother := hfinal.joinerTeam.resolve_left hteam
    rw [hother]
    cases hsurvivor : x'.scene.assignedTeam with
    | none => exact absurd hsurvivor hfinal.team
    | player1 => exact Or.inl ⟨rfl, rfl⟩
    | player2 => exact Or.inr ⟨rfl, rfl⟩

/-- The second client is replaced; the newcomer has acted on the snapshot of the
first client and its `resume` is on its way. -/
def reconnectRun : List SystemEvent :=
  [.disconnect 1, .connect blankSprite] ++ arrive 0 2 ++ [.act 0 .frame] ++
    List.replicate 11 (.act 0 .send) ++ List.replicate 11 (.serve 0) ++ arrive 1 12 ++
    [.act 1 .frame, .act 1 .send]

theorem oppositeTeams_after_resume_reconnect : ∃ system a b,
    exec System.step System.initial
      (openingRun ++ (reconnectRun ++ [.serve 1] ++ (arrive 0 1 ++ arrive 1 1))) = some system ∧
    system.conns = [a, b] ∧ OppositeTeams a.scene.assignedTeam b.scene.assignedTeam := by
  obtain ⟨start, a₀, b₀, hstart, hconns₀, hcheck⟩ :=
    @exists_pair_of_check System.initial openingRun (fun start a₀ b₀ => startedCheck a₀ b₀ &&
      decide (Along System.step (System.JoinMeets fun _ survivor => survivor.TeamAtJoin)
        start reconnectRun) &&
      (exec System.step start reconnectRun).any fun before => before.onPair fun _ b =>
        (b.up.head?.any fun msg => msg.type = "resume") &&
        (before.step (.serve 1)).any fun next =>
          (exec System.step next (arrive 0 1 ++ arrive 1 1)).any fun after =>
            after.onPair fun _ _ => true)
      (by decide +kernel)
  simp only [Bool.and_eq_true, decide_eq_true_eq] at hcheck
  obtain ⟨⟨hstarted, hjoin⟩, hcheck⟩ := hcheck
  obtain ⟨before, a, b, hbefore, hconns, hcheck⟩ :=
    @exists_pair_of_check start reconnectRun _ hcheck
  rw [Bool.and_eq_true] at hcheck
  obtain ⟨hresume, hcheck⟩ := hcheck
  obtain ⟨msg, hup, htype⟩ := (Option.any_eq_true _ _).mp hresume
  obtain ⟨next, hserve, hcheck⟩ := (Option.any_eq_true _ _).mp hcheck
  obtain ⟨after, x, y, hafter, hconns', -⟩ :=
    @exists_pair_of_check next (arrive 0 1 ++ arrive 1 1) _ hcheck
  have hwhole : exec System.step start
      (reconnectRun ++ [.serve 1] ++ (arrive 0 1 ++ arrive 1 1)) = some after :=
    (exec_append _ _ _ _).mpr ⟨next, (exec_concat _ _ _ _).mpr ⟨before, hbefore, hserve⟩, hafter⟩
  refine ⟨after, x, y, (exec_append _ _ _ _).mpr ⟨start, hstart, hwhole⟩, hconns', ?_⟩
  exact oppositeTeams_after_resume (startedPair_of_check hstart hconns₀ hstarted) hbefore hjoin
    hconns ⟨b, msg, by rw [hconns]; rfl, hup, of_decide_eq_true htype⟩ hserve hafter (by decide)
    hconns'

/-- The newcomer is left alone before it has a team, so it is named data sender
and tells the next one to be the first player. -/
def teamlessRun : List SystemEvent :=
  [.disconnect 1, .connect blankSprite, .disconnect 0, .connect blankSprite] ++ arrive 0 3 ++
    [.act 0 .frame] ++ List.replicate 11 (.act 0 .send) ++ List.replicate 11 (.serve 0) ++
    arrive 1 12 ++ [.act 1 .frame, .act 1 .send, .serve 1] ++ arrive 0 1 ++ arrive 1 1

theorem not_oppositeTeams_after_teamless_sender : ∃ start a₀ b₀ system a b,
    StartedPair start a₀ b₀ ∧ exec System.step start teamlessRun = some system ∧
    system.conns = [a, b] ∧ Server.completedPacket ∈ a.dispatched ∧
    Server.completedPacket ∈ b.dispatched ∧
    ¬ OppositeTeams a.scene.assignedTeam b.scene.assignedTeam := by
  obtain ⟨start, a₀, b₀, hstart, hconns₀, hcheck⟩ :=
    @exists_pair_of_check System.initial openingRun (fun start a₀ b₀ => startedCheck a₀ b₀ &&
      (exec System.step start teamlessRun).any fun system => system.onPair fun a b =>
        decide (Server.completedPacket ∈ a.dispatched ∧ Server.completedPacket ∈ b.dispatched ∧
          ¬ OppositeTeams a.scene.assignedTeam b.scene.assignedTeam))
      (by decide +kernel)
  rw [Bool.and_eq_true] at hcheck
  obtain ⟨hstarted, hcheck⟩ := hcheck
  obtain ⟨system, a, b, hteamless, hconns, hcheck⟩ :=
    @exists_pair_of_check start teamlessRun _ hcheck
  exact ⟨start, a₀, b₀, system, a, b, startedPair_of_check hstart hconns₀ hstarted, hteamless,
    hconns, of_decide_eq_true hcheck⟩

end NetworkingGame
