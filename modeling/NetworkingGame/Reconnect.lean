import NetworkingGame.TeamHandover

/-!
A reconnect up to the moment at which the server handles the newcomer's
`resume`: until then the newcomer neither plays nor writes, and from its
snapshot on the survivor does not play either.
-/

namespace NetworkingGame

open Library.Transition

namespace Conn

/-- The packet that ends a reconnect. -/
def completes (packet : CustomPacket) : Bool :=
  packet.type = "reconnect" && packet.msgText = "false"

def readReady (ready : Bool) (packet : CustomPacket) : Option Bool :=
  some (ready || packet.type = "ready")

/-- No `ready` is pending when a reconnect ends. -/
def Unready (ready : Bool) (packets : List CustomPacket) : Prop :=
  Along readReady (fun ready packet => completes packet = true → ready = false) ready packets

instance (ready : Bool) (packets : List CustomPacket) : Decidable (Unready ready packets) :=
  inferInstanceAs (Decidable (Along _ _ _ _))

/-- The survivor takes part in a reconnect and has no news of its end. -/
structure Shut (survivor : Conn) : Prop where
  reconnecting : survivor.scene.client.isReconnecting = true
  inbox : ∀ packet ∈ survivor.inbox, completes packet = false

instance (survivor : Conn) : Decidable (Shut survivor) :=
  decidable_of_iff (survivor.scene.client.isReconnecting = true ∧
    ∀ packet ∈ survivor.inbox, completes packet = false)
    ⟨fun h => ⟨h.1, h.2⟩, fun h => ⟨h.reconnecting, h.inbox⟩⟩

/-- What the survivor has left of earlier reconnects when a newcomer joins
cannot reopen its game in the middle of the new one. -/
structure ClearAtJoin (survivor : Conn) : Prop where
  noLeftover : NoLeftover survivor
  unready : Unready survivor.scene.client.readyToSend survivor.inbox
  unsent : "update_complete" ∉ types survivor.outbox ∨ Shut survivor

instance (survivor : Conn) : Decidable (ClearAtJoin survivor) :=
  decidable_of_iff (NoLeftover survivor ∧
    Unready survivor.scene.client.readyToSend survivor.inbox ∧
    ("update_complete" ∉ types survivor.outbox ∨ Shut survivor))
    ⟨fun h => ⟨h.1, h.2.1, h.2.2⟩, fun h => ⟨h.noLeftover, h.unready, h.unsent⟩⟩

/-- No snapshot is on its way from `r` to `c`, or taken in by `c`. -/
structure Unsent (r c : Conn) : Prop where
  flow : "update_complete" ∉ types (r.flow c)
  updateComplete : c.scene.client.updateComplete = false
  resumes : ¬ c.resumes

/-- The survivor `r` and the newcomer `c` until a `resume` of `c` is handled. -/
structure Pending (r c : Conn) : Prop where
  noLeftover : NoLeftover r
  unready : Unready r.scene.client.readyToSend r.inbox
  stage : Unsent r c ∨ Shut r
  silent : c.outbox = []
  closed : (c.scene.client.isLobby || c.scene.client.isReconnecting) = true
  noStart : "start" ∉ types c.inbox
  noEnd : ∀ packet ∈ c.inbox, completes packet = false
  mapped : c.inPeerMap = true

section Unready

theorem Unready.mono {ready : Bool} {packets : List CustomPacket} (h : Unready ready packets) :
    Unready false packets := by
  induction packets generalizing ready with
  | nil => trivial
  | cons packet packets ih =>
      refine ⟨fun _ => rfl, ?_⟩
      intro next hnext
      have hrest : Unready (ready || packet.type = "ready") packets := h.2 _ rfl
      obtain rfl := Option.some.inj hnext
      change Unready (false || packet.type = "ready") packets
      by_cases htype : packet.type = "ready"
      · simpa [htype] using hrest
      · simpa [htype] using ih hrest

theorem Unready.append {ready : Bool} {first second : List CustomPacket}
    (h : Unready ready first) (hsecond : ∀ packet ∈ second, completes packet = false) :
    Unready ready (first ++ second) := by
  apply along_append.mpr
  refine ⟨h, ?_⟩
  intro seen hseen
  clear h hseen
  induction second generalizing seen with
  | nil => trivial
  | cons packet second ih =>
      have hpacket := hsecond packet (by simp)
      refine ⟨fun hcompletes => absurd (hpacket.symm.trans hcompletes) (by simp), ?_⟩
      intro next _
      exact ih (fun other hother => hsecond other (by simp [hother])) next

theorem Unready.not_completes {packets : List CustomPacket} (h : Unready true packets) :
    ∀ packet ∈ packets, completes packet = false := by
  induction packets with
  | nil => simp
  | cons packet packets ih =>
      intro other hother
      rcases List.mem_cons.mp hother with rfl | hother
      · by_contra hcompletes
        have hready := h.1 (by simpa using hcompletes)
        cases hready
      · exact ih (h.2 true rfl) other hother

end Unready

section Packets

theorem completes_of_type {packet : CustomPacket} (h : packet.type ≠ "reconnect") :
    completes packet = false := by
  simp [completes, h]

theorem type_ne_of_forwarded {packet : CustomPacket} {type : String}
    (h : Server.isForwarded packet.type = true) (htype : Server.isForwarded type = false) :
    packet.type ≠ type := by
  intro hsame
  rw [hsame, htype] at h
  cases h

theorem completes_of_forwarded {packet : CustomPacket}
    (h : Server.isForwarded packet.type = true) : completes packet = false :=
  completes_of_type (type_ne_of_forwarded h (by decide))

/-- The server relays a packet, or answers a `resume`. -/
theorem Serve.told {x y x' y' : Conn} (h : Serve x y x' y') :
    (x'.down = x.down ∧ ∃ packets, y'.down = y.down ++ packets ∧
      ∀ packet ∈ packets, packet ∈ x.unhandled ∧ Server.isForwarded packet.type = true) ∨
    (x.resumes ∧ ∃ m n, x'.down = x.down ++ List.replicate m Server.completedPacket ∧
      y'.down = y.down ++ List.replicate n Server.completedPacket ∧
      (x.inPeerMap = true → m ≠ 0) ∧ (y.inPeerMap = true → n ≠ 0)) := by
  cases h with
  | forward msg rest hup hforward =>
      refine Or.inl ⟨rfl, _, rfl, ?_⟩
      intro packet hpacket
      split at hpacket
      · rw [List.mem_singleton.mp hpacket]
        exact ⟨by simp [unhandled, hup], hforward⟩
      · cases hpacket
  | resume msg rest hup hresume m n hm hn =>
      refine Or.inr ⟨?_, m, n, rfl, rfl, hm, hn⟩
      apply mem_types.mpr
      exact ⟨msg, by simp [unhandled, hup], hresume⟩
  | dropped => exact Or.inl ⟨rfl, [], by simp, by simp⟩

/-- A sender with no packet of the game left has none after one is handled. -/
theorem Served.silent {x y x' y' : Conn} (h : Served x y x' y') (hsilent : x.outbox = []) :
    x'.outbox = [] := by
  obtain ⟨handled, hhandled⟩ := h.handled
  rw [outbox, hhandled, List.filter_cons] at hsilent
  rw [outbox]
  split at hsilent
  · cases hsilent
  · exact hsilent

end Packets

section Deeds

variable {clicks : Bool} {x x' : Conn}

/-- A step takes in the next packet, or leaves the inbox and the flags that
packets set alone, but for those that sending and adopting a snapshot clear. -/
theorem Deed.inbox_cases (h : Deed clicks x x') :
    (∃ packet rest, x.scene.client.recievedQueue = packet :: rest ∧
      ({ x.scene.client with recievedQueue := rest }).Processed packet x'.scene.client ∧
      x' = { x with
        dispatched := x.dispatched ++ [packet]
        scene := x.scene.withClient x'.scene.client } ∧
      x.inbox = packet :: x'.inbox) ∨
    (x'.inbox = x.inbox ∧ x'.scene.client.isLobby = x.scene.client.isLobby ∧
      x'.scene.client.isReconnecting = x.scene.client.isReconnecting ∧
      x'.scene.client.dataSender = x.scene.client.dataSender ∧
      (x'.scene.client.readyToSend = x.scene.client.readyToSend ∨
        x.scene.sendsSnapshot = true ∧ x'.scene.client.readyToSend = false) ∧
      (x'.scene.client.updateComplete = x.scene.client.updateComplete ∨
        x.scene.adoptsSnapshot = true ∧ x'.scene.client.updateComplete = false)) := by
  cases h with
  | same x' hsame =>
      exact Or.inr ⟨hsame.inbox, hsame.field fun s => s.client.isLobby,
        hsame.field fun s => s.client.isReconnecting, hsame.field fun s => s.client.dataSender,
        Or.inl (hsame.field fun s => s.client.readyToSend),
        Or.inl (hsame.field fun s => s.client.updateComplete)⟩
  | reads packet rest client hqueue hread =>
      refine Or.inl ⟨packet, rest, hqueue, hread, rfl, ?_⟩
      have hreceived : client.recievedQueue = rest := hread.queues.1
      simp [Conn.inbox, GameScene.withClient, hqueue, hreceived]
  | draws scene hframe =>
      right
      rcases hframe.client_cases with hclient | ⟨hsend, gameTurn, -, hclient⟩ |
        ⟨hadopt, hclient⟩ | ⟨-, hclient⟩
      · simp [Conn.inbox, hclient]
      · simp [Conn.inbox, hclient, ClientComponent.push, hsend]
      · simp [Conn.inbox, hclient, ClientComponent.push, hadopt]
      · simp [Conn.inbox, hclient]
  | ends undefinedReturn =>
      right
      rw [GameScene.endTurn_eq]
      exact ⟨rfl, rfl, rfl, rfl, Or.inl rfl, Or.inl rfl⟩
  | moves scene _ _ hmoved =>
      right
      rw [hmoved.rest]
      exact ⟨rfl, rfl, rfl, rfl, Or.inl rfl, Or.inl rfl⟩

/-- A `resume` is written by a frame that acts on a snapshot. -/
theorem Deed.resumes (h : Deed clicks x x') (hresumes : x'.resumes) :
    x.resumes ∨ x.scene.adoptsSnapshot = true := by
  have hwrote {scene : GameScene} {packets : List CustomPacket}
      (hsending : scene.client.sendingQueue = x.scene.client.sendingQueue ++ packets)
      (hpackets : "resume" ∉ types packets)
      (hresumes : Conn.resumes { x with scene := scene }) : x.resumes := by
    have hunhandled : unhandled { x with scene := scene } = x.unhandled ++ packets := by
      simp [unhandled, hsending]
    rw [Conn.resumes, hunhandled, types_append, List.mem_append] at hresumes
    exact hresumes.resolve_right hpackets
  cases h with
  | same x' hsame => exact Or.inl (hsame.resumes.mp hresumes)
  | reads packet rest client hqueue hread =>
      have hsending : client.sendingQueue = x.scene.client.sendingQueue := hread.queues.2
      left
      simpa [Conn.resumes, unhandled, GameScene.withClient, hsending] using hresumes
  | draws scene hframe =>
      obtain ⟨packets, hsending, hcases⟩ := hframe.sendingQueue
      rcases hcases with rfl | ⟨-, gameTurn, -, rfl⟩ | ⟨hadopt, -⟩
      · exact Or.inl (hwrote hsending (by simp) hresumes)
      · exact Or.inl (hwrote hsending (types_snapshot_resume _ _) hresumes)
      · exact Or.inr hadopt
  | ends undefinedReturn =>
      left
      refine @hwrote _ ((x.scene.turnMsgs undefinedReturn).map Msg.packet) ?_ ?_ hresumes
      · rw [GameScene.endTurn_eq]
        rfl
      · exact not_mem_types_packets _ (by simp)
  | moves scene _ _ hmoved =>
      have hclient : scene.client = x.scene.client := by rw [hmoved.rest]
      left
      exact @hwrote scene [] (by simp [hclient]) (by simp) hresumes

theorem not_isOpen {scene : GameScene}
    (h : (scene.client.isLobby || scene.client.isReconnecting) = true) :
    scene.isOpen = false := by
  rcases Bool.or_eq_true _ _ |>.mp h with hflag | hflag <;> simp [GameScene.isOpen, hflag]

theorem Shut.closed (h : Shut x) :
    (x.scene.client.isLobby || x.scene.client.isReconnecting) = true := by
  simp [h.reconnecting]

theorem Shut.deed (h : Shut x) (hdeed : Deed clicks x x') : Shut x' := by
  rcases hdeed.inbox_cases with ⟨packet, rest, -, hread, -, hinbox⟩ | ⟨hinbox, -, hsame, -⟩
  · have hall := h.inbox
    rw [hinbox] at hall
    refine ⟨?_, fun other hother => hall other (List.mem_cons_of_mem _ hother)⟩
    have hpacket := hall packet (by simp)
    rw [hread.isReconnecting_eq]
    split
    · rfl
    · rw [if_neg (by simpa [completes] using hpacket)]
      exact h.reconnecting
  · refine ⟨hsame.trans h.reconnecting, ?_⟩
    rw [hinbox]
    exact h.inbox

/-- A client that is not in play stays so until it is told to start or that
the reconnect is over. -/
theorem Deed.closed (hdeed : Deed clicks x x')
    (h : (x.scene.client.isLobby || x.scene.client.isReconnecting) = true)
    (hstart : "start" ∉ types x.inbox) (hend : ∀ packet ∈ x.inbox, completes packet = false) :
    (x'.scene.client.isLobby || x'.scene.client.isReconnecting) = true := by
  rcases hdeed.inbox_cases with ⟨packet, rest, -, hread, -, hinbox⟩ | ⟨-, hlobby, hsame, -⟩
  · rw [hinbox, types_cons, List.mem_cons, not_or] at hstart
    have hpacket := hend packet (by simp [hinbox])
    have hlobby := hread.isLobby_eq
    have hreconnecting := hread.isReconnecting_eq
    simp only [completes, Bool.and_eq_false_iff, decide_eq_false_iff_not] at hpacket
    have hkept : ¬ (packet.type = "reconnect" ∧ packet.msgText = "false") := by
      rintro ⟨htype, htext⟩
      rcases hpacket with hpacket | hpacket
      · exact hpacket htype
      · exact hpacket htext
    rw [if_neg hkept] at hreconnecting
    by_cases htold : packet.type = "reconnect" ∧ packet.msgText = "true"
    · rw [if_pos (Or.inr htold)] at hreconnecting
      simp [hreconnecting]
    · rw [if_neg (by simp [Ne.symm hstart.1, htold])] at hlobby
      rw [hlobby, hreconnecting]
      split
      · simp
      · exact h
  · rw [hlobby, hsame]
    exact h

/-- Only the data sender sends a snapshot. -/
theorem Proper.not_sendsSnapshot (h : Proper x) (hsender : "data_sender" ∉ types x.sent) :
    x.scene.sendsSnapshot = false := by
  have hflag : x.scene.client.dataSender = false := by
    by_contra hflag
    apply hsender
    rw [sent_eq, types_append]
    exact List.mem_append_left _ (h.dataSender (by simpa using hflag))
  simp [GameScene.sendsSnapshot, hflag]

end Deeds

section Pending

variable {clicks : Bool} {r c r' c' : Conn}

/-- The newcomer writes nothing of the game. -/
theorem Pending.silent_deed (h : Pending r c) (hsend : c.scene.sendsSnapshot = false)
    (hdeed : Deed clicks c c') : c'.outbox = [] := by
  obtain ⟨packets, houtbox, hcases⟩ := hdeed.outbox
  rw [houtbox, h.silent, List.nil_append]
  rcases hcases with rfl | ⟨hsends, -⟩ | ⟨-, hopen, -⟩
  · rfl
  · exact absurd (hsend.symm.trans hsends) (by simp)
  · exact absurd ((not_isOpen h.closed).symm.trans hopen) (by simp)

/-- What the survivor writes while no snapshot of it is pending. -/
theorem Unsent.left (h : Unsent r c) (hsend : r.scene.sendsSnapshot = false)
    (hdeed : Deed clicks r r') : Unsent r' c := by
  refine ⟨?_, h.updateComplete, h.resumes⟩
  obtain ⟨packets, houtbox, hcases⟩ := hdeed.outbox
  rw [flow_left hdeed houtbox, types_append, List.mem_append, not_or]
  refine ⟨h.flow, ?_⟩
  rcases hcases with rfl | ⟨hsends, -⟩ | ⟨-, -, undefinedReturn, rfl⟩
  · simp
  · exact absurd (hsend.symm.trans hsends) (by simp)
  · split
    · exact not_mem_types_packets _ (by simp)
    · simp

theorem Unsent.right (h : Unsent r c) (hdeed : Deed clicks c c') : Unsent r c' := by
  have hadopt : c.scene.adoptsSnapshot = false := by
    simp [GameScene.adoptsSnapshot, h.updateComplete]
  have hresumes : ¬ c'.resumes := by
    intro hresumes
    rcases hdeed.resumes hresumes with hresumes | hadopts
    · exact h.resumes hresumes
    · exact absurd (hadopt.symm.trans hadopts) (by simp)
  rcases hdeed.inbox_cases with ⟨packet, rest, hqueue, hread, hc', hinbox⟩ |
    ⟨hinbox, -, -, -, -, hflag⟩
  · have hflow := h.flow
    rw [flow_reads hqueue hread, ← hc', types_append, List.mem_append, not_or] at hflow
    refine ⟨hflow.2, ?_, hresumes⟩
    rw [hread.updateComplete_eq, h.updateComplete]
    by_cases htype : packet.type = "update_complete"
    · have hgame : isGame packet = true := by simp [isGame, htype]
      simp [hgame, htype] at hflow
    · simp [htype]
  · refine ⟨?_, ?_, hresumes⟩
    · rw [Conn.flow, hinbox, toward_right hdeed]
      exact h.flow
    · rcases hflag with hflag | ⟨hadopts, -⟩
      · exact hflag.trans h.updateComplete
      · exact absurd (hadopt.symm.trans hadopts) (by simp)

theorem Pending.left (h : Pending r c) (hdeed : Deed clicks r r') : Pending r' c := by
  refine ⟨h.noLeftover.deed hdeed, ?_, ?_, h.silent, h.closed, h.noStart, h.noEnd, h.mapped⟩
  · rcases hdeed.inbox_cases with ⟨packet, rest, -, hread, -, hinbox⟩ | ⟨hinbox, -, -, -, hready, -⟩
    · have hunready := h.unready
      rw [hinbox] at hunready
      rw [hread.readyToSend_eq]
      exact hunready.2 _ rfl
    · rw [hinbox]
      rcases hready with hready | ⟨-, hready⟩
      · rw [hready]
        exact h.unready
      · rw [hready]
        exact h.unready.mono
  · rcases h.stage with hunsent | hshut
    · cases hsend : r.scene.sendsSnapshot with
      | false => exact Or.inl (hunsent.left hsend hdeed)
      | true =>
          right
          apply Shut.deed _ hdeed
          simp only [GameScene.sendsSnapshot, Bool.and_eq_true] at hsend
          have hunready := h.unready
          rw [hsend.2] at hunready
          exact ⟨hsend.1.1, hunready.not_completes⟩
    · exact Or.inr (hshut.deed hdeed)

theorem Pending.right (h : Pending r c) (hsend : c.scene.sendsSnapshot = false)
    (hdeed : Deed clicks c c') : Pending r c' := by
  have hinbox : ∀ packet ∈ c'.inbox, packet ∈ c.inbox := by
    intro packet hpacket
    rcases hdeed.inbox_cases with ⟨first, rest, -, -, -, hinbox⟩ | ⟨hinbox, -⟩
    · rw [hinbox]
      exact List.mem_cons_of_mem _ hpacket
    · rw [← hinbox]
      exact hpacket
  refine ⟨h.noLeftover, h.unready, h.stage.imp_left fun hunsent => hunsent.right hdeed,
    h.silent_deed hsend hdeed, hdeed.closed h.closed h.noStart h.noEnd, ?_, ?_, ?_⟩
  · intro hmem
    obtain ⟨packet, hpacket, htype⟩ := mem_types.mp hmem
    exact h.noStart (mem_types.mpr ⟨packet, hinbox packet hpacket, htype⟩)
  · intro packet hpacket
    exact h.noEnd packet (hinbox packet hpacket)
  · rw [hdeed.peer.2]
    exact h.mapped

theorem Unsent.served (h : Unsent r c) (hflow : r'.flow c' = r.flow c)
    (hscene : c'.scene = c.scene) (hunhandled : ∀ packet ∈ c'.unhandled, packet ∈ c.unhandled) :
    Unsent r' c' := by
  refine ⟨by rw [hflow]; exact h.flow, by rw [hscene]; exact h.updateComplete, ?_⟩
  intro hresumes
  obtain ⟨packet, hpacket, htype⟩ := mem_types.mp hresumes
  exact h.resumes (mem_types.mpr ⟨packet, hunhandled packet hpacket, htype⟩)

/-- The server handles a packet of the survivor. -/
theorem Pending.servedLeft (h : Pending r c) (hserve : Serve r c r' c') : Pending r' c' := by
  have hserved := hserve.served
  rcases hserve.told with ⟨hdownR, packets, hdownC, hpackets⟩ | ⟨hresumes, -⟩
  · have hinboxR : r'.inbox = r.inbox := by rw [inbox, inbox, hserved.sceneX, hdownR]
    have hinboxC : c'.inbox = c.inbox ++ packets := by
      rw [inbox, inbox, hserved.sceneY, hdownC, List.append_assoc]
    refine ⟨h.noLeftover.served hserved, ?_, ?_, ?_, by rw [hserved.sceneY]; exact h.closed, ?_,
      ?_, by rw [hserved.mappedY]; exact h.mapped⟩
    · rw [hserved.sceneX, hinboxR]
      exact h.unready
    · rcases h.stage with hunsent | hshut
      · left
        apply hunsent.served hserved.flow hserved.sceneY
        rw [hserved.unhandledY]
        exact fun _ => id
      · right
        refine ⟨by rw [hserved.sceneX]; exact hshut.reconnecting, ?_⟩
        rw [hinboxR]
        exact hshut.inbox
    · rw [outbox, hserved.unhandledY]
      exact h.silent
    · rw [hinboxC, types_append, List.mem_append, not_or]
      refine ⟨h.noStart, ?_⟩
      intro hmem
      obtain ⟨packet, hpacket, htype⟩ := mem_types.mp hmem
      exact type_ne_of_forwarded (hpackets packet hpacket).2 (by decide) htype
    · rw [hinboxC]
      intro packet hpacket
      rcases List.mem_append.mp hpacket with hpacket | hpacket
      · exact h.noEnd packet hpacket
      · exact completes_of_forwarded (hpackets packet hpacket).2
  · exact absurd hresumes h.noLeftover.resumes

/-- The server handles a packet of the newcomer: it relays a line of chat, or
answers the `resume`. -/
theorem Pending.servedRight (h : Pending r c) (hserve : Serve c r c' r') :
    Pending r' c' ∨ Server.completedPacket ∈ c'.sent := by
  have hserved := hserve.served
  have houtbox : "update_complete" ∉ types c.outbox := by simp [h.silent]
  rcases hserve.told with ⟨hdownC, packets, hdownR, hpackets⟩ | ⟨-, m, n, hdownC, -, htold, -⟩
  · left
    have hinboxC : c'.inbox = c.inbox := by rw [inbox, inbox, hserved.sceneX, hdownC]
    have hinboxR : r'.inbox = r.inbox ++ packets := by
      rw [inbox, inbox, hserved.sceneY, hdownR, List.append_assoc]
    have hnone : ∀ packet ∈ packets, completes packet = false := fun packet hpacket =>
      completes_of_forwarded (hpackets packet hpacket).2
    refine ⟨h.noLeftover.servedY houtbox hserved, ?_, ?_, hserved.silent h.silent,
      by rw [hserved.sceneX]; exact h.closed, by rw [hinboxC]; exact h.noStart,
      by rw [hinboxC]; exact h.noEnd, by rw [hserved.mappedX]; exact h.mapped⟩
    · rw [hserved.sceneY, hinboxR]
      exact h.unready.append hnone
    · rcases h.stage with hunsent | hshut
      · exact Or.inl (hunsent.served hserved.back hserved.sceneX
          (mem_unhandled_of_handled hserved.handled))
      · right
        refine ⟨by rw [hserved.sceneY]; exact hshut.reconnecting, ?_⟩
        rw [hinboxR]
        intro packet hpacket
        rcases List.mem_append.mp hpacket with hpacket | hpacket
        · exact hshut.inbox packet hpacket
        · exact hnone packet hpacket
  · right
    rw [sent_append hserved.sceneX hserved.dispatchedX hdownC]
    apply List.mem_append_right
    exact List.mem_replicate.mpr ⟨htold h.mapped, rfl⟩

theorem ClearAtJoin.pending {survivor : Conn} (h : ClearAtJoin survivor) (uid : Nat)
    (blank : Sprite) : Pending (survivor.joinedBy uid) (newcomer uid blank) := by
  have hready : ∀ packet ∈ [Server.readyPacket], completes packet = false := by decide
  refine ⟨⟨h.noLeftover.resumes, h.noLeftover.updateComplete, ?_⟩, ?_, ?_, rfl, rfl, ?_, ?_, rfl⟩
  · rcases joinedBy_inbox uid survivor with hinbox | hinbox
    · rw [hinbox]
      exact h.noLeftover.inbox
    · rw [hinbox, types_append, List.mem_append, not_or]
      exact ⟨h.noLeftover.inbox, by simp [Server.readyPacket]⟩
  · rcases joinedBy_inbox uid survivor with hinbox | hinbox
    · rw [hinbox]
      exact h.unready
    · rw [hinbox]
      exact h.unready.append hready
  · rcases h.unsent with hunsent | hshut
    · left
      refine ⟨?_, rfl, ?_⟩
      · rw [flow_newcomer]
        split
        · exact hunsent
        · simp
      · intro hresumes
        cases hresumes
    · right
      refine ⟨hshut.reconnecting, ?_⟩
      rcases joinedBy_inbox uid survivor with hinbox | hinbox
      · rw [hinbox]
        exact hshut.inbox
      · rw [hinbox]
        intro packet hpacket
        rcases List.mem_append.mp hpacket with hpacket | hpacket
        · exact hshut.inbox packet hpacket
        · exact hready packet hpacket
  · simp [inbox, newcomer, fresh, GameScene.create, ClientComponent.fresh, Server.reconPacket]
  · simp [inbox, newcomer, fresh, GameScene.create, ClientComponent.fresh, Server.reconPacket,
      completes]

end Pending

end Conn

end NetworkingGame
