import NetworkingGame.Resync
import NetworkingGame.SessionSafety
import NetworkingGame.Silence

/-!
How a reconnect ends. What the server has sent to a client decides the flags
that the client will have, however far it has got with reading; and from the
moment a newcomer joins until a `resume` is handled, something is always on its
way that will bring about that `resume`.
-/

namespace NetworkingGame

open Library.Transition Library.Fairness

/-- The flags that keep a client from playing. -/
structure Flags where
  isLobby : Bool
  isReconnecting : Bool
  dataSender : Bool
deriving DecidableEq

namespace Flags

def read (flags : Flags) (packet : CustomPacket) : Flags where
  isLobby :=
    if packet.type = "start" ∨ (packet.type = "reconnect" ∧ packet.msgText = "true") then false
    else flags.isLobby
  isReconnecting :=
    if packet.type = "data_sender" ∨ (packet.type = "reconnect" ∧ packet.msgText = "true") then
      true
    else if packet.type = "reconnect" ∧ packet.msgText = "false" then false
    else flags.isReconnecting
  dataSender :=
    if packet.type = "data_sender" then true
    else if packet.type = "reconnect" ∧ packet.msgText = "false" then false
    else flags.dataSender

/-- The flags at the end of a reconnect. -/
def released (flags : Flags) : Flags :=
  { flags with isReconnecting := false, dataSender := false }

theorem read_completed (flags : Flags) : flags.read Server.completedPacket = flags.released := by
  simp [read, released, Server.completedPacket]

theorem read_forwarded (flags : Flags) {packet : CustomPacket}
    (h : Server.isForwarded packet.type = true) : flags.read packet = flags := by
  have hstart := Conn.type_ne_of_forwarded h (show Server.isForwarded "start" = false by decide)
  have hsender :=
    Conn.type_ne_of_forwarded h (show Server.isForwarded "data_sender" = false by decide)
  have hreconnect :=
    Conn.type_ne_of_forwarded h (show Server.isForwarded "reconnect" = false by decide)
  simp [read, hstart, hsender, hreconnect]

theorem foldl_forwarded (flags : Flags) {packets : List CustomPacket}
    (h : ∀ packet ∈ packets, Server.isForwarded packet.type = true) :
    packets.foldl read flags = flags := by
  induction packets with
  | nil => rfl
  | cons packet packets ih =>
      rw [List.foldl_cons, read_forwarded flags (h packet (by simp))]
      exact ih fun other hother => h other (by simp [hother])

theorem foldl_completed (flags : Flags) {n : Nat} (h : n ≠ 0) :
    (List.replicate n Server.completedPacket).foldl read flags = flags.released := by
  induction n generalizing flags with
  | zero => exact absurd rfl h
  | succ n ih =>
      rw [List.replicate_succ, List.foldl_cons, read_completed]
      cases n with
      | zero => rfl
      | succ n => exact ih flags.released (by simp)

/-- Nothing that a client reads takes it back to the lobby. -/
theorem read_isLobby {flags : Flags} (h : flags.isLobby = false) (packet : CustomPacket) :
    (flags.read packet).isLobby = false := by
  simp only [read, h, ite_self]

theorem foldl_isLobby {flags : Flags} (h : flags.isLobby = false)
    (packets : List CustomPacket) : (packets.foldl read flags).isLobby = false := by
  induction packets generalizing flags with
  | nil => exact h
  | cons packet packets ih => exact ih (read_isLobby h packet)

theorem foldl_isReconnecting {flags : Flags} (h : flags.isReconnecting = false)
    {packets : List CustomPacket}
    (hpackets : ∀ packet ∈ packets, packet.type ≠ "data_sender" ∧ packet.type ≠ "reconnect") :
    (packets.foldl read flags).isReconnecting = false := by
  induction packets generalizing flags with
  | nil => exact h
  | cons packet packets ih =>
      obtain ⟨hsender, hreconnect⟩ := hpackets packet (by simp)
      apply ih _ fun other hother => hpackets other (by simp [hother])
      simp [read, h, hsender, hreconnect]

end Flags

def ClientComponent.flags (client : ClientComponent) : Flags :=
  ⟨client.isLobby, client.isReconnecting, client.dataSender⟩

theorem ClientComponent.Processed.flags_eq {client after : ClientComponent}
    {packet : CustomPacket} (h : Processed client packet after) :
    after.flags = client.flags.read packet := by
  rw [flags, h.isLobby_eq, h.isReconnecting_eq, h.dataSender_eq]
  rfl

namespace Conn

/-- The flags of a client once it has read all that it was sent. -/
def outlook (x : Conn) : Flags := x.inbox.foldl Flags.read x.scene.client.flags

/-- What will make the newcomer `c` write a `resume`, or a `resume` that it has
written. -/
inductive Owed (r c : Conn) : Prop
  | ready (h : r.readies ≠ 0)
  | coming (h : "update_complete" ∈ types (r.flow c))
  | arrived (h : c.scene.client.updateComplete = true)
  | answered (h : c.resumes)

/-- The survivor `r` is the data sender of a reconnect that the newcomer `c`
takes part in, and that is not over. -/
structure Resuming (r c : Conn) : Prop where
  sender : r.outlook.dataSender = true
  survivor : r.outlook.isReconnecting = true
  newcomer : c.outlook.isReconnecting = true
  owed : Owed r c

/-- What the client was sent takes it out of the lobby. -/
def Admitted (x : Conn) : Prop := x.outlook.isLobby = false

/-- Two clients of a game, the second of which is the newcomer if there is one. -/
structure Paired (r c : Conn) : Prop where
  mapped : r.inPeerMap = true
  reaches : r.reaches c = true
  admittedR : Admitted r
  admittedC : Admitted c
  stage : Resuming r c ∨ (r.outlook.isReconnecting = false ∧ c.outlook.isReconnecting = false)

/-- A client that a game has left alone will be the data sender. -/
structure Deserted (x : Conn) : Prop where
  mapped : x.inPeerMap = true
  admitted : Admitted x
  sender : x.outlook.dataSender = true
  reconnecting : x.outlook.isReconnecting = true

section Outlook

variable {clicks : Bool} {x y x' y' : Conn}

/-- Nothing that a client does changes what it will be told. -/
theorem Deed.outlook (h : Deed clicks x x') : x'.outlook = x.outlook := by
  rcases h.inbox_cases with ⟨packet, rest, hqueue, hread, -, hinbox⟩ |
    ⟨hinbox, hlobby, hreconnecting, hsender, -⟩
  · rw [Conn.outlook, Conn.outlook, hinbox, List.foldl_cons, hread.flags_eq]
    rfl
  · have hflags : x'.scene.client.flags = x.scene.client.flags := by
      rw [ClientComponent.flags, hlobby, hreconnecting, hsender]
      rfl
    rw [Conn.outlook, Conn.outlook, hinbox, hflags]

theorem outlook_told (hscene : x'.scene = x.scene) {packets : List CustomPacket}
    (hdown : x'.down = x.down ++ packets) :
    x'.outlook = packets.foldl Flags.read x.outlook := by
  rw [outlook, outlook, inbox, inbox, hscene, hdown, ← List.append_assoc, List.foldl_append]

/-- A `resume` releases both clients, and no other packet changes what they will
be told. -/
theorem Serve.outlook (h : Serve x y x' y') (hx : x.inPeerMap = true)
    (hy : y.inPeerMap = true) :
    (x'.outlook = x.outlook ∧ y'.outlook = y.outlook ∧ (x.resumes → x'.resumes)) ∨
      (x.resumes ∧ x'.outlook = x.outlook.released ∧ y'.outlook = y.outlook.released) := by
  have hkept {msg : CustomPacket} {rest : List CustomPacket} (hup : x.up = msg :: rest)
      (hother : msg.type ≠ "resume") (hresumes : x.resumes) :
      Conn.resumes { x with up := rest } := by
    rw [Conn.resumes, unhandled, hup, List.cons_append, types_cons, List.mem_cons] at hresumes
    exact hresumes.resolve_left (Ne.symm hother)
  cases h with
  | forward msg rest hup hforward =>
      refine Or.inl ⟨rfl, ?_, hkept hup (type_ne_of_forwarded hforward (by decide))⟩
      have htold := @outlook_told y { y with down := y.down ++ if x.reaches y then [msg] else [] }
        rfl _ rfl
      rw [htold, Flags.foldl_forwarded]
      intro packet hpacket
      split at hpacket
      · rw [List.mem_singleton.mp hpacket]
        exact hforward
      · cases hpacket
  | resume msg rest hup hresume m n hm hn =>
      have hanswer (z z' : Conn) (n : Nat) (hscene : z'.scene = z.scene)
          (hdown : z'.down = z.down ++ List.replicate n Server.completedPacket) (hn : n ≠ 0) :
          z'.outlook = z.outlook.released :=
        (outlook_told hscene hdown).trans (Flags.foldl_completed _ hn)
      refine Or.inr ⟨?_, hanswer x _ m rfl rfl (hm hx), hanswer y _ n rfl rfl (hn hy)⟩
      simp [Conn.resumes, unhandled, hup, hresume]
  | dropped msg rest hup hforward hresume => exact Or.inl ⟨rfl, rfl, hkept hup hresume⟩

end Outlook

section Owed

variable {clicks : Bool} {x x' r c r' c' : Conn}

/-- A `ready` is acted on by writing the snapshot. -/
theorem Deed.readies_or (h : Deed clicks x x') (hready : x.readies ≠ 0) :
    x'.readies ≠ 0 ∨ ∃ gameTurn, x'.outbox = x.outbox ++ x.scene.begun.snapshot gameTurn := by
  have hkept (hinbox : x'.inbox = x.inbox)
      (hflag : x'.scene.client.readyToSend = x.scene.client.readyToSend) : x'.readies ≠ 0 := by
    rw [readies, hinbox, hflag]
    exact hready
  cases h with
  | same _ hsame =>
      exact Or.inl (hkept hsame.inbox (hsame.field fun s => s.client.readyToSend))
  | reads packet rest client hqueue hread =>
      left
      have hreceived : client.recievedQueue = rest := hread.queues.1
      rw [readies, inbox, hqueue, List.cons_append, types_cons, List.count_cons] at hready
      change client.readyToSend.toNat + (types (client.recievedQueue ++ x.down)).count "ready" ≠ 0
      rw [hreceived, hread.readyToSend_eq]
      by_cases htype : packet.type = "ready"
      · simp [htype]
      · simpa [htype] using hready
  | draws scene hframe =>
      rcases hframe.client_cases with hclient | ⟨-, gameTurn, -, hclient⟩ | ⟨-, hclient⟩ |
        ⟨-, hclient⟩
      · exact Or.inl (hkept (by simp [inbox, hclient]) (by rw [hclient]))
      · right
        refine ⟨gameTurn, ?_⟩
        simp [Conn.outbox, unhandled, hclient, ClientComponent.push, filter_isGame_snapshot]
      · exact Or.inl (hkept (by simp [inbox, hclient, ClientComponent.push])
          (by rw [hclient, ClientComponent.push]))
      · exact Or.inl (hkept (by simp [inbox, hclient]) (by rw [hclient]))
  | ends undefinedReturn =>
      rw [GameScene.endTurn_eq] at hkept ⊢
      exact Or.inl (hkept rfl rfl)
  | moves scene _ _ hmoved =>
      have hclient : scene.client = x.scene.client := by rw [hmoved.rest]
      exact Or.inl (hkept (by simp [inbox, hclient]) (by rw [hclient]))

/-- What a client has written stays written until the server handles it. -/
theorem Deed.resumes_kept (h : Deed clicks x x') (hresumes : x.resumes) : x'.resumes := by
  have hwrote {scene : GameScene} (packets : List CustomPacket)
      (hsending : scene.client.sendingQueue = x.scene.client.sendingQueue ++ packets) :
      Conn.resumes { x with scene := scene } := by
    have hunhandled : unhandled { x with scene := scene } = x.unhandled ++ packets := by
      simp [unhandled, hsending]
    rw [Conn.resumes, hunhandled, types_append]
    exact List.mem_append_left _ hresumes
  cases h with
  | same _ hsame => exact hsame.resumes.mpr hresumes
  | reads packet rest client hqueue hread =>
      have hsending : client.sendingQueue = x.scene.client.sendingQueue := hread.queues.2
      simpa [Conn.resumes, unhandled, GameScene.withClient, hsending] using hresumes
  | draws scene hframe =>
      obtain ⟨packets, hsending, -⟩ := hframe.sendingQueue
      exact hwrote packets hsending
  | ends undefinedReturn =>
      apply hwrote ((x.scene.turnMsgs undefinedReturn).map Msg.packet)
      rw [GameScene.endTurn_eq]
      rfl
  | moves scene _ _ hmoved => exact hwrote [] (by rw [hmoved.rest, List.append_nil])

/-- A snapshot that has arrived is adopted with a `resume`. -/
theorem Deed.arrived_or (h : Deed clicks x x') (hflag : x.scene.client.updateComplete = true) :
    x'.scene.client.updateComplete = true ∨ x'.resumes := by
  cases h with
  | same _ hsame =>
      exact Or.inl ((hsame.field fun s => s.client.updateComplete).trans hflag)
  | reads packet rest client hqueue hread =>
      left
      simp [GameScene.withClient, hread.updateComplete_eq, hflag]
  | draws scene hframe =>
      rcases hframe.client_cases with hclient | ⟨-, gameTurn, -, hclient⟩ | ⟨-, hclient⟩ |
        ⟨-, hclient⟩
      · exact Or.inl (by rw [hclient, hflag])
      · exact Or.inl (by rw [hclient, ← hflag, ClientComponent.push])
      · right
        simp [Conn.resumes, unhandled, hclient, ClientComponent.push, GameScene.resumePacket]
      · exact Or.inl (by rw [hclient, ← hflag])
  | ends =>
      left
      rw [GameScene.endTurn_eq]
      exact hflag
  | moves scene _ _ hmoved =>
      left
      rw [hmoved.rest]
      exact hflag

theorem Owed.left (h : Owed r c) (hreaches : r.reaches c = true) (hdeed : Deed clicks r r') :
    Owed r' c := by
  cases h with
  | ready hready =>
      rcases hdeed.readies_or hready with hready' | ⟨gameTurn, houtbox⟩
      · exact .ready hready'
      · apply Owed.coming
        rw [flow_left hdeed houtbox, hreaches, if_pos rfl, snapshot_eq]
        simp [GameScene.updateCompletePacket]
  | coming hflow =>
      obtain ⟨packets, houtbox, -⟩ := hdeed.outbox
      apply Owed.coming
      rw [flow_left hdeed houtbox, types_append]
      exact List.mem_append_left _ hflow
  | arrived hflag => exact .arrived hflag
  | answered hresumes => exact .answered hresumes

theorem Owed.right (h : Owed r c) (hdeed : Deed clicks c c') : Owed r c' := by
  cases h with
  | ready hready => exact .ready hready
  | coming hflow =>
      rcases hdeed.inbox_cases with ⟨packet, rest, hqueue, hread, hc', -⟩ | ⟨hinbox, -⟩
      · rw [flow_reads hqueue hread, ← hc', types_append, List.mem_append] at hflow
        rcases hflow with hflow | hflow
        · apply Owed.arrived
          obtain ⟨complete, hcomplete, htype⟩ := mem_types.mp hflow
          split at hcomplete
          · rw [List.mem_singleton.mp hcomplete] at htype
            simp [hread.updateComplete_eq, htype]
          · cases hcomplete
        · exact .coming hflow
      · apply Owed.coming
        rw [flow_congr hinbox hdeed.peer.1 hdeed.peer.2]
        exact hflow
  | arrived hflag =>
      rcases hdeed.arrived_or hflag with hflag' | hresumes
      · exact .arrived hflag'
      · exact .answered hresumes
  | answered hresumes => exact .answered (hdeed.resumes_kept hresumes)

theorem readies_told_le (hscene : x'.scene = x.scene) {packets : List CustomPacket}
    (hdown : x'.down = x.down ++ packets) : x.readies ≤ x'.readies := by
  have hfirst : types x.inbox <+: types x'.inbox := by
    rw [inbox, inbox, hscene, hdown, ← List.append_assoc, types_append (_ ++ _)]
    exact List.prefix_append _ _
  rw [readies, readies, hscene]
  exact Nat.add_le_add_left (hfirst.sublist.count_le "ready") _

theorem Owed.congr (h : Owed r c) (hready : r.readies ≤ r'.readies)
    (hflow : r'.flow c' = r.flow c) (hc : c'.scene = c.scene) (hresumes : c.resumes → c'.resumes) :
    Owed r' c' := by
  cases h with
  | ready hne => exact .ready (by omega)
  | coming hmem => exact .coming (by rw [hflow]; exact hmem)
  | arrived hflag => exact .arrived (by rw [hc]; exact hflag)
  | answered hold => exact .answered (hresumes hold)

end Owed

section Paired

variable {clicks : Bool} {x x' r c r' c' : Conn}

theorem Paired.mapped_newcomer (h : Paired r c) : c.inPeerMap = true := by
  have hreaches := h.reaches
  rw [Conn.reaches, Bool.and_eq_true] at hreaches
  exact hreaches.1

theorem Resuming.congr (h : Resuming r c) (hr : r'.outlook = r.outlook)
    (hc : c'.outlook = c.outlook) (howed : Owed r' c') : Resuming r' c' :=
  ⟨by rw [hr]; exact h.sender, by rw [hr]; exact h.survivor, by rw [hc]; exact h.newcomer, howed⟩

/-- The two will be told the same, and the newcomer is still owed its `resume`. -/
theorem Paired.congr (h : Paired r c) (hmapped : r'.inPeerMap = r.inPeerMap)
    (hreaches : r'.reaches c' = r.reaches c) (hr : r'.outlook = r.outlook)
    (hc : c'.outlook = c.outlook) (howed : Owed r c → Owed r' c') : Paired r' c' := by
  refine ⟨hmapped.trans h.mapped, hreaches.trans h.reaches, ?_, ?_, ?_⟩
  · rw [Admitted, hr]
    exact h.admittedR
  · rw [Admitted, hc]
    exact h.admittedC
  · rcases h.stage with hresuming | hover
    · exact Or.inl (hresuming.congr hr hc (howed hresuming.owed))
    · right
      rw [hr, hc]
      exact hover

theorem Paired.released (h : Paired r c) (hmapped : r'.inPeerMap = r.inPeerMap)
    (hreaches : r'.reaches c' = r.reaches c) (hr : r'.outlook = r.outlook.released)
    (hc : c'.outlook = c.outlook.released) : Paired r' c' := by
  refine ⟨hmapped.trans h.mapped, hreaches.trans h.reaches, ?_, ?_, Or.inr ?_⟩
  · rw [Admitted, hr]
    exact h.admittedR
  · rw [Admitted, hc]
    exact h.admittedC
  · rw [hr, hc]
    exact ⟨rfl, rfl⟩

/-- Until a `resume` is handled, the newcomer is owed one. -/
theorem Paired.step (h : Paired r c) (horigins : Origins r c)
    (hstep : PairStep clicks r c r' c') : Paired r' c' := by
  cases hstep with
  | left _ hlocal =>
      have hdeed := hlocal.deed horigins.properA.writes
      exact h.congr hdeed.peer.2 (reaches_congr hdeed.peer.1 rfl rfl) hdeed.outlook rfl
        fun howed => howed.left h.reaches hdeed
  | right _ hlocal =>
      have hdeed := hlocal.deed horigins.properB.writes
      exact h.congr rfl (reaches_congr rfl hdeed.peer.1 hdeed.peer.2) rfl hdeed.outlook
        fun howed => howed.right hdeed
  | serveLeft _ _ hserve =>
      have hserved := hserve.served
      have hreaches := reaches_congr hserved.uidX hserved.uidY hserved.mappedY
      rcases hserve.outlook h.mapped h.mapped_newcomer with ⟨hr, hc, -⟩ | ⟨-, hr, hc⟩
      · obtain ⟨packets, hdown, -⟩ := hserved.toX
        apply h.congr hserved.mappedX hreaches hr hc
        intro howed
        apply howed.congr (readies_told_le hserved.sceneX hdown) hserved.flow hserved.sceneY
        rw [Conn.resumes, Conn.resumes, hserved.unhandledY]
        exact id
      · exact h.released hserved.mappedX hreaches hr hc
  | serveRight _ _ hserve =>
      have hserved := hserve.served
      have hreaches := reaches_congr hserved.uidY hserved.uidX hserved.mappedX
      rcases hserve.outlook h.mapped_newcomer h.mapped with ⟨hc, hr, hresumes⟩ | ⟨-, hc, hr⟩
      · obtain ⟨packets, hdown, -⟩ := hserved.toY
        apply h.congr hserved.mappedY hreaches hr hc
        intro howed
        exact howed.congr (readies_told_le hserved.sceneY hdown) hserved.back hserved.sceneX
          hresumes
      · exact h.released hserved.mappedY hreaches hr hc

/-- The lobby puts two clients together that take part in no reconnect. -/
theorem Lobby.paired {nextUid : Nat} (h : Lobby nextUid x) (blank : Sprite) (id : Int) :
    Paired { x with down := x.down ++ [Server.startPacket] }
      { fresh nextUid blank with down := [Server.initPacket id, Server.startPacket] } := by
  have htold := @outlook_told x { x with down := x.down ++ [Server.startPacket] } rfl _ rfl
  have hreconnecting : x.outlook.isReconnecting = false := by
    apply Flags.foldl_isReconnecting
    · exact h.side.notReconnecting
    · intro packet hpacket
      have htype := h.side.inbox_type packet hpacket
      constructor
      · intro hsender
        simp [hsender] at htype
      · intro hreconnect
        simp [hreconnect] at htype
  refine ⟨h.side.mapped, ?_, ?_, rfl, Or.inr ⟨?_, rfl⟩⟩
  · simp [reaches, fresh, h.uid_ne.symm]
  · rw [Admitted, htold]
    rfl
  · rw [htold]
    exact hreconnecting

theorem Paired.deserted (h : Paired r c) : Deserted r.leftAlone ∧ Deserted c.leftAlone := by
  have hleft {x : Conn} (hmapped : x.inPeerMap = true) (hadmitted : Admitted x) :
      Deserted x.leftAlone := by
    have htold := @outlook_told x x.leftAlone rfl [Server.dataSenderPacket]
      (by simp [leftAlone, hmapped])
    refine ⟨hmapped, ?_, ?_, ?_⟩
    · rw [Admitted, htold]
      exact Flags.foldl_isLobby hadmitted _
    · rw [htold]
      rfl
    · rw [htold]
      rfl
  exact ⟨hleft h.mapped h.admittedR, hleft h.mapped_newcomer h.admittedC⟩

theorem Deserted.congr (h : Deserted x) (hmapped : x'.inPeerMap = x.inPeerMap)
    (houtlook : x'.outlook = x.outlook) : Deserted x' := by
  refine ⟨hmapped.trans h.mapped, ?_, ?_, ?_⟩
  · rw [Admitted, houtlook]
    exact h.admitted
  · rw [houtlook]
    exact h.sender
  · rw [houtlook]
    exact h.reconnecting

/-- Who joins a deserted client is owed a `resume` at once. -/
theorem Deserted.joined (h : Deserted x) {uid : Nat} (huid : x.uid ≠ uid) (blank : Sprite) :
    Paired (x.joinedBy uid) (newcomer uid blank) := by
  have htold := @outlook_told x (x.joinedBy uid) rfl [Server.readyPacket]
    (by simp [joinedBy, h.mapped, huid])
  have hsame : (x.joinedBy uid).outlook = x.outlook := by
    rw [htold]
    simp [Flags.read, Server.readyPacket]
  refine ⟨?_, ?_, ?_, rfl, Or.inl ⟨?_, ?_, rfl, .ready ?_⟩⟩
  · simp [joinedBy, h.mapped, huid]
  · simp [reaches, joinedBy, newcomer, fresh, huid.symm]
  · rw [Admitted, hsame]
    exact h.admitted
  · rw [hsame]
    exact h.sender
  · rw [hsame]
    exact h.reconnecting
  · simp [readies, inbox, joinedBy, h.mapped, huid, Server.readyPacket]

end Paired

end Conn

namespace GameScene

variable {scene after : GameScene}

theorem Frame.readyToSend (h : Frame scene after) (hsend : scene.sendsSnapshot = true) :
    after.client.readyToSend = false := by
  have hreconnecting : scene.client.isReconnecting = true := by
    simp only [sendsSnapshot, Bool.and_eq_true] at hsend
    exact hsend.1.1
  cases h with
  | idle _ hnone => simp [hsend] at hnone
  | send => rfl
  | adopt hadopt => simp [adoptsSnapshot, hsend] at hadopt
  | finished closed => simp [hreconnecting] at closed
  | wait closed => simp [hreconnecting] at closed
  | drain closed => simp [hreconnecting] at closed

theorem Frame.updateComplete (h : Frame scene after) (hadopts : scene.adoptsSnapshot = true) :
    after.client.updateComplete = false := by
  have hreconnecting : scene.client.isReconnecting = true := by
    simp only [adoptsSnapshot, Bool.and_eq_true] at hadopts
    exact hadopts.2.1
  cases h with
  | idle _ _ hnone => simp [hadopts] at hnone
  | send hsend => simp [adoptsSnapshot, hsend] at hadopts
  | adopt => rfl
  | finished closed => simp [hreconnecting] at closed
  | wait closed => simp [hreconnecting] at closed
  | drain closed => simp [hreconnecting] at closed

theorem Frame.lastScene (h : Frame scene after) : after.lastScene = true := by
  have hbegun : scene.begun.lastScene = true := by
    unfold begun assignTeam
    split_ifs <;> rfl
  cases h with
  | idle => exact hbegun
  | send => exact hbegun
  | adopt _ drained hdrain =>
      change drained.lastScene = true
      rw [unitNetworkUpdate_rest hdrain]
      unfold adoptTeam adoptTurn
      split_ifs <;> exact hbegun
  | finished => exact hbegun
  | wait => exact hbegun
  | drain _ _ _ _ hdrain =>
      rw [unitNetworkUpdate_rest hdrain]
      exact hbegun

end GameScene

namespace Conn

section Silent

variable {x r c : Conn}

theorem Silent.inbox_nil (h : x.Silent) : x.inbox = [] := by
  rw [inbox, h.received, h.down, List.nil_append]

theorem Silent.unhandled_nil (h : x.Silent) : x.unhandled = [] := by
  rw [unhandled, h.up, h.sending, List.nil_append]

theorem Silent.outlook (h : x.Silent) : x.outlook = x.scene.client.flags := by
  rw [Conn.outlook, h.inbox_nil, List.foldl_nil]

theorem Silent.framed (h : x.Silent) : x.scene.Frame x.scene := by
  obtain ⟨scene, hscene, hsame⟩ := Option.map_eq_some_iff.mp h.frame
  obtain rfl : scene = x.scene := congrArg Conn.scene hsame
  exact GameScene.update_frame (toOption_eq_some hscene)

theorem Silent.not_sends (h : x.Silent) : x.scene.sendsSnapshot = false := by
  by_contra hsend
  rw [Bool.not_eq_false] at hsend
  have hcleared := h.framed.readyToSend hsend
  simp [GameScene.sendsSnapshot, hcleared] at hsend

theorem Silent.not_adopts (h : x.Silent) : x.scene.adoptsSnapshot = false := by
  by_contra hadopts
  rw [Bool.not_eq_false] at hadopts
  have hcleared := h.framed.updateComplete hadopts
  simp [GameScene.adoptsSnapshot, hcleared] at hadopts

/-- In a silent state nothing is owed any more, so the reconnect is over. -/
theorem Paired.over (h : Paired r c) (hr : r.Silent) (hc : c.Silent) :
    r.scene.client.isReconnecting = false ∧ c.scene.client.isReconnecting = false := by
  rcases h.stage with hresuming | hover
  · exfalso
    have hsender := hresuming.sender
    have hsurvivor := hresuming.survivor
    have hnewcomer := hresuming.newcomer
    rw [hr.outlook] at hsender hsurvivor
    rw [hc.outlook] at hnewcomer
    change r.scene.client.dataSender = true at hsender
    change r.scene.client.isReconnecting = true at hsurvivor
    change c.scene.client.isReconnecting = true at hnewcomer
    cases hresuming.owed with
    | ready hready =>
        have hnone := hr.not_sends
        rw [readies, hr.inbox_nil] at hready
        simp [GameScene.sendsSnapshot, hsender, hsurvivor] at hnone
        simp [hnone] at hready
    | coming hflow =>
        simp [flow, hc.inbox_nil, toward, outbox, hr.unhandled_nil] at hflow
    | arrived hflag =>
        have hnone := hc.not_adopts
        simp [GameScene.adoptsSnapshot, hc.not_sends, hnewcomer, hflag] at hnone
    | answered hresumes => simp [Conn.resumes, hc.unhandled_nil] at hresumes
  · rw [hr.outlook, hc.outlook] at hover
    exact hover

/-- A client at rest that has left the lobby and takes part in no reconnect can
play. -/
theorem Silent.isOpen (h : x.Silent) (hlobby : x.outlook.isLobby = false)
    (hreconnecting : x.scene.client.isReconnecting = false) : x.scene.isOpen = true := by
  rw [h.outlook] at hlobby
  change x.scene.client.isLobby = false at hlobby
  simp [GameScene.isOpen, h.framed.lastScene, hlobby, hreconnecting]

end Silent

end Conn

def SystemEvent.isConnect : SystemEvent → Bool
  | .connect _ => true
  | _ => false

namespace System

/-- What holds of the clients of a running game after `count` connects. -/
structure Manned (count : Nat) (system : System) : Prop where
  stage : Stage system ∧ system.server.componentNextUid < 2 ^ 32
  origins : Conns (fun x => x.Proper ∧ x.Entitled) Conn.Origins system.conns
  next : system.server.componentNextUid = count % 2 ^ 32
  uids : ∀ x ∈ system.conns, x.uid < count
  clients : system.server.gameActive = true →
    Conns Conn.Deserted Conn.Paired system.conns

section Manned

variable {count : Nat} {system after : System} {event : SystemEvent}

theorem joinMeets_always (system : System) (event : SystemEvent) :
    JoinMeets (fun _ _ => True) system event := by
  cases event with
  | connect => exact fun _ _ _ => trivial
  | disconnect => trivial
  | serve => trivial
  | act => trivial

/-- A client that is alone does not have a `resume` handled. -/
theorem not_resume_of_serve {server : Server} {x : Conn} {msg : CustomPacket}
    {rest : List CustomPacket} (hstep : step ⟨server, [x]⟩ (.serve 0) = some after)
    (hup : x.up = msg :: rest) : msg.type ≠ "resume" := by
  obtain ⟨sender, first, others, hsender, hfirst, hfound, -⟩ := step_serve_cases hstep
  obtain rfl : x = sender := Option.some.inj hsender
  obtain ⟨rfl, -⟩ := List.cons.inj (hup.symm.trans hfirst)
  intro hresume
  have htwo := hfound hresume
  simp at htwo

theorem deserted_step {server : Server} {x x' : Conn} (hstays : event.stays = true)
    (hstep : step ⟨server, [x]⟩ event = some ⟨server, [x']⟩) (hproper : x.Proper)
    (h : x.Deserted) : x'.Deserted := by
  have hlocally {clicks : Bool} (hlocal : x.Local clicks x') : x'.Deserted := by
    have hdeed := hlocal.deed hproper.writes
    exact h.congr hdeed.peer.2 hdeed.outlook
  cases event with
  | connect => cases hstays
  | disconnect => cases hstays
  | serve index =>
      rcases index with _ | index
      · obtain ⟨y, hy, hsolo⟩ := step_solo rfl hstep
        obtain rfl : x' = y := by simpa using hy
        cases hsolo with
        | self _ hlocal => exact hlocally hlocal
        | serve msg rest hup m hcompleted =>
            obtain rfl := hcompleted (not_resume_of_serve hstep hup)
            have htold := @Conn.outlook_told x { x with
              up := rest
              down := x.down ++ List.replicate 0 Server.completedPacket } rfl _ rfl
            exact h.congr rfl htold
      · simp [step] at hstep
  | act index own =>
      rcases index with _ | index
      · simp only [step, List.getElem?_cons_zero, Option.map_eq_some_iff] at hstep
        obtain ⟨y, hown, hy⟩ := hstep
        obtain rfl : y = x' := by simpa using hy
        exact hlocally (Conn.step_local hown)
      · simp [step] at hstep

theorem uid_pairStep {clicks : Bool} {a b a' b' : Conn}
    (h : Conn.PairStep clicks a b a' b') : a'.uid = a.uid ∧ b'.uid = b.uid := by
  cases h with
  | left _ hlocal => exact ⟨congrArg Peer.uid (peer_local hlocal), rfl⟩
  | right _ hlocal => exact ⟨rfl, congrArg Peer.uid (peer_local hlocal)⟩
  | serveLeft _ _ hserve => exact ⟨hserve.served.uidX, hserve.served.uidY⟩
  | serveRight _ _ hserve => exact ⟨hserve.served.uidY, hserve.served.uidX⟩

theorem uid_soloStep {clicks : Bool} {x x' : Conn} (h : x.SoloStep clicks x') :
    x'.uid = x.uid := by
  cases h with
  | self _ hlocal => exact congrArg Peer.uid (peer_local hlocal)
  | serve => rfl

/-- The uids handed out so far are the numbers below `count`. -/
theorem Manned.numbered (h : Manned count system)
    (hroom : event.isConnect = true → count < 2 ^ 32) (hstep : system.step event = some after) :
    after.server.componentNextUid = (count + event.isConnect.toNat) % 2 ^ 32 ∧
      ∀ x ∈ after.conns, x.uid < count + event.isConnect.toNat := by
  have hnext := h.next
  have huids := h.uids
  have htake (server : Server) (hserver : server.componentNextUid = count % 2 ^ 32) :
      server.takeUid.componentNextUid = (count + 1) % 2 ^ 32 := by
    change (server.componentNextUid + 1) % 2 ^ 32 = _
    rw [hserver, Nat.mod_add_mod]
  have hpair {a b : Conn} (ha : a.uid < count) {uid : Nat} (hb : b.uid = uid)
      (huid : uid = count % 2 ^ 32) (hlt : count < 2 ^ 32) : ∀ x ∈ [a, b], x.uid < count + 1 := by
    rw [Nat.mod_eq_of_lt hlt] at huid
    simp only [List.mem_cons, List.not_mem_nil, or_false, forall_eq_or_imp, forall_eq]
    omega
  have hstayed (hstays : event.stays = true) : event.isConnect.toNat = 0 := by
    cases event with
    | connect => cases hstays
    | disconnect | serve | act => rfl
  cases h.stage.1.next hstep with
  | @opened server blank =>
      refine ⟨htake _ hnext, ?_⟩
      have hid : server.componentNextUid = count := hnext.trans (Nat.mod_eq_of_lt (hroom rfl))
      simp [Conn.fresh, hid, SystemEvent.isConnect]
  | @started server x =>
      have hx := huids x List.mem_cons_self
      exact ⟨htake _ hnext, hpair hx rfl hnext (hroom rfl)⟩
  | @joined server x =>
      have hx := huids x List.mem_cons_self
      exact ⟨htake _ hnext, hpair hx rfl hnext (hroom rfl)⟩
  | solo hstays _ hsolo =>
      rw [hstayed hstays]
      refine ⟨hnext, ?_⟩
      simp only [List.mem_cons, List.not_mem_nil, or_false, forall_eq] at huids ⊢
      rw [uid_soloStep hsolo]
      exact huids
  | pair hstays _ hpair =>
      rw [hstayed hstays]
      refine ⟨hnext, ?_⟩
      simp only [List.mem_cons, List.not_mem_nil, or_false, forall_eq_or_imp, forall_eq] at huids ⊢
      rw [(uid_pairStep hpair).1, (uid_pairStep hpair).2]
      exact huids
  | leftFirst =>
      refine ⟨hnext, ?_⟩
      simp only [List.mem_cons, List.not_mem_nil, or_false, forall_eq_or_imp, forall_eq] at huids ⊢
      exact huids.2
  | leftSecond =>
      refine ⟨hnext, ?_⟩
      simp only [List.mem_cons, List.not_mem_nil, or_false, forall_eq_or_imp, forall_eq] at huids ⊢
      exact huids.1
  | emptied _ hsame => exact ⟨hsame.trans hnext, by simp⟩

theorem Manned.step (h : Manned count system)
    (hroom : event.isConnect = true → count < 2 ^ 32) (hstep : system.step event = some after) :
    Manned (count + event.isConnect.toNat) after := by
  have hone : Library.Transition.exec System.step system [event] = some after :=
    (exec_cons _ _ _ _).mpr ⟨after, hstep, rfl⟩
  have hjoin : Along System.step (JoinMeets fun _ _ => True) system [event] :=
    ⟨joinMeets_always system event, fun _ _ => trivial⟩
  have horigins := conns_invariant_from Conn.origins_invariant h.stage h.origins hone hjoin
  obtain ⟨hnext, huids⟩ := h.numbered hroom hstep
  refine ⟨Stage.step h.stage hstep, horigins, hnext, huids, ?_⟩
  have hclients := h.clients
  have hconns := h.origins
  have hold := h.uids
  have hid := h.next
  intro hactive
  cases h.stage.1.next hstep with
  | opened inactive => exact absurd (inactive.symm.trans hactive) (by simp)
  | started _ hlobby => exact hlobby.paired _ _
  | @joined server x _ active =>
      have huid : x.uid < count := hold x List.mem_cons_self
      have hnew : server.componentNextUid = count := hid.trans (Nat.mod_eq_of_lt (hroom rfl))
      have hdeserted : x.Deserted := hclients active
      exact hdeserted.joined (by omega) _
  | solo hstays hstep => exact deserted_step hstays hstep hconns.1 (hclients hactive)
  | pair _ _ hpair => exact (hclients hactive).step hconns hpair
  | leftFirst active => exact (hclients active).deserted.2
  | leftSecond active => exact (hclients active).deserted.1
  | emptied => trivial

theorem Manned.exec {events : List SystemEvent} (h : Manned count system)
    (hroom : count + events.countP SystemEvent.isConnect ≤ 2 ^ 32)
    (hrun : Library.Transition.exec System.step system events = some after) :
    Manned (count + events.countP SystemEvent.isConnect) after := by
  induction events generalizing count system with
  | nil =>
      obtain rfl := Option.some.inj hrun
      exact h
  | cons event events ih =>
      obtain ⟨next, hnext, hrest⟩ := (exec_cons _ _ _ _).mp hrun
      have hcount : (event :: events).countP SystemEvent.isConnect =
          event.isConnect.toNat + events.countP SystemEvent.isConnect := by
        rw [List.countP_cons]
        cases event.isConnect <;> simp [Nat.add_comm]
      rw [hcount] at hroom ⊢
      rw [← Nat.add_assoc]
      apply ih _ (by omega) hrest
      apply h.step _ hnext
      intro hconnect
      simp only [hconnect, Bool.toNat_true] at hroom
      omega

theorem manned_initial : Manned 0 initial :=
  ⟨⟨.empty rfl, by decide⟩, trivial, rfl, by simp [initial], fun _ => trivial⟩

theorem routine_stays (h : event ∈ routine) :
    event.stays = true ∧ (event.isClick = true → false = true) := by
  obtain ⟨hstays, hroutine⟩ := mem_routine h
  refine ⟨hstays, fun hclick => ?_⟩
  cases event with
  | connect | disconnect | serve => cases hclick
  | act index own =>
      have hown := hroutine index own rfl
      cases own with
      | send | receive | dispatch | frame | enter => cases hclick
      | click => cases hown

/-- Both clients of a run that has two are ready to play, or will be. -/
theorem paired_of_run {events : List SystemEvent} {a b : Conn}
    (hrun : Library.Transition.exec System.step System.initial events = some system)
    (hfew : events.countP SystemEvent.isConnect ≤ 2 ^ 32) (hconns : system.conns = [a, b]) :
    a.Paired b := by
  have hmanned := manned_initial.exec (by omega) hrun
  obtain ⟨server, conns⟩ := system
  obtain rfl : conns = [a, b] := hconns
  apply hmanned.clients
  cases hmanned.stage.1 with
  | duel active => exact active
  | joined active => exact active

end Manned

end System

/-- As long as two players are connected and pause, the game goes on in the end:
whatever has happened before, and in the middle of a reconnect or not, both of
them come to be in play. -/
theorem fair_resumes {events : List SystemEvent} {system : System}
    (hrun : exec System.step System.initial events = some system)
    (hclicks : Along System.step (System.ActsMeet (Conn.ClickMeets GameScene.ClickStays))
      System.initial events)
    (hfew : events.countP SystemEvent.isConnect ≤ 2 ^ 32) (htwo : system.conns.length = 2)
    {schedule : Nat → SystemEvent} (hfair : Fair routine schedule) :
    ∃ final a b, final.conns = [a, b] ∧ (a.Silent ∧ a.scene.isOpen = true) ∧
      (b.Silent ∧ b.scene.isOpen = true) ∧
        ∃ n, ∀ m, n ≤ m → stateAt System.step schedule system m = final := by
  obtain ⟨n, hrests, hstays⟩ := System.calming.comes_to_rest hfair htwo.le
  obtain ⟨performed, honly, hreached⟩ := @exec_stateAt _ _ System.step _ _ hfair system n
  have hwhole := (exec_append _ _ _ _).mpr ⟨system, hrun, hreached⟩
  have hruns := System.not_overruns_of_two
    ((System.length_conns_routine honly hreached).trans htwo)
  have hsilent := silent_of_run hwhole (along_routine hclicks honly) hruns hrests
  -- the routine neither connects nor disconnects, so the two are still there
  obtain ⟨a₀, b₀, hconns⟩ := List.length_eq_two.mp htwo
  have horigins := System.conns_invariant Conn.origins_invariant hrun
    (System.joinMeets_true events)
  have hpaired := System.paired_of_run hrun hfew hconns
  obtain ⟨server, conns⟩ := system
  obtain rfl : conns = [a₀, b₀] := hconns
  let I (r c : Conn) : Prop := r.Origins c ∧ r.Paired c
  have hI : ∀ r c r' c', I r c → Conn.PairStep false r c r' c' → I r' c' := by
    rintro r c r' c' ⟨horigins, hpaired⟩ hstep
    exact ⟨horigins.step hstep, hpaired.step horigins hstep⟩
  obtain ⟨a, b, hfinal, -, hpaired⟩ := System.pair_invariant hI
    (fun event hevent => System.routine_stays (honly event hevent)) hreached ⟨horigins, hpaired⟩
  have ha := hsilent a (by simp [hfinal])
  have hb := hsilent b (by simp [hfinal])
  obtain ⟨hoverA, hoverB⟩ := hpaired.over ha hb
  exact ⟨_, a, b, by rw [hfinal], ⟨ha, ha.isOpen hpaired.admittedR hoverA⟩,
    ⟨hb, hb.isOpen hpaired.admittedC hoverB⟩, n, hstays⟩

/-- Nobody has heard of the newcomer yet, nor has it heard of the game. -/
theorem fair_resumes_interrupted : ∃ system,
    exec System.step System.initial interruptedRun = some system ∧
      (∃ x ∈ system.conns, x.scene.isOpen = false) ∧
      ∃ final a b, final.conns = [a, b] ∧ (a.Silent ∧ a.scene.isOpen = true) ∧
        (b.Silent ∧ b.scene.isOpen = true) ∧ ∃ n, ∀ m, n ≤ m →
          stateAt System.step (rotate routine (by decide)) system m = final := by
  have hcheck : ((exec System.step System.initial interruptedRun).any fun system =>
      (system.conns.any fun x => decide (x.scene.isOpen = false)) &&
        decide (system.conns.length = 2)) = true := by
    decide +kernel
  obtain ⟨system, hrun, hchecks⟩ := (Option.any_eq_true _ _).mp hcheck
  rw [Bool.and_eq_true, decide_eq_true_eq] at hchecks
  obtain ⟨hshut, htwo⟩ := hchecks
  obtain ⟨x, hx, hopen⟩ := List.any_eq_true.mp hshut
  exact ⟨system, hrun, ⟨x, hx, of_decide_eq_true hopen⟩,
    fair_resumes hrun (by decide +kernel) (by decide) htwo
      (fair_rotate routine (by decide))⟩

end NetworkingGame
