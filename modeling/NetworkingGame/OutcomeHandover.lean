import NetworkingGame.Endgame
import NetworkingGame.Reconnect

/-!
The outcome of the game after a reconnect. The snapshot does not carry it: a
newcomer learns that the game is over from an `endgame` packet of the survivor
that is still unhandled when the newcomer connects, or not at all.
-/

namespace NetworkingGame

open Library.Transition

namespace Conn

/-- What draining a packet does to the outcome of the game. -/
def readOutcome (outcome : Bool × PlayerTurn) (packet : CustomPacket) : Bool × PlayerTurn :=
  if packet.type = "unit" then
    match packet.unitDataDeciper with
    | .ok received =>
        if received.unitName = "endgame" then
          (true, if received.xPos = 1 then .player1 else .player2)
        else outcome
    | .error _ => outcome
  else outcome

/-- The outcome once the queue of unit packets is drained. -/
def drainedOutcome (x : Conn) : Bool × PlayerTurn :=
  x.scene.client.unitUpdateQueue.foldl readOutcome x.scene.outcome

/-- The packets have established the outcome `final` at each `update_complete`
and do not change it from then on. -/
def Reports (final : Bool × PlayerTurn) (told : Bool) (start : Bool × PlayerTurn)
    (packets : List CustomPacket) : Prop :=
  Along (fun state packet =>
      some (state.1 || packet.type = "update_complete", readOutcome state.2 packet))
    (fun state packet => state.1 = true ∨ packet.type = "update_complete" →
      readOutcome state.2 packet = final) (told, start) packets

instance (final start : Bool × PlayerTurn) (told : Bool) (packets : List CustomPacket) :
    Decidable (Reports final told start packets) :=
  inferInstanceAs (Decidable (Along _ _ _ _))

/-- No packet among them ends the game. -/
def Calm (packets : List CustomPacket) : Prop :=
  ∀ packet ∈ packets, readOutcome (false, .none) packet = (false, .none)

instance (packets : List CustomPacket) : Decidable (Calm packets) :=
  inferInstanceAs (Decidable (∀ packet ∈ packets, _))

/-- If the game is over for the survivor, what it has written and the server
has not handled tells a newcomer so; otherwise nothing that it has yet to
drain ends the game. -/
structure OutcomeAtJoin (survivor : Conn) : Prop where
  clear : ClearAtJoin survivor
  reports : survivor.scene.gameFinished = true →
    Reports survivor.scene.outcome false (false, .none) survivor.outbox
  final : survivor.scene.gameFinished = true →
    survivor.outbox.foldl readOutcome (false, .none) = survivor.scene.outcome
  calm : survivor.scene.gameFinished = false →
    Calm (survivor.scene.client.unitUpdateQueue ++ survivor.inbox)

instance (survivor : Conn) : Decidable (OutcomeAtJoin survivor) :=
  decidable_of_iff (ClearAtJoin survivor ∧
    (survivor.scene.gameFinished = true →
      Reports survivor.scene.outcome false (false, .none) survivor.outbox) ∧
    (survivor.scene.gameFinished = true →
      survivor.outbox.foldl readOutcome (false, .none) = survivor.scene.outcome) ∧
    (survivor.scene.gameFinished = false →
      Calm (survivor.scene.client.unitUpdateQueue ++ survivor.inbox)))
    ⟨fun h => ⟨h.1, h.2.1, h.2.2.1, h.2.2.2⟩, fun h => ⟨h.clear, h.reports, h.final, h.calm⟩⟩

/-- What the survivor `r`, for whom the game is over, tells the newcomer `c`. -/
structure Agrees (r c : Conn) : Prop where
  reports : Reports r.scene.outcome c.scene.client.updateComplete c.drainedOutcome (r.flow c)
  final : r.reaches c = true → (r.flow c).foldl readOutcome c.drainedOutcome = r.scene.outcome
  flag : c.scene.client.updateComplete = true → c.drainedOutcome = r.scene.outcome

structure Reported (r c : Conn) : Prop where
  agrees : r.scene.gameFinished = true → Agrees r c
  calm : r.scene.gameFinished = false → Calm (r.scene.client.unitUpdateQueue ++ r.inbox)

/-- The hand-over of the outcome, before a `resume` of the newcomer is handled. -/
structure OutcomeHandover (r c : Conn) : Prop where
  pending : Pending r c
  reported : Reported r c
  adopted : r.scene.gameFinished = true → c.resumes → c.scene.outcome = r.scene.outcome

/-- The same outcome on both sides, if the game is over for the survivor. -/
structure SameOutcome (r c : Conn) : Prop where
  noLeftover : NoLeftover r
  silent : c.outbox = []
  reported : Reported r c
  same : r.scene.gameFinished = true → c.scene.outcome = r.scene.outcome

section ReadOutcome

theorem readOutcome_of_type {packet : CustomPacket} (h : packet.type ≠ "unit")
    (outcome : Bool × PlayerTurn) : readOutcome outcome packet = outcome := by
  rw [readOutcome, if_neg h]

theorem readOutcome_unit (ref : UnitRef) (unit : GameUnit) (outcome : Bool × PlayerTurn) :
    readOutcome outcome (Msg.ofUnit ref unit).packet = outcome := by
  rw [readOutcome, if_pos (Msg.packet_type _)]
  cases hread : (Msg.ofUnit ref unit).packet.unitDataDeciper with
  | error fault => rfl
  | ok received =>
      obtain rfl := Msg.deciper_unit hread
      simp [Msg.refName_ne_endgame]

theorem readOutcome_endturn (outcome : Bool × PlayerTurn) :
    readOutcome outcome Msg.endturn.packet = outcome := by
  rw [readOutcome, if_pos (Msg.packet_type _), Msg.deciper_endturn]
  simp

theorem readOutcome_endgame {victor : Int} (h : victor = 1 ∨ victor = 2)
    (outcome : Bool × PlayerTurn) :
    readOutcome outcome (Msg.endgame victor).packet = (true, Msg.winner victor) := by
  rw [readOutcome, if_pos (Msg.packet_type _)]
  cases hread : (Msg.endgame victor).packet.unitDataDeciper with
  | error fault =>
      rcases h with rfl | rfl
      · have hok : ((Msg.endgame 1).packet.unitDataDeciper).isOk = true := by decide +kernel
        rw [hread] at hok
        cases hok
      · have hok : ((Msg.endgame 2).packet.unitDataDeciper).isOk = true := by decide +kernel
        rw [hread] at hok
        cases hok
  | ok received =>
      obtain rfl := Msg.deciper_endgame hread
      simp [Msg.winner]

theorem readOutcome_calm {packet : CustomPacket}
    (h : readOutcome (false, .none) packet = (false, .none)) (outcome : Bool × PlayerTurn) :
    readOutcome outcome packet = outcome := by
  unfold readOutcome at h ⊢
  split
  · rename_i htype
    rw [if_pos htype] at h
    split
    · rename_i received hread
      rw [hread] at h
      split
      · rename_i hname
        simp [hname] at h
      · rfl
    · rfl
  · rfl

theorem Calm.foldl {packets : List CustomPacket} (h : Calm packets)
    (outcome : Bool × PlayerTurn) : packets.foldl readOutcome outcome = outcome := by
  induction packets with
  | nil => rfl
  | cons packet packets ih =>
      rw [List.foldl_cons, readOutcome_calm (h packet (by simp))]
      exact ih fun other hother => h other (by simp [hother])

theorem foldl_units (refs : List UnitRef) (units : UnitRef → GameUnit)
    (outcome : Bool × PlayerTurn) :
    ((refs.map fun ref => Msg.ofUnit ref (units ref)).map Msg.packet).foldl readOutcome outcome =
      outcome := by
  induction refs with
  | nil => rfl
  | cons ref refs ih =>
      rw [List.map_cons, List.map_cons, List.foldl_cons, readOutcome_unit]
      exact ih

theorem applyUnitPacket_readOutcome {scene after : GameScene} {packet : CustomPacket}
    (htype : packet.type = "unit") (h : scene.applyUnitPacket packet = .ok after) :
    after.outcome = readOutcome scene.outcome packet := by
  obtain ⟨received, hread, h⟩ := bind_eq_ok h
  rw [readOutcome, if_pos htype]
  simp only [hread]
  simp only at h
  split at h
  · rename_i hname
    rw [← Except.ok.inj h]
    simp [hname, GameScene.outcome]
  · rename_i hname
    simp only [hname, if_false]
    split at h <;> rw [← Except.ok.inj h] <;> split <;> rfl

/-- Draining applies the packets in order. -/
theorem unitNetworkUpdate_readOutcome {scene after : GameScene}
    (hqueue : ∀ packet ∈ scene.client.unitUpdateQueue, packet.type = "unit")
    (h : scene.unitNetworkUpdate = .ok after) :
    after.outcome = scene.client.unitUpdateQueue.foldl readOutcome scene.outcome := by
  obtain ⟨drained, hrun, h⟩ := bind_eq_ok h
  rw [← Except.ok.inj h]
  change drained.outcome = _
  refine foldlM_observe ?_ hrun
  intro packet hpacket start next hnext
  exact applyUnitPacket_readOutcome (hqueue packet hpacket) hnext

end ReadOutcome

section Reports

variable {final : Bool × PlayerTurn}

theorem Reports.mono {told : Bool} {start : Bool × PlayerTurn} {packets : List CustomPacket}
    (h : Reports final told start packets) : Reports final false start packets := by
  induction packets generalizing told start with
  | nil => trivial
  | cons packet packets ih =>
      refine ⟨?_, ?_⟩
      · rintro (hfalse | htype)
        · cases hfalse
        · exact h.1 (Or.inr htype)
      · intro next hnext
        have hrest : Reports final (told || packet.type = "update_complete")
            (readOutcome start packet) packets := h.2 _ rfl
        obtain rfl := Option.some.inj hnext
        change Reports final (false || packet.type = "update_complete")
          (readOutcome start packet) packets
        by_cases htype : packet.type = "update_complete"
        · simpa [htype] using hrest
        · simpa [htype] using ih hrest

theorem reports_of_not_mem {packets : List CustomPacket}
    (h : "update_complete" ∉ types packets) (start : Bool × PlayerTurn) :
    Reports final false start packets := by
  induction packets generalizing start with
  | nil => trivial
  | cons packet packets ih =>
      rw [types_cons, List.mem_cons, not_or] at h
      refine ⟨?_, ?_⟩
      · rintro (hfalse | htype)
        · cases hfalse
        · exact absurd htype.symm h.1
      · intro next hnext
        obtain rfl := Option.some.inj hnext
        change Reports final (false || packet.type = "update_complete")
          (readOutcome start packet) packets
        simpa [Ne.symm h.1] using ih h.2 (readOutcome start packet)

/-- Packets that do not change the outcome, after others that have
established it. -/
theorem Reports.append {told : Bool} {start : Bool × PlayerTurn}
    {first second : List CustomPacket} (h : Reports final told start first)
    (hfinal : first.foldl readOutcome start = final)
    (hsecond : ∀ packet ∈ second, readOutcome final packet = final) :
    Reports final told start (first ++ second) := by
  have hneutral (told : Bool) : Reports final told final second := by
    clear h
    induction second generalizing told with
    | nil => trivial
    | cons packet second ih =>
        have hpacket := hsecond packet (by simp)
        refine ⟨fun _ => hpacket, ?_⟩
        intro next hnext
        obtain rfl := Option.some.inj hnext
        change Reports final _ (readOutcome final packet) second
        rw [hpacket]
        exact ih (fun other hother => hsecond other (by simp [hother])) _
  induction first generalizing told start with
  | nil =>
      obtain rfl : start = final := hfinal
      exact hneutral told
  | cons packet first ih =>
      refine ⟨h.1, ?_⟩
      intro next hnext
      have hrest := h.2 next hnext
      obtain rfl := Option.some.inj hnext
      exact ih hrest hfinal

end Reports

section Drains

variable {clicks : Bool} {x x' : Conn}

theorem Proper.queue_type (h : Proper x) :
    ∀ packet ∈ x.scene.client.unitUpdateQueue, packet.type = "unit" := by
  intro packet hpacket
  obtain ⟨m, rfl⟩ := h.queue packet hpacket
  exact Msg.packet_type m

/-- Whether a frame drains the queue or not, the outcome that it leads to is
the same. -/
theorem drainedOutcome_frame (h : Proper x) {scene : GameScene} (hframe : x.scene.Frame scene) :
    drainedOutcome { x with scene := scene } = x.drainedOutcome := by
  rcases hframe.outcome with ⟨-, houtcome, hqueue⟩ |
    ⟨start, drained, hstart, hqueue, hdrain, houtcome, hempty, -⟩
  · rw [drainedOutcome, drainedOutcome, hqueue, houtcome]
  · have hread := unitNetworkUpdate_readOutcome (by rw [hqueue]; exact h.queue_type) hdrain
    rw [drainedOutcome, hempty, List.foldl_nil, houtcome, hread, hqueue, hstart, drainedOutcome]

/-- The client never has more to drain than what it was sent. -/
theorem Deed.pending_subset (h : Deed clicks x x') :
    ∀ packet ∈ x'.scene.client.unitUpdateQueue ++ x'.inbox,
      packet ∈ x.scene.client.unitUpdateQueue ++ x.inbox := by
  have hsame {scene : GameScene}
      (hqueue : scene.client.unitUpdateQueue = x.scene.client.unitUpdateQueue ∨
        scene.client.unitUpdateQueue = [])
      (hreceived : scene.client.recievedQueue = x.scene.client.recievedQueue) :
      ∀ packet ∈ scene.client.unitUpdateQueue ++ inbox { x with scene := scene },
        packet ∈ x.scene.client.unitUpdateQueue ++ x.inbox := by
    have hinbox : inbox { x with scene := scene } = x.inbox := by simp [inbox, hreceived]
    intro packet hpacket
    rw [hinbox] at hpacket
    rcases hqueue with hqueue | hqueue
    · rw [hqueue] at hpacket
      exact hpacket
    · rw [hqueue] at hpacket
      exact List.mem_append_right _ hpacket
  cases h with
  | same x' hsame =>
      have hqueue : x'.scene.client.unitUpdateQueue = x.scene.client.unitUpdateQueue :=
        hsame.field fun s => s.client.unitUpdateQueue
      rw [hqueue, hsame.inbox]
      exact fun _ => id
  | reads packet rest client hqueue hread =>
      have hreceived : client.recievedQueue = rest := hread.queues.1
      have hunits := hread.unitUpdateQueue_eq
      intro other hother
      simp only [Conn.inbox, GameScene.withClient, hreceived, List.mem_append] at hother
      simp only [Conn.inbox, hqueue, List.mem_append, List.mem_cons]
      rcases hother with hother | hother
      · rw [hunits] at hother
        split at hother
        · rcases List.mem_append.mp hother with hother | hother
          · exact Or.inl hother
          · exact Or.inr (Or.inl (Or.inl (List.mem_singleton.mp hother)))
        · exact Or.inl hother
      · rcases hother with hother | hother
        · exact Or.inr (Or.inl (Or.inr hother))
        · exact Or.inr (Or.inr hother)
  | draws scene hframe =>
      rcases hframe.client_cases with hclient | ⟨-, gameTurn, -, hclient⟩ | ⟨-, hclient⟩ |
        ⟨-, hclient⟩
      · exact hsame (Or.inl (by rw [hclient])) (by rw [hclient])
      · exact hsame (Or.inl (by rw [hclient]; rfl)) (by rw [hclient]; rfl)
      · exact hsame (Or.inr (by rw [hclient])) (by rw [hclient]; rfl)
      · exact hsame (Or.inr (by rw [hclient])) (by rw [hclient])
  | ends undefinedReturn =>
      rw [GameScene.endTurn_eq]
      exact hsame (Or.inl rfl) rfl
  | moves scene _ _ hmoved =>
      have hclient : scene.client = x.scene.client := by rw [hmoved.rest]
      exact hsame (Or.inl (by rw [hclient])) (by rw [hclient])

theorem readOutcome_snapshot {scene : GameScene} {gameTurn : Int} {packet : CustomPacket}
    (h : packet ∈ scene.snapshot gameTurn) (outcome : Bool × PlayerTurn) :
    readOutcome outcome packet = outcome := by
  simp only [snapshot_eq, batch, unitMsgs, List.mem_append, List.mem_cons, List.mem_map,
    List.not_mem_nil, or_false] at h
  rcases h with (rfl | rfl | ⟨m, ⟨ref, -, rfl⟩, rfl⟩) | rfl
  · exact readOutcome_of_type (by simp [GameScene.playerPacket]) outcome
  · exact readOutcome_of_type (by simp [GameScene.turnPacket]) outcome
  · exact readOutcome_unit ref _ outcome
  · exact readOutcome_of_type (by simp [GameScene.updateCompletePacket]) outcome

/-- The outcome of a survivor changes where a click ends its turn, and what it
writes otherwise does not speak of the outcome. -/
theorem Deed.outcome_cases (h : Deed clicks x x') (hproper : Proper x) (hleft : NoLeftover x)
    (hcalm : x.scene.gameFinished = false →
      Calm (x.scene.client.unitUpdateQueue ++ x.inbox)) :
    (x'.scene.outcome = x.scene.outcome ∧ ∃ packets, x'.outbox = x.outbox ++ packets ∧
      ∀ packet ∈ packets, ∀ outcome, readOutcome outcome packet = outcome) ∨
    (clicks = true ∧ x.scene.isOpen = true ∧ ∃ undefinedReturn,
      x' = { x with scene := x.scene.endTurn undefinedReturn }) := by
  have hnothing (houtcome : x'.scene.outcome = x.scene.outcome) (houtbox : x'.outbox = x.outbox) :
      x'.scene.outcome = x.scene.outcome ∧ ∃ packets, x'.outbox = x.outbox ++ packets ∧
        ∀ packet ∈ packets, ∀ outcome, readOutcome outcome packet = outcome :=
    ⟨houtcome, [], by simp [houtbox], by simp⟩
  cases h with
  | same x' hsame =>
      exact Or.inl (hnothing (hsame.field GameScene.outcome) hsame.outbox)
  | reads packet rest client hqueue hread =>
      have hsending : client.sendingQueue = x.scene.client.sendingQueue := hread.queues.2
      exact Or.inl (hnothing rfl (by simp [Conn.outbox, unhandled, GameScene.withClient, hsending]))
  | draws scene hframe =>
      left
      refine ⟨?_, ?_⟩
      · rcases hframe.outcome with ⟨-, houtcome, -⟩ |
          ⟨start, drained, hstart, hqueue, hdrain, houtcome, -, hwhy⟩
        · exact houtcome
        · rcases hwhy with hadopt | ⟨hplaying, -⟩
          · exact absurd (hleft.not_adopts.symm.trans hadopt) (by simp)
          · have hread := unitNetworkUpdate_readOutcome (by rw [hqueue]; exact hproper.queue_type)
              hdrain
            have hquiet : Calm x.scene.client.unitUpdateQueue := fun packet hpacket =>
              hcalm hplaying packet (List.mem_append_left _ hpacket)
            change scene.outcome = x.scene.outcome
            rw [houtcome, hread, hqueue, hstart, hquiet.foldl]
      · obtain ⟨packets, hsending, hcases⟩ := hframe.sendingQueue
        refine ⟨packets.filter isGame, by simp [Conn.outbox, unhandled, hsending], ?_⟩
        intro packet hpacket outcome
        have hmem := List.mem_of_mem_filter hpacket
        rcases hcases with rfl | ⟨-, gameTurn, -, rfl⟩ | ⟨-, rfl⟩
        · cases hmem
        · exact readOutcome_snapshot hmem outcome
        · rw [List.mem_singleton.mp hmem]
          exact readOutcome_of_type (by simp [GameScene.resumePacket]) outcome
  | ends undefinedReturn hclicks hopen hturn =>
      exact Or.inr ⟨hclicks, hopen, undefinedReturn, rfl⟩
  | moves scene _ _ hmoved =>
      left
      apply hnothing
      · change scene.outcome = x.scene.outcome
        rw [hmoved.rest]
        rfl
      · rw [hmoved.rest]
        rfl

/-- What a finished game looks like to whoever drains the packets of the turn
that has just ended. -/
theorem foldl_turnMsgs (hproper : Proper x) (undefinedReturn : Bool)
    (hfinished : (x.scene.endTurn undefinedReturn).gameFinished = true)
    {start : Bool × PlayerTurn}
    (hstart : x.scene.gameFinished = true → start = x.scene.outcome) :
    ((x.scene.turnMsgs undefinedReturn).map Msg.packet).foldl readOutcome start =
      (x.scene.endTurn undefinedReturn).outcome := by
  have hvictor (scene : GameScene) : scene.victor = 1 ∨ scene.victor = 2 := by
    unfold GameScene.victor
    split
    · exact Or.inl rfl
    · exact Or.inr rfl
  have hwinner (scene : GameScene) (hscene : scene.winningPlayer ≠ .none) :
      Msg.winner scene.victor = scene.winningPlayer := by
    cases hwinning : scene.winningPlayer with
    | none => exact absurd hwinning hscene
    | player1 => simp [GameScene.victor, Msg.winner, hwinning]
    | player2 => simp [GameScene.victor, Msg.winner, hwinning]
  rw [GameScene.endTurn_eq] at hfinished ⊢
  change x.scene.endgameCheck.2.gameFinished = true at hfinished
  change _ = x.scene.endgameCheck.2.outcome
  simp only [GameScene.turnMsgs, GameScene.changedMsgs, List.map_append, List.foldl_append,
    foldl_units]
  rcases x.scene.endgameCheck_cases with ⟨hcheck, hteam⟩ | ⟨-, hsame⟩
  · have hwon : x.scene.endgameCheck.2.winningPlayer ≠ .none := by simpa [hcheck] using hteam
    simp only [hcheck, Option.getD_some, if_true, List.map_cons, List.map_nil, List.foldl_cons,
      List.foldl_nil]
    rw [readOutcome_endturn, readOutcome_endgame (hvictor _), hwinner _ (by simpa using hteam)]
    rfl
  · rw [hsame] at hfinished ⊢
    have houtcome : x.scene.outcome = (true, x.scene.winningPlayer) := by
      rw [← hfinished]
      rfl
    rw [hstart hfinished]
    split
    · simp only [List.map_cons, List.map_nil, List.foldl_cons, List.foldl_nil]
      rw [readOutcome_endturn, readOutcome_endgame (hvictor _),
        hwinner _ (hproper.decided hfinished), houtcome]
    · simp only [List.map_cons, List.map_nil, List.foldl_cons, List.foldl_nil]
      exact readOutcome_endturn _

end Drains

section Steps

variable {clicks : Bool} {r c r' c' : Conn}

/-- The newcomer does something other than taking in a packet. -/
theorem Agrees.quiet (h : Agrees r c) (hinbox : c'.inbox = c.inbox) (huid : c'.uid = c.uid)
    (hmapped : c'.inPeerMap = c.inPeerMap) (hdrained : c'.drainedOutcome = c.drainedOutcome)
    (hflag : c'.scene.client.updateComplete = true → c.scene.client.updateComplete = true) :
    Agrees r c' := by
  have hflow : r.flow c' = r.flow c := flow_congr hinbox huid hmapped
  refine ⟨?_, ?_, ?_⟩
  · rw [hflow, hdrained]
    cases htold : c'.scene.client.updateComplete with
    | true =>
        have hreports := h.reports
        rw [hflag htold] at hreports
        exact hreports
    | false => exact h.reports.mono
  · rw [hflow, hdrained, reaches_congr rfl huid hmapped]
    exact h.final
  · intro htold
    rw [hdrained]
    exact h.flag (hflag htold)

theorem Agrees.reads (h : Agrees r c) {packet : CustomPacket} {rest : List CustomPacket}
    {client : ClientComponent} (hqueue : c.scene.client.recievedQueue = packet :: rest)
    (hread : ({ c.scene.client with recievedQueue := rest }).Processed packet client) :
    Agrees r { c with
      dispatched := c.dispatched ++ [packet]
      scene := c.scene.withClient client } := by
  have hflow := @flow_reads r c packet rest client hqueue hread
  have hdrained : drainedOutcome { c with
      dispatched := c.dispatched ++ [packet]
      scene := c.scene.withClient client } = readOutcome c.drainedOutcome packet := by
    have hunits := hread.unitUpdateQueue_eq
    simp only [drainedOutcome, GameScene.withClient, hunits]
    split
    · rw [List.foldl_append]
      rfl
    · rename_i htype
      exact (readOutcome_of_type htype _).symm
  obtain ⟨hreports, hfinal, hflag⟩ := h
  rw [hflow] at hreports hfinal
  have htold := hread.updateComplete_eq
  cases hgame : isGame packet with
  | true =>
      rw [hgame, if_pos rfl] at hreports hfinal
      refine ⟨?_, ?_, ?_⟩
      · rw [hdrained]
        change Reports _ client.updateComplete _ _
        rw [htold]
        exact hreports.2 _ rfl
      · rw [hdrained]
        exact hfinal
      · rw [hdrained]
        intro hflag
        change client.updateComplete = true at hflag
        rw [htold, Bool.or_eq_true, decide_eq_true_eq] at hflag
        exact hreports.1 hflag
  | false =>
      rw [hgame] at hreports hfinal
      obtain ⟨hunit, -, -, hcomplete⟩ := type_ne_of_not_isGame hgame
      have hsame : client.updateComplete = c.scene.client.updateComplete := by
        rw [htold]
        simp [hcomplete]
      rw [readOutcome_of_type hunit] at hdrained
      refine ⟨?_, ?_, ?_⟩
      · rw [hdrained]
        change Reports _ client.updateComplete _ _
        rw [hsame]
        exact hreports
      · rw [hdrained]
        exact hfinal
      · rw [hdrained]
        intro hflag'
        exact hflag (hsame.symm.trans hflag')

/-- The newcomer's own steps, as long as it does not click. -/
theorem Agrees.right (h : Agrees r c) (hproper : Proper c)
    (hquiet : clicks = true → c.scene.isOpen = false) (hdeed : Deed clicks c c') :
    Agrees r c' := by
  have hshut (hclicks : clicks = true) (hopen : c.scene.isOpen = true) : False := by
    rw [hquiet hclicks] at hopen
    cases hopen
  cases hdeed with
  | same c' hsame =>
      have hqueue : c'.scene.client.unitUpdateQueue = c.scene.client.unitUpdateQueue :=
        hsame.field fun s => s.client.unitUpdateQueue
      have houtcome : c'.scene.outcome = c.scene.outcome := hsame.field GameScene.outcome
      have hflag : c'.scene.client.updateComplete = c.scene.client.updateComplete :=
        hsame.field fun s => s.client.updateComplete
      apply h.quiet hsame.inbox hsame.uid hsame.mapped
      · rw [drainedOutcome, drainedOutcome, hqueue, houtcome]
      · rw [hflag]
        exact id
  | reads packet rest client hqueue hread => exact h.reads hqueue hread
  | draws scene hframe =>
      apply @Agrees.quiet r c { c with scene := scene } h (by simp [inbox, hframe.recievedQueue])
        rfl rfl
      · exact drainedOutcome_frame hproper hframe
      · rcases hframe.client_cases with hclient | ⟨-, gameTurn, -, hclient⟩ | ⟨-, hclient⟩ |
          ⟨-, hclient⟩ <;> simp [hclient, ClientComponent.push]
  | ends undefinedReturn hclicks hopen => exact (hshut hclicks hopen).elim
  | moves scene hclicks hopen => exact (hshut hclicks hopen).elim

/-- The survivor writes packets that say nothing of the outcome. -/
theorem Agrees.wrote (h : Agrees r c) (hdeed : Deed clicks r r')
    (houtcome : r'.scene.outcome = r.scene.outcome) {packets : List CustomPacket}
    (houtbox : r'.outbox = r.outbox ++ packets)
    (hpackets : ∀ packet ∈ packets, ∀ outcome, readOutcome outcome packet = outcome) :
    Agrees r' c := by
  have hreaches : r'.reaches c = r.reaches c := reaches_congr hdeed.peer.1 rfl rfl
  have hflow := @flow_left clicks r r' c hdeed packets houtbox
  cases hr : r.reaches c with
  | false =>
      rw [hr] at hflow
      simp only [Bool.false_eq_true, if_false, List.append_nil] at hflow
      refine ⟨by rw [houtcome, hflow]; exact h.reports, ?_, by rw [houtcome]; exact h.flag⟩
      rw [hreaches, hr]
      exact fun hfalse => absurd hfalse (by simp)
  | true =>
      rw [hr, if_pos rfl] at hflow
      have hfinal := h.final hr
      refine ⟨?_, ?_, by rw [houtcome]; exact h.flag⟩
      · rw [houtcome, hflow]
        exact h.reports.append hfinal fun packet hpacket => hpackets packet hpacket _
      · intro _
        have hneutral : packets.foldl readOutcome r.scene.outcome = r.scene.outcome := by
          have hcalm : Calm packets := fun packet hpacket => hpackets packet hpacket _
          exact hcalm.foldl _
        rw [hflow, List.foldl_append, hfinal, houtcome, hneutral]

/-- A click of the survivor that ends its turn, before any snapshot. -/
theorem Reported.ends (h : Reported r c) (hproper : Proper r) (hunsent : Unsent r c)
    (undefinedReturn : Bool)
    (hdeed : Deed clicks r { r with scene := r.scene.endTurn undefinedReturn })
    (hsend : r.scene.sendsSnapshot = false) :
    Reported { r with scene := r.scene.endTurn undefinedReturn } c := by
  have hnext := hunsent.left hsend hdeed
  have houtbox : outbox { r with scene := r.scene.endTurn undefinedReturn } =
      r.outbox ++ (r.scene.turnMsgs undefinedReturn).map Msg.packet := by
    rw [GameScene.endTurn_eq]
    simp only [outbox, unhandled, ClientComponent.push, ← List.append_assoc, List.filter_append]
    rw [filter_isGame_packets]
  have hflow := @flow_left clicks r _ c hdeed _ houtbox
  refine ⟨?_, ?_⟩
  · intro hfinished
    refine ⟨?_, ?_, ?_⟩
    · rw [hunsent.updateComplete]
      exact reports_of_not_mem hnext.flow _
    · intro hreaches
      have hr : r.reaches c = true := hreaches
      rw [hflow, hr, if_pos rfl, List.foldl_append]
      exact foldl_turnMsgs hproper undefinedReturn hfinished fun hover =>
        (h.agrees hover).final hr
    · intro hflag
      rw [hunsent.updateComplete] at hflag
      cases hflag
  · intro hplaying packet hpacket
    apply h.calm
    · by_contra hover
      rw [GameScene.endTurn_eq] at hplaying
      change r.scene.endgameCheck.2.gameFinished = false at hplaying
      rcases r.scene.endgameCheck_cases with ⟨hcheck, -⟩ | ⟨-, hsame⟩
      · rw [hcheck] at hplaying
        cases hplaying
      · rw [hsame] at hplaying
        exact hover hplaying
    · exact hdeed.pending_subset packet hpacket

theorem Reported.wrote (h : Reported r c) (hdeed : Deed clicks r r')
    (houtcome : r'.scene.outcome = r.scene.outcome) {packets : List CustomPacket}
    (houtbox : r'.outbox = r.outbox ++ packets)
    (hpackets : ∀ packet ∈ packets, ∀ outcome, readOutcome outcome packet = outcome) :
    Reported r' c := by
  have hfinished : r'.scene.gameFinished = r.scene.gameFinished := congrArg Prod.fst houtcome
  refine ⟨?_, ?_⟩
  · rw [hfinished]
    exact fun hover => (h.agrees hover).wrote hdeed houtcome houtbox hpackets
  · rw [hfinished]
    intro hplaying packet hpacket
    exact h.calm hplaying packet (hdeed.pending_subset packet hpacket)

theorem Reported.right (h : Reported r c) (hproper : Proper c)
    (hquiet : clicks = true → c.scene.isOpen = false) (hdeed : Deed clicks c c') :
    Reported r c' :=
  ⟨fun hover => (h.agrees hover).right hproper hquiet hdeed, h.calm⟩

/-- The server only moves packets along, and tells the survivor nothing that
could end its game. -/
theorem Reported.served (h : Reported r c) (hr : r'.scene = r.scene) (hc : c'.scene = c.scene)
    (hflow : r'.flow c' = r.flow c) (hreaches : r'.reaches c' = r.reaches c)
    {packets : List CustomPacket} (hdown : r'.down = r.down ++ packets)
    (hpackets : ∀ packet ∈ packets, packet.type ≠ "unit") : Reported r' c' := by
  have hdrained : c'.drainedOutcome = c.drainedOutcome := by rw [drainedOutcome, hc]; rfl
  refine ⟨?_, ?_⟩
  · rw [hr]
    intro hover
    obtain ⟨hreports, hfinal, hflag⟩ := h.agrees hover
    exact ⟨by rw [hr, hc, hdrained, hflow]; exact hreports,
      by rw [hr, hdrained, hflow, hreaches]; exact hfinal,
      by rw [hr, hc, hdrained]; exact hflag⟩
  · rw [hr]
    intro hplaying packet hpacket
    rw [inbox, hr, hdown, ← List.append_assoc, ← List.append_assoc, List.mem_append] at hpacket
    rcases hpacket with hpacket | hpacket
    · apply h.calm hplaying
      rw [inbox, ← List.append_assoc]
      exact hpacket
    · exact readOutcome_of_type (hpackets packet hpacket) _

theorem Reported.servedLeft (h : Reported r c) (hleft : NoLeftover r)
    (hserve : Serve r c r' c') : Reported r' c' := by
  have hserved := hserve.served
  have hreaches := reaches_congr hserved.uidX hserved.uidY hserved.mappedY
  rcases hserve.told with ⟨hdown, -⟩ | ⟨hresumes, -⟩
  · exact @Reported.served r c r' c' h hserved.sceneX hserved.sceneY hserved.flow hreaches []
      (by simp [hdown]) (by simp)
  · exact absurd hresumes hleft.resumes

theorem Reported.servedRight (h : Reported r c) (hsilent : c.outbox = [])
    (hserve : Serve c r c' r') : Reported r' c' := by
  have hserved := hserve.served
  have hreaches := reaches_congr hserved.uidY hserved.uidX hserved.mappedX
  rcases hserve.told with ⟨-, packets, hdown, hpackets⟩ | ⟨-, m, n, -, hdown, -⟩
  · apply h.served hserved.sceneY hserved.sceneX hserved.back hreaches hdown
    intro packet hpacket htype
    have hmem : packet ∈ c.outbox :=
      List.mem_filter.mpr ⟨(hpackets packet hpacket).1, by simp [isGame, htype]⟩
    rw [hsilent] at hmem
    cases hmem
  · apply h.served hserved.sceneY hserved.sceneX hserved.back hreaches hdown
    intro packet hpacket
    rw [List.eq_of_mem_replicate hpacket]
    decide

/-- What a newcomer that already agrees does, as long as it does not click. -/
theorem Agrees.kept (h : Agrees r c) (hproper : Proper c)
    (hquiet : clicks = true → c.scene.isOpen = false) (hover : r.scene.gameFinished = true)
    (hdeed : Deed clicks c c')
    (hsame : c.scene.outcome = r.scene.outcome ∨ c'.resumes ∧ ¬ c.resumes) :
    c'.scene.outcome = r.scene.outcome := by
  have hshut (hclicks : clicks = true) (hopen : c.scene.isOpen = true) : False := by
    rw [hquiet hclicks] at hopen
    cases hopen
  cases hdeed with
  | same c' hsame' =>
      have houtcome : c'.scene.core.outcome = c.scene.core.outcome := by rw [hsame'.core]
      rcases hsame with hsame | ⟨hresumes, hnone⟩
      · exact Eq.trans houtcome hsame
      · exact absurd (hsame'.resumes.mp hresumes) hnone
  | reads packet rest client hqueue hread =>
      have hsending : client.sendingQueue = c.scene.client.sendingQueue := hread.queues.2
      rcases hsame with hsame | ⟨hresumes, hnone⟩
      · exact hsame
      · refine absurd ?_ hnone
        simpa [resumes, unhandled, GameScene.withClient, hsending] using hresumes
  | draws scene hframe =>
      have hresumes := (Deed.draws scene hframe : Deed clicks c _).resumes
      change scene.outcome = r.scene.outcome
      rcases hframe.outcome with ⟨hadopt, houtcome, -⟩ |
        ⟨start, drained, hstart, hqueue, hdrain, houtcome, -, hwhy⟩
      · rcases hsame with hsame | ⟨hresumed, hnone⟩
        · exact houtcome.trans hsame
        · rcases hresumes hresumed with hold | hadopts
          · exact absurd hold hnone
          · exact absurd (hadopt.symm.trans hadopts) (by simp)
      · have hread := unitNetworkUpdate_readOutcome (by rw [hqueue]; exact hproper.queue_type)
          hdrain
        have hdrained : scene.outcome = c.drainedOutcome := by
          rw [houtcome, hread, hqueue, hstart, drainedOutcome]
        rcases hwhy with hadopts | ⟨hplaying, hopen⟩
        · rw [hdrained]
          apply h.flag
          simp only [GameScene.adoptsSnapshot, Bool.and_eq_true] at hadopts
          exact hadopts.2.2
        · rcases hsame with hsame | ⟨hresumed, hnone⟩
          · have hfinished : c.scene.gameFinished = r.scene.gameFinished :=
              congrArg Prod.fst hsame
            rw [hplaying, hover] at hfinished
            cases hfinished
          · rcases hresumes hresumed with hold | hadopts
            · exact absurd hold hnone
            · rw [Bool.or_eq_false_iff] at hopen
              simp [GameScene.adoptsSnapshot, hopen.2] at hadopts
  | ends undefinedReturn hclicks hopen => exact (hshut hclicks hopen).elim
  | moves scene hclicks hopen => exact (hshut hclicks hopen).elim

theorem OutcomeHandover.left (h : OutcomeHandover r c) (hproper : Proper r)
    (hdeed : Deed clicks r r') : OutcomeHandover r' c := by
  have hpending := h.pending.left hdeed
  rcases hdeed.outcome_cases hproper h.pending.noLeftover h.reported.calm with
    ⟨houtcome, packets, houtbox, hpackets⟩ | ⟨-, hopen, undefinedReturn, rfl⟩
  · have hfinished : r'.scene.gameFinished = r.scene.gameFinished := congrArg Prod.fst houtcome
    refine ⟨hpending, h.reported.wrote hdeed houtcome houtbox hpackets, ?_⟩
    rw [hfinished, houtcome]
    exact h.adopted
  · have hunsent : Unsent r c := by
      rcases h.pending.stage with hunsent | hshut
      · exact hunsent
      · rw [not_isOpen hshut.closed] at hopen
        cases hopen
    have hsend : r.scene.sendsSnapshot = false := by
      simp only [GameScene.isOpen, Bool.and_eq_true, Bool.not_eq_true'] at hopen
      simp [GameScene.sendsSnapshot, hopen.2]
    refine ⟨hpending, h.reported.ends hproper hunsent undefinedReturn hdeed hsend, ?_⟩
    intro _ hresumes
    exact absurd hresumes hunsent.resumes

theorem OutcomeHandover.right (h : OutcomeHandover r c) (hproper : Proper c)
    (hsend : c.scene.sendsSnapshot = false) (hdeed : Deed clicks c c') :
    OutcomeHandover r c' := by
  have hquiet : clicks = true → c.scene.isOpen = false := fun _ => not_isOpen h.pending.closed
  refine ⟨h.pending.right hsend hdeed, h.reported.right hproper hquiet hdeed, ?_⟩
  intro hover hresumes
  apply (h.reported.agrees hover).kept hproper hquiet hover hdeed
  by_cases hold : c.resumes
  · exact Or.inl (h.adopted hover hold)
  · exact Or.inr ⟨hresumes, hold⟩

theorem OutcomeHandover.step (h : OutcomeHandover r c) (horigins : Origins r c)
    (hstep : PairStep clicks r c r' c') :
    OutcomeHandover r' c' ∨ Server.completedPacket ∈ c'.sent := by
  cases hstep with
  | left _ hlocal =>
      exact Or.inl (h.left horigins.properA (hlocal.deed horigins.properA.writes))
  | right _ hlocal =>
      have hsend := horigins.properB.not_sendsSnapshot horigins.younger
      exact Or.inl (h.right horigins.properB hsend (hlocal.deed horigins.properB.writes))
  | serveLeft _ _ hserve =>
      have hserved := hserve.served
      refine Or.inl ⟨h.pending.servedLeft hserve,
        h.reported.servedLeft h.pending.noLeftover hserve, ?_⟩
      rw [hserved.sceneX, hserved.sceneY, Conn.resumes, hserved.unhandledY]
      exact h.adopted
  | serveRight _ _ hserve =>
      have hserved := hserve.served
      rcases h.pending.servedRight hserve with hpending | hcompleted
      · refine Or.inl ⟨hpending, h.reported.servedRight h.pending.silent hserve, ?_⟩
        rw [hserved.sceneX, hserved.sceneY]
        intro hover hresumes
        apply h.adopted hover
        obtain ⟨packet, hpacket, htype⟩ := mem_types.mp hresumes
        exact mem_types.mpr ⟨packet, mem_unhandled_of_handled hserved.handled packet hpacket, htype⟩
      · exact Or.inr hcompleted

theorem OutcomeHandover.same (h : OutcomeHandover r c) (hresumes : c.resumes) :
    SameOutcome r c :=
  ⟨h.pending.noLeftover, h.pending.silent, h.reported, fun hover => h.adopted hover hresumes⟩

/-- Once they agree they go on agreeing, if nobody clicks. -/
theorem SameOutcome.step (h : SameOutcome r c) (horigins : Origins r c)
    (hstep : PairStep false r c r' c') : SameOutcome r' c' := by
  cases hstep with
  | left _ hlocal =>
      have hdeed := hlocal.deed horigins.properA.writes
      rcases hdeed.outcome_cases horigins.properA h.noLeftover h.reported.calm with
        ⟨houtcome, packets, houtbox, hpackets⟩ | ⟨hclicks, -⟩
      · have hfinished : r'.scene.gameFinished = r.scene.gameFinished :=
          congrArg Prod.fst houtcome
        refine ⟨h.noLeftover.deed hdeed, h.silent,
          h.reported.wrote hdeed houtcome houtbox hpackets, ?_⟩
        rw [hfinished, houtcome]
        exact h.same
      · cases hclicks
  | right _ hlocal =>
      have hdeed := hlocal.deed horigins.properB.writes
      have hsend := horigins.properB.not_sendsSnapshot horigins.younger
      have hquiet : false = true → c.scene.isOpen = false := fun hfalse => by cases hfalse
      refine ⟨h.noLeftover, ?_, h.reported.right horigins.properB hquiet hdeed, ?_⟩
      · obtain ⟨packets, houtbox, hcases⟩ := hdeed.outbox
        rw [houtbox, h.silent, List.nil_append]
        rcases hcases with rfl | ⟨hsends, -⟩ | ⟨hclicks, -⟩
        · rfl
        · exact absurd (hsend.symm.trans hsends) (by simp)
        · cases hclicks
      · intro hover
        exact (h.reported.agrees hover).kept horigins.properB hquiet hover hdeed
          (Or.inl (h.same hover))
  | serveLeft _ _ hserve =>
      have hserved := hserve.served
      refine ⟨h.noLeftover.served hserved, ?_, h.reported.servedLeft h.noLeftover hserve, ?_⟩
      · rw [outbox, hserved.unhandledY]
        exact h.silent
      · rw [hserved.sceneX, hserved.sceneY]
        exact h.same
  | serveRight _ _ hserve =>
      have hserved := hserve.served
      refine ⟨h.noLeftover.servedY (by simp [h.silent]) hserved, hserved.silent h.silent,
        h.reported.servedRight h.silent hserve, ?_⟩
      rw [hserved.sceneX, hserved.sceneY]
      exact h.same

theorem OutcomeAtJoin.handover {survivor : Conn} (h : OutcomeAtJoin survivor) (uid : Nat)
    (blank : Sprite) : OutcomeHandover (survivor.joinedBy uid) (newcomer uid blank) := by
  refine ⟨h.clear.pending uid blank, ⟨?_, ?_⟩, ?_⟩
  · intro hover
    refine ⟨?_, ?_, fun hflag => by cases hflag⟩
    · rw [flow_newcomer]
      split
      · exact h.reports hover
      · trivial
    · intro hreaches
      rw [flow_newcomer, if_pos hreaches]
      exact h.final hover
  · intro hplaying packet hpacket
    rcases joinedBy_inbox uid survivor with hinbox | hinbox
    · rw [hinbox] at hpacket
      exact h.calm hplaying packet hpacket
    · rw [hinbox, ← List.append_assoc, List.mem_append] at hpacket
      rcases hpacket with hpacket | hpacket
      · exact h.calm hplaying packet hpacket
      · rw [List.mem_singleton.mp hpacket]
        exact readOutcome_of_type (by decide) _
  · intro _ hresumes
    cases hresumes

end Steps

end Conn

/-- The game is over for the client, and `player` has won. -/
def Conn.Ended (x : Conn) (player : PlayerTurn) : Prop :=
  x.scene.gameFinished = true ∧ x.scene.winningPlayer = player

instance (x : Conn) (player : PlayerTurn) : Decidable (x.Ended player) :=
  inferInstanceAs (Decidable (_ ∧ _))

namespace Conn

/-- Two clients of a run: the pair that the lobby has put together, or a
survivor and a newcomer. -/
structure Outcomes (a b : Conn) : Prop where
  origins : Origins a b
  stage : (∃ other, other ≠ .none ∧ Duel .player1 other a b) ∨ OutcomeHandover a b ∨
    Server.completedPacket ∈ b.sent

theorem completed_kept {clicks : Bool} {a b a' b' : Conn} (h : Server.completedPacket ∈ b.sent)
    (hstep : PairStep clicks a b a' b') : Server.completedPacket ∈ b'.sent := by
  have happend {packets : List CustomPacket} (hsent : b'.sent = b.sent ++ packets) :
      Server.completedPacket ∈ b'.sent := by
    rw [hsent]
    exact List.mem_append_left _ h
  cases hstep with
  | left => exact h
  | right _ hlocal =>
      rw [hlocal.sent]
      exact h
  | serveLeft _ _ hserve =>
      obtain ⟨packets, hdown, -⟩ := hserve.served.toY
      exact happend (sent_append hserve.served.sceneY hserve.served.dispatchedY hdown)
  | serveRight _ _ hserve =>
      obtain ⟨packets, hdown, -⟩ := hserve.served.toX
      exact happend (sent_append hserve.served.sceneX hserve.served.dispatchedX hdown)

theorem outcomes_invariant : System.ConnsInvariant (fun _ survivor => OutcomeAtJoin survivor)
    (fun x => Proper x ∧ Entitled x) Outcomes := by
  have horigins := origins_invariant
  refine ⟨horigins.lobby, ?_, horigins.solo, ?_, ?_, ?_⟩
  · intro nextUid x blank other hother huid hlobby hsolo
    exact ⟨horigins.start nextUid x blank other hother huid hlobby hsolo,
      Or.inl ⟨other, hother, hlobby.duel blank⟩⟩
  · intro clicks a b a' b' h hstep
    refine ⟨h.origins.step hstep, ?_⟩
    rcases h.stage with ⟨other, hother, hduel⟩ | hhandover | hcompleted
    · exact Or.inl ⟨other, hother, hduel.step (by simp) hother hstep⟩
    · exact Or.inr (hhandover.step h.origins hstep)
    · exact Or.inr (Or.inr (completed_kept hcompleted hstep))
  · intro a b h
    exact horigins.leave a b h.origins
  · intro uid x blank hjoin hsolo
    exact ⟨horigins.join uid x blank trivial hsolo, Or.inr (Or.inl (hjoin.handover uid blank))⟩

/-- Without clicks the survivor's outcome stays what it is. -/
theorem SameOutcome.survivor {r c r' c' : Conn} (h : SameOutcome r c) (horigins : Origins r c)
    (hstep : PairStep false r c r' c') : r'.scene.outcome = r.scene.outcome := by
  cases hstep with
  | left _ hlocal =>
      have hdeed := hlocal.deed horigins.properA.writes
      rcases hdeed.outcome_cases horigins.properA h.noLeftover h.reported.calm with
        ⟨houtcome, -⟩ | ⟨hclicks, -⟩
      · exact houtcome
      · cases hclicks
  | right => rfl
  | serveLeft _ _ hserve => rw [hserve.served.sceneX]
  | serveRight _ _ hserve => rw [hserve.served.sceneY]

end Conn

/-- A finished game stays finished across a reconnect, if each survivor of a
finished game that a newcomer meets has yet to get the `endgame` packet to the
server, and each survivor of an open one has none left to drain. -/
theorem ended_after_resume {start before next after : System} {a₀ b₀ a b x y : Conn}
    {events rest : List SystemEvent} {index : Nat} (hstarted : StartedPair start a₀ b₀)
    (hrun : exec System.step start events = some before)
    (hjoin : Along System.step (System.JoinMeets fun _ survivor => survivor.OutcomeAtJoin)
      start events)
    (hconns : before.conns = [a, b]) (hfirst : Server.completedPacket ∉ b.sent)
    (hresume : before.resumeAt index) (hserve : before.step (.serve index) = some next)
    (hrest : exec System.step next rest = some after)
    (hstay : ∀ event ∈ rest, event.stays = true ∧ event.isClick = false)
    (hafter : after.conns = [x, y]) (player : PlayerTurn)
    (hended : a.Ended player ∨ x.Ended player) : y.Ended player := by
  obtain ⟨opening, hopening⟩ := hstarted.run
  have houtcomes : System.Conns (fun x => x.Proper ∧ x.Entitled) Conn.Outcomes start.conns := by
    rw [hstarted.conns]
    exact ⟨hstarted.origins, Or.inl ⟨.player2, by simp, hstarted.duel.1⟩⟩
  have hbefore := System.conns_invariant_from Conn.outcomes_invariant (staged_exec hopening)
    houtcomes hrun hjoin
  rw [hconns] at hbefore
  obtain ⟨server, conns⟩ := before
  obtain rfl : conns = [a, b] := hconns
  rcases hbefore.stage with ⟨other, hother, hduel⟩ | hhandover | hcompleted
  · rcases hresume.resumes with hresumes | hresumes
    · exact absurd hresumes hduel.sideX.not_resumes
    · exact absurd hresumes hduel.sideY.not_resumes
  · have hsame : Conn.SameOutcome a b :=
      hhandover.same (hresume.resumes.resolve_left hhandover.pending.noLeftover.resumes)
    let I (r c : Conn) : Prop :=
      r.Origins c ∧ r.SameOutcome c ∧ r.scene.outcome = a.scene.outcome
    have hI : ∀ r c r' c', I r c → Conn.PairStep false r c r' c' → I r' c' := by
      rintro r c r' c' ⟨horigins, hsame, hkept⟩ hstep
      exact ⟨horigins.step hstep, hsame.step horigins hstep,
        (hsame.survivor horigins hstep).trans hkept⟩
    obtain ⟨x', y', rfl, -, hfinal, hkept⟩ :=
      System.pair_invariant_serve hI hserve hrest hstay ⟨hbefore.origins, hsame, rfl⟩
    obtain ⟨rfl, rfl, -⟩ := by simpa using hafter
    have houtcome : x'.scene.outcome = (true, player) := by
      rcases hended with ⟨hover, hwinner⟩ | ⟨hover, hwinner⟩
      · rw [hkept, GameScene.outcome, hover, hwinner]
      · rw [GameScene.outcome, hover, hwinner]
    have hover : x'.scene.gameFinished = true := congrArg Prod.fst houtcome
    have hsame := (hfinal.same hover).trans houtcome
    exact ⟨congrArg Prod.fst hsame, congrArg Prod.snd hsame⟩
  · exact absurd hcompleted hfirst

section Runs

/-- The loser is replaced, and the newcomer's `resume` is on its way to the
server. The survivor writes `count` packets. -/
def replacementRun (count : Nat) : List SystemEvent :=
  [.disconnect 1, .connect blankSprite] ++ arrive 0 2 ++ [.act 0 .frame] ++ relay 0 count ++
    arrive 1 (count + 1) ++ [.act 1 .frame, .act 1 .send]

/-- Both clients take in what the server answers. -/
def answerRun : List SystemEvent :=
  arrive 0 1 ++ arrive 1 1 ++ [.act 0 .frame, .act 1 .frame]

/-- The winner's last packets are still unsent when the loser leaves, so that
they reach the newcomer. -/
theorem ended_after_resume_unsent : ∃ system a b,
    exec System.step System.initial
      (openingRun ++ (winningRun ++ replacementRun 15 ++ [.serve 1] ++ answerRun)) = some system ∧
    system.conns = [a, b] ∧ b.Ended .player1 := by
  obtain ⟨start, a₀, b₀, hstart, hconns₀, hcheck⟩ :=
    @exists_pair_of_check System.initial openingRun (fun start a₀ b₀ => startedCheck a₀ b₀ &&
      (exec System.step start winningRun).any fun won =>
        decide (Along System.step (System.JoinMeets fun _ survivor => survivor.OutcomeAtJoin)
          won (replacementRun 15)) &&
        (exec System.step won (replacementRun 15)).any fun before => before.onPair fun a b =>
          decide (Server.completedPacket ∉ b.sent) && decide (a.Ended .player1) &&
          (b.up.head?.any fun msg => msg.type = "resume") &&
          (before.step (.serve 1)).any fun next =>
            (exec System.step next answerRun).any fun after => after.conns.length = 2)
      (by decide +kernel)
  rw [Bool.and_eq_true] at hcheck
  obtain ⟨hstarted, hcheck⟩ := hcheck
  obtain ⟨won, hwon, hcheck⟩ := (Option.any_eq_true _ _).mp hcheck
  rw [Bool.and_eq_true, decide_eq_true_eq] at hcheck
  obtain ⟨hjoin, hcheck⟩ := hcheck
  obtain ⟨before, a, b, hbefore, hconns, hcheck⟩ :=
    @exists_pair_of_check won (replacementRun 15) _ hcheck
  simp only [Bool.and_eq_true, decide_eq_true_eq] at hcheck
  obtain ⟨⟨⟨hfirst, hended⟩, hresume⟩, hcheck⟩ := hcheck
  obtain ⟨msg, hup, htype⟩ := (Option.any_eq_true _ _).mp hresume
  obtain ⟨next, hserve, hcheck⟩ := (Option.any_eq_true _ _).mp hcheck
  obtain ⟨after, hafter, hlength⟩ := (Option.any_eq_true _ _).mp hcheck
  obtain ⟨x, y, hconns'⟩ := List.length_eq_two.mp (of_decide_eq_true hlength)
  have hrun : exec System.step start (winningRun ++ replacementRun 15) = some before :=
    (exec_append _ _ _ _).mpr ⟨won, hwon, hbefore⟩
  have hwhole : exec System.step start
      (winningRun ++ replacementRun 15 ++ [.serve 1] ++ answerRun) = some after :=
    (exec_append _ _ _ _).mpr ⟨next, (exec_concat _ _ _ _).mpr ⟨before, hrun, hserve⟩, hafter⟩
  refine ⟨after, x, y, (exec_append _ _ _ _).mpr ⟨start, hstart, hwhole⟩, hconns', ?_⟩
  have halong : Along System.step
      (System.JoinMeets fun _ survivor => survivor.OutcomeAtJoin) start
      (winningRun ++ replacementRun 15) := by
    refine along_append.mpr ⟨System.joinMeets_of_stays (by decide) start, ?_⟩
    intro won' hwon'
    rw [← Option.some.inj (hwon.symm.trans hwon')]
    exact hjoin
  exact ended_after_resume (startedPair_of_check hstart hconns₀ hstarted) hrun halong hconns
    hfirst ⟨b, msg, by rw [hconns]; rfl, hup, of_decide_eq_true htype⟩ hserve hafter
    (by decide) hconns' .player1 (Or.inl hended)

/-- The loser leaves once the server has relayed everything that the winner
wrote: the newcomer is told of the board, the turn and its team only, and the
two disagree for good. -/
theorem not_ended_after_resume_relayed : ∃ start a₀ b₀ won a b system x y,
    StartedPair start a₀ b₀ ∧ exec System.step start (winningRun ++ relay 0 4) = some won ∧
    won.conns = [a, b] ∧ a.Ended .player1 ∧
    exec System.step won (replacementRun 11 ++ [.serve 1] ++ answerRun) = some system ∧
    system.conns = [x, y] ∧ Server.completedPacket ∈ x.dispatched ∧
    Server.completedPacket ∈ y.dispatched ∧ Settled x y ∧ x.step .frame = some x ∧
    y.step .frame = some y ∧ x.Ended .player1 ∧ ¬ y.Ended .player1 := by
  obtain ⟨start, a₀, b₀, hstart, hconns₀, hcheck⟩ :=
    @exists_pair_of_check System.initial openingRun (fun start a₀ b₀ => startedCheck a₀ b₀ &&
      (exec System.step start (winningRun ++ relay 0 4)).any fun won => won.onPair fun a _ =>
        decide (a.Ended .player1) &&
        (exec System.step won (replacementRun 11 ++ [.serve 1] ++ answerRun)).any fun system =>
          system.onPair fun x y => decide (Server.completedPacket ∈ x.dispatched ∧
            Server.completedPacket ∈ y.dispatched ∧ Settled x y ∧ x.step .frame = some x ∧
            y.step .frame = some y ∧ x.Ended .player1 ∧ ¬ y.Ended .player1))
      (by decide +kernel)
  rw [Bool.and_eq_true] at hcheck
  obtain ⟨hstarted, hcheck⟩ := hcheck
  obtain ⟨won, a, b, hwon, hconns, hcheck⟩ :=
    @exists_pair_of_check start (winningRun ++ relay 0 4) _ hcheck
  rw [Bool.and_eq_true, decide_eq_true_eq] at hcheck
  obtain ⟨hended, hcheck⟩ := hcheck
  obtain ⟨system, x, y, hsystem, hconns', hcheck⟩ :=
    @exists_pair_of_check won (replacementRun 11 ++ [.serve 1] ++ answerRun) _ hcheck
  exact ⟨start, a₀, b₀, won, a, b, system, x, y, startedPair_of_check hstart hconns₀ hstarted,
    hwon, hconns, hended, hsystem, hconns', of_decide_eq_true hcheck⟩

end Runs

end NetworkingGame
