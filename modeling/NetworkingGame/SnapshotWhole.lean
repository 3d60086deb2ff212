import NetworkingGame.Handover
import NetworkingGame.TurnSafety

/-!
When a newcomer acts on a whole snapshot. The eleven packets of a snapshot
carry no number, so what keeps them together is only that they are written at
once, stay in order and start when the newcomer is already connected.
-/

namespace NetworkingGame

open Library.Transition

namespace Conn

/-- The ten packets of a snapshot that come before `update_complete`. -/
def EndsWithBatch (packets : List CustomPacket) : Prop :=
  ∃ scene gameTurn, scene.whichTurn = .ok gameTurn ∧ batch scene gameTurn <:+ packets

/-- Each `update_complete` comes right behind the rest of its snapshot. -/
def Whole (packets : List CustomPacket) : Prop :=
  ∀ before packet after, packets = before ++ packet :: after →
    packet.type = "update_complete" → EndsWithBatch before

/-- All game packets that `y` was ever sent, or will be out of what `x` has
written so far. -/
def total (x y : Conn) : List CustomPacket := y.dispatched.filter isGame ++ x.flow y

/-- What the survivor has written and the server not handled yet breaks no
snapshot, unless the newcomer gets its uid and with it none of its packets. -/
def WholeAtJoin (uid : Nat) (survivor : Conn) : Prop :=
  survivor.uid = uid ∨ Whole survivor.outbox

section Whole

theorem whole_nil : Whole [] := by
  intro before packet after h
  simp at h

theorem Whole.of_append {first second : List CustomPacket} (h : Whole (first ++ second)) :
    Whole first := by
  intro before packet after hsplit
  apply h before packet (after ++ second)
  rw [hsplit]
  simp

/-- More packets that end no snapshot. -/
theorem Whole.append {first second : List CustomPacket} (h : Whole first)
    (hnone : "update_complete" ∉ types second) : Whole (first ++ second) := by
  intro before packet after hsplit htype
  rcases List.append_eq_append_iff.mp hsplit with ⟨middle, rfl, hsecond⟩ | ⟨middle, rfl, htail⟩
  · refine absurd (mem_types.mpr ⟨packet, ?_, htype⟩) hnone
    rw [hsecond]
    simp
  · cases middle with
    | nil =>
        refine absurd (mem_types.mpr ⟨packet, ?_, htype⟩) hnone
        rw [List.nil_append] at htail
        rw [← htail]
        simp
    | cons head middle =>
        obtain ⟨rfl, -⟩ := List.cons.inj htail
        exact h before packet middle rfl htype

/-- A snapshot written in one piece. -/
theorem Whole.snapshot {packets : List CustomPacket} (h : Whole packets) {scene : GameScene}
    {gameTurn : Int} (hturn : scene.whichTurn = .ok gameTurn) :
    Whole (packets ++ scene.snapshot gameTurn) := by
  rw [snapshot_eq, ← List.append_assoc]
  have hbatch := h.append (types_batch scene gameTurn)
  intro before packet after hsplit htype
  rcases List.append_eq_append_iff.mp hsplit with ⟨middle, rfl, hend⟩ | ⟨middle, hmiddle, hend⟩
  · cases middle with
    | nil =>
        refine ⟨scene, gameTurn, hturn, ?_⟩
        simp
    | cons head middle =>
        obtain ⟨-, hnil⟩ := List.cons.inj hend
        simp at hnil
  · cases middle with
    | nil =>
        refine ⟨scene, gameTurn, hturn, ?_⟩
        rw [← List.append_nil before, ← hmiddle]
        exact List.suffix_append _ _
    | cons head middle =>
        obtain ⟨rfl, -⟩ := List.cons.inj hend
        exact hbatch before packet middle hmiddle htype

end Whole

section Invariant

theorem total_left {clicks : Bool} {x x' y : Conn} (h : Deed clicks x x')
    {packets : List CustomPacket} (houtbox : x'.outbox = x.outbox ++ packets) :
    x'.total y = x.total y ++ if x.reaches y then packets else [] := by
  rw [total, total, flow_left h houtbox, List.append_assoc]

theorem total_eq (x y : Conn) : x.total y = y.sent.filter isGame ++ x.toward y := by
  rw [total, flow, sent_eq, List.filter_append, List.append_assoc]

/-- Only the writer changes the total, and it writes a snapshot in one piece. -/
theorem Whole.deed_left {clicks : Bool} {x x' y : Conn} (h : Whole (x.total y))
    (hdeed : Deed clicks x x') : Whole (x'.total y) := by
  obtain ⟨packets, houtbox, hcases⟩ := hdeed.outbox
  rw [total_left hdeed houtbox]
  cases x.reaches y with
  | false => simpa using h
  | true =>
      rw [if_pos rfl]
      rcases hcases with rfl | ⟨-, gameTurn, hturn, rfl⟩ | ⟨-, -, undefinedReturn, rfl⟩
      · simpa using h
      · apply h.snapshot
        rw [← hturn]
        simp [GameScene.whichTurn]
      · apply h.append
        exact not_mem_types_packets _ (by simp)

theorem Whole.deed_right {clicks : Bool} {x y y' : Conn} (h : Whole (x.total y))
    (hdeed : Deed clicks y y') (hsent : y'.sent = y.sent) : Whole (x.total y') := by
  rw [total_eq, hsent, toward_right hdeed, ← total_eq]
  exact h

theorem Whole.served {x y x' y' : Conn} (hto : Whole (x.total y)) (hback : Whole (y.total x))
    (h : Served x y x' y') : Whole (x'.total y') ∧ Whole (y'.total x') := by
  rw [total, total, h.flow, h.back, h.dispatchedX, h.dispatchedY]
  exact ⟨hto, hback⟩

/-- Both directions of a pair. -/
structure WholeBoth (a b : Conn) : Prop where
  origins : Origins a b
  toSecond : Whole (a.total b)
  toFirst : Whole (b.total a)

theorem WholeBoth.step {clicks : Bool} {a b a' b' : Conn} (h : WholeBoth a b)
    (hstep : PairStep clicks a b a' b') : WholeBoth a' b' := by
  have horigins := h.origins.step hstep
  cases hstep with
  | left _ hlocal =>
      have hdeed := hlocal.deed h.origins.properA.writes
      exact ⟨horigins, h.toSecond.deed_left hdeed, h.toFirst.deed_right hdeed hlocal.sent⟩
  | right _ hlocal =>
      have hdeed := hlocal.deed h.origins.properB.writes
      exact ⟨horigins, h.toSecond.deed_right hdeed hlocal.sent, h.toFirst.deed_left hdeed⟩
  | serveLeft _ _ hserve =>
      obtain ⟨hto, hback⟩ := h.toSecond.served h.toFirst hserve.served
      exact ⟨horigins, hto, hback⟩
  | serveRight _ _ hserve =>
      obtain ⟨hto, hback⟩ := h.toFirst.served h.toSecond hserve.served
      exact ⟨horigins, hback, hto⟩

theorem filter_isGame_told {x : Conn} {packets : List CustomPacket}
    (h : ∀ packet ∈ packets, isGame packet = false) :
    (x.sent ++ packets).filter isGame = x.sent.filter isGame := by
  have hnone : packets.filter isGame = [] := by
    apply List.filter_eq_nil_iff.mpr
    intro packet hpacket
    simp [h packet hpacket]
  rw [List.filter_append, hnone, List.append_nil]

theorem wholeBoth_invariant : System.ConnsInvariant WholeAtJoin
    (fun x => (Proper x ∧ Entitled x) ∧ Whole (x.sent.filter isGame)) WholeBoth := by
  have horigins := origins_invariant
  refine ⟨?_, ?_, ?_, ?_, ?_, ?_⟩
  · intro uid blank
    refine ⟨horigins.lobby uid blank, ?_⟩
    exact whole_nil
  · rintro nextUid x blank other hother huid hlobby ⟨hsolo, hwhole⟩
    have hnone : Conn.outbox { x with down := x.down ++ [Server.startPacket] } = [] := by
      have hunhandled := hlobby.unhandled
      simp only [outbox, unhandled] at hunhandled ⊢
      rw [hunhandled]
      rfl
    refine ⟨horigins.start nextUid x blank other hother huid hlobby hsolo, ?_, ?_⟩
    · rw [total_eq, toward_of_outbox hnone]
      exact whole_nil
    · rw [total_eq, @sent_append x { x with down := x.down ++ [Server.startPacket] }
        [Server.startPacket] rfl rfl rfl, filter_isGame_told (by simp), toward_of_outbox rfl,
        List.append_nil]
      exact hwhole
  · rintro clicks x x' ⟨hsolo, hwhole⟩ hstep
    refine ⟨horigins.solo clicks x x' hsolo hstep, ?_⟩
    cases hstep with
    | self _ hlocal =>
        rw [hlocal.sent]
        exact hwhole
    | serve msg rest hup m =>
        rw [@sent_append x { x with
          up := rest
          down := x.down ++ List.replicate m Server.completedPacket } _ rfl rfl rfl,
          filter_isGame_told]
        · exact hwhole
        · intro packet hpacket
          rw [List.eq_of_mem_replicate hpacket]
          exact isGame_completed
  · intro clicks a b a' b' h hstep
    exact h.step hstep
  · intro a b h
    obtain ⟨hfirst, hsecond⟩ := horigins.leave a b h.origins
    have hto := h.toSecond
    have hback := h.toFirst
    rw [total_eq] at hto hback
    refine ⟨⟨hfirst, ?_⟩, ⟨hsecond, ?_⟩⟩
    · rw [@sent_append a a.leftAlone _ rfl rfl rfl,
        filter_isGame_told (isGame_ite isGame_dataSender)]
      exact hback.of_append
    · rw [@sent_append b b.leftAlone _ rfl rfl rfl,
        filter_isGame_told (isGame_ite isGame_dataSender)]
      exact hto.of_append
  · rintro uid x blank hjoin ⟨hsolo, hwhole⟩
    refine ⟨horigins.join uid x blank trivial hsolo, ?_, ?_⟩
    · have hnone : (newcomer uid blank).sent.filter isGame = [] := rfl
      rw [total_eq, hnone, List.nil_append, toward]
      split
      · rename_i hreaches
        have huid : uid ≠ x.uid := by
          simpa [reaches, newcomer, fresh, joinedBy] using hreaches
        exact hjoin.resolve_left huid.symm
      · exact whole_nil
    · rw [total_eq, @sent_append x (x.joinedBy uid) _ rfl rfl rfl,
        filter_isGame_told (isGame_ite isGame_ready), toward_of_outbox rfl, List.append_nil]
      exact hwhole

end Invariant

/-- What a client has received when it takes the update-completed branch. -/
structure AdoptsWhole (x : Conn) : Prop where
  joined : x.dispatched.head? = some Server.reconPacket
  received : ∃ (before : List CustomPacket) (scene : GameScene) (gameTurn : Int)
    (after : List CustomPacket), scene.whichTurn = .ok gameTurn ∧
      x.dispatched.filter isGame = before ++ scene.snapshot gameTurn ++ after ∧
      "update_complete" ∉ types after
  turn : x.scene.client.playerTurn ≠ -1
  player : x.scene.client.assignedPlayer ≠ -1
  units : ∀ ref, ∃ unit, GameScene.unitPacket ref unit ∈ x.dispatched
  drains : ∀ next, x.scene.update = .ok next → next.client.unitUpdateQueue = []

section Adoption

theorem adopts_frame {scene next : GameScene} (hadopt : scene.adoptsSnapshot = true)
    (h : scene.Frame next) : next.client.unitUpdateQueue = [] := by
  have hclosed : (scene.client.isLobby || scene.client.isReconnecting) = true := by
    simp only [GameScene.adoptsSnapshot, Bool.and_eq_true] at hadopt
    simp [hadopt.2.1]
  have hsend : scene.sendsSnapshot = false := by
    simp only [GameScene.adoptsSnapshot, Bool.and_eq_true, Bool.not_eq_true'] at hadopt
    exact hadopt.1
  cases h with
  | idle _ _ hnone => exact absurd (hadopt.symm.trans hnone) (by simp)
  | send hsends => exact absurd (hsends.symm.trans hsend) (by simp)
  | adopt _ drained hdrain =>
      change drained.client.unitUpdateQueue = []
      rw [GameScene.unitNetworkUpdate_rest hdrain]
  | finished hopen => exact absurd (hclosed.symm.trans hopen) (by simp)
  | wait hopen => exact absurd (hclosed.symm.trans hopen) (by simp)
  | drain hopen => exact absurd (hclosed.symm.trans hopen) (by simp)

/-- The last `update_complete` of a list. -/
theorem exists_last_complete {packets : List CustomPacket}
    (h : "update_complete" ∈ types packets) :
    ∃ before packet after, packets = before ++ packet :: after ∧
      packet.type = "update_complete" ∧ "update_complete" ∉ types after := by
  induction packets with
  | nil => cases h
  | cons head rest ih =>
      by_cases hrest : "update_complete" ∈ types rest
      · obtain ⟨before, packet, after, rfl, htype, hafter⟩ := ih hrest
        exact ⟨head :: before, packet, after, rfl, htype, hafter⟩
      · rw [types_cons, List.mem_cons] at h
        exact ⟨[], head, rest, rfl, (h.resolve_right hrest).symm, hrest⟩

theorem adoptsWhole {x : Conn} (hproper : Proper x) (hentitled : Entitled x)
    (hwhole : Whole (x.dispatched.filter isGame)) (hadopt : x.scene.adoptsSnapshot = true) :
    AdoptsWhole x := by
  have hflag : x.scene.client.updateComplete = true := by
    simp only [GameScene.adoptsSnapshot, Bool.and_eq_true] at hadopt
    exact hadopt.2.2
  have hcomplete := hproper.updateComplete hflag
  have hjoined : Joined x := by
    apply hentitled
    rw [sent_eq, types_append]
    exact List.mem_append_left _ hcomplete
  have hgame : "update_complete" ∈ types (x.dispatched.filter isGame) :=
    updateComplete_mem_filter.mpr hcomplete
  obtain ⟨start, packet, after, hsplit, htype, hafter⟩ := exists_last_complete hgame
  obtain ⟨scene, gameTurn, hturn, before, hbatch⟩ := hwhole start packet after hsplit htype
  have hmem : packet ∈ x.dispatched.filter isGame := by
    rw [hsplit]
    simp
  have hpacket : packet = GameScene.updateCompletePacket := by
    obtain ⟨hdispatched, hgame⟩ := List.mem_filter.mp hmem
    exact (hproper.sent packet (by rw [sent_eq]; simp [hdispatched]) hgame).of_updateComplete htype
  have hreceived : x.dispatched.filter isGame =
      before ++ scene.snapshot gameTurn ++ after := by
    rw [hsplit, ← hbatch, hpacket, snapshot_eq]
    simp
  have hsnapshot : ∀ p ∈ batch scene gameTurn, p ∈ x.dispatched := by
    intro p hp
    apply List.mem_of_mem_filter
    rw [hreceived, snapshot_eq]
    simp [hp]
  refine ⟨?_, ⟨before, scene, gameTurn, after, hturn, hreceived, hafter⟩, ?_, ?_, ?_, ?_⟩
  · have hsome : x.dispatched ≠ [] := by
      intro hnil
      rw [hnil] at hcomplete
      cases hcomplete
    rw [Joined, sent_eq, List.head?_append_of_ne_nil _ hsome] at hjoined
    exact hjoined
  · apply hproper.turn
    exact mem_types.mpr ⟨_, hsnapshot (GameScene.turnPacket gameTurn) (by simp [batch]), rfl⟩
  · apply hproper.player
    exact mem_types.mpr
      ⟨_, hsnapshot (GameScene.playerPacket scene.opponentTeam) (by simp [batch]), rfl⟩
  · intro ref
    refine ⟨scene.units.get ref, hsnapshot _ ?_⟩
    simp only [batch, unitMsgs, List.map_map, List.mem_cons, List.mem_map]
    exact Or.inr (Or.inr ⟨ref, UnitRef.mem_all ref, rfl⟩)
  · intro next hnext
    exact adopts_frame hadopt (GameScene.update_frame hnext)

end Adoption

end Conn

/-- If every newcomer finds no torn snapshot on its way, then a client that
takes the update-completed branch has joined a running game and acts on a
whole snapshot. -/
theorem adoptsWhole_of_wholeAtJoin {events : List SystemEvent} {system : System}
    (hrun : exec System.step System.initial events = some system)
    (hwhole : Along System.step (System.JoinMeets Conn.WholeAtJoin) System.initial events)
    {conn : Conn} (hconn : conn ∈ system.conns)
    (hadopt : conn.scene.adoptsSnapshot = true) : conn.AdoptsWhole := by
  have hinvariant := System.conns_invariant Conn.wholeBoth_invariant hrun hwhole
  rcases hinvariant.mem hconn with ⟨⟨hproper, hentitled⟩, hsent⟩ | ⟨other, h⟩ | ⟨other, h⟩
  · apply Conn.adoptsWhole hproper hentitled _ hadopt
    rw [Conn.sent_eq, List.filter_append] at hsent
    exact hsent.of_append
  · exact Conn.adoptsWhole h.origins.properA h.origins.entitledA h.toFirst.of_append hadopt
  · exact Conn.adoptsWhole h.origins.properB h.origins.entitledB h.toSecond.of_append hadopt

/-- The second client of a started game is replaced, and the first one has
sent its snapshot but the server handled none of it. -/
def snapshotRun : List SystemEvent :=
  openingRun ++ [.disconnect 1, .connect blankSprite] ++ arrive 0 2 ++ [.act 0 .frame] ++
    List.replicate 11 (.act 0 .send)

theorem joinMeets_of_outbox (system : System) (event : SystemEvent)
    (h : System.JoinMeets (fun _ survivor => survivor.outbox = []) system event) :
    System.JoinMeets Conn.WholeAtJoin system event := by
  cases event with
  | connect blank =>
      intro active survivor hsurvivor
      right
      rw [h active survivor hsurvivor]
      exact Conn.whole_nil
  | disconnect index => trivial
  | serve index => trivial
  | act index event => trivial

theorem adoptsWhole_after_snapshot : ∃ system a b,
    exec System.step System.initial
      (snapshotRun ++ List.replicate 11 (.serve 0) ++ arrive 1 12) = some system ∧
    system.conns = [a, b] ∧ b.AdoptsWhole := by
  obtain ⟨system, a, b, hrun, hconns, hadopt⟩ :=
    @exists_pair_of_check System.initial
      (snapshotRun ++ List.replicate 11 (.serve 0) ++ arrive 1 12)
      (fun _ _ b => b.scene.adoptsSnapshot) (by decide +kernel)
  have halong : Along System.step
      (System.JoinMeets fun _ survivor => survivor.outbox = []) System.initial
      (snapshotRun ++ List.replicate 11 (.serve 0) ++ arrive 1 12) := by decide +kernel
  refine ⟨system, a, b, hrun, hconns, ?_⟩
  exact adoptsWhole_of_wholeAtJoin hrun (halong.mono joinMeets_of_outbox)
    (by simp [hconns]) hadopt

/-- The newcomer drops when three packets of the snapshot have been handled,
and the next one gets the other eight. -/
theorem not_adoptsWhole_after_second_drop : ∃ system a b,
    exec System.step System.initial
      (snapshotRun ++ List.replicate 3 (.serve 0) ++ [.disconnect 1, .connect blankSprite] ++
        List.replicate 8 (.serve 0) ++ arrive 1 9) = some system ∧
    system.conns = [a, b] ∧ b.scene.adoptsSnapshot = true ∧ ¬ b.AdoptsWhole := by
  obtain ⟨system, a, b, hrun, hconns, hcheck⟩ :=
    @exists_pair_of_check System.initial
      (snapshotRun ++ List.replicate 3 (.serve 0) ++ [.disconnect 1, .connect blankSprite] ++
        List.replicate 8 (.serve 0) ++ arrive 1 9)
      (fun _ _ b => b.scene.adoptsSnapshot && decide (b.scene.client.playerTurn = -1))
      (by decide +kernel)
  rw [Bool.and_eq_true, decide_eq_true_eq] at hcheck
  exact ⟨system, a, b, hrun, hconns, hcheck.1, fun h => h.turn hcheck.2⟩

end NetworkingGame
