import NetworkingGame.System

/-!
The system while its clients stay: what a step does to a client that is alone
and to two clients that play together, with the server's part reduced to what
ends up on the way to each of them.
-/

namespace NetworkingGame

open Library.Transition

/-- Nobody connects or disconnects. -/
def SystemEvent.stays : SystemEvent → Bool
  | .connect _ => false
  | .disconnect _ => false
  | .serve _ => true
  | .act _ _ => true

def SystemEvent.isClick : SystemEvent → Bool
  | .act _ event => event.isClick
  | _ => false

namespace Conn

/-- Whether a packet forwarded from `x` reaches `y`. -/
def reaches (x y : Conn) : Bool := y.inPeerMap && y.uid ≠ x.uid

/-- The server handles a packet of `x` while `y` is the other client. -/
inductive Serve (x y : Conn) : Conn → Conn → Prop
  | forward (msg : CustomPacket) (rest : List CustomPacket) (hup : x.up = msg :: rest)
      (hforward : Server.isForwarded msg.type = true) :
      Serve x y { x with up := rest }
        { y with down := y.down ++ if x.reaches y then [msg] else [] }
  | resume (msg : CustomPacket) (rest : List CustomPacket) (hup : x.up = msg :: rest)
      (hresume : msg.type = "resume") (m n : Nat) (hm : x.inPeerMap = true → m ≠ 0)
      (hn : y.inPeerMap = true → n ≠ 0) :
      Serve x y { x with up := rest, down := x.down ++ List.replicate m Server.completedPacket }
        { y with down := y.down ++ List.replicate n Server.completedPacket }
  | dropped (msg : CustomPacket) (rest : List CustomPacket) (hup : x.up = msg :: rest)
      (hforward : Server.isForwarded msg.type = false) (hresume : msg.type ≠ "resume") :
      Serve x y { x with up := rest } y

/-- A step of two clients that both stay. -/
inductive PairStep (clicks : Bool) (a b : Conn) : Conn → Conn → Prop
  | left (after : Conn) (h : a.Local clicks after) : PairStep clicks a b after b
  | right (after : Conn) (h : b.Local clicks after) : PairStep clicks a b a after
  | serveLeft (a' b' : Conn) (h : Serve a b a' b') : PairStep clicks a b a' b'
  | serveRight (a' b' : Conn) (h : Serve b a b' a') : PairStep clicks a b a' b'

/-- A step of a client that is alone. -/
inductive SoloStep (clicks : Bool) (x : Conn) : Conn → Prop
  | self (after : Conn) (h : x.Local clicks after) : SoloStep clicks x after
  | serve (msg : CustomPacket) (rest : List CustomPacket) (hup : x.up = msg :: rest) (m : Nat)
      (hcompleted : msg.type ≠ "resume" → m = 0) :
      SoloStep clicks x { x with
        up := rest
        down := x.down ++ List.replicate m Server.completedPacket }

theorem PairStep.mono {clicks clicks' : Bool} {a b a' b' : Conn}
    (h : PairStep clicks a b a' b') (hle : clicks = true → clicks' = true) :
    PairStep clicks' a b a' b' := by
  cases h with
  | left _ h => exact .left _ (h.mono hle)
  | right _ h => exact .right _ (h.mono hle)
  | serveLeft _ _ h => exact .serveLeft _ _ h
  | serveRight _ _ h => exact .serveRight _ _ h

theorem SoloStep.mono {clicks : Bool} {x x' : Conn} (h : SoloStep false x x') :
    SoloStep clicks x x' := by
  cases h with
  | self _ h => exact .self _ (h.mono (by simp))
  | serve msg rest hup m hcompleted => exact .serve msg rest hup m hcompleted

theorem PairStep.swap {clicks : Bool} {a b a' b' : Conn} (h : PairStep clicks a b a' b') :
    PairStep clicks b a b' a' := by
  cases h with
  | left _ h => exact .right _ h
  | right _ h => exact .left _ h
  | serveLeft _ _ h => exact .serveRight _ _ h
  | serveRight _ _ h => exact .serveLeft _ _ h

end Conn

namespace System

open Conn

theorem onClientData_forward {clients : List Nat} {client : Nat} {msg : CustomPacket}
    (hforward : Server.isForwarded msg.type = true) :
    Server.onClientData clients client msg =
      Server.sendToAllIf clients msg (· ≠ client) := by
  rw [Server.onClientData, if_pos hforward]

/-- A forwarded packet does not come back to its sender. -/
theorem mail_forward_self (clients : List Nat) (client : Nat) (msg : CustomPacket) :
    Action.mail (Server.sendToAllIf clients msg (· ≠ client)) client = [] := by
  apply List.eq_nil_iff_forall_not_mem.mpr
  intro packet hpacket
  have haction := Action.mem_mail.mp hpacket
  simp [Server.sendToAllIf] at haction

theorem mail_forward_second (a b : Nat) (msg : CustomPacket) :
    Action.mail (Server.sendToAllIf [a, b] msg (· ≠ a)) b = if b ≠ a then [msg] else [] := by
  by_cases h : b = a <;> simp [Server.sendToAllIf, h]

theorem mail_forward_first (a b : Nat) (msg : CustomPacket) :
    Action.mail (Server.sendToAllIf [a, b] msg (· ≠ b)) a = if a ≠ b then [msg] else [] := by
  by_cases h : a = b <;> simp [Server.sendToAllIf, h]

theorem not_isForwarded_resume {msg : CustomPacket} (h : msg.type = "resume") :
    Server.isForwarded msg.type = false := by
  simp [Server.isForwarded, h]

/-- A `resume` sends `reconnect`/`false` to the first two clients, and nothing
else to anybody. -/
theorem mail_resume {clients : List Nat} {client : Nat} {msg : CustomPacket}
    (hresume : msg.type = "resume") (uid : Nat) :
    ∃ n, Action.mail (Server.onClientData clients client msg) uid =
      List.replicate n Server.completedPacket ∧
      (clients[0]? = some uid ∨ clients[1]? = some uid → n ≠ 0) := by
  have hall : ∀ packet ∈ Action.mail (Server.onClientData clients client msg) uid,
      packet = Server.completedPacket := by
    intro packet hpacket
    have haction := Action.mem_mail.mp hpacket
    rw [Server.onClientData, not_isForwarded_resume hresume] at haction
    simp only [Bool.false_eq_true, if_false, hresume, if_true, Server.sendToIndex,
      List.mem_cons, List.not_mem_nil, or_false] at haction
    rcases haction with h | h <;> split at h <;> cases h <;> rfl
  refine ⟨_, List.eq_replicate_of_mem hall, ?_⟩
  intro hclient hnone
  have hmem : Server.completedPacket ∈
      Action.mail (Server.onClientData clients client msg) uid := by
    apply Action.mem_mail.mpr
    rw [Server.onClientData, not_isForwarded_resume hresume]
    rcases hclient with hclient | hclient <;>
      simp [hresume, Server.sendToIndex, hclient]
  rw [List.eq_nil_of_length_eq_zero hnone] at hmem
  cases hmem

theorem onClientData_dropped {clients : List Nat} {client : Nat} {msg : CustomPacket}
    (hforward : Server.isForwarded msg.type = false) (hresume : msg.type ≠ "resume") :
    Server.onClientData clients client msg = [] := by
  simp [Server.onClientData, hforward, hresume]

theorem receive_nil (conn : Conn) : conn.receive [] = conn := by
  simp [Conn.receive]

theorem receive_eq {conn : Conn} {actions : List Action} {packets : List CustomPacket}
    (h : Action.mail actions conn.uid = packets) :
    conn.receive actions =
      { conn with down := conn.down ++ if conn.inPeerMap then packets else [] } := by
  rw [Conn.receive, h]

theorem ite_replicate (p : Prop) [Decidable p] (n : Nat) (packet : CustomPacket) :
    ∃ m, (if p then List.replicate n packet else []) = List.replicate m packet ∧
      (n ≠ 0 → p → m ≠ 0) := by
  split
  · exact ⟨n, rfl, fun hn _ => hn⟩
  · rename_i hp
    exact ⟨0, rfl, fun _ h => absurd h hp⟩

/-- The server's step on a pair, whichever of the two is the sender. -/
theorem serve_pair {x y : Conn} {clients : List Nat} {msg : CustomPacket}
    {rest : List CustomPacket} (hup : x.up = msg :: rest)
    (hy : Action.mail (Server.sendToAllIf clients msg (· ≠ x.uid)) y.uid =
      if y.uid ≠ x.uid then [msg] else [])
    (hclientX : clients[0]? = some x.uid ∨ clients[1]? = some x.uid)
    (hclientY : clients[0]? = some y.uid ∨ clients[1]? = some y.uid) :
    Serve x y (({ x with up := rest } : Conn).receive (Server.onClientData clients x.uid msg))
      (y.receive (Server.onClientData clients x.uid msg)) := by
  cases hforward : Server.isForwarded msg.type with
  | true =>
      rw [onClientData_forward hforward]
      have hx : ({ x with up := rest } : Conn).receive
          (Server.sendToAllIf clients msg (· ≠ x.uid)) = { x with up := rest } := by
        rw [@receive_eq { x with up := rest } _ _ (mail_forward_self clients x.uid msg)]
        simp
      have hreach : y.receive (Server.sendToAllIf clients msg (· ≠ x.uid)) =
          { y with down := y.down ++ if x.reaches y then [msg] else [] } := by
        rw [receive_eq hy]
        unfold Conn.reaches
        cases y.inPeerMap <;> simp
      rw [hx, hreach]
      exact .forward msg rest hup hforward
  | false =>
      by_cases hresume : msg.type = "resume"
      · obtain ⟨m, hm, hsomeX⟩ := @mail_resume clients x.uid msg hresume x.uid
        obtain ⟨n, hn, hsomeY⟩ := @mail_resume clients x.uid msg hresume y.uid
        obtain ⟨m', hm', htoldX⟩ := ite_replicate (x.inPeerMap = true) m Server.completedPacket
        obtain ⟨n', hn', htoldY⟩ := ite_replicate (y.inPeerMap = true) n Server.completedPacket
        rw [@receive_eq { x with up := rest } _ _ hm, receive_eq hn, hn']
        simp only [hm']
        exact .resume msg rest hup hresume m' n' (htoldX (hsomeX hclientX))
          (htoldY (hsomeY hclientY))
      · rw [onClientData_dropped hforward hresume, receive_nil, receive_nil]
        exact .dropped msg rest hup hforward hresume

/-- Alone, only a `resume` is answered. -/
theorem serve_solo {clicks : Bool} {x : Conn} {clients : List Nat} {msg : CustomPacket}
    {rest : List CustomPacket} (hup : x.up = msg :: rest) :
    SoloStep clicks x (({ x with up := rest } : Conn).receive
      (Server.onClientData clients x.uid msg)) := by
  have hnone (actions : List Action) (h : Action.mail actions x.uid = []) :
      ({ x with up := rest } : Conn).receive actions =
        { x with up := rest, down := x.down ++ List.replicate 0 Server.completedPacket } := by
    rw [@receive_eq { x with up := rest } _ _ h]
    simp
  by_cases hresume : msg.type = "resume"
  · obtain ⟨m, hm, -⟩ := @mail_resume clients x.uid msg hresume x.uid
    obtain ⟨m', hm', -⟩ := ite_replicate (x.inPeerMap = true) m Server.completedPacket
    rw [@receive_eq { x with up := rest } _ _ hm]
    simp only [hm']
    exact .serve msg rest hup m' (fun h => absurd hresume h)
  · cases hforward : Server.isForwarded msg.type with
    | true =>
        rw [onClientData_forward hforward, hnone _ (mail_forward_self clients x.uid msg)]
        exact .serve msg rest hup 0 (fun _ => rfl)
    | false =>
        rw [onClientData_dropped hforward hresume, hnone [] rfl]
        exact .serve msg rest hup 0 (fun _ => rfl)

/-- What an event that leaves both clients there is to the two of them. -/
theorem step_pair_cases {server : Server} {a b : Conn} {event : SystemEvent} {after : System}
    (hstays : event.stays = true) (h : step ⟨server, [a, b]⟩ event = some after) :
    ∃ a' b', after = ⟨server, [a', b']⟩ ∧
      ((∃ own, event = .act 0 own ∧ a.step own = some a' ∧ b' = b) ∨
        (∃ own, event = .act 1 own ∧ b.step own = some b' ∧ a' = a) ∨
        Serve a b a' b' ∨ Serve b a b' a') := by
  cases event with
  | connect blank => cases hstays
  | disconnect index => cases hstays
  | serve index =>
      obtain ⟨sender, msg, rest, hsender, hup, -, rfl⟩ := step_serve_cases h
      rcases index with _ | _ | index
      · obtain rfl : a = sender := Option.some.inj hsender
        refine ⟨_, _, rfl, Or.inr (Or.inr (Or.inl ?_))⟩
        exact serve_pair hup (mail_forward_second a.uid b.uid msg) (Or.inl rfl) (Or.inr rfl)
      · obtain rfl : b = sender := Option.some.inj hsender
        refine ⟨_, _, rfl, Or.inr (Or.inr (Or.inr ?_))⟩
        exact serve_pair hup (mail_forward_first a.uid b.uid msg) (Or.inr rfl) (Or.inl rfl)
      · simp at hsender
  | act index event =>
      rcases index with _ | _ | index
      · simp only [step, List.getElem?_cons_zero, Option.map_eq_some_iff] at h
        obtain ⟨next, hnext, rfl⟩ := h
        exact ⟨next, b, rfl, Or.inl ⟨event, rfl, hnext, rfl⟩⟩
      · simp only [step, List.getElem?_cons_succ, List.getElem?_cons_zero,
          Option.map_eq_some_iff] at h
        obtain ⟨next, hnext, rfl⟩ := h
        exact ⟨a, next, rfl, Or.inr (Or.inl ⟨event, rfl, hnext, rfl⟩)⟩
      · simp [step] at h

theorem step_pair {server : Server} {a b : Conn} {event : SystemEvent} {after : System}
    (hstays : event.stays = true) (h : step ⟨server, [a, b]⟩ event = some after) :
    ∃ a' b', after = ⟨server, [a', b']⟩ ∧ PairStep event.isClick a b a' b' := by
  obtain ⟨a', b', rfl, hcases⟩ := step_pair_cases hstays h
  refine ⟨a', b', rfl, ?_⟩
  rcases hcases with ⟨own, rfl, hown, rfl⟩ | ⟨own, rfl, hown, rfl⟩ | hserve | hserve
  · exact .left _ (step_local hown)
  · exact .right _ (step_local hown)
  · exact .serveLeft _ _ hserve
  · exact .serveRight _ _ hserve

/-- What an event that leaves a single client there is to it. -/
theorem step_solo_cases {server : Server} {x : Conn} {event : SystemEvent} {after : System}
    (hstays : event.stays = true) (h : step ⟨server, [x]⟩ event = some after) :
    ∃ x', after = ⟨server, [x']⟩ ∧
      ((∃ own, event = .act 0 own ∧ x.step own = some x') ∨
        (SoloStep false x x' ∧ x'.scene = x.scene)) := by
  cases event with
  | connect blank => cases hstays
  | disconnect index => cases hstays
  | serve index =>
      obtain ⟨sender, msg, rest, hsender, hup, -, rfl⟩ := step_serve_cases h
      rcases index with _ | index
      · obtain rfl : x = sender := Option.some.inj hsender
        exact ⟨_, rfl, Or.inr ⟨serve_solo hup, rfl⟩⟩
      · simp at hsender
  | act index event =>
      rcases index with _ | index
      · simp only [step, List.getElem?_cons_zero, Option.map_eq_some_iff] at h
        obtain ⟨next, hnext, rfl⟩ := h
        exact ⟨next, rfl, Or.inl ⟨event, rfl, hnext⟩⟩
      · simp [step] at h

theorem step_solo {server : Server} {x : Conn} {event : SystemEvent} {after : System}
    (hstays : event.stays = true) (h : step ⟨server, [x]⟩ event = some after) :
    ∃ x', after = ⟨server, [x']⟩ ∧ SoloStep event.isClick x x' := by
  obtain ⟨x', rfl, ⟨own, rfl, hown⟩ | ⟨hserve, -⟩⟩ := step_solo_cases hstays h
  · exact ⟨x', rfl, .self _ (step_local hown)⟩
  · exact ⟨x', rfl, hserve.mono⟩

/-- An invariant of the steps of a pair holds as long as both clients stay and
each state from which a step is taken meets `G`; without `clicks` it need only
survive the other steps. -/
theorem pair_invariant_along {clicks : Bool} {I G : Conn → Conn → Prop}
    (hI : ∀ a b a' b', I a b → G a b → PairStep clicks a b a' b' → I a' b') {server : Server}
    {a b : Conn} {events : List SystemEvent} {after : System}
    (hstay : ∀ event ∈ events, event.stays = true ∧ (event.isClick = true → clicks = true))
    (halong : Along step (fun system _ => ∀ a b, system.conns = [a, b] → G a b)
      ⟨server, [a, b]⟩ events)
    (h : exec step ⟨server, [a, b]⟩ events = some after) (hab : I a b) :
    ∃ a' b', after = ⟨server, [a', b']⟩ ∧ I a' b' := by
  induction events generalizing a b with
  | nil =>
      obtain rfl := Option.some.inj h
      exact ⟨a, b, rfl, hab⟩
  | cons event events ih =>
      obtain ⟨next, hnext, hrest⟩ := (exec_cons _ _ _ _).mp h
      obtain ⟨hevent, hclick⟩ := hstay event (by simp)
      obtain ⟨a', b', rfl, hstep⟩ := step_pair hevent hnext
      exact ih (fun e he => hstay e (by simp [he])) (halong.2 _ hnext) hrest
        (hI a b a' b' hab (halong.1 a b rfl) (hstep.mono hclick))

theorem pair_invariant {clicks : Bool} {I : Conn → Conn → Prop}
    (hI : ∀ a b a' b', I a b → PairStep clicks a b a' b' → I a' b') {server : Server}
    {a b : Conn} {events : List SystemEvent} {after : System}
    (hstay : ∀ event ∈ events, event.stays = true ∧ (event.isClick = true → clicks = true))
    (h : exec step ⟨server, [a, b]⟩ events = some after) (hab : I a b) :
    ∃ a' b', after = ⟨server, [a', b']⟩ ∧ I a' b' := by
  have hfree : Along step (fun system _ => ∀ a b, system.conns = [a, b] → True)
      ⟨server, [a, b]⟩ events :=
    @along_of_forall _ _ _ (fun _ => True) _ (fun _ _ _ _ _ => trivial)
      (fun _ _ _ _ _ _ => trivial) _ events trivial
  exact @pair_invariant_along clicks I (fun _ _ => True)
    (fun a b a' b' hab _ hstep => hI a b a' b' hab hstep) server a b events after hstay hfree h hab

/-- The server handles a packet, and nobody clicks from then on. -/
theorem pair_invariant_serve {I : Conn → Conn → Prop}
    (hI : ∀ a b a' b', I a b → PairStep false a b a' b' → I a' b') {server : Server} {a b : Conn}
    {index : Nat} {next after : System} {events : List SystemEvent}
    (hserve : step ⟨server, [a, b]⟩ (.serve index) = some next)
    (h : exec step next events = some after)
    (hstay : ∀ event ∈ events, event.stays = true ∧ event.isClick = false) (hab : I a b) :
    ∃ a' b', after = ⟨server, [a', b']⟩ ∧ I a' b' := by
  obtain ⟨a', b', rfl, hstep⟩ := step_pair rfl hserve
  refine pair_invariant hI ?_ h (hI a b a' b' hab hstep)
  intro event hevent
  obtain ⟨hstays, hclick⟩ := hstay event hevent
  exact ⟨hstays, fun hclicks => absurd (hclick.symm.trans hclicks) (by simp)⟩

theorem solo_invariant {I : Conn → Prop}
    (hI : ∀ clicks x x', I x → SoloStep clicks x x' → I x') {server : Server} {x : Conn}
    {events : List SystemEvent} {after : System}
    (hstay : ∀ event ∈ events, event.stays = true)
    (h : exec step ⟨server, [x]⟩ events = some after) (hx : I x) :
    ∃ x', after = ⟨server, [x']⟩ ∧ I x' := by
  induction events generalizing x with
  | nil =>
      obtain rfl := Option.some.inj h
      exact ⟨x, rfl, hx⟩
  | cons event events ih =>
      obtain ⟨next, hnext, hrest⟩ := (exec_cons _ _ _ _).mp h
      obtain ⟨x', rfl, hstep⟩ := step_solo (hstay event (by simp)) hnext
      exact ih (fun e he => hstay e (by simp [he])) hrest (hI _ x x' hx hstep)

end System

end NetworkingGame
