import Mathlib.Data.List.Nodup
import NetworkingGame.EnetServer

/-!
Who may touch a client of the network library. The list of connected clients
lags behind the peers of ENet by the events that are pending; a client is
alive from its allocation until its `disconnect` event is handled, so that no
callback is given a deleted one and no deletion is made twice.
-/

namespace NetworkingGame

open Library Library.Transition

/-- The clients that are there once some events have happened, of the `next`
clients that have ever connected. -/
structure Roll where
  next : Nat
  clients : List Nat
  issued : ∀ client ∈ clients, client < next
  nodup : clients.Nodup
  fits : clients.length ≤ Server.maxClientCount

namespace Roll

def empty : Roll := ⟨0, [], by simp, .nil, by simp⟩

def enter (roll : Roll) (h : roll.clients.length < Server.maxClientCount) : Roll where
  next := roll.next + 1
  clients := roll.clients ++ [roll.next]
  issued := by
    intro client hclient
    rcases List.mem_append.mp hclient with hclient | hclient
    · exact Nat.lt_succ_of_lt (roll.issued client hclient)
    · rw [List.mem_singleton.mp hclient]
      exact Nat.lt_succ_self _
  nodup := by
    apply List.Nodup.append roll.nodup (List.nodup_singleton _)
    intro client hclient hnext
    rw [List.mem_singleton.mp hnext] at hclient
    exact Nat.lt_irrefl _ (roll.issued _ hclient)
  fits := by
    rw [List.length_append]
    exact h

def leave (roll : Roll) (client : Nat) : Roll where
  next := roll.next
  clients := roll.clients.erase client
  issued := fun other hother => roll.issued other (List.mem_of_mem_erase hother)
  nodup := roll.nodup.erase client
  fits := List.length_erase_le.trans roll.fits

/-- The clients before and after an event: the next one connects, and only a
connected one is heard of. -/
def replay (roll : Roll) : ServerEvent → Option Roll
  | .connect client =>
      if h : client = roll.next ∧ roll.clients.length < Server.maxClientCount then
        some (roll.enter h.2)
      else none
  | .receive client _ => if client ∈ roll.clients then some roll else none
  | .disconnect client => if client ∈ roll.clients then some (roll.leave client) else none

section Replay

variable {roll after : Roll} {client : Nat} {events : List ServerEvent}

theorem replay_connect (h : roll.replay (.connect client) = some after) :
    client = roll.next ∧ ∃ hroom, after = roll.enter hroom := by
  simp only [replay] at h
  split at h
  · rename_i hnext
    exact ⟨hnext.1, hnext.2, (Option.some.inj h).symm⟩
  · cases h

theorem replay_receive {data : List Char} (h : roll.replay (.receive client data) = some after) :
    client ∈ roll.clients ∧ after = roll := by
  simp only [replay] at h
  split at h
  · rename_i hmem
    exact ⟨hmem, (Option.some.inj h).symm⟩
  · cases h

theorem replay_disconnect (h : roll.replay (.disconnect client) = some after) :
    client ∈ roll.clients ∧ after = roll.leave client := by
  simp only [replay] at h
  split at h
  · rename_i hmem
    exact ⟨hmem, (Option.some.inj h).symm⟩
  · cases h

/-- A client that has left never comes back: a new connection is a new client. -/
theorem never_back (hrun : exec replay roll events = some after) (hissued : client < roll.next)
    (hleft : client ∉ roll.clients) : client < after.next ∧ client ∉ after.clients := by
  apply @invariant_of_step _ _ replay (fun roll => client < roll.next ∧ client ∉ roll.clients)
    _ roll after events hrun ⟨hissued, hleft⟩
  rintro roll event after ⟨hissued, hleft⟩ hstep
  cases event with
  | connect other =>
      obtain ⟨-, hroom, rfl⟩ := replay_connect hstep
      refine ⟨Nat.lt_succ_of_lt hissued, ?_⟩
      simp only [enter, List.mem_append, List.mem_singleton, not_or]
      exact ⟨hleft, Nat.ne_of_lt hissued⟩
  | receive other data =>
      obtain ⟨-, rfl⟩ := replay_receive hstep
      exact ⟨hissued, hleft⟩
  | disconnect other =>
      obtain ⟨-, rfl⟩ := replay_disconnect hstep
      exact ⟨hissued, fun hmem => hleft (List.mem_of_mem_erase hmem)⟩

/-- The clients whose connection is among the events. -/
def arrivals (events : List ServerEvent) : List Nat :=
  events.filterMap fun
    | .connect client => some client
    | .receive _ _ => none
    | .disconnect _ => none

/-- Connections are numbered one after the other. -/
theorem arrivals_eq (hrun : exec replay roll events = some after) :
    roll.next ≤ after.next ∧
      arrivals events = List.range' roll.next (after.next - roll.next) := by
  induction events generalizing roll with
  | nil =>
      obtain rfl : roll = after := Option.some.inj hrun
      simp [arrivals]
  | cons event events ih =>
      obtain ⟨reached, hstep, hrest⟩ := (exec_cons _ _ _ _).mp hrun
      obtain ⟨hle, harrivals⟩ := ih hrest
      cases event with
      | connect client =>
          obtain ⟨rfl, hroom, rfl⟩ := replay_connect hstep
          have hlt : roll.next + 1 ≤ after.next := hle
          have hcount : after.next - roll.next = (after.next - (roll.next + 1)) + 1 := by omega
          refine ⟨by omega, ?_⟩
          rw [hcount, List.range'_succ]
          exact congrArg (roll.next :: ·) harrivals
      | receive client data =>
          obtain ⟨-, rfl⟩ := replay_receive hstep
          exact ⟨hle, harrivals⟩
      | disconnect client =>
          obtain ⟨-, rfl⟩ := replay_disconnect hstep
          exact ⟨hle, harrivals⟩

end Replay

end Roll

namespace EnetServer

/-- The client is allocated and not deleted. -/
def Live (host : EnetServer) (client : Nat) : Prop :=
  ∃ object, host.heap[client]? = some (some object)

/-- Who knows of a client, for the connected clients `behind` and those
`ahead` that ENet already reports. -/
structure Owned (host : EnetServer) (behind ahead : Roll) : Prop where
  clients : behind.clients = host.connectedClients
  peers : ahead.clients = host.peers
  allocated : ahead.next = host.heap.length
  lags : host.events.Lags Roll.replay behind ahead
  live : ∀ client, host.Live client ↔
    client ∈ behind.clients ∨ (behind.next ≤ client ∧ client < ahead.next)
  distinct : ∀ client other uid : Nat, host.heap[client]? = some (some ⟨uid⟩) →
    host.heap[other]? = some (some ⟨uid⟩) → client = other
  mapped : ∀ uid client : Nat, host.threadPeerMap uid = some client ↔
    client ∈ ahead.clients ∧ host.heap[client]? = some (some ⟨uid⟩)

/-- No object in use has this uid. -/
def Fresh (host : EnetServer) (uid : Nat) : Prop := some ⟨uid⟩ ∉ host.heap

section Ownership

variable {host : EnetServer} {behind ahead : Roll} {client uid : Nat}

theorem owned_listening : Owned listening .empty .empty := by
  refine ⟨rfl, rfl, rfl, rfl, ?_, ?_, ?_⟩
  · intro client
    simp [Live, listening, Roll.empty]
  · intro client other uid h
    simp [listening] at h
  · intro uid client
    simp [listening, Roll.empty]

theorem Owned.next_le (h : Owned host behind ahead) : behind.next ≤ ahead.next :=
  (Roll.arrivals_eq h.lags).1

theorem Owned.peer_live (h : Owned host behind ahead) (hpeer : client ∈ ahead.clients) :
    host.Live client := by
  rw [h.live]
  by_contra hnot
  rw [not_or, not_and_or] at hnot
  have hissued := ahead.issued client hpeer
  have hold : client < behind.next := by
    rcases hnot.2 with hlow | hhigh
    · exact Nat.lt_of_not_le hlow
    · exact absurd hissued hhigh
  exact (Roll.never_back h.lags hold hnot.1).2 hpeer

theorem deref_eq {object : ServerClient} (h : host.heap[client]? = some (some object)) :
    host.deref client = .ok object := by
  rw [deref, h]

/-- The uid of a client, 0 for one that is not alive. -/
def uidOf (host : EnetServer) (client : Nat) : Nat :=
  match host.heap[client]? with
  | some (some object) => object.uid
  | _ => 0

theorem uidOf_eq {object : ServerClient} (h : host.heap[client]? = some (some object)) :
    host.uidOf client = object.uid := by
  rw [uidOf, h]

theorem Live.heap (h : host.Live client) :
    host.heap[client]? = some (some ⟨host.uidOf client⟩) := by
  obtain ⟨object, hobject⟩ := h
  rw [uidOf_eq hobject, hobject]

theorem uids_eq (h : ∀ client ∈ host.connectedClients, host.Live client) :
    host.uids = .ok (host.connectedClients.map host.uidOf) := by
  have hall : ∀ clients : List Nat, (∀ client ∈ clients, host.Live client) →
      (clients.mapM fun client => do
        let object ← host.deref client
        return object.uid) = Except.ok (clients.map host.uidOf) := by
    intro clients hlive
    induction clients with
    | nil => rfl
    | cons client clients ih =>
        rw [List.mapM_cons, deref_eq (hlive client List.mem_cons_self).heap,
          ih fun other hother => hlive other (List.mem_cons_of_mem client hother)]
        rfl
  exact hall host.connectedClients h

end Ownership

section Worker

variable {host after : EnetServer} {behind ahead : Roll} {client uid : Nat}

theorem Owned.lt_of_heap (h : Owned host behind ahead) {object : Option ServerClient}
    (hobject : host.heap[client]? = some object) : client < ahead.next := by
  rw [h.allocated]
  exact (List.getElem?_eq_some_iff.mp hobject).1

/-- A new connection gets an object of its own. -/
theorem Owned.handleConnectEvent (h : Owned host behind ahead) (hfresh : host.Fresh uid)
    (hroom : host.peers.length < Server.maxClientCount) :
    ∃ reached, Owned (host.handleConnectEvent uid) behind reached := by
  have hroom' : ahead.clients.length < Server.maxClientCount := by rwa [h.peers]
  have hheap : ∀ client : Nat, (host.heap ++ [some ⟨uid⟩])[client]? =
      if client = ahead.next then some (some ⟨uid⟩) else host.heap[client]? := by
    intro client
    rw [h.allocated]
    split
    · rename_i heq
      rw [heq, List.getElem?_concat_length]
    · rename_i hne
      rcases Nat.lt_or_gt_of_ne hne with hlt | hgt
      · exact List.getElem?_append_left hlt
      · rw [List.getElem?_eq_none (by simp; omega), List.getElem?_eq_none (by omega)]
  refine ⟨ahead.enter hroom', h.clients, ?_, ?_, ?_, ?_, ?_, ?_⟩
  · simp only [Roll.enter, EnetServer.handleConnectEvent, h.peers, h.allocated]
  · simp [Roll.enter, EnetServer.handleConnectEvent, h.allocated]
  · apply h.lags.post
    simp only [Roll.replay]
    rw [dif_pos ⟨h.allocated.symm, hroom'⟩]
  · intro client
    have hold := h.live client
    simp only [Live, EnetServer.handleConnectEvent, Roll.enter, hheap] at hold ⊢
    have hle := h.next_le
    split
    · rename_i heq
      simp [heq, hle]
    · rename_i hne
      rw [hold]
      constructor
      · exact fun hmem => hmem.imp_right fun hlt => ⟨hlt.1, by omega⟩
      · exact fun hmem => hmem.imp_right fun hlt => ⟨hlt.1, by omega⟩
  · intro client other uid' hclient hother
    simp only [EnetServer.handleConnectEvent, hheap] at hclient hother
    split at hclient <;> split at hother
    · rename_i heq heq'
      rw [heq, heq']
    · obtain rfl := ServerClient.mk.inj (Option.some.inj (Option.some.inj hclient))
      exact absurd (List.mem_of_getElem? hother) hfresh
    · obtain rfl := ServerClient.mk.inj (Option.some.inj (Option.some.inj hother))
      exact absurd (List.mem_of_getElem? hclient) hfresh
    · exact h.distinct client other uid' hclient hother
  · intro uid' client
    simp only [EnetServer.handleConnectEvent, Roll.enter, hheap, Function.update_apply,
      List.mem_append, List.mem_singleton]
    have hissued := ahead.issued client
    by_cases huid : uid' = uid
    · subst huid
      rw [if_pos rfl, ← h.allocated, Option.some.injEq]
      constructor
      · rintro rfl
        simp
      · rintro ⟨hmem, hobject⟩
        by_contra hne
        rw [if_neg (Ne.symm hne)] at hobject
        exact hfresh (List.mem_of_getElem? hobject)
    · rw [if_neg huid, h.mapped]
      constructor
      · rintro ⟨hmem, hobject⟩
        have hne : client ≠ ahead.next := Nat.ne_of_lt (hissued hmem)
        exact ⟨Or.inl hmem, by rw [if_neg hne]; exact hobject⟩
      · rintro ⟨hmem, hobject⟩
        split at hobject
        · exact absurd (ServerClient.mk.inj (Option.some.inj (Option.some.inj hobject))).symm huid
        · rename_i hne
          exact ⟨hmem.resolve_right hne, hobject⟩

theorem Owned.handleReceiveEvent (h : Owned host behind ahead) (hpeer : client ∈ host.peers)
    (data : List Char) : Owned (host.handleReceiveEvent client data) behind ahead := by
  refine { h with lags := h.lags.post ?_ }
  simp only [Roll.replay]
  rw [if_pos (h.peers ▸ hpeer)]

/-- The assertions of `handle_disconnect_event_in_thread` hold. -/
theorem Owned.handleDisconnectEvent (h : Owned host behind ahead) (hpeer : client ∈ host.peers) :
    ∃ after reached, host.handleDisconnectEvent client = .ok after ∧ Owned after behind reached ∧
      after = { host with
        peers := host.peers.erase client
        threadPeerMap := Function.update host.threadPeerMap (host.uidOf client) none
        events := host.events.post (.disconnect client) } := by
  rw [← h.peers] at hpeer
  have hobject := (h.peer_live hpeer).heap
  refine ⟨_, ahead.leave client, ?_, ?_, rfl⟩
  · have hmapped := (h.mapped _ client).mpr ⟨hpeer, hobject⟩
    rw [EnetServer.handleDisconnectEvent, deref_eq hobject]
    simp only [bind, Except.bind, hmapped, if_true]
    rfl
  · refine ⟨h.clients, congrArg (List.erase · client) h.peers, h.allocated, ?_, h.live, h.distinct,
      ?_⟩
    · apply h.lags.post
      simp only [Roll.replay]
      rw [if_pos hpeer]
    · intro uid other
      simp only [Function.update_apply, Roll.leave]
      split
      · rename_i huid
        subst huid
        constructor
        · intro hnone
          cases hnone
        · rintro ⟨hmem, hother⟩
          have hsame := h.distinct client other _ hobject hother
          rw [← hsame] at hmem
          exact absurd hmem ahead.nodup.not_mem_erase
      · rename_i huid
        rw [h.mapped]
        constructor
        · rintro ⟨hmem, hother⟩
          refine ⟨(List.mem_erase_of_ne ?_).mpr hmem, hother⟩
          rintro rfl
          exact huid (uidOf_eq hother).symm
        · rintro ⟨hmem, hother⟩
          exact ⟨List.mem_of_mem_erase hmem, hother⟩

theorem Owned.send (h : Owned host behind ahead) (packets : List QueuedPacket) :
    Owned (host.send packets) behind ahead := { h with }

theorem Owned.sendQueuedPacket (h : Owned host behind ahead) {sent : Option (Nat × List Char)}
    (hsend : host.sendQueuedPacket = some (after, sent)) : Owned after behind ahead := by
  unfold EnetServer.sendQueuedPacket at hsend
  split at hsend
  · cases hsend
  · rw [← (Prod.mk.inj (Option.some.inj hsend)).1]
    exact { h with }

end Worker

end EnetServer

/-- The client that an event is about. -/
def ServerEvent.client : ServerEvent → Nat
  | .connect client => client
  | .receive client _ => client
  | .disconnect client => client

/-- The callback for an event. -/
def Callbacks.call {σ : Type} (callbacks : Callbacks σ) (app : σ) (uids : List Nat) (uid : Nat) :
    ServerEvent → Except LibraryFault (σ × List QueuedPacket)
  | .connect _ => callbacks.onConnected app uids uid
  | .receive _ data => callbacks.onData app uids uid data
  | .disconnect _ => callbacks.onDisconnected app uids uid

namespace EnetServer

section Consumer

variable {host : EnetServer} {behind ahead reached : Roll} {rest : Mailbox ServerEvent}

/-- The server once it has handled an event, before the callback sends. -/
def handled (host : EnetServer) (rest : Mailbox ServerEvent) (clients : List Nat) :
    ServerEvent → EnetServer
  | .connect _ => { host with events := rest, connectedClients := clients }
  | .receive _ _ => { host with events := rest }
  | .disconnect client => { host with
      events := rest
      connectedClients := clients
      heap := host.heap.set client none }

theorem Owned.handledConnect {client : Nat} (h : Owned host behind ahead)
    (hreplay : behind.replay (.connect client) = some reached)
    (hlags : rest.Lags Roll.replay reached ahead) :
    Owned (host.handled rest reached.clients (.connect client)) reached ahead ∧
      host.Live client := by
  obtain ⟨rfl, hroom, rfl⟩ := Roll.replay_connect hreplay
  have hlt : behind.next + 1 ≤ ahead.next := (Roll.arrivals_eq hlags).1
  refine ⟨⟨rfl, h.peers, h.allocated, hlags, ?_, h.distinct, h.mapped⟩, ?_⟩
  · intro client
    refine (h.live client).trans ?_
    simp only [Roll.enter, List.mem_append, List.mem_singleton]
    constructor
    · rintro (hmem | ⟨hlow, hhigh⟩)
      · exact Or.inl (Or.inl hmem)
      · by_cases hnext : client = behind.next
        · exact Or.inl (Or.inr hnext)
        · exact Or.inr ⟨by omega, hhigh⟩
    · rintro ((hmem | rfl) | ⟨hlow, hhigh⟩)
      · exact Or.inl hmem
      · exact Or.inr ⟨Nat.le_refl _, by omega⟩
      · exact Or.inr ⟨by omega, hhigh⟩
  · exact (h.live behind.next).mpr (Or.inr ⟨Nat.le_refl _, by omega⟩)

theorem Owned.handledReceive {client : Nat} {data : List Char} (h : Owned host behind ahead)
    (hreplay : behind.replay (.receive client data) = some reached)
    (hlags : rest.Lags Roll.replay reached ahead) :
    Owned (host.handled rest reached.clients (.receive client data)) reached ahead ∧
      host.Live client := by
  obtain ⟨hmem, rfl⟩ := Roll.replay_receive hreplay
  exact ⟨{ h with lags := hlags }, (h.live client).mpr (Or.inl hmem)⟩

theorem getElem?_set_none {heap : List (Option ServerClient)} {client other : Nat}
    {object : ServerClient} (h : (heap.set client none)[other]? = some (some object)) :
    other ≠ client ∧ heap[other]? = some (some object) := by
  rw [List.getElem?_set] at h
  split at h
  · split at h
    · cases h
    · cases h
  · rename_i hne
    exact ⟨Ne.symm hne, h⟩

/-- A client dies with its `disconnect`: it is in no list any more. -/
theorem Owned.handledDisconnect {client : Nat} (h : Owned host behind ahead)
    (hreplay : behind.replay (.disconnect client) = some reached)
    (hlags : rest.Lags Roll.replay reached ahead) :
    Owned (host.handled rest reached.clients (.disconnect client)) reached ahead ∧
      host.Live client := by
  obtain ⟨hmem, rfl⟩ := Roll.replay_disconnect hreplay
  have hgone : client ∉ (behind.leave client).clients := behind.nodup.not_mem_erase
  have hnever := Roll.never_back hlags (behind.issued client hmem) hgone
  have hkept {other : Nat} (hne : other ≠ client) :
      (host.heap.set client none)[other]? = host.heap[other]? := List.getElem?_set_ne hne.symm
  refine ⟨⟨rfl, h.peers, ?_, hlags, ?_, ?_, ?_⟩, (h.live client).mpr (Or.inl hmem)⟩
  · rw [h.allocated]
    exact List.length_set.symm
  · intro other
    by_cases hne : other = client
    · subst hne
      constructor
      · rintro ⟨object, hobject⟩
        exact absurd rfl (getElem?_set_none hobject).1
      · rintro (hin | ⟨hlow, -⟩)
        · exact absurd hin hgone
        · exact absurd (behind.issued other hmem) (Nat.not_lt.mpr hlow)
    · have hold := h.live other
      simp only [Live, EnetServer.handled, hkept hne] at hold ⊢
      rw [hold, Roll.leave, List.mem_erase_of_ne hne]
  · intro first second uid hfirst hsecond
    exact h.distinct first second uid (getElem?_set_none hfirst).2 (getElem?_set_none hsecond).2
  · intro uid other
    refine (h.mapped uid other).trans ?_
    constructor
    · rintro ⟨hin, hobject⟩
      refine ⟨hin, ?_⟩
      have hne : other ≠ client := fun heq => hnever.2 (heq ▸ hin)
      exact (hkept hne).trans hobject
    · rintro ⟨hin, hobject⟩
      exact ⟨hin, (getElem?_set_none hobject).2⟩

theorem Owned.handled {event : ServerEvent} (h : Owned host behind ahead)
    (hreplay : behind.replay event = some reached)
    (hlags : rest.Lags Roll.replay reached ahead) :
    Owned (host.handled rest reached.clients event) reached ahead ∧ host.Live event.client := by
  cases event with
  | connect client => exact h.handledConnect hreplay hlags
  | receive client data => exact h.handledReceive hreplay hlags
  | disconnect client => exact h.handledDisconnect hreplay hlags

theorem Owned.connected_live (h : Owned host behind ahead) {client : Nat}
    (hmem : client ∈ host.connectedClients) : host.Live client :=
  (h.live client).mpr (Or.inl (h.clients ▸ hmem))

/-- Whoever is connected after an event has an object before it. -/
theorem Owned.reached_live {event : ServerEvent} (h : Owned host behind ahead)
    (hreplay : behind.replay event = some reached) (hlags : rest.Lags Roll.replay reached ahead)
    {client : Nat} (hmem : client ∈ reached.clients) : host.Live client := by
  have hlive := ((h.handled hreplay hlags).1.live client).mpr (Or.inl hmem)
  cases event with
  | connect other => exact hlive
  | receive other data => exact hlive
  | disconnect other =>
      obtain ⟨object, hobject⟩ := hlive
      exact ⟨object, (getElem?_set_none hobject).2⟩

theorem bind_send {σ : Type} (result : Except LibraryFault (σ × List QueuedPacket))
    (host : EnetServer) :
    (do
      let (app, packets) ← result
      return (app, host.send packets)) =
      result.map fun result => (result.1, host.send result.2) := by
  cases result <;> rfl

/-- Handling an event comes down to its callback, which is told the uids of
the clients that are connected after the event. -/
theorem Owned.handleEvent_eq {σ : Type} (callbacks : Callbacks σ) (app : σ) {event : ServerEvent}
    (h : Owned host behind ahead) (hreplay : behind.replay event = some reached)
    (hlags : rest.Lags Roll.replay reached ahead) :
    handleEvent callbacks app { host with events := rest } event =
      (callbacks.call app (reached.clients.map host.uidOf) (host.uidOf event.client) event).map
        fun result => (result.1, (host.handled rest reached.clients event).send result.2) := by
  obtain ⟨howned, hlive⟩ := h.handled hreplay hlags
  have huids := uids_eq fun client (hmem : client ∈ _) => howned.connected_live hmem
  rw [← howned.clients] at huids
  have hderef := deref_eq hlive.heap
  cases event with
  | connect client =>
      obtain ⟨rfl, hroom, rfl⟩ := Roll.replay_connect hreplay
      have hclients : host.connectedClients ++ [behind.next] = (behind.enter hroom).clients := by
        rw [← h.clients]
        rfl
      have hderef' : EnetServer.deref { host with
          events := rest
          connectedClients := (behind.enter hroom).clients } behind.next =
            .ok ⟨host.uidOf behind.next⟩ := hderef
      have huids' : EnetServer.uids { host with
          events := rest
          connectedClients := (behind.enter hroom).clients } =
            .ok ((behind.enter hroom).clients.map host.uidOf) := huids
      simp only [handleEvent, hclients, hderef', huids']
      exact bind_send _ _
  | receive client data =>
      obtain ⟨hmem, rfl⟩ := Roll.replay_receive hreplay
      have hderef' : EnetServer.deref { host with events := rest } client =
          .ok ⟨host.uidOf client⟩ := hderef
      have huids' : EnetServer.uids { host with events := rest } =
          .ok (reached.clients.map host.uidOf) := huids
      simp only [handleEvent, hderef', huids']
      exact bind_send _ _
  | disconnect client =>
      obtain ⟨hmem, rfl⟩ := Roll.replay_disconnect hreplay
      have hclients : host.connectedClients.erase client = (behind.leave client).clients := by
        rw [← h.clients]
        rfl
      have hderef' : EnetServer.deref { host with
          events := rest
          connectedClients := (behind.leave client).clients } client =
            .ok ⟨host.uidOf client⟩ := hderef
      have hdelete : EnetServer.delete { host with
          events := rest
          connectedClients := (behind.leave client).clients } client =
            .ok (host.handled rest (behind.leave client).clients (.disconnect client)) := by
        have hobject : host.heap[client]? = some (some ⟨host.uidOf client⟩) := hlive.heap
        simp only [EnetServer.delete, hobject]
        rfl
      have huids' : (behind.leave client).clients.map
          (host.handled rest (behind.leave client).clients (.disconnect client)).uidOf =
            (behind.leave client).clients.map host.uidOf := by
        apply List.map_congr_left
        intro other hother
        have hne : other ≠ client := by
          rintro rfl
          exact behind.nodup.not_mem_erase hother
        simp only [uidOf, EnetServer.handled, List.getElem?_set_ne hne.symm]
      rw [huids'] at huids
      have hmem' : client ∈ host.connectedClients := h.clients ▸ hmem
      simp only [handleEvent, if_pos hmem', hclients, hderef', hdelete]
      change (do
        let uids ← (host.handled rest (behind.leave client).clients (.disconnect client)).uids
        let (app, packets) ← callbacks.onDisconnected app uids (host.uidOf client)
        return (app, EnetServer.send _ packets)) = _
      rw [huids]
      exact bind_send _ _

end Consumer

section Stopping

variable {host : EnetServer} {behind ahead : Roll}

/-- Deleting different clients that are alive deletes just those. -/
theorem delete_all {clients : List Nat} (hnodup : clients.Nodup)
    (hlive : ∀ client ∈ clients, host.Live client) :
    ∃ after, clients.foldlM delete host = .ok after ∧
      (∀ client, after.Live client ↔ host.Live client ∧ client ∉ clients) ∧
      after = { host with heap := after.heap } ∧ after.heap.length = host.heap.length := by
  induction clients generalizing host with
  | nil => exact ⟨host, rfl, by simp, rfl, rfl⟩
  | cons client clients ih =>
      obtain ⟨hnot, hrest⟩ := List.nodup_cons.mp hnodup
      have hobject := (hlive client List.mem_cons_self).heap
      have hdelete : host.delete client =
          .ok { host with heap := host.heap.set client none } := by
        rw [delete, hobject]
      have hlive' : ∀ other, Live { host with heap := host.heap.set client none } other ↔
          host.Live other ∧ other ≠ client := by
        intro other
        constructor
        · rintro ⟨object, h⟩
          obtain ⟨hne, hother⟩ := getElem?_set_none h
          exact ⟨⟨object, hother⟩, hne⟩
        · rintro ⟨⟨object, h⟩, hne⟩
          exact ⟨object, (List.getElem?_set_ne hne.symm).trans h⟩
      obtain ⟨after, hrun, hafter, hsame, hlength⟩ :=
        @ih { host with heap := host.heap.set client none } hrest (fun other hother =>
          (hlive' other).mpr ⟨hlive other (List.mem_cons_of_mem client hother),
            fun h => hnot (h ▸ hother)⟩)
      refine ⟨after, ?_, ?_, hsame, hlength.trans List.length_set⟩
      · rw [List.foldlM_cons, hdelete]
        exact hrun
      · intro other
        rw [hafter, hlive', List.mem_cons, not_or, and_assoc]

/-- Of the events that were not handled only the connections are deleted. -/
theorem destroy_all (events : List ServerEvent) (host : EnetServer) :
    events.foldlM destroyUnhandledEventData host = (Roll.arrivals events).foldlM delete host := by
  induction events generalizing host with
  | nil => rfl
  | cons event events ih =>
      rw [List.foldlM_cons]
      cases event with
      | connect client =>
          simp only [Roll.arrivals, List.filterMap_cons, List.foldlM_cons,
            destroyUnhandledEventData] at ih ⊢
          congr 1
          funext host
          exact ih host
      | receive client data => exact ih host
      | disconnect client => exact ih host

/-- Between two calls of `consume_events`, stopping deletes every client that
is left, and each of them once. -/
theorem Owned.stopListening (h : Owned host behind ahead) (hcopy : host.events.copy = []) :
    ∃ after, host.stopListening = .ok after ∧ after.heap.length = host.heap.length ∧
      ∀ client, ¬ after.Live client := by
  have hpending : host.events.pending = host.events.queue := by
    rw [Mailbox.pending, hcopy]
    rfl
  obtain ⟨hle, harrivals⟩ := Roll.arrivals_eq h.lags
  rw [hpending] at harrivals
  have hnodup : (Roll.arrivals host.events.queue).Nodup := by
    rw [harrivals]
    exact List.nodup_range'
  have hmem (client : Nat) : client ∈ Roll.arrivals host.events.queue ↔
      behind.next ≤ client ∧ client < ahead.next := by
    rw [harrivals, List.mem_range'_1]
    omega
  let stopped : EnetServer :=
    { host with peers := [], threadPeerMap := fun _ => none, packetQueue := [] }
  obtain ⟨first, hfirst, hlive, hsame, hlength⟩ :=
    @delete_all stopped _ hnodup fun client hclient =>
      (h.live client).mpr (Or.inr ((hmem client).mp hclient))
  let cleared : EnetServer := { first with events := { first.events with queue := [] } }
  have hclients : cleared.connectedClients = behind.clients := by
    have hfield := congrArg EnetServer.connectedClients hsame
    exact hfield.trans h.clients.symm
  have hnodup' : cleared.connectedClients.Nodup := hclients ▸ behind.nodup
  obtain ⟨last, hlast, hnone, -, hlength'⟩ := @delete_all cleared _ hnodup' fun client hclient => by
    rw [hclients] at hclient
    refine (hlive client).mpr ⟨(h.live client).mpr (Or.inl hclient), ?_⟩
    rw [hmem]
    exact fun hrange => absurd (behind.issued client hclient) (Nat.not_lt.mpr hrange.1)
  refine ⟨{ last with connectedClients := [] }, ?_, hlength'.trans hlength, ?_⟩
  · rw [EnetServer.stopListening, destroy_all]
    change (do
      let host ← (Roll.arrivals host.events.queue).foldlM delete stopped
      let host := { host with events := { host.events with queue := [] } }
      let host ← host.connectedClients.foldlM delete host
      return { host with connectedClients := [] }) = _
    rw [hfirst]
    change (do
      let host ← cleared.connectedClients.foldlM delete cleared
      return { host with connectedClients := [] }) = _
    rw [hlast]
    rfl
  · intro client hclient
    obtain ⟨hfirstLive, hnot⟩ := (hnone client).mp hclient
    obtain ⟨hold, harrived⟩ := (hlive client).mp hfirstLive
    rw [hclients] at hnot
    rw [hmem] at harrived
    exact ((h.live client).mp hold).elim hnot harrived

end Stopping

end EnetServer

end NetworkingGame
