import NetworkingGame.EnetOwnership
import NetworkingGame.SessionSafety

/-!
The server program over the network library, from the first connection on.
Uids are handed out in the order of the allocations, so that for 2^32
connections none of them is given out twice; what can go wrong then is the
handling of data alone, never the use of a client.
-/

namespace NetworkingGame

open Library Library.Transition

/-- What an action puts into the queue of the library. -/
def Action.queued : Action → Option QueuedPacket
  | .sendTo uid packet => some ⟨uid, packet.data⟩
  | .missingClient _ => none

namespace Server

section Encoding

variable {actions : List Action}

theorem encode_eq (h : ∀ index, .missingClient index ∉ actions) :
    encode actions = .ok (actions.filterMap Action.queued) := by
  induction actions with
  | nil => rfl
  | cons action actions ih =>
      have hrest := ih fun index hmem => h index (List.mem_cons_of_mem action hmem)
      rw [encode] at hrest ⊢
      cases action with
      | sendTo uid packet =>
          rw [List.mapM_cons, hrest]
          rfl
      | missingClient index => exact absurd List.mem_cons_self (h index)

theorem encode_missing {index : Nat} (h : .missingClient index ∈ actions) :
    encode actions = .error .callback := by
  induction actions with
  | nil => cases h
  | cons action actions ih =>
      rw [encode, List.mapM_cons]
      cases action with
      | sendTo uid packet =>
          have hrest := ih (List.mem_of_ne_of_mem (by simp) h)
          rw [encode] at hrest
          rw [hrest]
          rfl
      | missingClient index => rfl

end Encoding

/-- Data that `onClientData` is not defined on: it does not end as a packet
does, or is a `resume` while `clients[1]` is missing. -/
def refuses (clients : List Nat) (data : List Char) : Bool :=
  match CustomPacket.ofData data with
  | none => true
  | some msg => msg.type = "resume" && clients.length < 2

/-- The server after an event, and what the callback has sent. -/
def respond (server : Server) (clients : List Nat) (client : Nat) :
    ServerEvent → Server × List QueuedPacket
  | .connect _ =>
      let result := server.onClientConnect clients client
      (result.1, result.2.filterMap Action.queued)
  | .receive _ data =>
      match CustomPacket.ofData data with
      | none => (server, [])
      | some msg =>
          if isForwarded msg.type then
            (server, (clients.filter (· ≠ client)).map fun uid => ⟨uid, data⟩)
          else (server, (onClientData clients client msg).filterMap Action.queued)
  | .disconnect _ =>
      let result := server.onClientDisconnect clients
      (result.1, result.2.filterMap Action.queued)

section Callbacks

variable {server : Server} {clients : List Nat} {client : Nat} {event : ServerEvent}

theorem refuses_eq_false {data : List Char} (h : refuses clients data = false) :
    ∃ msg, CustomPacket.ofData data = some msg ∧ (msg.type = "resume" → 2 ≤ clients.length) := by
  unfold refuses at h
  split at h
  · cases h
  · rename_i msg hread
    refine ⟨msg, hread, fun hresume => ?_⟩
    simp only [hresume, decide_true, Bool.true_and, decide_eq_false_iff_not] at h
    exact not_lt.mp h

theorem call_eq (h : ∀ other data, event = .receive other data → refuses clients data = false) :
    callbacks.call server clients client event = .ok (server.respond clients client event) := by
  cases event with
  | connect other =>
      have hencode := encode_eq fun index =>
        Session.onClientConnect_inBounds server clients client index
      simp only [Callbacks.call, callbacks, hencode, respond]
      rfl
  | receive other data =>
      obtain ⟨msg, hread, hresume⟩ := refuses_eq_false (h other data rfl)
      have hencode := encode_eq ((Session.onClientData_inBounds_iff clients client msg).mpr hresume)
      simp only [Callbacks.call, callbacks, hread, hencode, respond]
      split <;> rfl
  | disconnect other =>
      have hencode := encode_eq fun index =>
        Session.onClientDisconnect_inBounds server clients index
      simp only [Callbacks.call, callbacks, hencode, respond]
      rfl

theorem call_refused {other : Nat} {data : List Char} (h : refuses clients data = true) :
    callbacks.call server clients client (.receive other data) = .error .callback := by
  unfold refuses at h
  split at h
  · rename_i hread
    simp only [Callbacks.call, callbacks, hread]
  · rename_i msg hread
    simp only [Bool.and_eq_true, decide_eq_true_eq] at h
    have hnot : isForwarded msg.type = false := by
      rw [h.1]
      decide
    obtain ⟨index, hmissing⟩ : ∃ index, .missingClient index ∈ onClientData clients client msg := by
      by_contra hnone
      rw [not_exists] at hnone
      have := (Session.onClientData_inBounds_iff clients client msg).mp hnone h.1
      omega
    simp only [Callbacks.call, callbacks, hread, hnot, encode_missing hmissing]
    rfl

theorem respond_next : (server.respond clients client event).1.componentNextUid =
    server.componentNextUid := by
  cases event with
  | connect other =>
      simp only [respond, onClientConnect]
      split
      · rfl
      · split <;> rfl
  | receive other data =>
      simp only [respond]
      split
      · rfl
      · split <;> rfl
  | disconnect other =>
      simp only [respond, onClientDisconnect]
      split
      · split <;> rfl
      · rfl

end Callbacks

end Server

namespace Hosting

/-- The uids follow the allocations. -/
structure Counted (server : Server) (host : EnetServer) : Prop where
  next : server.componentNextUid = host.heap.length % 2 ^ 32
  uids : ∀ (client : Nat) (object : ServerClient), host.heap[client]? = some (some object) →
    object.uid = client % 2 ^ 32

structure Sound (hosting : Hosting Server) (behind ahead : Roll) : Prop where
  owned : EnetServer.Owned hosting.host behind ahead
  counted : Counted hosting.app hosting.host

/-- The program after `listen`, before anyone has connected. -/
def start : Hosting Server := ⟨.initial, .listening⟩

/-- The data that is handled next is refused. -/
def Refuses (hosting : Hosting Server) : Prop :=
  ∃ client data rest, hosting.host.events.take = some (.receive client data, rest) ∧
    ∃ clients, hosting.host.uids = .ok clients ∧ Server.refuses clients data = true

theorem Counted.congr {server : Server} {host after : EnetServer} (h : Counted server host)
    (hheap : after.heap = host.heap) : Counted server after := by
  refine ⟨?_, ?_⟩
  · rw [hheap]
    exact h.next
  · rw [hheap]
    exact h.uids

section Safety

variable {hosting after : Hosting Server} {behind ahead : Roll}

theorem sound_start : Sound start .empty .empty := by
  refine ⟨EnetServer.owned_listening, rfl, ?_⟩
  intro client object h
  cases h

theorem Counted.fresh (h : Counted hosting.app hosting.host)
    (hroom : hosting.host.heap.length < 2 ^ 32) :
    hosting.host.Fresh hosting.app.componentNextUid := by
  intro hmem
  obtain ⟨client, hclient, hobject⟩ := List.mem_iff_getElem.mp hmem
  have huid := h.uids client _ (List.getElem?_eq_some_iff.mpr ⟨hclient, hobject⟩)
  rw [h.next] at huid
  simp only at huid
  omega

/-- No two connections share a uid while there are at most 2^32 of them. -/
theorem Sound.uidOf_eq (h : Sound hosting behind ahead) {client : Nat}
    (hroom : hosting.host.heap.length ≤ 2 ^ 32) (hlive : hosting.host.Live client) :
    hosting.host.uidOf client = client := by
  have hlt := h.owned.lt_of_heap hlive.heap
  rw [h.owned.allocated] at hlt
  exact (h.counted.uids client _ hlive.heap).trans (Nat.mod_eq_of_lt (by omega))

theorem Sound.accept (h : Sound hosting behind ahead)
    (hroom : hosting.host.heap.length < 2 ^ 32)
    (hpeers : hosting.host.peers.length < Server.maxClientCount) :
    ∃ reached, Sound ⟨hosting.app.takeUid,
      hosting.host.handleConnectEvent hosting.app.componentNextUid⟩ behind reached := by
  obtain ⟨reached, howned⟩ := h.owned.handleConnectEvent (h.counted.fresh hroom) hpeers
  refine ⟨reached, howned, ?_, ?_⟩
  · simp only [Server.takeUid, EnetServer.handleConnectEvent, List.length_append,
      List.length_singleton, h.counted.next]
    omega
  · intro client object hobject
    simp only [EnetServer.handleConnectEvent] at hobject
    rcases Nat.lt_or_ge client hosting.host.heap.length with hlt | hge
    · rw [List.getElem?_append_left hlt] at hobject
      exact h.counted.uids client object hobject
    · rw [List.getElem?_append_right hge, List.getElem?_singleton] at hobject
      split at hobject
      · rename_i hzero
        rw [← Option.some.inj (Option.some.inj hobject)]
        have heq : client = hosting.host.heap.length := by omega
        rw [heq]
        exact h.counted.next
      · cases hobject

theorem Counted.handled {server : Server} {host : EnetServer} {clients : List Nat}
    (h : Counted server host) (rest : Mailbox ServerEvent) (event : ServerEvent)
    {server' : Server} (hnext : server'.componentNextUid = server.componentNextUid)
    (packets : List QueuedPacket) :
    Counted server' ((host.handled rest clients event).send packets) := by
  cases event with
  | connect client => exact ⟨hnext.trans h.next, h.uids⟩
  | receive client data => exact ⟨hnext.trans h.next, h.uids⟩
  | disconnect client =>
      refine ⟨?_, fun other object hobject =>
        h.uids other object (EnetServer.getElem?_set_none hobject).2⟩
      rw [hnext, h.next]
      simp only [EnetServer.send, EnetServer.handled, List.length_set]

/-- An event that the server does not refuse is handled by its response. -/
theorem Sound.handle (h : Sound hosting behind ahead) {event : ServerEvent}
    {rest : Mailbox ServerEvent} (htake : hosting.host.events.take = some (event, rest)) :
    ∃ reached, behind.replay event = some reached ∧ hosting.host.Live event.client ∧
      (∀ client ∈ reached.clients, hosting.host.Live client) ∧
      let clients := reached.clients.map hosting.host.uidOf
      let uid := hosting.host.uidOf event.client
      let result := hosting.app.respond clients uid event
      let host := (hosting.host.handled rest reached.clients event).send result.2
      ((∀ client data, event = .receive client data → Server.refuses clients data = false) →
        hosting.attempt Server.callbacks .handle = some (.ok ⟨result.1, host⟩) ∧
          Sound ⟨result.1, host⟩ reached ahead) ∧
      ((∃ client data, event = .receive client data ∧ Server.refuses clients data = true) →
        hosting.attempt Server.callbacks .handle = some (.error .callback)) := by
  obtain ⟨reached, hreplay, hlags⟩ := h.owned.lags.take htake
  obtain ⟨howned, hlive⟩ := h.owned.handled hreplay hlags
  have hhandle := h.owned.handleEvent_eq Server.callbacks hosting.app hreplay hlags
  refine ⟨reached, hreplay, hlive, fun client hmem => h.owned.reached_live hreplay hlags hmem, ?_,
    ?_⟩
  · intro haccepted
    have hattempt := hhandle
    rw [Server.call_eq haccepted] at hattempt
    refine ⟨?_, howned.send _, h.counted.handled rest event Server.respond_next _⟩
    simp only [attempt, htake, Option.map_some]
    rw [hattempt]
    rfl
  · rintro ⟨client, data, rfl, hrefused⟩
    have hattempt := hhandle
    rw [Server.call_refused hrefused] at hattempt
    simp only [attempt, htake, Option.map_some]
    rw [hattempt]
    rfl

theorem Sound.uids_eq (h : Sound hosting behind ahead) :
    hosting.host.uids = .ok (behind.clients.map hosting.host.uidOf) := by
  rw [h.owned.clients]
  exact EnetServer.uids_eq fun client hmem => h.owned.connected_live hmem

/-- A step keeps a sound program sound, or is the handling of refused data. -/
theorem Sound.attempt (h : Sound hosting behind ahead) {event : HostEvent}
    (hroom : event = .accept → hosting.host.heap.length < 2 ^ 32)
    {result : Except LibraryFault (Hosting Server)}
    (hattempt : hosting.attempt Server.callbacks event = some result) :
    (∃ after behind ahead, result = .ok after ∧ Sound after behind ahead ∧
      after.host.heap.length = hosting.host.heap.length + [event].count .accept) ∨
    (result = .error .callback ∧ event = .handle ∧ hosting.Refuses) := by
  cases event with
  | accept =>
      simp only [Hosting.attempt] at hattempt
      split at hattempt
      · rename_i hpeers
        obtain ⟨reached, hsound⟩ := h.accept (hroom rfl) hpeers
        refine Or.inl ⟨_, behind, reached, (Option.some.inj hattempt).symm, hsound, ?_⟩
        simp [EnetServer.handleConnectEvent]
      · cases hattempt
  | capture client data =>
      simp only [Hosting.attempt] at hattempt
      split at hattempt
      · rename_i hpeer
        exact Or.inl ⟨_, behind, ahead, (Option.some.inj hattempt).symm,
          ⟨h.owned.handleReceiveEvent hpeer data, h.counted.congr rfl⟩, rfl⟩
      · cases hattempt
  | lose client =>
      simp only [Hosting.attempt] at hattempt
      split at hattempt
      · rename_i hpeer
        obtain ⟨after, reached, hlost, howned, rfl⟩ := h.owned.handleDisconnectEvent hpeer
        rw [hlost] at hattempt
        exact Or.inl ⟨_, behind, reached, (Option.some.inj hattempt).symm,
          ⟨howned, h.counted.congr rfl⟩, rfl⟩
      · cases hattempt
  | sendQueued =>
      obtain ⟨sent, hsent, rfl⟩ := Option.map_eq_some_iff.mp hattempt
      have howned := h.owned.sendQueuedPacket hsent
      have hheap : sent.1.heap = hosting.host.heap := by
        unfold EnetServer.sendQueuedPacket at hsent
        split at hsent
        · cases hsent
        · rw [← Option.some.inj hsent]
      exact Or.inl ⟨_, behind, ahead, rfl, ⟨howned, h.counted.congr hheap⟩,
        congrArg List.length hheap⟩
  | fetch =>
      obtain ⟨events, hfetch, rfl⟩ := Option.map_eq_some_iff.mp hattempt
      exact Or.inl ⟨_, behind, ahead, rfl,
        ⟨{ h.owned with lags := h.owned.lags.fetch hfetch }, h.counted.congr rfl⟩, rfl⟩
  | handle =>
      have htaken := hattempt
      obtain ⟨taken, htake, -⟩ := Option.map_eq_some_iff.mp htaken
      obtain ⟨reached, hreplay, -, -, haccepted, hrefused⟩ := h.handle htake
      by_cases hrefuses : ∃ client data, taken.1 = .receive client data ∧
          Server.refuses (reached.clients.map hosting.host.uidOf) data = true
      · right
        rw [hrefused hrefuses] at hattempt
        obtain ⟨client, data, hevent, hdata⟩ := hrefuses
        refine ⟨(Option.some.inj hattempt).symm, rfl, client, data, taken.2, ?_, _, h.uids_eq, ?_⟩
        · rw [htake, ← hevent]
        · rw [hevent] at hreplay
          rwa [(Roll.replay_receive hreplay).2] at hdata
      · left
        obtain ⟨hok, hsound⟩ := haccepted fun client data hevent => by
          by_contra hdata
          exact hrefuses ⟨client, data, hevent, by simpa using hdata⟩
        rw [hok] at hattempt
        refine ⟨_, reached, ahead, (Option.some.inj hattempt).symm, hsound, ?_⟩
        rcases taken with ⟨event, rest⟩
        cases event with
        | connect client => rfl
        | receive client data => rfl
        | disconnect client => exact List.length_set

theorem Sound.refused (h : Sound hosting behind ahead) (hrefuses : hosting.Refuses) :
    hosting.attempt Server.callbacks .handle = some (.error .callback) := by
  obtain ⟨client, data, rest, htake, clients, huids, hdata⟩ := hrefuses
  obtain ⟨reached, hreplay, -, -, -, hrefused⟩ := h.handle htake
  refine hrefused ⟨client, data, rfl, ?_⟩
  rw [h.uids_eq] at huids
  rw [(Roll.replay_receive hreplay).2]
  exact Except.ok.inj huids ▸ hdata

theorem attempt_of_step {event : HostEvent} (h : hosting.step Server.callbacks event = some after) :
    hosting.attempt Server.callbacks event = some (.ok after) := by
  obtain ⟨result, hattempt, hok⟩ := Option.bind_eq_some_iff.mp h
  cases result with
  | error fault => cases hok
  | ok reached => rw [hattempt, Option.some.inj hok]

theorem Sound.exec {events : List HostEvent} (h : Sound hosting behind ahead)
    (hroom : hosting.host.heap.length + events.count .accept ≤ 2 ^ 32)
    (hrun : exec (step Server.callbacks) hosting events = some after) :
    ∃ behind ahead, Sound after behind ahead ∧
      after.host.heap.length = hosting.host.heap.length + events.count .accept := by
  induction events generalizing hosting behind ahead with
  | nil =>
      obtain rfl : hosting = after := Option.some.inj hrun
      exact ⟨behind, ahead, h, rfl⟩
  | cons event events ih =>
      obtain ⟨reached, hstep, hrest⟩ := (exec_cons _ _ _ _).mp hrun
      have hcount : (event :: events).count .accept =
          [event].count .accept + events.count .accept :=
        @List.count_append _ _ _ [event] events
      rw [hcount] at hroom ⊢
      have hnext : event = .accept → hosting.host.heap.length < 2 ^ 32 := by
        rintro rfl
        rw [List.count_singleton_self] at hroom
        omega
      rcases h.attempt hnext (attempt_of_step hstep) with
        ⟨next, behind', ahead', hok, hsound, hlength⟩ | ⟨herror, -, -⟩
      · obtain rfl := Except.ok.inj hok
        obtain ⟨behind'', ahead'', hlast, htotal⟩ := ih hsound (by omega) hrest
        exact ⟨behind'', ahead'', hlast, by omega⟩
      · cases herror

end Safety

/-- Whatever connects, sends and leaves, in whatever order the two threads
run: no deleted client is used, none is deleted twice, the map of the peers
has the entry of every client that is lost, and a client whose disconnect is
handled is among the connected ones. -/
theorem memory_safe {events : List HostEvent} {hosting : Hosting Server} {event : HostEvent}
    (hrun : exec (step Server.callbacks) start events = some hosting)
    (hcount : (events ++ [event]).count .accept ≤ 2 ^ 32) (fault : LibraryFault) :
    hosting.attempt Server.callbacks event = some (.error fault) ↔
      event = .handle ∧ fault = .callback ∧ hosting.Refuses := by
  have hstart : start.host.heap.length = 0 := rfl
  rw [List.count_append] at hcount
  obtain ⟨behind, ahead, hsound, hlength⟩ := sound_start.exec (by omega) hrun
  have hroom : event = .accept → hosting.host.heap.length < 2 ^ 32 := by
    rintro rfl
    rw [List.count_singleton_self] at hcount
    omega
  constructor
  · intro hattempt
    rcases hsound.attempt hroom hattempt with ⟨after, _, _, hok, -, -⟩ | ⟨herror, hevent, hrefuses⟩
    · cases hok
    · exact ⟨hevent, Except.error.inj herror, hrefuses⟩
  · rintro ⟨rfl, rfl, hrefuses⟩
    exact hsound.refused hrefuses

/-- The first client leaves before the `resume` of the second one is handled. -/
def stranded : List HostEvent :=
  [.accept, .fetch, .handle, .accept, .lose 0, .capture 1 GameScene.resumePacket.data, .fetch,
    .handle, .handle]

theorem memory_safe_stranded : ∃ hosting,
    exec (step Server.callbacks) start stranded = some hosting ∧ hosting.Refuses ∧
      hosting.attempt Server.callbacks .handle = some (.error .callback) := by
  have hrun : (exec (step Server.callbacks) start stranded).any (fun hosting =>
      hosting.host.events = ⟨[], [.receive 1 GameScene.resumePacket.data]⟩ ∧
        hosting.host.uids = .ok [1]) = true := by decide +kernel
  obtain ⟨hosting, hhosting, htold⟩ := (Option.any_eq_true _ _).mp hrun
  obtain ⟨hevents, huids⟩ := of_decide_eq_true htold
  have hrefuses : hosting.Refuses := by
    refine ⟨1, GameScene.resumePacket.data, .empty, ?_, [1], huids, ?_⟩
    · rw [hevents]
      rfl
    · decide +kernel
  exact ⟨hosting, hhosting, hrefuses,
    (memory_safe hhosting (by decide) .callback).mpr ⟨rfl, rfl, hrefuses⟩⟩

/-- The first client leaves while the second one is not announced yet, and
what the first one said is still in the queue. -/
def overtaken : List HostEvent :=
  [.accept, .fetch, .handle, .accept, .capture 0 GameScene.resumePacket.data, .lose 0, .sendQueued,
    .fetch, .handle]

/-- Between two calls of `consume_events` the server can be stopped, and then
all that was ever allocated has been deleted. -/
theorem stop_deletes_all {events : List HostEvent} {hosting : Hosting Server}
    (hrun : exec (step Server.callbacks) start events = some hosting)
    (hcount : events.count .accept ≤ 2 ^ 32) (hcopy : hosting.host.events.copy = []) :
    ∃ host, hosting.host.stopListening = .ok host ∧ host.heap.length = events.count .accept ∧
      ∀ object ∈ host.heap, object = none := by
  have hstart : start.host.heap.length = 0 := rfl
  obtain ⟨behind, ahead, hsound, hlength⟩ := sound_start.exec (by omega) hrun
  obtain ⟨host, hstop, hsame, hnone⟩ := hsound.owned.stopListening hcopy
  refine ⟨host, hstop, by omega, ?_⟩
  intro object hobject
  obtain ⟨client, hclient, hget⟩ := List.mem_iff_getElem.mp hobject
  cases object with
  | none => rfl
  | some object =>
      exact absurd ⟨object, List.getElem?_eq_some_iff.mpr ⟨hclient, hget⟩⟩ (hnone client)

theorem stop_deletes_all_overtaken : ∃ hosting host,
    exec (step Server.callbacks) start (overtaken.take 7) = some hosting ∧
      hosting.host.stopListening = .ok host ∧ host.heap = [none, none] := by
  have hrun : (exec (step Server.callbacks) start (overtaken.take 7)).any
      (fun hosting => hosting.host.events.copy = []) = true := by decide +kernel
  obtain ⟨hosting, hhosting, hcopy⟩ := (Option.any_eq_true _ _).mp hrun
  obtain ⟨host, hstop, hlength, hnone⟩ :=
    stop_deletes_all hhosting (by decide) (of_decide_eq_true hcopy)
  refine ⟨hosting, host, hhosting, hstop, ?_⟩
  exact List.eq_replicate_of_mem hnone ▸ hlength ▸ rfl

end Hosting

end NetworkingGame
