import NetworkingGame.GameScene
import NetworkingGame.SceneManager

/-!
Typed text: the line of chat in the game and the address in the scene that
asks for it. Both key handlers do the same to their string but for two things:
the chat breaks its lines, and only the other scene keeps Escape out of it.
-/

namespace NetworkingGame

open Library.Transition

/-- `scancode` and `mods` are never read. -/
structure KeyEvent where
  key : Int
  action : Int
deriving DecidableEq

namespace Keys

def pressed : Int := 1
def escape : Int := 256
def enter : Int := 257
def backspace : Int := 259
def delete : Int := 261

/-- The code of the key is an ASCII character that can be seen, or a space. -/
def Printable (key : Int) : Prop := 32 ≤ key ∧ key ≤ 126

instance (key : Int) : Decidable (Printable key) := inferInstanceAs (Decidable (_ ∧ _))

def Erases (key : Int) : Prop := key = delete ∨ key = backspace

instance (key : Int) : Decidable (Erases key) := inferInstanceAs (Decidable (_ ∨ _))

end Keys

/-- An `int` added to a string is narrowed to a `char`. -/
def keyChar (key : Int) : Char := Char.ofNat (key % 256).toNat

/-- `pop_back`, which is not defined on an empty string. -/
def popBack (text : List Char) : Option (List Char) :=
  if text = [] then none else some text.dropLast

/-- What is put back in place of the string is read off again. -/
theorem map_popBack {σ : Type} {text : List Char} {put : List Char → σ} {get : σ → List Char}
    (h : ∀ text, get (put text) = text) : ((popBack text).map put).map get = popBack text := by
  cases popBack text with
  | none => rfl
  | some rest => exact congrArg some (h rest)

/-- What `GameScene::keyHandler` works on. -/
structure ChatInput where
  scene : GameScene
  chatStr : List Char
  nextScene : GameScene.SceneTransitions
deriving DecidableEq

/-- The game takes keys for the chat. -/
def GameScene.inPlay (scene : GameScene) : Bool :=
  scene.lastScene && !scene.client.isLobby && !scene.client.isReconnecting && scene.sceneFullInit

/-- Escape asks to leave the game, whatever the handler does with it next. -/
def ChatInput.escaped (input : ChatInput) (event : KeyEvent) : ChatInput :=
  if event.key = Keys.escape then { input with nextScene := .toMenu } else input

@[simp] theorem ChatInput.escaped_scene (input : ChatInput) (event : KeyEvent) :
    (input.escaped event).scene = input.scene := by
  unfold escaped
  split <;> rfl

@[simp] theorem ChatInput.escaped_chatStr (input : ChatInput) (event : KeyEvent) :
    (input.escaped event).chatStr = input.chatStr := by
  unfold escaped
  split <;> rfl

/-- `GameScene::keyHandler`; `&&` binds tighter than `||` in its second test. -/
def ChatInput.keyHandler (input : ChatInput) (event : KeyEvent) : Option ChatInput :=
  let input := input.escaped event
  if input.scene.inPlay then
    if event.action = Keys.pressed then
      if event.key = Keys.delete ∨ event.key = Keys.backspace ∧ input.chatStr.length ≠ 0 then
        (popBack input.chatStr).map fun chatStr => { input with chatStr := chatStr }
      else if event.key = Keys.enter then
        some { input with
          scene := input.scene.processString (.ofList input.chatStr)
          chatStr := [] }
      else
        let chatStr := input.chatStr ++ [keyChar event.key]
        some { input with
          chatStr := if chatStr.length % 13 = 0 then chatStr ++ ['\n'] else chatStr }
    else some input
  else some input

/-- The scene that asks for the server, with the text typed there and the
address to connect to. -/
structure AddressInput where
  scene : ServerConnectScene
  typeStr : List Char
  connectIp : List Char
deriving DecidableEq

/-- `ServerConnectScene::keyHandler`. -/
def AddressInput.keyHandler (input : AddressInput) (event : KeyEvent) : Option AddressInput :=
  if input.scene.lastScene then
    if event.action = Keys.pressed then
      if event.key = Keys.delete ∨ event.key = Keys.backspace ∧ input.typeStr.length ≠ 0 then
        (popBack input.typeStr).map fun typeStr => { input with typeStr := typeStr }
      else if event.key = Keys.enter then
        some { input with
          scene := { input.scene with nextScene := .toGame }
          typeStr := []
          connectIp := input.typeStr }
      else if event.key = Keys.escape then
        some { input with scene := { input.scene with nextScene := .toMenu } }
      else some { input with typeStr := input.typeStr ++ [keyChar event.key] }
    else some input
  else some input

/-- The two ways of a handler with its string: whether it breaks lines, and
whether Escape stays out of them. -/
structure LineStyle where
  wraps : Bool
  skipsEscape : Bool

namespace LineStyle

def chat : LineStyle := ⟨true, false⟩

def address : LineStyle := ⟨false, true⟩

/-- The branch for a key with no function of its own. -/
def append (style : LineStyle) (text : List Char) (key : Int) : List Char :=
  let text := text ++ [keyChar key]
  if style.wraps ∧ text.length % 13 = 0 then text ++ ['\n'] else text

/-- What a pressed key does to the string. -/
def press (style : LineStyle) (text : List Char) (key : Int) : Option (List Char) :=
  if key = Keys.delete ∨ key = Keys.backspace ∧ text.length ≠ 0 then popBack text
  else if key = Keys.enter then some []
  else if style.skipsEscape ∧ key = Keys.escape then some text
  else some (style.append text key)

/-- Every character can be seen, but for the line breaks of the handler. -/
def Clean (style : LineStyle) (text : List Char) : Prop :=
  ∀ c ∈ text, (32 ≤ c.toNat ∧ c.toNat ≤ 126) ∨ style.wraps = true ∧ c = '\n'

/-- The key does to the string what it says. -/
structure Safe (style : LineStyle) (text : List Char) (key : Int) (next : List Char) : Prop where
  erased : Keys.Erases key → next = text.dropLast
  inserted : ¬ Keys.Printable key → next.length ≤ text.length
  clean : style.Clean next

/-- The keys that both handlers are prepared for. -/
def Allowed (style : LineStyle) (text : List Char) (key : Int) : Prop :=
  if Keys.Erases key then text ≠ []
  else key = Keys.enter ∨ (style.skipsEscape = true ∧ key = Keys.escape) ∨ Keys.Printable key

instance (style : LineStyle) (text : List Char) (key : Int) :
    Decidable (style.Allowed text key) :=
  if h : Keys.Erases key then decidable_of_iff (text ≠ []) (by rw [Allowed, if_pos h])
  else decidable_of_iff
    (key = Keys.enter ∨ (style.skipsEscape = true ∧ key = Keys.escape) ∨ Keys.Printable key)
    (by rw [Allowed, if_neg h])

section Press

variable {style : LineStyle} {text : List Char} {key : Int}

theorem length_append_lt (style : LineStyle) (text : List Char) (key : Int) :
    text.length < (style.append text key).length := by
  unfold append
  dsimp only
  split <;> simp

theorem keyChar_toNat (h : Keys.Printable key) : (keyChar key).toNat = key.toNat := by
  obtain ⟨hlow, hhigh⟩ := h
  have hmod : key % 256 = key := Int.emod_eq_of_lt (by omega) (by omega)
  have hvalid : key.toNat.isValidChar := Or.inl (by omega)
  rw [keyChar, hmod, Char.ofNat, dif_pos hvalid]
  rfl

theorem Clean.append (hclean : style.Clean text) (h : Keys.Printable key) :
    style.Clean (style.append text key) := by
  obtain ⟨hlow, hhigh⟩ := h
  have hcode := keyChar_toNat ⟨hlow, hhigh⟩
  have hnext : style.Clean (text ++ [keyChar key]) := by
    intro c hc
    rcases List.mem_append.mp hc with hold | hnew
    · exact hclean c hold
    · rw [List.mem_singleton.mp hnew, hcode]
      exact .inl (by omega)
  unfold LineStyle.append
  dsimp only
  split
  · rename_i hbreak
    intro c hc
    rcases List.mem_append.mp hc with hold | hnew
    · exact hnext c hold
    · exact .inr ⟨hbreak.1, List.mem_singleton.mp hnew⟩
  · exact hnext

theorem Clean.dropLast (hclean : style.Clean text) : style.Clean text.dropLast :=
  fun c hc => hclean c (List.dropLast_subset text hc)

theorem Clean.nul_not_mem (hclean : style.Clean text) : '\x00' ∉ text := by
  intro hnul
  rcases hclean _ hnul with ⟨hlow, -⟩ | ⟨-, hbreak⟩
  · exact absurd hlow (by decide)
  · exact absurd hbreak (by decide)

theorem press_erases (h : Keys.Erases key) (hsome : text ≠ []) :
    style.press text key = some text.dropLast := by
  have hlength : text.length ≠ 0 := by simpa using hsome
  have hfirst : key = Keys.delete ∨ key = Keys.backspace ∧ text.length ≠ 0 :=
    h.imp_right fun hback => ⟨hback, hlength⟩
  rw [press, if_pos hfirst, popBack, if_neg hsome]

/-- Delete has no result here. -/
theorem press_delete_nil : style.press [] Keys.delete = none := by
  rw [press, if_pos (.inl rfl), popBack, if_pos rfl]

/-- Backspace falls through to the last branch. -/
theorem press_backspace_nil :
    style.press [] Keys.backspace = some (style.append [] Keys.backspace) := by
  have hescape : ¬ (style.skipsEscape = true ∧ Keys.backspace = Keys.escape) := by
    rintro ⟨-, h⟩
    exact absurd h (by decide)
  rw [press, if_neg (by decide), if_neg (by decide), if_neg hescape]

theorem press_enter : style.press text Keys.enter = some [] := by
  have hfirst : ¬ (Keys.enter = Keys.delete ∨ Keys.enter = Keys.backspace ∧ text.length ≠ 0) := by
    rintro (h | ⟨h, -⟩) <;> exact absurd h (by decide)
  rw [press, if_neg hfirst, if_pos rfl]

theorem press_escape (h : style.skipsEscape = true) :
    style.press text Keys.escape = some text := by
  have hfirst : ¬ (Keys.escape = Keys.delete ∨
      Keys.escape = Keys.backspace ∧ text.length ≠ 0) := by
    rintro (h | ⟨h, -⟩) <;> exact absurd h (by decide)
  rw [press, if_neg hfirst, if_neg (by decide), if_pos ⟨h, rfl⟩]

theorem press_other (text : List Char) (herases : ¬ Keys.Erases key) (henter : key ≠ Keys.enter)
    (hescape : ¬ (style.skipsEscape = true ∧ key = Keys.escape)) :
    style.press text key = some (style.append text key) := by
  have hfirst : ¬ (key = Keys.delete ∨ key = Keys.backspace ∧ text.length ≠ 0) :=
    fun h => herases (h.imp_right And.left)
  rw [press, if_neg hfirst, if_neg henter, if_neg hescape]

/-- The press has a result, and the result is what the key says. -/
def SafePress (style : LineStyle) (text : List Char) (key : Int) : Prop :=
  ∃ next, style.press text key = some next ∧ style.Safe text key next

theorem safePress_erases_iff (hclean : style.Clean text) (herases : Keys.Erases key) :
    style.SafePress text key ↔ text ≠ [] := by
  constructor
  · rintro ⟨next, hnext, hsafe⟩ rfl
    rcases herases with rfl | rfl
    · rw [press_delete_nil] at hnext
      cases hnext
    · -- a character is added where there is none to remove
      rw [press_backspace_nil] at hnext
      have hempty := hsafe.erased (.inr rfl)
      have hlength := length_append_lt style [] Keys.backspace
      rw [Option.some.inj hnext, hempty] at hlength
      cases hlength
  · intro hsome
    refine ⟨_, press_erases herases hsome, ?_⟩
    constructor
    · exact fun _ => rfl
    · intro _
      simp
    · exact hclean.dropLast

theorem safePress_enter : style.SafePress text Keys.enter := by
  refine ⟨[], press_enter, ?_⟩
  constructor
  · exact fun h => absurd h (by decide)
  · exact fun _ => Nat.zero_le _
  · simp [Clean]

theorem safePress_escape (hclean : style.Clean text) (hskips : style.skipsEscape = true) :
    style.SafePress text Keys.escape := by
  refine ⟨text, press_escape hskips, ?_⟩
  constructor
  · exact fun h => absurd h (by decide)
  · exact fun _ => le_rfl
  · exact hclean

theorem safePress_other_iff (hclean : style.Clean text) (herases : ¬ Keys.Erases key)
    (henter : key ≠ Keys.enter) (hescape : ¬ (style.skipsEscape = true ∧ key = Keys.escape)) :
    style.SafePress text key ↔ Keys.Printable key := by
  have hpress := press_other text herases henter hescape
  constructor
  · rintro ⟨next, hnext, hsafe⟩
    have hlength := length_append_lt style text key
    by_contra hprintable
    have hshort := hsafe.inserted hprintable
    rw [← Option.some.inj (hpress.symm.trans hnext)] at hshort
    omega
  · intro hprintable
    refine ⟨_, hpress, ?_⟩
    constructor
    · exact fun h => absurd h herases
    · exact fun h => absurd hprintable h
    · exact hclean.append hprintable

/-- A key does what it says exactly where the handlers are prepared for it. -/
theorem safePress_iff (hclean : style.Clean text) :
    style.SafePress text key ↔ style.Allowed text key := by
  by_cases herases : Keys.Erases key
  · rw [Allowed, if_pos herases]
    exact safePress_erases_iff hclean herases
  · rw [Allowed, if_neg herases]
    by_cases henter : key = Keys.enter
    · simp [henter, safePress_enter]
    · by_cases hescape : style.skipsEscape = true ∧ key = Keys.escape
      · obtain ⟨hskips, rfl⟩ := hescape
        simp [hskips, safePress_escape hclean hskips]
      · rw [safePress_other_iff hclean herases henter hescape]
        simp [henter, hescape]

end Press

end LineStyle

/-- A key handler that does to its string what its style says, for the events
that it listens to. -/
structure LineEditor (σ : Type) where
  style : LineStyle
  handler : σ → KeyEvent → Option σ
  text : σ → List Char
  listens : σ → KeyEvent → Bool
  text_handler : ∀ s event, (handler s event).map text =
    if listens s event then style.press (text s) event.key else some (text s)

namespace LineEditor

variable {σ : Type} {editor : LineEditor σ} {s t : σ} {event : KeyEvent}

/-- The handler gets through the event, and what it listens to does to the
string what the key says. -/
def SafeStep (editor : LineEditor σ) (s : σ) (event : KeyEvent) : Prop :=
  ∃ t, editor.handler s event = some t ∧
    if editor.listens s event then editor.style.Safe (editor.text s) event.key (editor.text t)
    else editor.text t = editor.text s

def AllowedStep (editor : LineEditor σ) (s : σ) (event : KeyEvent) : Prop :=
  editor.listens s event = true → editor.style.Allowed (editor.text s) event.key

instance (editor : LineEditor σ) (s : σ) (event : KeyEvent) :
    Decidable (editor.AllowedStep s event) := inferInstanceAs (Decidable (_ → _))

theorem safeStep_iff (hclean : editor.style.Clean (editor.text s)) :
    editor.SafeStep s event ↔ editor.AllowedStep s event := by
  have htext := editor.text_handler s event
  cases hlistens : editor.listens s event with
  | true =>
      rw [hlistens, if_pos rfl] at htext
      have hpress : editor.SafeStep s event ↔
          editor.style.SafePress (editor.text s) event.key := by
        simp only [SafeStep, LineStyle.SafePress, hlistens, if_true, ← htext,
          Option.map_eq_some_iff]
        constructor
        · rintro ⟨t, ht, hsafe⟩
          exact ⟨_, ⟨t, ht, rfl⟩, hsafe⟩
        · rintro ⟨next, ⟨t, ht, rfl⟩, hsafe⟩
          exact ⟨t, ht, hsafe⟩
      rw [hpress, LineStyle.safePress_iff hclean]
      simp [AllowedStep, hlistens]
  | false =>
      rw [hlistens, if_neg (by decide)] at htext
      obtain ⟨t, ht, hsame⟩ := Option.map_eq_some_iff.mp htext
      constructor
      · intro _ hlistens'
        rw [hlistens] at hlistens'
        cases hlistens'
      · intro _
        exact ⟨t, ht, by simpa [hlistens] using hsame⟩

/-- A step that is allowed leaves nothing but visible characters and the line
breaks of the handler. -/
theorem clean_step (hclean : editor.style.Clean (editor.text s))
    (hallowed : editor.AllowedStep s event) (hstep : editor.handler s event = some t) :
    editor.style.Clean (editor.text t) := by
  obtain ⟨t', ht', hsafe⟩ := (safeStep_iff hclean).mpr hallowed
  obtain rfl : t = t' := by
    rw [hstep] at ht'
    exact Option.some.inj ht'
  split at hsafe
  · exact hsafe.clean
  · rw [hsafe]
    exact hclean

/-- From the empty string, all steps of a run are safe exactly where all of
them are allowed. -/
theorem safe_run_iff (hempty : editor.text s = []) (events : List KeyEvent) :
    Along editor.handler editor.SafeStep s events ↔
      Along editor.handler editor.AllowedStep s events := by
  have hclean : editor.style.Clean (editor.text s) := by
    rw [hempty]
    simp [LineStyle.Clean]
  refine along_congr_of_guard (I := fun s => editor.style.Clean (editor.text s)) ?_ ?_ events hclean
  · intro s event t hs hallowed hstep
    exact clean_step hs hallowed hstep
  · intro s event hs
    exact safeStep_iff hs

end LineEditor

namespace ChatInput

theorem chatStr_keyHandler (input : ChatInput) (event : KeyEvent) :
    (input.keyHandler event).map chatStr =
      if input.scene.inPlay && event.action = Keys.pressed then
        LineStyle.chat.press input.chatStr event.key
      else some input.chatStr := by
  simp only [keyHandler, escaped_scene, escaped_chatStr, LineStyle.press, LineStyle.append,
    LineStyle.chat, Bool.and_eq_true, decide_eq_true_eq]
  by_cases hplay : input.scene.inPlay = true
  · by_cases haction : event.action = Keys.pressed
    · simp only [hplay, haction, if_true, and_self]
      split
      · exact map_popBack fun _ => rfl
      · split
        · rfl
        · simp only [Bool.false_eq_true, false_and, true_and, if_false]
          rfl
    · simp [hplay, haction]
  · simp [hplay]

def editor : LineEditor ChatInput where
  style := .chat
  handler := keyHandler
  text := chatStr
  listens input event := input.scene.inPlay && event.action = Keys.pressed
  text_handler := chatStr_keyHandler

/-- Enter hands the line over; no other key touches the scene. -/
theorem scene_keyHandler {input after : ChatInput} {event : KeyEvent}
    (h : input.keyHandler event = some after) :
    after.scene = input.scene ∨
      after.scene = input.scene.processString (.ofList input.chatStr) := by
  simp only [keyHandler, escaped_scene, escaped_chatStr] at h
  split at h
  · split at h
    · split at h
      · obtain ⟨rest, -, hafter⟩ := Option.map_eq_some_iff.mp h
        rw [← hafter]
        exact .inl rfl
      · split at h
        · rw [← Option.some.inj h]
          exact .inr rfl
        · rw [← Option.some.inj h]
          exact .inl rfl
    · rw [← Option.some.inj h]
      exact .inl (escaped_scene input event)
  · rw [← Option.some.inj h]
    exact .inl (escaped_scene input event)

/-- Nothing that is typed, or waits to be sent, contains a NUL. -/
structure Framed (input : ChatInput) : Prop where
  clean : LineStyle.chat.Clean input.chatStr
  username : '\x00' ∉ input.scene.client.username.toList
  queue : ∀ packet ∈ input.scene.client.sendingQueue, packet.NulFree

theorem Framed.processString {input : ChatInput} (h : input.Framed) :
    let client := (input.scene.processString (.ofList input.chatStr)).client
    '\x00' ∉ client.username.toList ∧ ∀ packet ∈ client.sendingQueue, packet.NulFree := by
  have hline : '\x00' ∉ (String.ofList input.chatStr).toList := by
    rw [String.toList_ofList]
    exact h.clean.nul_not_mem
  unfold GameScene.processString
  split
  · refine ⟨?_, h.queue⟩
    rw [String.toList_ofList]
    exact fun hnul => hline (List.mem_of_mem_take hnul)
  · refine ⟨h.username, ?_⟩
    intro packet hpacket
    rcases List.mem_append.mp hpacket with hold | hnew
    · exact h.queue packet hold
    · rw [List.mem_singleton.mp hnew]
      exact ⟨by simp, h.username, hline⟩

theorem Framed.step {input after : ChatInput} {event : KeyEvent} (h : input.Framed)
    (hallowed : editor.AllowedStep input event) (hstep : input.keyHandler event = some after) :
    after.Framed := by
  have hclean : LineStyle.chat.Clean after.chatStr :=
    LineEditor.clean_step h.clean hallowed hstep
  rcases scene_keyHandler hstep with hscene | hscene
  · refine ⟨hclean, ?_, ?_⟩
    · rw [hscene]
      exact h.username
    · rw [hscene]
      exact h.queue
  · obtain ⟨husername, hqueue⟩ := h.processString
    rw [← hscene] at husername hqueue
    exact ⟨hclean, husername, hqueue⟩

/-- What allowed keys put in the queue is received as it was sent. -/
theorem Framed.received {input after : ChatInput} {events : List KeyEvent} (h : input.Framed)
    (hallowed : Along keyHandler editor.AllowedStep input events)
    (hrun : exec keyHandler input events = some after) :
    ∀ packet ∈ after.scene.client.sendingQueue, CustomPacket.ofData packet.data = some packet := by
  have hframed : after.Framed :=
    invariant_exec (fun _ _ _ hs hstep ht => hs.step hstep ht) hrun hallowed h
  intro packet hpacket
  exact CustomPacket.ofData_data (hframed.queue packet hpacket)

end ChatInput

namespace AddressInput

theorem typeStr_keyHandler (input : AddressInput) (event : KeyEvent) :
    (input.keyHandler event).map typeStr =
      if input.scene.lastScene && event.action = Keys.pressed then
        LineStyle.address.press input.typeStr event.key
      else some input.typeStr := by
  simp only [keyHandler, LineStyle.press, LineStyle.append, LineStyle.address,
    Bool.and_eq_true, decide_eq_true_eq]
  by_cases hlast : input.scene.lastScene = true
  · by_cases haction : event.action = Keys.pressed
    · simp only [hlast, haction, if_true, and_self]
      split
      · exact map_popBack fun _ => rfl
      · split
        · rfl
        · split
          · rename_i hescape
            simp [hescape]
          · rename_i hescape
            simp [hescape]
    · simp [hlast, haction]
  · simp [hlast]

def editor : LineEditor AddressInput where
  style := .address
  handler := keyHandler
  text := typeStr
  listens input event := input.scene.lastScene && event.action = Keys.pressed
  text_handler := typeStr_keyHandler

end AddressInput

/-- Typing is safe in both handlers exactly as long as Delete and Backspace
find a character to erase and no other key but Enter, and Escape where it is
not appended, has a code that is no printable character. -/
theorem typing_safe_iff {input : ChatInput} {address : AddressInput} (hchat : input.chatStr = [])
    (haddress : address.typeStr = []) (events : List KeyEvent) :
    (Along ChatInput.keyHandler ChatInput.editor.SafeStep input events ↔
        Along ChatInput.keyHandler ChatInput.editor.AllowedStep input events) ∧
      (Along AddressInput.keyHandler AddressInput.editor.SafeStep address events ↔
        Along AddressInput.keyHandler AddressInput.editor.AllowedStep address events) :=
  ⟨ChatInput.editor.safe_run_iff hchat events, AddressInput.editor.safe_run_iff haddress events⟩

/-- A game that takes keys for the chat. -/
def chatting : ChatInput where
  scene := { GameScene.create ⟨.cast 0, .cast 0, .cast 0, .cast 0⟩ with
    lastScene := true
    sceneFullInit := true
    client := { ClientComponent.fresh with isLobby := false } }
  chatStr := []
  nextScene := .none

def askingAddress : AddressInput := ⟨⟨true, .none, true⟩, [], []⟩

/-- An `A` that is erased again, and a `B` sent off with Enter. -/
def typedLine : List KeyEvent :=
  [⟨65, Keys.pressed⟩, ⟨65, 0⟩, ⟨Keys.backspace, Keys.pressed⟩, ⟨66, Keys.pressed⟩,
    ⟨Keys.enter, Keys.pressed⟩]

theorem typing_safe_iff_typedLine :
    Along ChatInput.keyHandler ChatInput.editor.SafeStep chatting typedLine ∧
      Along AddressInput.keyHandler AddressInput.editor.SafeStep askingAddress typedLine := by
  have hempty : chatting.chatStr = [] := rfl
  have hempty' : askingAddress.typeStr = [] := rfl
  obtain ⟨hchat, haddress⟩ := typing_safe_iff hempty hempty' typedLine
  exact ⟨hchat.mpr (by decide +kernel), haddress.mpr (by decide +kernel)⟩

/-- On an empty line Delete calls `pop_back`, Backspace appends the byte 3 and,
in the game, Escape appends a NUL. -/
theorem typing_unsafe :
    chatting.keyHandler ⟨Keys.delete, Keys.pressed⟩ = none ∧
      askingAddress.keyHandler ⟨Keys.delete, Keys.pressed⟩ = none ∧
      (chatting.keyHandler ⟨Keys.backspace, Keys.pressed⟩).map ChatInput.chatStr =
        some ['\x03'] ∧
      (askingAddress.keyHandler ⟨Keys.backspace, Keys.pressed⟩).map AddressInput.typeStr =
        some ['\x03'] ∧
      (chatting.keyHandler ⟨Keys.escape, Keys.pressed⟩).map ChatInput.chatStr =
        some ['\x00'] := by
  refine ⟨?_, ?_, ?_, ?_, ?_⟩ <;> decide +kernel

end NetworkingGame
