import NetworkingGame.Library.Binary32
import NetworkingGame.Library.Text

/-!
The packet class shared by client and server: three strings, sent as three
NUL-terminated C strings, and the decoder of the text of a `unit` packet.
A `std::string` is a Lean string whose characters are the bytes.
-/

namespace NetworkingGame

open Library.Binary32 Library.Text

/-- How a call leaves the defined behaviour of the program: the front of an
empty queue, the two exceptions of `std::stoi`, a division by zero, and the
end of a function body that should have returned a value. -/
inductive Fault
  | emptyQueue
  | invalidArgument
  | outOfRange
  | divisionByZero
  | noReturn
deriving DecidableEq, Repr

theorem bind_eq_ok {α β : Type} {first : Except Fault α} {next : α → Except Fault β} {b : β}
    (h : (first >>= next) = .ok b) : ∃ a, first = .ok a ∧ next a = .ok b := by
  cases first with
  | error fault => cases h
  | ok a => exact ⟨a, rfl, h⟩

structure CustomPacket where
  type : String
  username : String
  msgText : String
deriving DecidableEq, Repr

namespace CustomPacket

def data (packet : CustomPacket) : List Char :=
  packet.type.toList ++ '\x00' :: (packet.username.toList ++
    '\x00' :: (packet.msgText.toList ++ ['\x00']))

/-- The constructor from a received buffer, which is not told the length of
the buffer; `none` is a read past its end. -/
def ofData (buffer : List Char) : Option CustomPacket := do
  let (type, rest) ← cString buffer
  let (username, rest) ← cString rest
  let (msgText, _) ← cString rest
  return ⟨.ofList type, .ofList username, .ofList msgText⟩

structure NulFree (packet : CustomPacket) : Prop where
  type : '\x00' ∉ packet.type.toList
  username : '\x00' ∉ packet.username.toList
  msgText : '\x00' ∉ packet.msgText.toList

theorem ofData_data {packet : CustomPacket} (h : packet.NulFree) :
    ofData packet.data = some packet := by
  simp [ofData, data, cString_append _ _ h.type, cString_append _ _ h.username,
    cString_append _ _ h.msgText]

/-- Whatever the other two strings hold, what the encoder wrote is decoded to
a packet of the same type. -/
theorem ofData_data_type {packet : CustomPacket} (h : '\x00' ∉ packet.type.toList) :
    ∃ received, ofData packet.data = some received ∧ received.type = packet.type := by
  have htype := cString_append packet.type.toList
    (packet.username.toList ++ '\x00' :: (packet.msgText.toList ++ ['\x00'])) h
  obtain ⟨username, rest, husername, -, hcount⟩ :=
    cString_isSome (packet.username.toList ++
      '\x00' :: (packet.msgText.toList ++ ['\x00'])) (by simp)
  have hmore : '\x00' ∈ rest := by
    apply List.count_pos_iff.mp
    simp only [List.count_append, List.count_cons_self] at hcount
    have hlast : List.count '\x00' ['\x00'] = 1 := rfl
    omega
  obtain ⟨msgText, after, hmsgText, -, -⟩ := cString_isSome rest hmore
  exact ⟨⟨packet.type, .ofList username, .ofList msgText⟩,
    by simp [ofData, data, htype, husername, hmsgText], rfl⟩

/-- Encoding and decoding may cut a chat line short, but nothing else. -/
theorem eq_or_chat {packet msg : CustomPacket} (h : packet.type ≠ "chat" → packet.NulFree)
    (hread : ofData packet.data = some msg) :
    msg = packet ∨ (packet.type = "chat" ∧ msg.type = "chat") := by
  rcases Decidable.em (packet.type = "chat") with hchat | hother
  · have htype : '\x00' ∉ packet.type.toList := by
      rw [hchat]
      decide
    obtain ⟨received, hreceived, hsame⟩ := ofData_data_type htype
    obtain rfl := Option.some.inj (hread.symm.trans hreceived)
    exact Or.inr ⟨hchat, hsame.trans hchat⟩
  · rw [ofData_data (h hother)] at hread
    exact Or.inl (Option.some.inj hread).symm

/-- What `unitDataDeciper` hands back through its reference parameters. -/
structure UnitData where
  unitName : String
  xPos : Int
  yPos : Int
  squadSize : Int
  unitHp : Int
deriving DecidableEq, Repr

/-- `results.front()` followed by `results.pop()`. -/
def nextField : List (List Char) → Except Fault (List Char × List (List Char))
  | [] => .error .emptyQueue
  | field :: rest => .ok (field, rest)

def toInt (field : List Char) : Except Fault Int :=
  match stoi field with
  | .ok value => .ok value
  | .error .invalidArgument => .error .invalidArgument
  | .error .outOfRange => .error .outOfRange

def unitDataDeciper (packet : CustomPacket) : Except Fault UnitData := do
  let results := terminatedFields '&' [] packet.msgText.toList
  let (unitName, results) ← nextField results
  let (field, results) ← nextField results
  let xPos ← toInt field
  let (field, results) ← nextField results
  let yPos ← toInt field
  let (field, results) ← nextField results
  let squadSize ← toInt field
  let (field, _) ← nextField results
  let unitHp ← toInt field
  return ⟨.ofList unitName, xPos, yPos, squadSize, unitHp⟩

/-- `std::to_string` of a `float` that holds an integer. -/
def floatText (x : IntFloat) : String := toString x.val ++ ".000000"

theorem toInt_toString (n : Int) :
    toInt (toString n).toList = if InInt32 n then .ok n else .error .outOfRange := by
  have h := stoi_toString n [] (by simp [DigitFree])
  rw [List.append_nil] at h
  rw [toInt, h]
  split <;> split <;> simp_all

theorem toInt_floatText (x : IntFloat) :
    toInt (floatText x).toList =
      if InInt32 x.val then .ok x.val else .error .outOfRange := by
  have h := stoi_toString x.val ".000000".toList (by simp [DigitFree])
  rw [toInt, floatText, String.toList_append, h]
  split <;> split <;> simp_all

theorem delimiter_not_mem_toString (n : Int) : '&' ∉ (toString n).toList :=
  not_mem_toString '&' n (by decide) (by decide)

theorem delimiter_not_mem_floatText (x : IntFloat) : '&' ∉ (floatText x).toList := by
  rw [floatText, String.toList_append, List.mem_append, not_or]
  exact ⟨delimiter_not_mem_toString x.val, by simp⟩

/-- Five delimited fields are decoded one by one. -/
theorem unitDataDeciper_of_fields {packet : CustomPacket} (name x y squad hp : List Char)
    (h : packet.msgText.toList = name ++ '&' :: (x ++ '&' :: (y ++ '&' ::
      (squad ++ '&' :: (hp ++ ['&'])))))
    (hname : '&' ∉ name) (hx : '&' ∉ x) (hy : '&' ∉ y) (hsquad : '&' ∉ squad)
    (hhp : '&' ∉ hp) :
    packet.unitDataDeciper = (do
      let xPos ← toInt x
      let yPos ← toInt y
      let squadSize ← toInt squad
      let unitHp ← toInt hp
      return ⟨.ofList name, xPos, yPos, squadSize, unitHp⟩) := by
  simp only [unitDataDeciper, h, terminatedFields_append _ _ _ hname,
    terminatedFields_append _ _ _ hx, terminatedFields_append _ _ _ hy,
    terminatedFields_append _ _ _ hsquad, terminatedFields_append _ _ _ hhp]
  rfl

/-- The text that `nextTurnPressed` and `updateReconnectee` write for a unit. -/
def unitText (refName : String) (x y : IntFloat) (squadSize health : Int) : String :=
  refName ++ "&" ++ floatText x ++ "&" ++ floatText y ++ "&" ++
    toString squadSize ++ "&" ++ toString health ++ "&"

/-- A unit's text is read back exactly, unless one of its numbers does not fit
an `int`. -/
theorem unitDataDeciper_unitText {refName : String} (x y : IntFloat) (squadSize health : Int)
    (hname : '&' ∉ refName.toList) {received : UnitData}
    (h : unitDataDeciper ⟨"unit", "", unitText refName x y squadSize health⟩ = .ok received) :
    received = ⟨refName, x.val, y.val, squadSize, health⟩ := by
  rw [unitDataDeciper_of_fields refName.toList (floatText x).toList (floatText y).toList
    (toString squadSize).toList (toString health).toList (by simp [unitText]) hname
    (delimiter_not_mem_floatText x) (delimiter_not_mem_floatText y)
    (delimiter_not_mem_toString squadSize) (delimiter_not_mem_toString health)] at h
  simp only [toInt_floatText, toInt_toString] at h
  split_ifs at h <;> simp_all [bind, Except.bind, pure, Except.pure]

theorem unitText_nulFree {refName : String} (x y : IntFloat) (squadSize health : Int)
    (hname : '\x00' ∉ refName.toList) :
    NulFree ⟨"unit", "", unitText refName x y squadSize health⟩ := by
  have hint (n : Int) : '\x00' ∉ n.repr.toList := by
    simpa using not_mem_toString '\x00' n (by decide) (by decide)
  refine ⟨by simp, by simp, ?_⟩
  simp only [unitText, floatText, String.toList_append, List.mem_append, not_or]
  simp [hname, hint]

end CustomPacket

end NetworkingGame
