import NetworkingGame.CustomPacket

/-!
The bytes on the wire. The decoding constructor looks for three NULs without
being told where the received buffer ends; it stays inside exactly the buffers
that hold three of them, as every encoded packet does. On those the encoder
and the decoder undo each other, and so do the text of a unit and its decoder.
-/

namespace NetworkingGame

open Library.Binary32 Library.Text

namespace CustomPacket

/-- What `data` stores in its out-parameter. -/
def dataSize (packet : CustomPacket) : Nat :=
  let typeLength := packet.type.length + 1
  let usernameLength := packet.username.length + 1
  let msgLength := packet.msgText.length + 1
  typeLength + usernameLength + msgLength

/-- The offsets that the constructor from a buffer reads: those of three C
strings, each of which begins behind the NUL of the one before. -/
inductive Reads (memory : Nat → Char) (offset : Nat) : Prop
  | type (h : Scans memory 0 offset)
  | username (typeLength : Nat) (htype : StringAt memory 0 typeLength)
      (h : Scans memory (typeLength + 1) offset)
  | msgText (typeLength usernameLength : Nat) (htype : StringAt memory 0 typeLength)
      (husername : StringAt memory (typeLength + 1) usernameLength)
      (h : Scans memory (typeLength + 1 + (usernameLength + 1)) offset)

section Framing

theorem length_data (packet : CustomPacket) : packet.data.length = packet.dataSize := by
  simp only [data, dataSize, List.length_append, List.length_cons, List.length_nil,
    String.length_toList]
  omega

/-- A decoded buffer is three NUL-free strings, each closed by a NUL, and
whatever follows them. -/
theorem ofData_eq_some {buffer : List Char} {packet : CustomPacket} :
    ofData buffer = some packet ↔
      packet.NulFree ∧ ∃ rest, buffer = packet.data ++ rest := by
  constructor
  · intro h
    simp only [ofData, Option.bind_eq_bind, Option.bind_eq_some_iff, Prod.exists,
      Option.pure_def, Option.some.injEq] at h
    obtain ⟨type, rest, htype, username, rest', husername, msgText, after, hmsgText, rfl⟩ := h
    obtain ⟨hfreeType, rfl⟩ := cString_eq_some.mp htype
    obtain ⟨hfreeUsername, rfl⟩ := cString_eq_some.mp husername
    obtain ⟨hfreeMsgText, rfl⟩ := cString_eq_some.mp hmsgText
    refine ⟨⟨?_, ?_, ?_⟩, after, ?_⟩
    · simpa using hfreeType
    · simpa using hfreeUsername
    · simpa using hfreeMsgText
    · simp [data]
  · rintro ⟨hfree, rest, rfl⟩
    simp [ofData, data, cString_append _ _ hfree.type, cString_append _ _ hfree.username,
      cString_append _ _ hfree.msgText]

theorem count_data {packet : CustomPacket} (h : packet.NulFree) :
    packet.data.count '\x00' = 3 := by
  have htype := List.count_eq_zero.mpr h.type
  have husername := List.count_eq_zero.mpr h.username
  have hmsgText := List.count_eq_zero.mpr h.msgText
  simp only [data, List.count_append, List.count_cons_self, htype, husername, hmsgText,
    List.count_nil]

/-- Three NULs, wherever they stand, are all that decoding takes. -/
theorem ofData_isSome_iff (buffer : List Char) :
    (∃ packet, ofData buffer = some packet) ↔ 3 ≤ buffer.count '\x00' := by
  constructor
  · rintro ⟨packet, hread⟩
    obtain ⟨hfree, rest, rfl⟩ := ofData_eq_some.mp hread
    rw [List.count_append, count_data hfree]
    omega
  · intro h
    have hmem (rest : List Char) (hrest : 0 < rest.count '\x00') : '\x00' ∈ rest :=
      List.count_pos_iff.mp hrest
    obtain ⟨type, rest, htype, -, hcount⟩ := cString_isSome buffer (hmem buffer (by omega))
    obtain ⟨username, rest', husername, -, hcount'⟩ := cString_isSome rest (hmem rest (by omega))
    obtain ⟨msgText, after, hmsgText, -, -⟩ := cString_isSome rest' (hmem rest' (by omega))
    exact ⟨⟨.ofList type, .ofList username, .ofList msgText⟩,
      by simp [ofData, htype, husername, hmsgText]⟩

end Framing

section Bounds

/-- Where the buffer begins with an encoded packet, no read passes its end. -/
theorem Reads.lt_of_data {packet : CustomPacket} (h : packet.NulFree) (rest : List Char)
    (beyond : Nat → Char) {offset : Nat}
    (hread : Reads (memoryAt (packet.data ++ rest) beyond) offset) :
    offset < packet.data.length := by
  have htype := stringAt_append [] packet.type.toList (packet.username.toList ++
    '\x00' :: (packet.msgText.toList ++ '\x00' :: rest)) beyond h.type
  have husername := stringAt_append (packet.type.toList ++ ['\x00']) packet.username.toList
    (packet.msgText.toList ++ '\x00' :: rest) beyond h.username
  have hmsgText := stringAt_append (packet.type.toList ++ ['\x00'] ++
    (packet.username.toList ++ ['\x00'])) packet.msgText.toList rest beyond h.msgText
  simp only [List.nil_append, List.append_assoc, List.cons_append, List.length_append,
    List.length_cons, List.length_nil, String.length_toList, Nat.zero_add] at htype husername
  simp only [List.length_append, List.length_cons, List.length_nil, String.length_toList,
    Nat.zero_add] at hmsgText
  simp only [List.append_assoc, List.cons_append, List.nil_append] at hmsgText
  rw [length_data]
  simp only [data, List.append_assoc, List.cons_append, List.nil_append] at hread
  cases hread with
  | type hscan =>
      have hle := hscan.le htype
      simp only [dataSize]
      omega
  | username typeLength htype' hscan =>
      obtain rfl := htype'.unique htype
      have hle := hscan.le husername
      simp only [dataSize]
      omega
  | msgText typeLength usernameLength htype' husername' hscan =>
      obtain rfl := htype'.unique htype
      obtain rfl := husername'.unique husername
      have hle := hscan.le hmsgText
      simp only [dataSize]
      omega

/-- A buffer that runs out of NULs is read at the offset where it ends. -/
theorem reads_end {buffer : List Char} (h : ofData buffer = none) (beyond : Nat → Char) :
    Reads (memoryAt buffer beyond) buffer.length := by
  cases htype : cString buffer with
  | none =>
      apply Reads.type
      exact scans_end [] buffer beyond (cString_eq_none.mp htype)
  | some first =>
      obtain ⟨type, rest⟩ := first
      obtain ⟨hfreeType, rfl⟩ := cString_eq_some.mp htype
      have hstring := stringAt_append [] type rest beyond hfreeType
      cases husername : cString rest with
      | none =>
          have hscan := scans_end (type ++ ['\x00']) rest beyond (cString_eq_none.mp husername)
          simp only [List.append_assoc, List.cons_append, List.nil_append,
            List.length_append, List.length_cons, List.length_nil] at hscan hstring
          apply Reads.username type.length hstring
          simpa using hscan
      | some second =>
          obtain ⟨username, rest'⟩ := second
          obtain ⟨hfreeUsername, rfl⟩ := cString_eq_some.mp husername
          have hstring' := stringAt_append (type ++ ['\x00']) username rest' beyond hfreeUsername
          have hmsgText : cString rest' = none := by
            rw [Option.eq_none_iff_forall_ne_some]
            rintro ⟨msgText, after⟩ hmsgText
            simp [ofData, htype, husername, hmsgText] at h
          have hscan := scans_end (type ++ ['\x00'] ++ (username ++ ['\x00'])) rest' beyond
            (cString_eq_none.mp hmsgText)
          simp only [List.append_assoc, List.cons_append, List.nil_append,
            List.length_append, List.length_cons, List.length_nil] at hscan hstring hstring'
          apply Reads.msgText type.length username.length hstring hstring'
          simpa [Nat.add_assoc, Nat.add_comm, Nat.add_left_comm] using hscan

/-- Decoding reads only the received bytes exactly where they hold three NULs,
whatever stands behind them in memory. -/
theorem reads_inside_iff (buffer : List Char) (beyond : Nat → Char) :
    (∀ offset, Reads (memoryAt buffer beyond) offset → offset < buffer.length) ↔
      3 ≤ buffer.count '\x00' := by
  rw [← ofData_isSome_iff]
  constructor
  · intro h
    cases hread : ofData buffer with
    | none =>
        have hlt := h _ (reads_end hread beyond)
        omega
    | some packet => exact ⟨packet, rfl⟩
  · rintro ⟨packet, hread⟩ offset hoffset
    obtain ⟨hfree, rest, rfl⟩ := ofData_eq_some.mp hread
    have hlt := hoffset.lt_of_data hfree rest beyond
    rw [List.length_append]
    omega

/-- A buffer of four bytes without a NUL is read at offset 4. -/
theorem not_reads_inside_unterminated :
    ¬ ∀ offset, Reads (memoryAt ['u', 'n', 'i', 't'] fun _ => '\x00') offset →
      offset < ['u', 'n', 'i', 't'].length := by
  intro h
  have hread : Reads (memoryAt ['u', 'n', 'i', 't'] fun _ => '\x00') 4 :=
    reads_end (by decide) _
  exact absurd (h 4 hread) (by decide)

end Bounds

section RoundTrip

/-- The fields of a unit's text are decoded as they were printed. -/
theorem unitDataDeciper_printed {type username refName : String} {x y squadSize health : Int}
    (hname : '&' ∉ refName.toList) (hx : x.natAbs < 2 ^ 24) (hy : y.natAbs < 2 ^ 24)
    (hsquad : InInt32 squadSize) (hhealth : InInt32 health) :
    unitDataDeciper ⟨type, username, unitText refName (.cast x) (.cast y) squadSize health⟩ =
      .ok ⟨refName, x, y, squadSize, health⟩ := by
  have hexact (n : Int) (h : n.natAbs < 2 ^ 24) : (IntFloat.cast n).val = n :=
    IntFloat.val_cast_of_le (by omega)
  have hin (n : Int) (h : n.natAbs < 2 ^ 24) : InInt32 (IntFloat.cast n).val := by
    rw [hexact n h]
    constructor <;> omega
  rw [unitDataDeciper_of_fields refName.toList (floatText (.cast x)).toList
    (floatText (.cast y)).toList (toString squadSize).toList (toString health).toList
    (by simp [unitText]) hname (delimiter_not_mem_floatText _) (delimiter_not_mem_floatText _)
    (delimiter_not_mem_toString squadSize) (delimiter_not_mem_toString health)]
  have hx' := hin x hx
  have hy' := hin y hy
  rw [hexact x hx] at hx'
  rw [hexact y hy] at hy'
  simp only [toInt_floatText, toInt_toString, hexact x hx, hexact y hy, if_pos hx', if_pos hy',
    if_pos hsquad, if_pos hhealth]
  simp [bind, Except.bind, pure, Except.pure]

/-- A buffer with three NULs, one of them at its end, is what the encoder makes
of the packet that it is decoded to. -/
theorem data_of_ofData {buffer : List Char} (hcount : buffer.count '\x00' = 3)
    (hlast : buffer.getLast? = some '\x00') :
    ∃ packet, ofData buffer = some packet ∧ packet.data = buffer := by
  obtain ⟨packet, hread⟩ := (ofData_isSome_iff buffer).mpr (by omega)
  obtain ⟨hfree, rest, hsplit⟩ := ofData_eq_some.mp hread
  have hnone : rest.count '\x00' = 0 := by
    rw [hsplit, List.count_append, count_data hfree] at hcount
    omega
  have hrest : rest = [] := by
    rcases List.eq_nil_or_concat rest with hnil | ⟨front, last, hconcat⟩
    · exact hnil
    · have hmem : '\x00' ∈ rest := by
        rw [hsplit, hconcat, List.concat_eq_append, ← List.append_assoc,
          List.getLast?_concat] at hlast
        rw [hconcat, Option.some.inj hlast]
        simp
      exact absurd hmem (List.count_eq_zero.mp hnone)
  refine ⟨packet, hread, ?_⟩
  rw [hsplit, hrest, List.append_nil]

/-- The wire format loses nothing: framing in both directions, and the text of
a unit sent through it. -/
theorem wire_round_trip :
    (∀ (packet : CustomPacket) (beyond : Nat → Char), packet.NulFree →
      packet.dataSize =
        packet.type.length + packet.username.length + packet.msgText.length + 3 ∧
      packet.data.length = packet.dataSize ∧ ofData packet.data = some packet ∧
      ∀ offset, Reads (memoryAt packet.data beyond) offset → offset < packet.dataSize) ∧
    (∀ buffer : List Char, buffer.count '\x00' = 3 → buffer.getLast? = some '\x00' →
      ∃ packet, ofData buffer = some packet ∧ packet.data = buffer) ∧
    (∀ (refName : String) (x y squadSize health : Int), '&' ∉ refName.toList →
      '\x00' ∉ refName.toList → x.natAbs < 2 ^ 24 → y.natAbs < 2 ^ 24 →
      InInt32 squadSize → InInt32 health →
      ∃ received, ofData (CustomPacket.data
          ⟨"unit", "", unitText refName (.cast x) (.cast y) squadSize health⟩) = some received ∧
        received.unitDataDeciper = .ok ⟨refName, x, y, squadSize, health⟩) := by
  refine ⟨?_, ?_, ?_⟩
  · intro packet beyond hfree
    refine ⟨?_, length_data packet, ofData_data hfree, ?_⟩
    · simp only [dataSize]
      omega
    · intro offset hoffset
      rw [← length_data]
      apply Reads.lt_of_data hfree [] beyond
      rw [List.append_nil]
      exact hoffset
  · intro buffer hcount hlast
    exact data_of_ofData hcount hlast
  · intro refName x y squadSize health hname hnul hx hy hsquad hhealth
    refine ⟨_, ofData_data (unitText_nulFree _ _ squadSize health hnul), ?_⟩
    exact unitDataDeciper_printed hname hx hy hsquad hhealth

end RoundTrip

end CustomPacket

end NetworkingGame
