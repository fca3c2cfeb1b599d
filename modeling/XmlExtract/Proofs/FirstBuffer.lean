import XmlExtract.Document

/-!
# What the first buffer tells

A stream comes in chunks, and a reader looks at the first buffer to learn the layout of
the input.  The first buffer ends with the first chunk, or when it is full.  Two bytes
are enough to tell the layout, and one is not: a stream in UTF-16 whose first buffer holds
a single byte is taken for an input that writes ASCII characters as single bytes.
`remaining_ofChunks_iff` says when a stream is made ready like the same bytes in memory.
-/

namespace XmlExtract

variable {chunks : List (List UInt8)}

/-! ### Deliveries of chunks -/

namespace Delivery

/-- Bytes that are delivered chunk by chunk, with nothing in between. -/
def ofChunks (chunks : List (List UInt8)) : List Delivery := chunks.map .data

theorem joinAfter_ofChunks (whole : [] ∉ chunks) (count : Nat) :
    joinAfter count (ofChunks chunks) =
      ⟨chunks.flatten, (chunks.headD []).length, none, none⟩ := by
  induction chunks generalizing count with
  | nil => rfl
  | cons chunk later ih =>
      rw [List.mem_cons, not_or] at whole
      have rest := ih whole.2 (count + chunk.length)
      rw [ofChunks] at rest ⊢
      rw [List.map_cons, joinAfter, rest]
      cases chunk with
      | nil => exact absurd rfl whole.1
      | cons byte bytes => simp

theorem giveUpEarly_ofChunks (whole : [] ∉ chunks) :
    giveUpEarly (ofChunks chunks) = ofChunks chunks := by
  match chunks with
  | [] => rfl
  | [] :: later => simp at whole
  | (byte :: bytes) :: later => rfl

end Delivery

/-- What a reader sees of a delivery of chunks through a buffer: all the bytes, and a first
buffer that ends with the first chunk or when it is full. -/
theorem Supply.input_ofChunks (whole : [] ∉ chunks) {capacity : Nat} (room : 0 < capacity) :
    (Supply.impatient ⟨Delivery.ofChunks chunks, some capacity⟩).input =
      ⟨chunks.flatten, min capacity (chunks.headD []).length, none, none⟩ := by
  obtain ⟨capacity, rfl⟩ := Nat.exists_eq_add_one.mpr room
  simp only [impatient, input, Delivery.giveUpEarly_ofChunks whole, Delivery.join,
    Delivery.joinAfter_ofChunks whole]

/-- Memory holds all its bytes at once. -/
theorem Supply.input_ofBytes (bytes : List UInt8) :
    (ofBytes bytes).impatient.input = Input.ofBytes bytes := by
  match bytes with
  | [] => rfl
  | byte :: rest =>
      simp [ofBytes, impatient, input, Delivery.giveUpEarly, Delivery.join, Delivery.joinAfter,
        Input.ofBytes]

theorem Input.firstBuffer_of_sound (bytes : List UInt8) (window : Nat)
    (stopAfter : Option Nat) :
    firstBuffer ⟨bytes, window, none, stopAfter⟩ = .ok (bytes.take window) := by
  unfold firstBuffer
  split
  · contradiction
  · rfl

/-! ### Layouts -/

namespace Layout

theorem detect_take {count : Nat} (enough : 2 ≤ count) (bytes : List UInt8) :
    detect (bytes.take count) = detect bytes := by
  match bytes with
  | [] => rw [List.take_nil]
  | [byte] =>
      obtain ⟨count, rfl⟩ := Nat.exists_eq_add_of_le' enough
      rfl
  | first :: second :: later =>
      obtain ⟨count, rfl⟩ := Nat.exists_eq_add_of_le' enough
      rfl

theorem detect_of_length_lt {bytes : List UInt8} (short : bytes.length < 2) :
    detect bytes = ascii := by
  match bytes with
  | [] | [byte] => rfl
  | first :: second :: later =>
      simp only [List.length_cons] at short
      omega

/-- The beginning of an input shows no other layout than UTF-16 or that of the input. -/
theorem detect_take_of_ascii {bytes : List UInt8} (ascii : detect bytes = .ascii)
    (count : Nat) : detect (bytes.take count) = .ascii := by
  by_cases enough : 2 ≤ count
  · rw [detect_take enough, ascii]
  · apply detect_of_length_lt
    rw [List.length_take]
    omega

end Layout

/-! ### Making an input ready -/

namespace Document

/-- Bytes that lie in memory come to the same document through a reader. -/
theorem ofInput_ofBytes (bytes : List UInt8) :
    ofInput (Input.ofBytes bytes) = ofBytes bytes := by
  unfold ofBytes ofInput Input.ofBytes
  rw [Input.firstBuffer_of_sound, List.take_length]
  simp only [bind, Except.bind]
  cases Layout.detect bytes with
  | ascii => rfl
  | utf16 order =>
      simp only [Layout.transcode]
      cases Layout.utf16ToUtf8 order bytes <;> rfl

/-- What is left of a document to be read: whether it has been transcoded, its bytes, and
what comes after them. -/
def remaining (document : Document) : Bool × List UInt8 × Option Error :=
  (document.transcoded, document.input.bytes, document.input.fault)

/-- What is left of bytes in a layout. -/
def laidOut (layout : Layout) (bytes : List UInt8) :
    Except Error (Bool × List UInt8 × Option Error) :=
  match layout with
  | .ascii => .ok (false, bytes, none)
  | .utf16 order => (Layout.utf16ToUtf8 order bytes).map fun utf8 => (true, utf8, none)

theorem remaining_ofInput (bytes : List UInt8) (window : Nat) (stopAfter : Option Nat) :
    (ofInput ⟨bytes, window, none, stopAfter⟩).map remaining =
      laidOut (Layout.detect (bytes.take window)) bytes := by
  unfold ofInput laidOut
  rw [Input.firstBuffer_of_sound]
  simp only [bind, Except.bind]
  cases Layout.detect (bytes.take window) with
  | ascii => rfl
  | utf16 order =>
      simp only
      cases Layout.utf16ToUtf8 order bytes <;> rfl

theorem remaining_ofBytes (bytes : List UInt8) :
    (ofBytes bytes).map remaining = laidOut (Layout.detect bytes) bytes := by
  rw [← ofInput_ofBytes, Input.ofBytes, remaining_ofInput, List.take_length]

/-- Bytes that are transcoded are not what they were. -/
theorem laidOut_ne_of_ne_ascii {layout : Layout} (different : layout ≠ .ascii)
    (bytes : List UInt8) : laidOut .ascii bytes ≠ laidOut layout bytes := by
  cases layout with
  | ascii => contradiction
  | utf16 order =>
      simp only [laidOut]
      cases Layout.utf16ToUtf8 order bytes <;> simp [Except.map]

/-- A stream is made ready like the same bytes in memory exactly when they are not UTF-16 or
the first buffer holds at least two of them. -/
theorem remaining_ofChunks_iff (whole : [] ∉ chunks) {capacity : Nat} (room : 0 < capacity) :
    (ofInput (Supply.impatient ⟨Delivery.ofChunks chunks, some capacity⟩).input).map remaining =
        (ofBytes chunks.flatten).map remaining ↔
      Layout.detect chunks.flatten = .ascii ∨ 2 ≤ capacity ∧ 2 ≤ (chunks.headD []).length := by
  rw [Supply.input_ofChunks whole room, remaining_ofInput, remaining_ofBytes]
  constructor
  · intro same
    by_cases long : 2 ≤ capacity ∧ 2 ≤ (chunks.headD []).length
    · exact .inr long
    · left
      have short : (chunks.flatten.take (min capacity (chunks.headD []).length)).length < 2 := by
        rw [List.length_take]
        omega
      rw [Layout.detect_of_length_lt short] at same
      exact Decidable.byContradiction fun different => laidOut_ne_of_ne_ascii different _ same
  · rintro (ascii | ⟨roomy, long⟩)
    · rw [Layout.detect_take_of_ascii ascii, ascii]
    · rw [Layout.detect_take (Nat.le_min.mpr ⟨roomy, long⟩)]

/-- `<a/>` in UTF-16, cut behind the byte order mark. -/
def cutBehindMark : List (List UInt8) :=
  [[0xFF, 0xFE], [0x3C, 0x00, 0x61, 0x00, 0x2F, 0x00, 0x3E, 0x00]]

theorem remaining_cutBehindMark :
    (ofInput (Supply.impatient ⟨Delivery.ofChunks cutBehindMark, some 2⟩).input).map remaining =
      (ofBytes cutBehindMark.flatten).map remaining :=
  (remaining_ofChunks_iff (by decide) (by decide)).mpr (.inr (by decide))

/-- `<a/>` in UTF-16, cut inside of the byte order mark. -/
def cutInsideMark : List (List UInt8) :=
  [[0xFF], [0xFE, 0x3C, 0x00, 0x61, 0x00, 0x2F, 0x00, 0x3E, 0x00]]

/-- The stream is left as it is, and the bytes in memory are transcoded. -/
theorem remaining_cutInsideMark :
    (ofInput (Supply.impatient ⟨Delivery.ofChunks cutInsideMark, some 8192⟩).input).map
        remaining ≠
      (ofBytes cutInsideMark.flatten).map remaining := by
  have stream :
      (ofInput (Supply.impatient ⟨Delivery.ofChunks cutInsideMark, some 8192⟩).input).map
        remaining = .ok (false, cutInsideMark.flatten, none) := rfl
  have memory : ((ofBytes cutInsideMark.flatten).map remaining).toOption =
      some (true, [0x3C, 0x61, 0x2F, 0x3E], none) := by
    decide +kernel
  intro same
  rw [← same, stream] at memory
  simp [Except.toOption] at memory

end Document

end XmlExtract
