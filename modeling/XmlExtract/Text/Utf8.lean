import XmlExtract.Error.Cause

/-!
# UTF-8

Writing characters as UTF-8 and reading them back.  `Utf8.decode` accepts exactly
the shortest forms of code points that are no surrogates.  Where it stops, it
tells how many bytes were good and how many of the next ones belong to the
sequence that is wrong: a sequence is given up at the first byte that no good
sequence has at that place.
-/

namespace XmlExtract.Utf8

/-- The UTF-8 form of characters. -/
def encode (characters : List Char) : List UInt8 :=
  characters.flatMap String.utf8EncodeChar

/-- The UTF-8 form of a text. -/
def encodeString (text : String) : List UInt8 := encode text.toList

/-- Whether a byte may follow the first two bytes of a sequence. -/
def isContinuation (byte : UInt8) : Bool := 0x80 ≤ byte && byte ≤ 0xBF

/-- Whether a byte may be the second of a sequence.  After four lead bytes some
continuation bytes would make a longer form than needed, a surrogate, or a number
above the last code point. -/
def isSecond (lead second : UInt8) : Bool :=
  isContinuation second &&
    (lead != 0xE0 || 0xA0 ≤ second) && (lead != 0xED || second ≤ 0x9F) &&
    (lead != 0xF0 || 0x90 ≤ second) && (lead != 0xF4 || second ≤ 0x8F)

/-- The six bits that a continuation byte carries. -/
def payload (byte : UInt8) : Nat := byte.toNat % 0x40

/-- The character of two bytes. -/
def ofTwo (lead second : UInt8) : Char :=
  Char.ofNat (lead.toNat % 0x20 * 0x40 + payload second)

/-- The character of three bytes. -/
def ofThree (lead second third : UInt8) : Char :=
  Char.ofNat (lead.toNat % 0x10 * 0x1000 + payload second * 0x40 + payload third)

/-- The character of four bytes. -/
def ofFour (lead second third fourth : UInt8) : Char :=
  Char.ofNat
    (lead.toNat % 0x08 * 0x40000 + payload second * 0x1000 + payload third * 0x40 +
      payload fourth)

/-- Decode what follows `valid` good bytes, which were the characters `before` in
reverse. -/
def decodeAfter (valid : Nat) (before : List Char) :
    List UInt8 → Except Utf8Fault (List Char)
  | [] => .ok before.reverse
  | lead :: rest =>
      if lead < 0x80 then
        decodeAfter (valid + 1) (Char.ofNat lead.toNat :: before) rest
      else if lead < 0xC2 || 0xF4 < lead then
        .error ⟨valid, some 1⟩
      else
        match rest with
        | [] => .error ⟨valid, none⟩
        | second :: rest =>
            if !isSecond lead second then
              .error ⟨valid, some 1⟩
            else if lead < 0xE0 then
              decodeAfter (valid + 2) (ofTwo lead second :: before) rest
            else
              match rest with
              | [] => .error ⟨valid, none⟩
              | third :: rest =>
                  if !isContinuation third then
                    .error ⟨valid, some 2⟩
                  else if lead < 0xF0 then
                    decodeAfter (valid + 3) (ofThree lead second third :: before) rest
                  else
                    match rest with
                    | [] => .error ⟨valid, none⟩
                    | fourth :: rest =>
                        if !isContinuation fourth then
                          .error ⟨valid, some 3⟩
                        else
                          decodeAfter (valid + 4)
                            (ofFour lead second third fourth :: before) rest

/-- The characters that bytes write, or where the bytes cease to be UTF-8. -/
def decode (bytes : List UInt8) : Except Utf8Fault (List Char) :=
  decodeAfter 0 [] bytes

/-- The character that stands for bytes without meaning. -/
def replacementChar : Char := '\uFFFD'

/-- The characters that bytes write, with one replacement character for each
sequence that is given up; at most `limit` of them are replaced. -/
def decodeLossyUpTo (limit : Nat) (bytes : List UInt8) : List Char :=
  match limit, decode bytes with
  | _, .ok characters => characters
  | 0, .error _ => []
  | limit + 1, .error fault =>
      let good := match decode (bytes.take fault.valid) with
        | .ok characters => characters
        | .error _ => []
      match fault.broken with
      | none => good ++ [replacementChar]
      | some count =>
          good ++ replacementChar :: decodeLossyUpTo limit (bytes.drop (fault.valid + count))

/-- The characters that bytes write, with one replacement character for each
sequence that is given up. -/
def decodeLossy (bytes : List UInt8) : List Char :=
  decodeLossyUpTo (bytes.length + 1) bytes

end XmlExtract.Utf8
