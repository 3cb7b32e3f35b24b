namespace PageRouting
namespace Text

/-!
Characters as bytes.  Encoding is the usual variable-length form.  Decoding
never fails: where the bytes are no encoding, each longest run that could have
begun a character but does not go on as one is read as a single replacement
character, and reading continues with the byte that broke the run.
-/

namespace Utf8

def encodeChar (c : Char) : List UInt8 :=
  let code := c.toNat
  if code < 0x80 then
    [UInt8.ofNat code]
  else if code < 0x800 then
    [UInt8.ofNat (0xC0 + code / 0x40), UInt8.ofNat (0x80 + code % 0x40)]
  else if code < 0x10000 then
    [UInt8.ofNat (0xE0 + code / 0x1000), UInt8.ofNat (0x80 + code / 0x40 % 0x40),
      UInt8.ofNat (0x80 + code % 0x40)]
  else
    [UInt8.ofNat (0xF0 + code / 0x40000), UInt8.ofNat (0x80 + code / 0x1000 % 0x40),
      UInt8.ofNat (0x80 + code / 0x40 % 0x40), UInt8.ofNat (0x80 + code % 0x40)]

def encode (text : List Char) : List UInt8 :=
  text.flatMap encodeChar

def replacement : Char := Char.ofNat 0xFFFD

/-- Number of bytes announced by a first byte, or zero if none may begin so. -/
def announcedLength (lead : Nat) : Nat :=
  if lead < 0x80 then 1
  else if lead < 0xC2 then 0
  else if lead < 0xE0 then 2
  else if lead < 0xF0 then 3
  else if lead < 0xF5 then 4
  else 0

/-- A byte that continues a character. -/
def isTail (byte : UInt8) : Bool :=
  0x80 ≤ byte.toNat && byte.toNat < 0xC0

/-- A second byte allowed after the given first one.  The narrower ranges rule
out overlong forms, surrogates and codes beyond the last plane. -/
def mayFollow (lead second : UInt8) : Bool :=
  isTail second &&
    (lead.toNat != 0xE0 || 0xA0 ≤ second.toNat) &&
    (lead.toNat != 0xED || second.toNat < 0xA0) &&
    (lead.toNat != 0xF0 || 0x90 ≤ second.toNat) &&
    (lead.toNat != 0xF4 || second.toNat < 0x90)

/-- Payload of a continuing byte. -/
def payload (byte : UInt8) : Nat :=
  byte.toNat - 0x80

def decodeLossy : List UInt8 → List Char
  | [] => []
  | lead :: tail =>
      match announcedLength lead.toNat with
      | 1 => Char.ofNat lead.toNat :: decodeLossy tail
      | 2 =>
          match tail with
          | [] => [replacement]
          | second :: rest =>
              if mayFollow lead second then
                Char.ofNat ((lead.toNat - 0xC0) * 0x40 + payload second) :: decodeLossy rest
              else
                replacement :: decodeLossy (second :: rest)
      | 3 =>
          match tail with
          | [] => [replacement]
          | second :: rest =>
              if mayFollow lead second then
                match rest with
                | [] => [replacement]
                | third :: rest =>
                    if isTail third then
                      Char.ofNat ((lead.toNat - 0xE0) * 0x1000 + payload second * 0x40 +
                        payload third) :: decodeLossy rest
                    else
                      replacement :: decodeLossy (third :: rest)
              else
                replacement :: decodeLossy (second :: rest)
      | 4 =>
          match tail with
          | [] => [replacement]
          | second :: rest =>
              if mayFollow lead second then
                match rest with
                | [] => [replacement]
                | third :: rest =>
                    if isTail third then
                      match rest with
                      | [] => [replacement]
                      | fourth :: rest =>
                          if isTail fourth then
                            Char.ofNat ((lead.toNat - 0xF0) * 0x40000 +
                              payload second * 0x1000 + payload third * 0x40 +
                              payload fourth) :: decodeLossy rest
                          else
                            replacement :: decodeLossy (fourth :: rest)
                    else
                      replacement :: decodeLossy (third :: rest)
              else
                replacement :: decodeLossy (second :: rest)
      | _ => replacement :: decodeLossy tail

end Utf8

end Text
end PageRouting
