/-!
# UTF-8

Octets of a text and the text of octets. A decoding failure says how many octets were good and,
unless the octets merely stop too early, how many rule the text out.
-/

namespace Fleet

/-- A string of octets. -/
abbrev Bytes : Type :=
  List UInt8

namespace Text

/-- Where octets stop being UTF-8. -/
structure Utf8Error : Type where
  /-- Octets before the fault. -/
  validUpTo : Nat
  /-- Octets at fault, or nothing if the octets end within a character. -/
  faultLength : Option Nat
  deriving Repr, DecidableEq

/-- The sentence that reports the fault. -/
def Utf8Error.message (e : Utf8Error) : String :=
  match e.faultLength with
  | some n =>
    "invalid utf-8 sequence of " ++ toString n ++ " bytes from index " ++ toString e.validUpTo
  | none => "incomplete utf-8 byte sequence from index " ++ toString e.validUpTo

/-- How many octets follow a leading octet, and the least and greatest the first of them may be. -/
def followers? (lead : Nat) : Option (Nat × Nat × Nat) :=
  if 0xC2 ≤ lead && lead ≤ 0xDF then some (1, 0x80, 0xBF)
  else if lead == 0xE0 then some (2, 0xA0, 0xBF)
  else if lead == 0xED then some (2, 0x80, 0x9F)
  else if 0xE1 ≤ lead && lead ≤ 0xEF then some (2, 0x80, 0xBF)
  else if lead == 0xF0 then some (3, 0x90, 0xBF)
  else if 0xF1 ≤ lead && lead ≤ 0xF3 then some (3, 0x80, 0xBF)
  else if lead == 0xF4 then some (3, 0x80, 0x8F)
  else none

/-- An octet that continues a character. -/
def isFollower (n : Nat) : Bool :=
  0x80 ≤ n && n ≤ 0xBF

/-- The characters of octets that start at the given offset of the whole. -/
def decodeFrom (offset : Nat) : Bytes → Except Utf8Error (List Char)
  | [] => .ok []
  | a :: rest =>
    let fault (n : Option Nat) : Except Utf8Error (List Char) := .error ⟨offset, n⟩
    if a.toNat < 0x80 then
      (decodeFrom (offset + 1) rest).map (Char.ofNat a.toNat :: ·)
    else
      match followers? a.toNat with
      | none => fault (some 1)
      | some (count, low, high) =>
        match rest with
        | [] => fault none
        | b :: rest =>
          if b.toNat < low || high < b.toNat then fault (some 1)
          else if count == 1 then
            (decodeFrom (offset + 2) rest).map
              (Char.ofNat ((a.toNat - 0xC0) * 64 + (b.toNat - 0x80)) :: ·)
          else
            match rest with
            | [] => fault none
            | c :: rest =>
              if !isFollower c.toNat then fault (some 2)
              else if count == 2 then
                (decodeFrom (offset + 3) rest).map
                  (Char.ofNat
                    ((a.toNat - 0xE0) * 4096 + (b.toNat - 0x80) * 64 + (c.toNat - 0x80)) :: ·)
              else
                match rest with
                | [] => fault none
                | d :: rest =>
                  if !isFollower d.toNat then fault (some 3)
                  else
                    (decodeFrom (offset + 4) rest).map
                      (Char.ofNat
                        ((a.toNat - 0xF0) * 262144 + (b.toNat - 0x80) * 4096 +
                          (c.toNat - 0x80) * 64 + (d.toNat - 0x80)) :: ·)

/-- The text of octets. -/
def decodeUtf8 (bytes : Bytes) : Except Utf8Error String :=
  (decodeFrom 0 bytes).map String.ofList

/-- The octets of a text. -/
def encodeUtf8 (s : String) : Bytes :=
  s.toUTF8.toList

/-- The text of octets, if they are UTF-8. -/
def decodeUtf8? (bytes : Bytes) : Option String :=
  (decodeUtf8 bytes).toOption

end Text

end Fleet
