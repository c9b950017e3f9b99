/-!
Text as bytes. `encode` writes a text in UTF-8, `decode?` reads bytes that are entirely valid,
and `decodeLossy` reads any bytes by putting the replacement character in the place of each
longest stretch that could still have begun a character.
-/

namespace CallbackWeave

/-- A sequence of bytes, such as the content of a file. -/
abbrev Bytes := List UInt8

namespace Utf8

/-- The bytes of a list of characters. -/
def encodeChars (s : List Char) : Bytes := s.flatMap String.utf8EncodeChar

/-- The bytes of a text. -/
def encode (s : String) : Bytes := encodeChars s.toList

/-- A byte that can only continue a character. -/
def isContinuation (b : UInt8) : Bool := 0x80 ≤ b && b ≤ 0xBF

/-- The payload of a continuation byte. -/
def payload (b : UInt8) : Nat := b.toNat - 0x80

/-- The bytes that may follow a leading byte of a character of three bytes: the bounds leave out
overlong forms and surrogates. -/
def secondOfThree (lead second : UInt8) : Bool :=
  if lead = 0xE0 then 0xA0 ≤ second && second ≤ 0xBF
  else if lead = 0xED then 0x80 ≤ second && second ≤ 0x9F
  else isContinuation second

/-- The bytes that may follow a leading byte of a character of four bytes: the bounds leave out
overlong forms and code points beyond the last one. -/
def secondOfFour (lead second : UInt8) : Bool :=
  if lead = 0xF0 then 0x90 ≤ second && second ≤ 0xBF
  else if lead = 0xF4 then 0x80 ≤ second && second ≤ 0x8F
  else isContinuation second

/-- What stands at the front of non-empty bytes: a character, or `none` for the longest stretch
that could have begun one; and the bytes after it. -/
def front (lead : UInt8) (rest : Bytes) : Option Char × Bytes :=
  if lead < 0x80 then (some (Char.ofNat lead.toNat), rest)
  else if 0xC2 ≤ lead && lead ≤ 0xDF then
    match rest with
    | second :: rest₂ =>
      if isContinuation second then
        (some (Char.ofNat ((lead.toNat - 0xC0) * 64 + payload second)), rest₂)
      else (none, rest)
    | [] => (none, [])
  else if 0xE0 ≤ lead && lead ≤ 0xEF then
    match rest with
    | second :: rest₂ =>
      if secondOfThree lead second then
        match rest₂ with
        | third :: rest₃ =>
          if isContinuation third then
            (some (Char.ofNat
              ((lead.toNat - 0xE0) * 4096 + payload second * 64 + payload third)), rest₃)
          else (none, rest₂)
        | [] => (none, [])
      else (none, rest)
    | [] => (none, [])
  else if 0xF0 ≤ lead && lead ≤ 0xF4 then
    match rest with
    | second :: rest₂ =>
      if secondOfFour lead second then
        match rest₂ with
        | third :: rest₃ =>
          if isContinuation third then
            match rest₃ with
            | fourth :: rest₄ =>
              if isContinuation fourth then
                (some (Char.ofNat ((lead.toNat - 0xF0) * 262144 + payload second * 4096
                  + payload third * 64 + payload fourth)), rest₄)
              else (none, rest₃)
            | [] => (none, [])
          else (none, rest₂)
        | [] => (none, [])
      else (none, rest)
    | [] => (none, [])
  else (none, rest)

/-- Reading a front leaves no more bytes than followed the leading one. -/
theorem front_length_le (lead : UInt8) (rest : Bytes) :
    (front lead rest).2.length ≤ rest.length := by
  unfold front
  repeat' split
  all_goals simp only [List.length_cons, List.length_nil]
  all_goals omega

/-- Reads bytes as text; `none` marks each stretch that is not UTF-8. -/
def pieces : Bytes → List (Option Char)
  | [] => []
  | lead :: rest => (front lead rest).1 :: pieces (front lead rest).2
termination_by bytes => bytes.length
decreasing_by
  simp only [List.length_cons]
  exact Nat.lt_succ_of_le (front_length_le lead rest)

/-- The text of bytes that are UTF-8 throughout. -/
def decode? (bytes : Bytes) : Option String :=
  (pieces bytes).mapM id |>.map String.ofList

/-- The text of any bytes, with the replacement character for each stretch that is not UTF-8. -/
def decodeLossy (bytes : Bytes) : String :=
  String.ofList ((pieces bytes).map (·.getD '\uFFFD'))

end Utf8

end CallbackWeave
